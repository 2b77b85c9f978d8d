import DocAudit.Proofs.Except
import DocAudit.Text.Utf8

/-!
# Bytes of texts

The bytes that can be decoded are those of the texts, and decoding them gives the text back
(`decode_eq_ok_iff`). The bytes of one character begin with a byte that tells how many follow
(`Spells`); what is not the shortest spelling of its code point, or spells a surrogate, is excluded
by the first two bytes.
-/

namespace DocAudit.Text

/-- Bytes that spell a code point. -/
inductive Spells : List UInt8 → Nat → Prop
  | one {a : UInt8} (ha : a.toNat < 0x80) : Spells [a] a.toNat
  | two {a b : UInt8} (ha : 0xc2 ≤ a.toNat) (ha' : a.toNat < 0xe0) (hb : mayFollow a b = true) :
    Spells [a, b] (a.toNat % 32 * 64 + lowSix b)
  | three {a b c : UInt8} (ha : 0xe0 ≤ a.toNat) (ha' : a.toNat < 0xf0) (hb : mayFollow a b = true)
    (hc : isContinuation c = true) :
    Spells [a, b, c] (a.toNat % 16 * 4096 + lowSix b * 64 + lowSix c)
  | four {a b c d : UInt8} (ha : 0xf0 ≤ a.toNat) (ha' : a.toNat ≤ 0xf4)
      (hb : mayFollow a b = true)
    (hc : isContinuation c = true) (hd : isContinuation d = true) :
    Spells [a, b, c, d] (a.toNat % 8 * 262144 + lowSix b * 4096 + lowSix c * 64 + lowSix d)

theorem isContinuation_iff {b : UInt8} :
    isContinuation b = true ↔ 0x80 ≤ b.toNat ∧ b.toNat ≤ 0xbf := by
  simp [isContinuation, UInt8.le_iff_toNat_le]

/-- The second byte of a character is in the middle of one; four first bytes narrow it down. -/
theorem mayFollow_iff {a b : UInt8} : mayFollow a b = true ↔
    0x80 ≤ b.toNat ∧ b.toNat ≤ 0xbf ∧ (a.toNat = 0xe0 → 0xa0 ≤ b.toNat) ∧
      (a.toNat = 0xed → b.toNat < 0xa0) ∧ (a.toNat = 0xf0 → 0x90 ≤ b.toNat) ∧
        (a.toNat = 0xf4 → b.toNat < 0x90) := by
  simp only [mayFollow, Bool.and_eq_true, isContinuation_iff, and_assoc, beq_iff_eq,
    ← UInt8.toNat_inj]
  refine and_congr_right fun _ => and_congr_right fun _ => ?_
  split_ifs <;> simp_all [UInt8.le_iff_toNat_le, UInt8.lt_iff_toNat_lt]

variable {bytes rest : List UInt8} {n pos : Nat} {chars : List Char}

/-! ## One character -/

section First

variable {a : UInt8}

theorem not_lt_of_first (ha : 0xc2 ≤ a.toNat) : ¬a < 0x80 := by
  simp only [UInt8.lt_iff_toNat_lt, UInt8.toNat_ofNat]
  omega

theorem isStart_of_first (ha : 0xc2 ≤ a.toNat) (ha' : a.toNat ≤ 0xf4) :
    ¬(a < 0xc2 ∨ 0xf4 < a) := by
  simp only [UInt8.lt_iff_toNat_lt, UInt8.toNat_ofNat]
  omega

end First

/-- A character is decoded whatever follows. -/
theorem decodeFrom_append (h : Spells bytes n) (pos : Nat) (rest : List UInt8) :
    decodeFrom pos (bytes ++ rest) =
      (decodeFrom (pos + bytes.length) rest).map (Char.ofNat n :: ·) := by
  cases h with
  | @one a ha =>
    have hone : a < 0x80 := UInt8.lt_iff_toNat_lt.2 ha
    rw [decodeFrom.eq_def]
    simp [hone]
  | @two a b ha ha' hb =>
    have htwo : a < 0xe0 := UInt8.lt_iff_toNat_lt.2 ha'
    rw [decodeFrom.eq_def]
    simp [not_lt_of_first ha, isStart_of_first ha (by omega), hb, htwo]
  | @three a b c ha ha' hb hc =>
    have htwo : ¬a < 0xe0 := fun h => absurd (UInt8.lt_iff_toNat_lt.1 h) (Nat.not_lt.2 ha)
    have hthree : a < 0xf0 := UInt8.lt_iff_toNat_lt.2 ha'
    rw [decodeFrom.eq_def]
    simp [not_lt_of_first (a := a) (by omega), isStart_of_first (a := a) (by omega) (by omega), hb,
      htwo, hc, hthree]
  | @four a b c d ha ha' hb hc hd =>
    have htwo : ¬a < 0xe0 := by
      simp only [UInt8.lt_iff_toNat_lt, UInt8.toNat_ofNat]
      omega
    have hthree : ¬a < 0xf0 := fun h => absurd (UInt8.lt_iff_toNat_lt.1 h) (Nat.not_lt.2 ha)
    rw [decodeFrom.eq_def]
    simp [not_lt_of_first (a := a) (by omega), isStart_of_first (a := a) (by omega) ha', hb,
      htwo, hc, hthree, hd]

/-- What can be decoded begins with a character, if it is not empty. -/
theorem exists_of_decodeFrom_cons {b : UInt8} (h : decodeFrom pos (b :: rest) = .ok chars) :
    ∃ bytes n rest' chars', b :: rest = bytes ++ rest' ∧ Spells bytes n ∧
    chars = Char.ofNat n :: chars' ∧ decodeFrom (pos + bytes.length) rest' = .ok chars' := by
  rw [decodeFrom.eq_def] at h
  dsimp only at h
  -- the first byte tells how many follow
  split_ifs at h with hone hstart htwo hthree
  · obtain ⟨chars', hchars', rfl⟩ := map_eq_ok_iff.1 h
    exact ⟨[b], _, rest, chars', rfl, .one (UInt8.lt_iff_toNat_lt.1 hone), rfl, hchars'⟩
  all_goals
    have hfirst : 0xc2 ≤ b.toNat ∧ b.toNat ≤ 0xf4 := by
      simpa [UInt8.lt_iff_toNat_lt] using hstart
  · rcases rest with _ | ⟨c, rest⟩
    · cases h
    · dsimp only at h
      split_ifs at h with hc
      obtain ⟨chars', hchars', rfl⟩ := map_eq_ok_iff.1 h
      exact ⟨[b, c], _, rest, chars', rfl,
        .two hfirst.1 (UInt8.lt_iff_toNat_lt.1 htwo) (by simpa using hc), rfl, hchars'⟩
  all_goals
    have hlong : 0xe0 ≤ b.toNat := by simpa [UInt8.lt_iff_toNat_lt] using htwo
  · rcases rest with _ | ⟨c, _ | ⟨d, rest⟩⟩
    · cases h
    · dsimp only at h
      split_ifs at h
    · dsimp only at h
      split_ifs at h with hc hd
      obtain ⟨chars', hchars', rfl⟩ := map_eq_ok_iff.1 h
      exact ⟨[b, c, d], _, rest, chars', rfl,
        .three hlong (UInt8.lt_iff_toNat_lt.1 hthree) (by simpa using hc) (by simpa using hd), rfl,
        hchars'⟩
  · have hfour : 0xf0 ≤ b.toNat := by simpa [UInt8.lt_iff_toNat_lt] using hthree
    rcases rest with _ | ⟨c, _ | ⟨d, _ | ⟨e, rest⟩⟩⟩
    · cases h
    · dsimp only at h
      split_ifs at h
    · dsimp only at h
      split_ifs at h
    · dsimp only at h
      split_ifs at h with hc hd he
      obtain ⟨chars', hchars', rfl⟩ := map_eq_ok_iff.1 h
      exact ⟨[b, c, d, e], _, rest, chars', rfl,
        .four hfour hfirst.2 (by simpa using hc) (by simpa using hd) (by simpa using he), rfl,
        hchars'⟩

theorem eq_ofNat_of_toNat {b : UInt8} {k : Nat} (h : b.toNat = k) : b = UInt8.ofNat k := by
  rw [← h, UInt8.ofNat_toNat]

/-- What is spelled is the code point of a character: it is in range and no surrogate. -/
theorem Spells.isValidChar (h : Spells bytes n) : n.isValidChar := by
  unfold Nat.isValidChar
  cases h with
  | one ha => omega
  | two ha ha' hb =>
    rw [lowSix]
    omega
  | three ha ha' hb hc =>
    rw [mayFollow_iff] at hb
    rw [lowSix, lowSix]
    omega
  | four ha ha' hb hc hd =>
    rw [mayFollow_iff] at hb
    rw [lowSix, lowSix, lowSix]
    omega

theorem toNat_ofNat_of_isValidChar (h : n.isValidChar) : (Char.ofNat n).toNat = n := by
  have hchar : Char.ofNat n = Char.ofNatAux n h := dif_pos h
  rw [hchar]
  rfl

/-- Bytes that spell a code point are those of its character. -/
theorem Spells.eq_encodeChar (h : Spells bytes n) : bytes = encodeChar (Char.ofNat n) := by
  have hn : (Char.ofNat n).toNat = n := toNat_ofNat_of_isValidChar h.isValidChar
  simp only [encodeChar, hn]
  cases h with
  | one ha =>
    rw [if_pos ha, UInt8.ofNat_toNat]
  | @two a b ha ha' hb =>
    rw [mayFollow_iff] at hb
    rw [lowSix] at hn ⊢
    rw [if_neg (by omega), if_pos (by omega), ← eq_ofNat_of_toNat (b := a) (by omega),
      ← eq_ofNat_of_toNat (b := b) (by omega)]
  | @three a b c ha ha' hb hc =>
    rw [mayFollow_iff] at hb
    rw [isContinuation_iff] at hc
    rw [lowSix, lowSix] at hn ⊢
    rw [if_neg (by omega), if_neg (by omega), if_pos (by omega),
      ← eq_ofNat_of_toNat (b := a) (by omega), ← eq_ofNat_of_toNat (b := b) (by omega),
      ← eq_ofNat_of_toNat (b := c) (by omega)]
  | @four a b c d ha ha' hb hc hd =>
    rw [mayFollow_iff] at hb
    rw [isContinuation_iff] at hc hd
    rw [lowSix, lowSix, lowSix] at hn ⊢
    rw [if_neg (by omega), if_neg (by omega), if_neg (by omega),
      ← eq_ofNat_of_toNat (b := a) (by omega), ← eq_ofNat_of_toNat (b := b) (by omega),
      ← eq_ofNat_of_toNat (b := c) (by omega), ← eq_ofNat_of_toNat (b := d) (by omega)]

/-- The bytes of a character spell its code point. -/
theorem spells_encodeChar (c : Char) : Spells (encodeChar c) c.toNat := by
  have hvalid : c.toNat.isValidChar := c.valid
  rw [encodeChar]
  generalize c.toNat = n at hvalid
  unfold Nat.isValidChar at hvalid
  have hbyte {k : Nat} (hk : k < 256) : (UInt8.ofNat k).toNat = k := UInt8.toNat_ofNat_of_lt' hk
  split_ifs with hone htwo hthree
  · have hspells : Spells [UInt8.ofNat n] (UInt8.ofNat n).toNat :=
      .one (by rw [hbyte (by omega)]; exact hone)
    rwa [hbyte (by omega)] at hspells
  · have hfirst : (UInt8.ofNat (0xc0 + n / 64)).toNat = 0xc0 + n / 64 := hbyte (by omega)
    have hsecond : (UInt8.ofNat (0x80 + n % 64)).toNat = 0x80 + n % 64 := hbyte (by omega)
    have hspells := Spells.two (a := .ofNat (0xc0 + n / 64)) (b := .ofNat (0x80 + n % 64))
      (by omega) (by omega) (by rw [mayFollow_iff]; omega)
    convert hspells using 1
    rw [lowSix]
    omega
  · have hfirst : (UInt8.ofNat (0xe0 + n / 4096)).toNat = 0xe0 + n / 4096 := hbyte (by omega)
    have hsecond : (UInt8.ofNat (0x80 + n / 64 % 64)).toNat = 0x80 + n / 64 % 64 := hbyte (by omega)
    have hthird : (UInt8.ofNat (0x80 + n % 64)).toNat = 0x80 + n % 64 := hbyte (by omega)
    have hspells := Spells.three (a := .ofNat (0xe0 + n / 4096)) (b := .ofNat (0x80 + n / 64 % 64))
      (c := .ofNat (0x80 + n % 64)) (by omega) (by omega) (by rw [mayFollow_iff]; omega)
      (by rw [isContinuation_iff]; omega)
    convert hspells using 1
    rw [lowSix, lowSix]
    omega
  · have hfirst : (UInt8.ofNat (0xf0 + n / 262144)).toNat = 0xf0 + n / 262144 := hbyte (by omega)
    have hsecond : (UInt8.ofNat (0x80 + n / 4096 % 64)).toNat = 0x80 + n / 4096 % 64 :=
      hbyte (by omega)
    have hthird : (UInt8.ofNat (0x80 + n / 64 % 64)).toNat = 0x80 + n / 64 % 64 := hbyte (by omega)
    have hfourth : (UInt8.ofNat (0x80 + n % 64)).toNat = 0x80 + n % 64 := hbyte (by omega)
    have hspells :=
      Spells.four (a := .ofNat (0xf0 + n / 262144)) (b := .ofNat (0x80 + n / 4096 % 64))
      (c := .ofNat (0x80 + n / 64 % 64)) (d := .ofNat (0x80 + n % 64)) (by omega) (by omega)
      (by rw [mayFollow_iff]; omega) (by rw [isContinuation_iff]; omega)
      (by rw [isContinuation_iff]; omega)
    convert hspells using 1
    rw [lowSix, lowSix, lowSix]
    omega

/-! ## Texts -/

/-- The bytes of a text are decoded to it, wherever they begin. -/
theorem decodeFrom_encode (chars : List Char) (pos : Nat) :
    decodeFrom pos (encode chars) = .ok chars := by
  induction chars generalizing pos with
  | nil => rfl
  | cons c chars ih =>
    have hcons : encode (c :: chars) = encodeChar c ++ encode chars := rfl
    rw [hcons, decodeFrom_append (spells_encodeChar c), ih, Char.ofNat_toNat]
    rfl

/-- Bytes that are decoded are those of the text they are decoded to. -/
theorem eq_encode_of_decodeFrom (h : decodeFrom pos bytes = .ok chars) : bytes = encode chars := by
  induction chars generalizing pos bytes with
  | nil =>
    cases bytes with
    | nil => rfl
    | cons b rest =>
      obtain ⟨_, _, _, _, -, -, hchars, -⟩ := exists_of_decodeFrom_cons h
      cases hchars
  | cons c chars ih =>
    cases bytes with
    | nil => cases h
    | cons b rest =>
      obtain ⟨first, n, rest', chars', hbytes, hspells, hchars, hrest⟩ :=
        exists_of_decodeFrom_cons h
      obtain ⟨rfl, rfl⟩ := List.cons.inj hchars
      have hcons : encode (Char.ofNat n :: chars) = encodeChar (Char.ofNat n) ++ encode chars := rfl
      rw [hbytes, hcons, ← ih hrest, ← hspells.eq_encodeChar]

/-- The bytes that can be decoded are those of the texts. -/
theorem decode_eq_ok_iff : decode bytes = .ok chars ↔ bytes = encode chars := by
  refine ⟨fun h => eq_encode_of_decodeFrom h, ?_⟩
  rintro rfl
  exact decodeFrom_encode chars 0

end DocAudit.Text
