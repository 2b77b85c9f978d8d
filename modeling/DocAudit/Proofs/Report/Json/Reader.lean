import DocAudit.Proofs.Fault
import DocAudit.Proofs.Report.Json.Spelling
import DocAudit.Proofs.Rule.Writing

/-!
# Reading JSON

A reader of the texts that spell values of JSON. Numbers of more digits than an integer is read with
are refused, and a later value of a name takes the place of an earlier one. A value is read where it
is spelled, by any fuel that suffices for the length of its text (`Json.readsAs_of_spells`), so that
the reader does what is relied on in one (`Json.reads_read`).
-/

namespace DocAudit.Json

open Text

/-- The text without blanks at its start. -/
def skip (s : List Char) : List Char := s.dropWhile isSpace

/-! ## Strings -/

/-- What a string spells up to its closing quotation mark, and what follows that. -/
def readString : List Char → Option (List Char × List Char)
  | [] => none
  | '"' :: s => some ([], s)
  | '\\' :: 'u' :: a :: b :: c :: d :: s =>
    match ofHex? [a, b, c, d] with
    | some e => (readString s).map fun (cs, rest) => (e :: cs, rest)
    | none => none
  | '\\' :: c :: s =>
    match unescape? c with
    | some e => (readString s).map fun (cs, rest) => (e :: cs, rest)
    | none => none
  | c :: s => if c.toNat < 32 then none else (readString s).map fun (cs, rest) => (c :: cs, rest)

/-! ## Numbers -/

/-- A number in decimal digits without needless zeros, and what follows it. -/
def readNatural (s : List Char) : Option (Nat × List Char) :=
  let digits := s.takeWhile Char.isDigit
  if digits.isEmpty || digits.head? == some '0' && digits.length != 1 || digits.length > maxDigits
  then none
  else some (Nat.ofDigitChars 10 digits 0, s.dropWhile Char.isDigit)

/-- An integer and what follows it. -/
def readNumber : List Char → Option (Int × List Char)
  | '-' :: s => (readNatural s).map fun (n, rest) => (-n, rest)
  | s => (readNatural s).map fun (n, rest) => (n, rest)

/-! ## Values -/

/-- The name of an entry, and what follows the colon behind it. -/
def readKey : List Char → Option (String × List Char)
  | '"' :: r =>
    match readString r with
    | some (cs, r) =>
      match skip r with
      | ':' :: rest => some (String.ofList cs, rest)
      | _ => none
    | none => none
  | _ => none

mutual

/-- A value and what follows it; `fuel` is a bound for the number of characters that are read. -/
def readValue (fuel : Nat) (s : List Char) : Option (Value × List Char) :=
  match fuel with
  | 0 => none
  | fuel + 1 =>
    match skip s with
    | '"' :: r => (readString r).map fun (cs, rest) => (.str (String.ofList cs), rest)
    | '[' :: r =>
      match skip r with
      | ']' :: rest => some (.list [], rest)
      | r => (readItems fuel r).map fun (items, rest) => (.list items, rest)
    | '\x7b' :: r =>
      match skip r with
      | '\x7d' :: rest => some (.dict [], rest)
      | r => (readEntries fuel r).map fun (entries, rest) => (.dict (Value.ofEntries entries), rest)
    | 'n' :: 'u' :: 'l' :: 'l' :: rest => some (.null, rest)
    | 't' :: 'r' :: 'u' :: 'e' :: rest => some (.bool true, rest)
    | 'f' :: 'a' :: 'l' :: 's' :: 'e' :: rest => some (.bool false, rest)
    | r => (readNumber r).map fun (n, rest) => (.int n, rest)
termination_by structural fuel

/-- The items of a list from the first one on, and what follows the list. -/
def readItems (fuel : Nat) (s : List Char) : Option (List Value × List Char) :=
  match fuel with
  | 0 => none
  | fuel + 1 =>
    match readValue fuel s with
    | none => none
    | some (v, r) =>
      match skip r with
      | ',' :: r => (readItems fuel r).map fun (items, rest) => (v :: items, rest)
      | ']' :: rest => some ([v], rest)
      | _ => none
termination_by structural fuel

/-- The entries of a mapping from the first one on, and what follows the mapping. -/
def readEntries (fuel : Nat) (s : List Char) : Option (List (Value × Value) × List Char) :=
  match fuel with
  | 0 => none
  | fuel + 1 =>
    match readKey (skip s) with
    | none => none
    | some (key, r) =>
      match readValue fuel r with
      | none => none
      | some (v, r) =>
        match skip r with
        | ',' :: r => (readEntries fuel r).map fun (entries, rest) =>
          ((.str key, v) :: entries, rest)
        | '\x7d' :: rest => some ([(.str key, v)], rest)
        | _ => none
termination_by structural fuel

end

/-- The value that a text of JSON spells. -/
def read (text : String) : Option Value :=
  match readValue text.toList.length text.toList with
  | some (v, rest) => if (skip rest).isEmpty then some v else none
  | none => none

variable {v : Value} {vs : List Value} {c : Char} {cs s t blanks rest : List Char} {fuel n : Nat}

/-! ## Blanks -/

theorem skip_append (h : Blank blanks) (s : List Char) : skip (blanks ++ s) = skip s :=
  List.dropWhile_append_of_pos h

theorem skip_cons (h : isSpace c = false) (s : List Char) : skip (c :: s) = c :: s :=
  List.dropWhile_cons_of_neg (Bool.eq_false_iff.1 h)

theorem skip_skip (s : List Char) : skip (skip s) = skip s := by
  induction s with
  | nil => rfl
  | cons c s ih =>
    cases hc : isSpace c with
    | true =>
      have hskip : skip (c :: s) = skip s := List.dropWhile_cons_of_pos hc
      rw [hskip, ih]
    | false => rw [skip_cons hc, skip_cons hc]

theorem readValue_skip (fuel : Nat) (s : List Char) :
    readValue fuel (skip s) = readValue fuel s := by
  cases fuel with
  | zero => rfl
  | succ fuel => rw [readValue, skip_skip, ← readValue]

theorem readItems_skip (fuel : Nat) (s : List Char) :
    readItems fuel (skip s) = readItems fuel s := by
  cases fuel with
  | zero => rfl
  | succ fuel =>
    rw [readItems, readValue_skip]
    conv_rhs => rw [readItems]

theorem readEntries_skip (fuel : Nat) (s : List Char) :
    readEntries fuel (skip s) = readEntries fuel s := by
  cases fuel with
  | zero => rfl
  | succ fuel =>
    rw [readEntries, skip_skip]
    conv_rhs => rw [readEntries]

/-! ## Strings -/

/-- A character is read where it is spelled. -/
theorem readString_of_spellsChar (h : SpellsChar c s) (t : List Char) :
    readString (s ++ t) = (readString t).map fun (cs, rest) => (c :: cs, rest) := by
  cases h with
  | short h =>
    rw [List.cons_append, List.singleton_append, readString, h]
    rintro _ _ _ _ _ rfl
    cases h
  | number h => simp only [List.cons_append, List.nil_append, readString, h]
  | plain hquote hbackslash hcontrol =>
    rw [List.singleton_append, readString.eq_def]
    split
    · rename_i heq
      cases heq
    · rename_i heq
      cases heq
      exact absurd rfl hquote
    · rename_i heq
      cases heq
      exact absurd rfl hbackslash
    · rename_i heq
      cases heq
      exact absurd rfl hbackslash
    · rename_i heq
      cases heq
      rw [if_neg hcontrol]

/-- A string is read up to its closing quotation mark. -/
theorem readString_of_spells (h : SpellsString cs s) (rest : List Char) :
    readString (s ++ '"' :: rest) = some (cs, rest) := by
  induction h with
  | nil => rw [List.nil_append, readString]
  | cons hc _ ih =>
    rw [List.append_assoc, readString_of_spellsChar hc, ih]
    rfl

/-! ## Integers -/

/-- A text that does not go on with a digit. -/
def EndsNumber (rest : List Char) : Prop := ∀ c ∈ rest.head?, c.isDigit = false

theorem span_digits {digits : List Char} (hdigits : ∀ c ∈ digits, c.isDigit = true)
    (hrest : EndsNumber rest) : (digits ++ rest).takeWhile Char.isDigit = digits ∧
      (digits ++ rest).dropWhile Char.isDigit = rest := by
  rw [List.takeWhile_append_of_pos hdigits, List.dropWhile_append_of_pos hdigits]
  cases rest with
  | nil => simp
  | cons c rest =>
    have hc : ¬c.isDigit = true := by simp [hrest c rfl]
    rw [List.takeWhile_cons_of_neg hc, List.dropWhile_cons_of_neg hc, List.append_nil]
    exact ⟨rfl, rfl⟩

/-- Only zero is written with a zero at its start. -/
theorem eq_zero_of_head?_toDigits {n : Nat} (h : (Nat.toDigits 10 n).head? = some '0') : n = 0 := by
  induction n using Nat.strongRecOn with
  | ind n ih =>
    rw [Nat.toDigits_eq_if (by decide)] at h
    split_ifs at h with hn
    · have hall : ∀ n < 10, n.digitChar = '0' → n = 0 := by decide
      exact hall n hn (by simpa using h)
    · rw [List.head?_append_of_ne_nil _ Nat.toDigits_ne_nil] at h
      have hzero := ih (n / 10) (by omega) h
      omega

theorem length_toDigits_le {k m : Nat} (hm : 0 < m) (hk : k < Nat.pow 10 m) :
    (Nat.toDigits 10 k).length ≤ m :=
  (Nat.length_toDigits_le_iff (by decide) hm).2 hk

theorem readNatural_toDigits {k : Nat} (hk : k < Nat.pow 10 maxDigits) (hrest : EndsNumber rest) :
    readNatural (Nat.toDigits 10 k ++ rest) = some (k, rest) := by
  have hdigits : ∀ c ∈ Nat.toDigits 10 k, c.isDigit = true := fun c hc =>
    Nat.isDigit_of_mem_toDigits (by decide) (by decide) hc
  have hshort : (Nat.toDigits 10 k).length ≤ maxDigits := length_toDigits_le (by decide) hk
  obtain ⟨htake, hdrop⟩ := span_digits hdigits hrest
  rw [readNatural, htake, hdrop, if_neg, Nat.ofDigitChars_ten_toDigits]
  simp only [Bool.or_eq_true, Bool.and_eq_true, List.isEmpty_iff, beq_iff_eq, bne_iff_ne,
    decide_eq_true_eq, not_or]
  refine ⟨⟨Nat.toDigits_ne_nil, fun h => ?_⟩, Nat.not_lt.2 hshort⟩
  rw [eq_zero_of_head?_toDigits h.1] at h
  exact h.2 rfl

/-- An integer is written as its digits, behind a sign if it is negative. -/
theorem toList_toString (n : Int) :
    (toString n).toList = if n < 0 then '-' :: Nat.toDigits 10 n.natAbs
      else Nat.toDigits 10 n.natAbs := by
  cases n with
  | ofNat n =>
    have htext : toString (Int.ofNat n) = toString n := rfl
    rw [htext, Nat.toString_eq_ofList_toDigits, String.toList_ofList, if_neg (by simp)]
    rfl
  | negSucc n =>
    have htext : toString (Int.negSucc n) = "-" ++ toString (n + 1) := rfl
    rw [htext, Nat.toString_eq_ofList_toDigits, String.toList_append, String.toList_ofList,
      if_pos (Int.negSucc_lt_zero n)]
    simp

/-- An integer that is not too long is read where it is spelled. -/
theorem readNumber_int {k : Int} (hk : FitsText k) (hrest : EndsNumber rest) :
    readNumber ((toString k).toList ++ rest) = some (k, rest) := by
  rw [toList_toString]
  split_ifs with hneg
  · rw [List.cons_append, readNumber, readNatural_toDigits hk hrest]
    simp only [Option.map_some, Option.some.injEq, Prod.mk.injEq, and_true]
    omega
  · have hminus : ∀ r, Nat.toDigits 10 k.natAbs ++ rest ≠ '-' :: r := by
      intro r heq
      obtain ⟨d, ds, hds⟩ :=
        List.exists_cons_of_ne_nil (Nat.toDigits_ne_nil (n := k.natAbs) (b := 10))
      have hdigit : d.isDigit = true :=
        Nat.isDigit_of_mem_toDigits (b := 10) (n := k.natAbs) (by decide) (by decide)
          (hds ▸ List.mem_cons_self)
      rw [hds] at heq
      cases heq
      exact absurd hdigit (by decide)
    rw [readNumber, readNatural_toDigits hk hrest]
    · simp only [Option.map_some, Option.some.injEq, Prod.mk.injEq, and_true]
      omega
    · exact hminus

/-- A character that a number begins with. -/
def BeginsNumber (c : Char) : Prop := c.isDigit = true ∨ c = '-'

theorem BeginsNumber.ne {d : Char} (hc : BeginsNumber c) (hdigit : d.isDigit = false)
    (hminus : d ≠ '-') :
    c ≠ d := by
  rintro rfl
  rcases hc with hc | hc
  · rw [hc] at hdigit
    cases hdigit
  · exact hminus hc

theorem BeginsNumber.isSpace_eq_false (hc : BeginsNumber c) : isSpace c = false := by
  simp [isSpace, hc.ne (d := ' ') rfl (by decide), hc.ne (d := '\t') rfl (by decide),
    hc.ne (d := '\n') rfl (by decide), hc.ne (d := '\r') rfl (by decide)]

/-- Where no other value begins, a number is read. -/
theorem readValue_number (hc : BeginsNumber c) (s : List Char) :
    readValue (fuel + 1) (c :: s) = (readNumber (c :: s)).map fun (n, rest) => (.int n, rest) := by
  rw [readValue, skip_cons hc.isSpace_eq_false]
  split
  · rename_i heq
    cases heq
    exact absurd rfl (hc.ne (d := '"') rfl (by decide))
  · rename_i heq
    cases heq
    exact absurd rfl (hc.ne (d := '[') rfl (by decide))
  · rename_i heq
    cases heq
    exact absurd rfl (hc.ne (d := '\x7b') rfl (by decide))
  · rename_i heq
    cases heq
    exact absurd rfl (hc.ne (d := 'n') rfl (by decide))
  · rename_i heq
    cases heq
    exact absurd rfl (hc.ne (d := 't') rfl (by decide))
  · rename_i heq
    cases heq
    exact absurd rfl (hc.ne (d := 'f') rfl (by decide))
  · rfl

theorem exists_beginsNumber (n : Int) :
    ∃ c t, (toString n).toList = c :: t ∧ BeginsNumber c := by
  rw [toList_toString]
  split_ifs
  · exact ⟨'-', _, rfl, .inr rfl⟩
  · obtain ⟨d, ds, hds⟩ :=
      List.exists_cons_of_ne_nil (Nat.toDigits_ne_nil (n := n.natAbs) (b := 10))
    have hdigit : d.isDigit = true :=
      Nat.isDigit_of_mem_toDigits (b := 10) (n := n.natAbs) (by decide) (by decide)
        (hds ▸ List.mem_cons_self)
    exact ⟨d, ds, hds, .inl hdigit⟩

theorem endsNumber_cons (hc : c.isDigit = false) (s : List Char) : EndsNumber (c :: s) := by
  rintro d hd
  cases hd
  exact hc

theorem endsNumber_append (hblanks : Blank blanks) (hs : EndsNumber s) :
    EndsNumber (blanks ++ s) := by
  cases blanks with
  | nil => exact hs
  | cons d blanks =>
    refine endsNumber_cons ?_ _
    have hspace : isSpace d = true := hblanks d List.mem_cons_self
    simp only [isSpace, Bool.or_eq_true, beq_iff_eq] at hspace
    obtain ((rfl | rfl) | rfl) | rfl := hspace <;> rfl

/-! ## Values -/

/-- A value is read where its text stands, up to the blanks behind it, by any fuel that suffices for
the length of the text. -/
def ReadsAs (v : Value) (s : List Char) : Prop :=
  ∀ ⦃fuel : Nat⦄ ⦃rest : List Char⦄, s.length ≤ fuel → EndsNumber rest →
    ∃ r, readValue fuel (s ++ rest) = some (v, r) ∧ skip r = skip rest

theorem readsAs_null : ReadsAs .null ['n', 'u', 'l', 'l'] := by
  intro fuel rest hfuel _
  cases fuel with
  | zero => cases hfuel
  | succ fuel => exact ⟨rest, rfl, rfl⟩

theorem readsAs_bool (b : Bool) :
    ReadsAs (.bool b) (if b then ['t', 'r', 'u', 'e'] else ['f', 'a', 'l', 's', 'e']) := by
  intro fuel rest hfuel _
  cases fuel with
  | zero => cases b <;> cases hfuel
  | succ fuel => cases b <;> exact ⟨rest, rfl, rfl⟩

theorem readsAs_int {k : Int} (hk : FitsText k) : ReadsAs (.int k) (toString k).toList := by
  intro fuel rest hfuel hrest
  obtain ⟨c, t, hct, hc⟩ := exists_beginsNumber k
  cases fuel with
  | zero =>
    rw [hct] at hfuel
    cases hfuel
  | succ fuel =>
    have hread := readNumber_int hk hrest
    rw [hct, List.cons_append] at hread ⊢
    exact ⟨rest, by rw [readValue_number hc, hread]; rfl, rfl⟩

theorem readValue_quote (fuel : Nat) (s : List Char) : readValue (fuel + 1) ('"' :: s) =
    (readString s).map fun (cs, rest) => (.str (String.ofList cs), rest) := rfl

theorem readsAs_str (h : SpellsString cs s) :
    ReadsAs (.str (String.ofList cs)) ('"' :: (s ++ ['"'])) := by
  intro fuel rest hfuel _
  cases fuel with
  | zero => cases hfuel
  | succ fuel =>
    refine ⟨rest, ?_, rfl⟩
    rw [List.cons_append, List.append_assoc, List.singleton_append, readValue_quote,
      readString_of_spells h]
    rfl

/-- Blanks around a text do not matter. -/
theorem ReadsAs.padded {blanks' : List Char} (hblanks : Blank blanks) (h : ReadsAs v s)
    (hblanks' : Blank blanks') : ReadsAs v (blanks ++ (s ++ blanks')) := by
  intro fuel rest hfuel hrest
  simp only [List.length_append] at hfuel
  obtain ⟨r, hread, hskip⟩ := @h fuel _ (by omega) (endsNumber_append hblanks' hrest)
  refine ⟨r, ?_, hskip.trans (skip_append hblanks' rest)⟩
  rw [List.append_assoc, List.append_assoc, ← readValue_skip, skip_append hblanks, readValue_skip,
    hread]

/-! ## Lists -/

/-- A text that begins, behind its blanks, with another character than the bracket of a list. -/
def Begins (s : List Char) : Prop := ∃ c t, skip s = c :: t ∧ c ≠ ']'

theorem Begins.append (h : Begins s) (t : List Char) : Begins (s ++ t) := by
  obtain ⟨c, u, hskip, hc⟩ := h
  refine ⟨c, u ++ t, ?_, hc⟩
  rw [skip] at hskip ⊢
  rw [List.dropWhile_append, hskip, List.isEmpty_cons, if_neg Bool.false_ne_true,
    List.cons_append]

theorem begins_of_spells (h : Spells n v s) : Begins s := by
  induction h with
  | null => exact ⟨'n', _, rfl, by decide⟩
  | bool b =>
    cases b
    · exact ⟨'f', _, rfl, by decide⟩
    · exact ⟨'t', _, rfl, by decide⟩
  | int k =>
    obtain ⟨c, t, hct, hc⟩ := exists_beginsNumber k
    exact ⟨c, t, by rw [hct, skip_cons hc.isSpace_eq_false], hc.ne rfl (by decide)⟩
  | str _ => exact ⟨'"', _, rfl, by decide⟩
  | list _ _ => exact ⟨'[', _, rfl, by decide⟩
  | ofFields _ _ _ _ => exact ⟨'\x7b', _, rfl, by decide⟩
  | padded hblanks _ _ ih =>
    obtain ⟨c, t, hskip, hc⟩ := ih.append _
    exact ⟨c, t, by rw [skip_append hblanks, hskip], hc⟩

/-- Behind the bracket of a list that does not end there its items are read. -/
theorem readValue_bracket (hs : Begins s) : readValue (fuel + 1) ('[' :: s) =
    (readItems fuel s).map fun (items, rest) => (.list items, rest) := by
  obtain ⟨c, t, hskip, hc⟩ := hs
  have hopen : readValue (fuel + 1) ('[' :: s) =
      match skip s with
      | ']' :: rest => some (.list [], rest)
      | r => (readItems fuel r).map fun (items, rest) => (.list items, rest) := rfl
  rw [hopen, ← readItems_skip fuel s, hskip]
  split
  · rename_i heq
    cases heq
    exact absurd rfl hc
  · rfl

/-- A list goes on behind a comma. -/
theorem readItems_comma {r : List Char} (h : readValue fuel s = some (v, r))
    (hr : skip r = ',' :: t) :
    readItems (fuel + 1) s = (readItems fuel t).map fun (items, rest) => (v :: items, rest) := by
  simp only [readItems, h, hr]

/-- A list ends with its bracket. -/
theorem readItems_bracket {r : List Char} (h : readValue fuel s = some (v, r))
    (hr : skip r = ']' :: rest) : readItems (fuel + 1) s = some ([v], rest) := by
  simp only [readItems, h, hr]

variable {items : List (Value × List Char)}

/-- Items are read up to the bracket that ends their list. -/
theorem readItems_intercalate (h : ∀ i ∈ items, ReadsAs i.1 i.2) (hne : items ≠ [])
    (hblanks : Blank blanks) (hfuel : ([','].intercalate (items.map Prod.snd)).length < fuel) :
    readItems fuel ([','].intercalate (items.map Prod.snd) ++ (blanks ++ ']' :: rest)) =
      some (items.map Prod.fst, rest) := by
  induction items generalizing fuel with
  | nil => exact absurd rfl hne
  | cons i items ih =>
    obtain ⟨hi, hitems⟩ := List.forall_mem_cons.1 h
    obtain ⟨fuel, rfl⟩ := Nat.exists_eq_succ_of_ne_zero (Nat.ne_zero_of_lt hfuel)
    cases items with
    | nil =>
      rw [List.map_singleton, List.intercalate_singleton] at hfuel ⊢
      have hrest := endsNumber_append hblanks (endsNumber_cons (c := ']') rfl rest)
      obtain ⟨r, hread, hskip⟩ := hi (Nat.le_of_lt_succ hfuel) hrest
      rw [skip_append hblanks, skip_cons rfl] at hskip
      exact readItems_bracket hread hskip
    | cons j items =>
      rw [List.map_cons, List.map_cons, List.intercalate_cons_cons, ← List.map_cons] at hfuel ⊢
      simp only [List.length_append, List.length_singleton] at hfuel
      rw [List.append_assoc, List.append_assoc, List.singleton_append]
      obtain ⟨r, hread, hskip⟩ := @hi fuel _ (by omega) (endsNumber_cons (c := ',') rfl _)
      rw [skip_cons rfl] at hskip
      rw [readItems_comma hread hskip, ih hitems (List.cons_ne_nil j items) (by omega)]
      rfl

theorem begins_intercalate (h : ∀ i ∈ items, Begins i.2) (hne : items ≠ []) :
    Begins ([','].intercalate (items.map Prod.snd)) := by
  cases items with
  | nil => exact absurd rfl hne
  | cons i items =>
    have hi := h i List.mem_cons_self
    cases items with
    | nil => simpa using hi
    | cons j items =>
      rw [List.map_cons, List.map_cons, List.intercalate_cons_cons, List.append_assoc]
      exact hi.append _

theorem readsAs_list (hbegins : ∀ i ∈ items, Begins i.2) (h : ∀ i ∈ items, ReadsAs i.1 i.2)
    (hblanks : Blank blanks) : ReadsAs (.list (items.map Prod.fst))
      ('[' :: ([','].intercalate (items.map Prod.snd) ++ (blanks ++ [']']))) := by
  intro fuel rest hfuel _
  obtain ⟨fuel, rfl⟩ := Nat.exists_eq_succ_of_ne_zero (Nat.ne_zero_of_lt hfuel)
  refine ⟨rest, ?_, rfl⟩
  simp only [List.length_cons, List.length_append] at hfuel
  simp only [List.cons_append, List.append_assoc, List.nil_append]
  by_cases hne : items = []
  · have hskip : skip (blanks ++ ']' :: rest) = ']' :: rest := by
      rw [skip_append hblanks, skip_cons rfl]
    rw [hne, List.map_nil, List.map_nil, List.intercalate_nil, List.nil_append, readValue,
      skip_cons (c := '[') rfl]
    simp only [hskip]
  · rw [readValue_bracket ((begins_intercalate hbegins hne).append _),
      readItems_intercalate h hne hblanks (by omega)]
    rfl

/-! ## Mappings -/

/-- A name is read with the colon behind it. -/
theorem readKey_of_spellsName {key : String} {name : List Char} (h : SpellsName key name)
    (s : List Char) : readKey (skip (name ++ ':' :: s)) = some (key, s) := by
  cases h with
  | padded hblanks hcs hblanks' =>
    rw [List.append_assoc, List.cons_append, List.append_assoc, List.cons_append,
      skip_append hblanks, skip_cons rfl, readKey, readString_of_spells hcs]
    simp only [skip_append hblanks', skip_cons (c := ':') rfl]

/-- A mapping goes on behind a comma. -/
theorem readEntries_comma {key : String} {r u : List Char} (hkey : readKey (skip s) = some (key, t))
    (h : readValue fuel t = some (v, r)) (hr : skip r = ',' :: u) : readEntries (fuel + 1) s =
      (readEntries fuel u).map fun (entries, rest) => ((.str key, v) :: entries, rest) := by
  simp only [readEntries, hkey, h, hr]

/-- A mapping ends with its brace. -/
theorem readEntries_brace {key : String} {r : List Char} (hkey : readKey (skip s) = some (key, t))
    (h : readValue fuel t = some (v, r)) (hr : skip r = '\x7d' :: rest) :
    readEntries (fuel + 1) s = some ([(.str key, v)], rest) := by
  simp only [readEntries, hkey, h, hr]

/-- The field that an entry is read as. -/
def SpelledEntry.field (e : SpelledEntry) : String × Value := (e.key, e.value)

variable {entries : List SpelledEntry}

/-- Entries are read up to the brace that ends their mapping. -/
theorem readEntries_intercalate (hnames : ∀ e ∈ entries, SpellsName e.key e.name)
    (h : ∀ e ∈ entries, ReadsAs e.value e.text) (hne : entries ≠ []) (hblanks : Blank blanks)
    (hfuel : ([','].intercalate (entries.map SpelledEntry.whole)).length < fuel) :
    readEntries fuel ([','].intercalate (entries.map SpelledEntry.whole) ++
      (blanks ++ '\x7d' :: rest)) = some (fieldEntries (entries.map SpelledEntry.field), rest) := by
  induction entries generalizing fuel with
  | nil => exact absurd rfl hne
  | cons e entries ih =>
    obtain ⟨hname, hnames⟩ := List.forall_mem_cons.1 hnames
    obtain ⟨he, hentries⟩ := List.forall_mem_cons.1 h
    obtain ⟨fuel, rfl⟩ := Nat.exists_eq_succ_of_ne_zero (Nat.ne_zero_of_lt hfuel)
    cases entries with
    | nil =>
      rw [List.map_singleton, List.intercalate_singleton] at hfuel ⊢
      simp only [SpelledEntry.whole, List.length_append, List.length_cons] at hfuel
      have hrest := endsNumber_append hblanks (endsNumber_cons (c := '\x7d') rfl rest)
      obtain ⟨r, hread, hskip⟩ := @he fuel _ (by omega) hrest
      rw [skip_append hblanks, skip_cons rfl] at hskip
      rw [SpelledEntry.whole, List.append_assoc, List.cons_append]
      exact readEntries_brace (readKey_of_spellsName hname _) hread hskip
    | cons f entries =>
      rw [List.map_cons, List.map_cons, List.intercalate_cons_cons, ← List.map_cons] at hfuel ⊢
      simp only [SpelledEntry.whole, List.length_append, List.length_cons, List.length_nil] at hfuel
      obtain ⟨r, hread, hskip⟩ := @he fuel _ (by omega) (endsNumber_cons (c := ',') rfl _)
      rw [skip_cons rfl] at hskip
      rw [SpelledEntry.whole, List.append_assoc, List.append_assoc, List.append_assoc,
        List.singleton_append, List.cons_append]
      rw [readEntries_comma (readKey_of_spellsName hname _) hread hskip,
        ih hnames hentries (List.cons_ne_nil f entries) (by omega)]
      rfl

/-- Entries with names of their own are kept as they are. -/
theorem ofEntries_fieldEntries (h : (fields.map Prod.fst).Nodup) :
    Value.ofEntries (fieldEntries fields) = fieldEntries fields := by
  have hinsert : ∀ (key : String) (v : Value) (fields : List (String × Value)),
      key ∉ fields.map Prod.fst →
        Value.insert (.str key) v (fieldEntries fields) =
          fieldEntries fields ++ [(.str key, v)] := by
    intro key v fields hkey
    induction fields with
    | nil => rfl
    | cons field fields ih =>
      rw [List.map_cons, List.mem_cons, not_or] at hkey
      have hother : ((Value.str field.1).sameKey (.str key)) = false := by
        rw [Value.sameKey_str]
        exact beq_false_of_ne (Ne.symm hkey.1)
      rw [fieldEntries, List.map_cons, Value.insert, hother, ← fieldEntries, ih hkey.2]
      rfl
  rw [Value.ofEntries]
  induction fields using List.reverseRecOn with
  | nil => rfl
  | append_singleton fields field ih =>
    rw [List.map_append, List.nodup_append] at h
    have hkey : field.1 ∉ fields.map Prod.fst := fun hmem =>
      h.2.2 _ hmem _ (List.mem_singleton_self _) rfl
    rw [fieldEntries, List.map_append, ← fieldEntries, List.foldl_append, ih h.1]
    exact hinsert field.1 field.2 fields hkey

/-- Behind the brace of a mapping that does not end there its entries are read. -/
theorem readValue_brace (h : skip s = '"' :: t) : readValue (fuel + 1) ('\x7b' :: s) =
    (readEntries fuel s).map fun (entries, rest) => (.dict (Value.ofEntries entries), rest) := by
  have hopen : readValue (fuel + 1) ('\x7b' :: s) =
      match skip s with
      | '\x7d' :: rest => some (.dict [], rest)
      | r => (readEntries fuel r).map
          fun (entries, rest) => (.dict (Value.ofEntries entries), rest) := rfl
  rw [hopen, ← readEntries_skip fuel s, h]
  rfl

theorem exists_skip_intercalate (hnames : ∀ e ∈ entries, SpellsName e.key e.name)
    (hne : entries ≠ []) (s : List Char) :
    ∃ t, skip ([','].intercalate (entries.map SpelledEntry.whole) ++ s) = '"' :: t := by
  have hskip {key : String} {name : List Char} (h : SpellsName key name) (s : List Char) :
      ∃ t, skip (name ++ s) = '"' :: t := by
    cases h with
    | padded hblanks _ _ =>
      exact ⟨_, by rw [List.append_assoc, List.cons_append, skip_append hblanks, skip_cons rfl]⟩
  cases entries with
  | nil => exact absurd rfl hne
  | cons e entries =>
    have he := hnames e List.mem_cons_self
    cases entries with
    | nil =>
      rw [List.map_singleton, List.intercalate_singleton, SpelledEntry.whole, List.append_assoc]
      exact hskip he _
    | cons f entries =>
      rw [List.map_cons, List.map_cons, List.intercalate_cons_cons, SpelledEntry.whole,
        List.append_assoc, List.append_assoc, List.append_assoc]
      exact hskip he _

theorem readsAs_ofFields (hnodup : (entries.map SpelledEntry.key).Nodup)
    (hnames : ∀ e ∈ entries, SpellsName e.key e.name)
    (h : ∀ e ∈ entries, ReadsAs e.value e.text)
    (hblanks : Blank blanks) : ReadsAs (.ofFields (entries.map SpelledEntry.field))
      ('\x7b' :: ([','].intercalate (entries.map SpelledEntry.whole) ++
        (blanks ++ ['\x7d']))) := by
  intro fuel rest hfuel _
  obtain ⟨fuel, rfl⟩ := Nat.exists_eq_succ_of_ne_zero (Nat.ne_zero_of_lt hfuel)
  refine ⟨rest, ?_, rfl⟩
  simp only [List.length_cons, List.length_append] at hfuel
  simp only [List.cons_append, List.append_assoc, List.nil_append]
  by_cases hne : entries = []
  · have hskip : skip (blanks ++ '\x7d' :: rest) = '\x7d' :: rest := by
      rw [skip_append hblanks, skip_cons rfl]
    rw [hne, List.map_nil, List.map_nil, List.intercalate_nil, List.nil_append, readValue,
      skip_cons (c := '\x7b') rfl]
    simp only [hskip]
    rfl
  · obtain ⟨t, ht⟩ := exists_skip_intercalate hnames hne (blanks ++ '\x7d' :: rest)
    have hkeys : ((entries.map SpelledEntry.field).map Prod.fst).Nodup := by
      rwa [List.map_map]
    rw [readValue_brace ht, readEntries_intercalate hnames h hne hblanks (by omega)]
    simp only [Option.map_some, ofEntries_fieldEntries hkeys]
    rfl

/-! ## The reader -/

/-- A value is read where it is spelled, if no integer in it is too long. -/
theorem readsAs_of_spells (h : Spells n v s) (hlong : v.holdsLongInteger = false) :
    ReadsAs v s := by
  induction h with
  | null => exact readsAs_null
  | bool b => exact readsAs_bool b
  | int k => exact readsAs_int (Value.holdsLongInteger_int.1 hlong)
  | str h => exact readsAs_str h
  | list h hblanks ih =>
    rw [Value.holdsLongInteger, Value.anyHoldsLongInteger_eq_false_iff,
      List.forall_mem_map] at hlong
    exact readsAs_list (fun i hi => begins_of_spells (h i hi)) (fun i hi => ih i hi (hlong i hi))
      hblanks
  | ofFields hnodup hnames h hblanks ih =>
    rw [Value.ofFields, Value.holdsLongInteger, Value.anyEntryHoldsLongInteger_eq_false_iff,
      List.forall_mem_map, List.forall_mem_map] at hlong
    exact readsAs_ofFields hnodup hnames (fun e he => ih e he (hlong e he).2) hblanks
  | padded hblanks _ hblanks' ih => exact (ih hlong).padded hblanks hblanks'

/-- The reader does what is relied on. -/
theorem reads_read : Reads read := by
  intro text v h hlong
  obtain ⟨r, hread, hskip⟩ := @readsAs_of_spells _ _ _ h hlong _ [] (Nat.le_refl _) nofun
  rw [List.append_nil] at hread
  have hend : (skip r).isEmpty = true := by
    rw [hskip]
    rfl
  simp only [read, hread, hend, if_true]

end DocAudit.Json
