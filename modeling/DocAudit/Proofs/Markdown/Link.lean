import DocAudit.Markdown.Link
import DocAudit.Proofs.Text.Pieces
import DocAudit.Proofs.Text.Trim
import Mathlib.Data.List.Infix

/-!
# Written links

A link that is written is read back, whatever blanks stand before its title, and of a text in which
links alternate with words without opening brackets all links are found, in their order
(`findLinks_written`). Where no link stands in a text nothing is found (`scanLinks_eq_nil_iff`), so
a path between backquotes and a text without blanks are references to themselves
(`readsReferences`). A title behind two spaces does not make a link any less of one
(`ofString?_twoSpaces`).
-/

namespace DocAudit.Markdown

open Text

variable {s rest text target code : List Char}

/-! ## The form of a link -/

/-- The title of a link with the blanks before it. -/
structure LinkTitle where
  blanks : List Char
  text : List Char
  blanks_ne_nil : blanks ≠ []
  isBlank_of_mem : ∀ c ∈ blanks, isBlank c = true
  quote_not_mem : '"' ∉ text

/-- A link that can be written. -/
structure WrittenLink where
  text : List Char
  target : List Char
  title : Option LinkTitle
  bracket_not_mem : ']' ∉ text
  target_ne_nil : target ≠ []
  of_mem_target : ∀ c ∈ target, c ≠ ')' ∧ isBlank c = false

/-- The title as it stands behind the target. -/
def LinkTitle.written (t : LinkTitle) : List Char := t.blanks ++ '"' :: (t.text ++ ['"'])

/-- What stands behind the target of a link. -/
def closingOf (title : Option LinkTitle) : List Char := title.elim [] LinkTitle.written ++ [')']

namespace WrittenLink

/-- The link as it stands in a text. -/
def written (l : WrittenLink) : List Char :=
  '[' :: (l.text ++ ']' :: '(' :: (l.target ++ closingOf l.title))

/-- What is told by the link. -/
def link (l : WrittenLink) : Link := ⟨String.ofList (trim l.text), String.ofList l.target⟩

end WrittenLink

/-- A part of a text: words without an opening bracket, or a link. -/
inductive Inline where
  | words (s : List Char) (bracket_not_mem : '[' ∉ s)
  | link (l : WrittenLink)

/-- The part as it stands in the text. -/
def Inline.written : Inline → List Char
  | words s _ => s
  | link l => l.written

/-- The link that the part is. -/
def Inline.link? : Inline → Option WrittenLink
  | words _ _ => none
  | link l => some l

/-- No link stands in a text. -/
def IsUnlinked (s : List Char) : Prop := ∀ l : WrittenLink, ¬l.written <:+: s

/-- A path between backquotes. -/
def IsCodeSpan (s code : List Char) : Prop :=
  code ≠ [] ∧ '\x60' ∉ code ∧ s = '\x60' :: (code ++ ['\x60'])

/-! ## Reading a link -/

theorem inTarget_iff {c : Char} : inTarget c = true ↔ c ≠ ')' ∧ isBlank c = false := by
  simp [inTarget]

/-- Behind a blank there has to be a title in double quotes and the closing parenthesis. -/
theorem skipTitle_cons_eq_some_iff {c : Char} (hc : isBlank c = true) :
    skipTitle (c :: s) = some rest ↔
    ∃ title, '"' ∉ title ∧ s.dropWhile isBlank = '"' :: (title ++ '"' :: ')' :: rest) := by
  unfold skipTitle
  split
  · rename_i heq
    cases heq
    exact absurd hc (by decide)
  · rename_i heq
    cases heq
    rw [if_pos hc]
    constructor
    · intro h
      split at h
      · rename_i t ht
        split at h
        · rename_i r hmap
          cases h
          obtain ⟨⟨title, _⟩, hcut, rfl⟩ := Option.map_eq_some_iff.1 hmap
          obtain ⟨rfl, htitle⟩ := eq_append_of_cutAt hcut
          exact ⟨title, htitle, ht⟩
        · cases h
      · cases h
    · rintro ⟨title, htitle, hs⟩
      rw [hs]
      simp only [cutAt_append_cons htitle, Option.map_some]
  · rename_i heq
    cases heq

theorem isBlank_of_skipTitle {c : Char} (hc : c ≠ ')') (h : skipTitle (c :: s) = some rest) :
    isBlank c = true := by
  unfold skipTitle at h
  split at h
  · rename_i heq
    exact absurd (List.cons.inj heq).1 hc
  · rename_i heq
    cases heq
    split_ifs at h with hblank
    exact hblank
  · cases h

theorem skipTitle_closingOf (title : Option LinkTitle) (rest : List Char) :
    skipTitle (closingOf title ++ rest) = some rest := by
  obtain _ | ⟨blanks, text, hne, hblanks, htext⟩ := title
  · rfl
  · obtain ⟨c, blanks, rfl⟩ := List.exists_cons_of_ne_nil hne
    obtain ⟨hc, hrest⟩ := List.forall_mem_cons.1 hblanks
    have hclosing : closingOf (some ⟨c :: blanks, text, hne, hblanks, htext⟩) ++ rest =
        c :: (blanks ++ '"' :: (text ++ '"' :: ')' :: rest)) := by
      simp [closingOf, LinkTitle.written]
    rw [hclosing, skipTitle_cons_eq_some_iff hc]
    exact ⟨text, htext,
      by rw [List.dropWhile_append_of_pos hrest, List.dropWhile_cons_of_neg (by decide)]⟩

/-- What is skipped behind a target is the closing of a link. -/
theorem exists_eq_closingOf_append (h : skipTitle s = some rest) :
    ∃ title : Option LinkTitle, s = closingOf title ++ rest := by
  cases s with
  | nil => cases h
  | cons c s =>
    by_cases hc : c = ')'
    · subst hc
      cases h
      exact ⟨none, rfl⟩
    · have hblank := isBlank_of_skipTitle hc h
      obtain ⟨title, htitle, hdrop⟩ := (skipTitle_cons_eq_some_iff hblank).1 h
      refine ⟨some ⟨c :: s.takeWhile isBlank, title, List.cons_ne_nil _ _,
        List.forall_mem_cons.2 ⟨hblank, List.all_eq_true.1 List.all_takeWhile⟩, htitle⟩, ?_⟩
      calc c :: s = c :: (s.takeWhile isBlank ++ s.dropWhile isBlank) := by
            rw [List.takeWhile_append_dropWhile]
        _ = _ := by
            rw [hdrop]
            simp [closingOf, LinkTitle.written]

/-- The closing of a link begins with a character that no target has. -/
theorem head?_closingOf (title : Option LinkTitle) (rest : List Char) :
    ∃ c s, closingOf title ++ rest = c :: s ∧ inTarget c = false := by
  obtain _ | ⟨blanks, text, hne, hblanks, htext⟩ := title
  · exact ⟨')', rest, rfl, by decide⟩
  · obtain ⟨c, blanks, rfl⟩ := List.exists_cons_of_ne_nil hne
    refine ⟨c, _, rfl, ?_⟩
    simp [inTarget, hblanks c List.mem_cons_self]

theorem written_append (l : WrittenLink) (rest : List Char) : l.written ++ rest =
    '[' :: (l.text ++ ']' :: '(' :: (l.target ++ (closingOf l.title ++ rest))) := by
  simp [WrittenLink.written]

/-- A link that is written behind an opening bracket is read. -/
theorem readLink_of_written {l : WrittenLink} (h : '[' :: s = l.written ++ rest) :
    readLink s = some (l.text, l.target, rest) := by
  rw [written_append] at h
  obtain ⟨-, rfl⟩ := List.cons.inj h
  obtain ⟨c, s, hs, hc⟩ := head?_closingOf l.title rest
  have htarget : ∀ c ∈ l.target, inTarget c = true :=
    fun c hc => inTarget_iff.2 (l.of_mem_target c hc)
  have htake : (l.target ++ (closingOf l.title ++ rest)).takeWhile inTarget = l.target := by
    rw [hs, List.takeWhile_append_of_pos htarget, List.takeWhile_cons_of_neg (by simp [hc]),
      List.append_nil]
  have hdrop : (l.target ++ (closingOf l.title ++ rest)).dropWhile inTarget =
      closingOf l.title ++ rest := by
    rw [List.dropWhile_append_of_pos htarget, hs, List.dropWhile_cons_of_neg (by simp [hc])]
  have hempty : l.target.isEmpty = false := by simpa using l.target_ne_nil
  rw [readLink, cutAt_append_cons l.bracket_not_mem]
  simp only [htake, hdrop, hempty, skipTitle_closingOf, Bool.false_eq_true, if_false,
    Option.map_some]

/-- What is read behind an opening bracket is a link that is written there. -/
theorem exists_written_of_readLink (h : readLink s = some (text, target, rest)) :
    ∃ l : WrittenLink, l.text = text ∧ l.target = target ∧ '[' :: s = l.written ++ rest := by
  unfold readLink at h
  split at h
  · rename_i t r hcut
    obtain ⟨rfl, htext⟩ := eq_append_of_cutAt hcut
    dsimp only at h
    split_ifs at h with hempty
    obtain ⟨q, hq, heq⟩ := Option.map_eq_some_iff.1 h
    cases heq
    obtain ⟨title, htitle⟩ := exists_eq_closingOf_append hq
    refine ⟨⟨_, r.takeWhile inTarget, title, htext, by simpa using hempty, fun c hc =>
      inTarget_iff.1 (List.mem_takeWhile_imp hc)⟩, rfl, rfl, ?_⟩
    have hr : r = r.takeWhile inTarget ++ (closingOf title ++ rest) := by
      rw [← htitle, List.takeWhile_append_dropWhile]
    conv_lhs => rw [hr]
    simp [WrittenLink.written]
  · cases h

/-! ## Reading a text -/

theorem scanLinks_cons_of_ne {c : Char} (hc : c ≠ '[') (s : List Char) :
    scanLinks (c :: s) = scanLinks s := by
  rw [scanLinks, if_neg (by simpa using hc)]

theorem scanLinks_written_append (l : WrittenLink) (rest : List Char) :
    scanLinks (l.written ++ rest) = (l.text, l.target) :: scanLinks rest := by
  have hread := readLink_of_written (written_append l rest).symm
  rw [written_append, scanLinks, if_pos (beq_self_eq_true _)]
  split
  · rename_i h
    rw [hread] at h
    cases h
    rfl
  · rename_i h
    rw [hread] at h
    cases h

theorem scanLinks_bracket_of_none (h : readLink s = none) : scanLinks ('[' :: s) = scanLinks s := by
  rw [scanLinks, if_pos (beq_self_eq_true _)]
  split
  · rename_i hread
    rw [h] at hread
    cases hread
  · rfl

theorem scanLinks_append_of_not_mem (h : '[' ∉ s) (rest : List Char) :
    scanLinks (s ++ rest) = scanLinks rest := by
  induction s with
  | nil => rfl
  | cons c s ih =>
    rw [List.mem_cons, not_or] at h
    rw [List.cons_append, scanLinks_cons_of_ne (Ne.symm h.1), ih h.2]

theorem scanLinks_written (parts : List Inline) : scanLinks (parts.flatMap Inline.written) =
    (parts.filterMap Inline.link?).map fun l => (l.text, l.target) := by
  induction parts with
  | nil => rw [List.flatMap_nil, scanLinks]; rfl
  | cons part parts ih =>
    rw [List.flatMap_cons]
    cases part with
    | words s h =>
      rw [Inline.written, scanLinks_append_of_not_mem h, ih]
      rfl
    | link l =>
      rw [Inline.written, scanLinks_written_append, ih]
      rfl

theorem not_written_prefix_cons {c : Char} (hc : c ≠ '[') (l : WrittenLink) (s : List Char) :
    ¬l.written <+: c :: s := fun h => hc (List.cons_prefix_cons.1 h).1.symm

theorem isUnlinked_cons_iff {c : Char} :
    IsUnlinked (c :: s) ↔ (∀ l : WrittenLink, ¬l.written <+: c :: s) ∧ IsUnlinked s := by
  simp only [IsUnlinked, List.infix_cons_iff, not_or, forall_and]

/-- Nothing is found exactly in the texts without links. -/
theorem scanLinks_eq_nil_iff : scanLinks s = [] ↔ IsUnlinked s := by
  -- what is read behind a bracket is a link in any case, so the induction never has to go past one
  induction s with
  | nil =>
    rw [scanLinks]
    refine iff_of_true rfl fun l hl => ?_
    cases List.infix_nil.1 hl
  | cons c s ih =>
    rw [isUnlinked_cons_iff]
    by_cases hc : c = '['
    · subst hc
      cases hread : readLink s with
      | none =>
        rw [scanLinks_bracket_of_none hread, ih, iff_and_self]
        rintro - l ⟨rest, hl⟩
        rw [readLink_of_written hl.symm] at hread
        cases hread
      | some found =>
        obtain ⟨text, target, rest⟩ := found
        obtain ⟨l, rfl, rfl, hl⟩ := exists_written_of_readLink hread
        rw [hl, scanLinks_written_append]
        refine iff_of_false (List.cons_ne_nil _ _) fun hnone => hnone.1 l ⟨rest, rfl⟩
    · rw [scanLinks_cons_of_ne hc, ih, iff_and_self]
      exact fun _ l => not_written_prefix_cons hc l s

theorem findLinks_written (parts : List Inline) :
    findLinks (String.ofList (parts.flatMap Inline.written)) =
      (parts.filterMap Inline.link?).map WrittenLink.link := by
  rw [findLinks, String.toList_ofList, scanLinks_written, List.map_map]
  rfl

/-! ## References -/

theorem exists_written_eq (l : WrittenLink) : ∃ inner, l.written = '[' :: (inner ++ [')']) :=
  ⟨l.text ++ ']' :: '(' :: (l.target ++ l.title.elim [] LinkTitle.written), by
    simp [WrittenLink.written, closingOf]⟩

theorem trim_written (l : WrittenLink) : trim l.written = l.written := by
  obtain ⟨inner, hinner⟩ := exists_written_eq l
  rw [hinner]
  exact trim_between (by decide) (by decide) inner

theorem ofString?_written (l : WrittenLink) :
    Link.ofString? (String.ofList l.written) = some l.link := by
  have hscan : scanLinks l.written = [(l.text, l.target)] := by
    rw [← List.append_nil l.written, scanLinks_written_append, scanLinks]
  rw [Link.ofString?, String.toList_ofList, trim_written, hscan]
  rfl

theorem codeSpan?_eq_some_iff : codeSpan? s = some code ↔ IsCodeSpan s code := by
  constructor
  · intro h
    unfold codeSpan? at h
    split at h
    · rename_i t
      split at h
      · rename_i hcut
        obtain ⟨rfl, htick⟩ := eq_append_of_cutAt hcut
        split_ifs at h with hempty
        cases h
        exact ⟨by simpa using hempty, htick, rfl⟩
      · cases h
    · cases h
  · rintro ⟨hne, htick, rfl⟩
    rw [codeSpan?, cutAt_append_cons htick]
    simpa using hne

/-- A link neither begins nor ends with a backquote. -/
theorem IsUnlinked.codeSpan (h : IsUnlinked s) : IsUnlinked ('\x60' :: (s ++ ['\x60'])) := by
  refine isUnlinked_cons_iff.2 ⟨fun l => not_written_prefix_cons (by decide) l _,
    fun l hl => ?_⟩
  rcases List.infix_concat_iff.1 hl with ⟨lead, hlead⟩ | hinfix
  · obtain ⟨inner, hinner⟩ := exists_written_eq l
    rw [hinner, ← List.cons_append, ← List.append_assoc] at hlead
    have hlast := (List.append_inj' hlead rfl).2
    exact absurd hlast (by decide)
  · exact h l hinfix

theorem ofString?_codeSpan {p : String} (hne : p ≠ "") (htick : '\x60' ∉ p.toList)
    (h : IsUnlinked p.toList) : Link.ofString? ("\x60" ++ p ++ "\x60") = some ⟨p, p⟩ := by
  have htext : ("\x60" ++ p ++ "\x60").toList = '\x60' :: (p.toList ++ ['\x60']) := by simp
  have hcode : IsCodeSpan ("\x60" ++ p ++ "\x60").toList p.toList :=
    ⟨by simpa using hne, htick, htext⟩
  have htrim : trim ("\x60" ++ p ++ "\x60").toList = ("\x60" ++ p ++ "\x60").toList := by
    rw [htext]
    exact trim_between (by decide) (by decide) p.toList
  have hscan : scanLinks ("\x60" ++ p ++ "\x60").toList = [] :=
    scanLinks_eq_nil_iff.2 (htext ▸ h.codeSpan)
  rw [Link.ofString?, htrim]
  simp only [hscan, codeSpan?_eq_some_iff.2 hcode, String.ofList_toList]

theorem ofString?_of_not_isCodeSpan {p : String} (hne : p ≠ "")
    (hblank : ∀ c ∈ p.toList, isBlank c = false)
    (hcode : ∀ code, ¬IsCodeSpan p.toList code) (h : IsUnlinked p.toList) :
    Link.ofString? p = some ⟨p, p⟩ := by
  have htrim : trim p.toList = p.toList := trim_of_not_isBlank
    (fun c hc => hblank c (List.mem_of_head? hc)) fun c hc => hblank c (List.mem_of_getLast? hc)
  have hnone : codeSpan? p.toList = none := Option.eq_none_iff_forall_ne_some.2 fun code hsome =>
    hcode code (codeSpan?_eq_some_iff.1 hsome)
  have hgiven : ¬(p.toList.isEmpty || p.toList.any isBlank) = true := by simpa [hne] using hblank
  rw [Link.ofString?, htrim]
  simp only [scanLinks_eq_nil_iff.2 h, hnone, if_neg hgiven, String.ofList_toList]

/-- Links are read back from what is written, and where none is written a path between backquotes
and a text without blanks are references to themselves. -/
theorem readsReferences :
    (∀ parts : List Inline, findLinks (String.ofList (parts.flatMap Inline.written)) =
      (parts.filterMap Inline.link?).map WrittenLink.link) ∧
    (∀ l : WrittenLink, Link.ofString? (String.ofList l.written) = some l.link) ∧
    (∀ p : String, p ≠ "" → '\x60' ∉ p.toList → IsUnlinked p.toList →
      Link.ofString? ("\x60" ++ p ++ "\x60") = some ⟨p, p⟩) ∧
    ∀ p : String, p ≠ "" → (∀ c ∈ p.toList, isBlank c = false) →
    (∀ code, ¬IsCodeSpan p.toList code) →
      IsUnlinked p.toList → Link.ofString? p = some ⟨p, p⟩ :=
  ⟨findLinks_written, ofString?_written, fun _ => ofString?_codeSpan,
    fun _ => ofString?_of_not_isCodeSpan⟩

/-- A link with brackets and a line end in its text, and a title with brackets behind a tab and a
space. -/
def titledLink : WrittenLink where
  text := " [a\n[b ".toList
  target := "u(\"[".toList
  title := some ⟨['\t', ' '], "c](d)[e](f".toList, by decide, by decide, by decide⟩
  bracket_not_mem := by decide
  target_ne_nil := by decide
  of_mem_target := by decide

/-- A link without a text. -/
def bareLink : WrittenLink where
  text := []
  target := ['v']
  title := none
  bracket_not_mem := by decide
  target_ne_nil := by decide
  of_mem_target := by decide

/-- Two links with nothing between them and with closing brackets and parentheses around. -/
def adjoining : List Inline :=
  [.words "x](y)".toList (by decide), .link titledLink, .link bareLink, .words ['!'] (by decide)]

theorem readsReferences_titledLink :
    findLinks "x](y)[ [a\n[b ](u(\"[\t \"c](d)[e](f\")[](v)!" =
      [⟨"[a\n[b", "u(\"["⟩, ⟨"", "v"⟩] ∧
    Link.ofString? "[ [a\n[b ](u(\"[\t \"c](d)[e](f\")" = some ⟨"[a\n[b", "u(\"["⟩ ∧
    ("a [b](c d" ≠ "" ∧ '\x60' ∉ "a [b](c d".toList ∧ IsUnlinked "a [b](c d".toList ∧
      Link.ofString? ("\x60" ++ "a [b](c d" ++ "\x60") = some ⟨"a [b](c d", "a [b](c d"⟩) ∧
    "\x60\x60[a](" ≠ "" ∧ (∀ c ∈ "\x60\x60[a](".toList, isBlank c = false) ∧
      (∀ code, ¬IsCodeSpan "\x60\x60[a](".toList code) ∧ IsUnlinked "\x60\x60[a](".toList ∧
      Link.ofString? "\x60\x60[a](" = some ⟨"\x60\x60[a](", "\x60\x60[a]("⟩ := by
  obtain ⟨hfind, hlink, hcode, hpath⟩ := readsReferences
  refine ⟨?_, ?_, ?_, ?_⟩
  · have htext : String.ofList (adjoining.flatMap Inline.written) =
        "x](y)[ [a\n[b ](u(\"[\t \"c](d)[e](f\")[](v)!" := by decide +kernel
    have hlinks : (adjoining.filterMap Inline.link?).map WrittenLink.link =
        [⟨"[a\n[b", "u(\"["⟩, ⟨"", "v"⟩] := by decide +kernel
    rw [← htext, ← hlinks]
    exact hfind adjoining
  · have htext : String.ofList titledLink.written = "[ [a\n[b ](u(\"[\t \"c](d)[e](f\")" := by
      decide +kernel
    have hlink' : titledLink.link = ⟨"[a\n[b", "u(\"["⟩ := by decide +kernel
    rw [← htext, ← hlink']
    exact hlink titledLink
  · have hne : "a [b](c d" ≠ "" := by decide
    have htick : '\x60' ∉ "a [b](c d".toList := by decide
    have hunlinked : IsUnlinked "a [b](c d".toList := scanLinks_eq_nil_iff.1 (by decide +kernel)
    exact ⟨hne, htick, hunlinked, hcode _ hne htick hunlinked⟩
  · have hne : "\x60\x60[a](" ≠ "" := by decide
    have hblank : ∀ c ∈ "\x60\x60[a](".toList, isBlank c = false := by decide
    have hnot : ∀ code, ¬IsCodeSpan "\x60\x60[a](".toList code := fun code hspan =>
      absurd (codeSpan?_eq_some_iff.2 hspan) (by simp [codeSpan?, cutAt])
    have hunlinked : IsUnlinked "\x60\x60[a](".toList := scanLinks_eq_nil_iff.1 (by decide +kernel)
    exact ⟨hne, hblank, hnot, hunlinked, hpath _ hne hblank hnot hunlinked⟩

/-- A title behind two spaces makes a path between backquotes hold a link, though none with a single
space. -/
theorem ofString?_twoSpaces :
    "[t](u  \"x\")" ≠ "" ∧ '\x60' ∉ "[t](u  \"x\")".toList ∧
    (∀ l : WrittenLink, (∀ t ∈ l.title, t.blanks = [' ']) →
      ¬l.written <:+: "[t](u  \"x\")".toList) ∧
    Link.ofString? "\x60[t](u  \"x\")\x60" = some ⟨"t", "u"⟩ := by
  refine ⟨by decide, by decide, fun l hl hinfix => ?_, by decide +kernel⟩
  have htext : "[t](u  \"x\")".toList = '[' :: ['t', ']', '(', 'u', ' ', ' ', '"', 'x', '"', ')'] :=
    rfl
  rw [htext] at hinfix
  rcases List.infix_cons_iff.1 hinfix with ⟨rest, hwritten⟩ | hinfix
  · have hread : readLink ['t', ']', '(', 'u', ' ', ' ', '"', 'x', '"', ')'] =
        some (['t'], ['u'], []) := by
      decide +kernel
    rw [readLink_of_written hwritten.symm] at hread
    obtain ⟨htext, htarget, rfl⟩ : l.text = ['t'] ∧ l.target = ['u'] ∧ rest = [] := by
      simpa using hread
    rw [written_append, htext, htarget] at hwritten
    cases htitle : l.title with
    | none => simp [htitle, closingOf] at hwritten
    | some title => simp [htitle, closingOf, LinkTitle.written, hl title htitle] at hwritten
  · exact scanLinks_eq_nil_iff.1 (by decide +kernel) l hinfix

end DocAudit.Markdown
