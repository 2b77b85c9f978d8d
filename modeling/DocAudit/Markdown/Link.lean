import DocAudit.Text.Search

/-!
# Links

Inline links `[text](target)` with an optional title in double quotes, and the other spellings of a
reference: a path between backquotes or a text without blanks. Main statement: what `readLink`
leaves over is shorter than what it was given.
-/

namespace DocAudit.Markdown

open Text

/-- A reference with the text it is shown by. -/
structure Link where
  text : String
  target : String
  deriving DecidableEq, Repr, Inhabited

/-- A character of a link's target. -/
def inTarget (c : Char) : Bool := c != ')' && !isBlank c

/-- What follows the target of a link: an optional title, then the closing parenthesis. -/
def skipTitle : List Char → Option (List Char)
  | ')' :: s => some s
  | c :: s =>
    if isBlank c then
      match s.dropWhile isBlank with
      | '"' :: t =>
        match (cutAt '"' t).map Prod.snd with
        | some (')' :: r) => some r
        | _ => none
      | _ => none
    else none
  | [] => none

/-- The text and the target of a link whose opening bracket was read, and what follows it. -/
def readLink (s : List Char) : Option (List Char × List Char × List Char) :=
  match cutAt ']' s with
  | some (text, '(' :: r) =>
    let target := r.takeWhile inTarget
    if target.isEmpty then none
    else (skipTitle (r.dropWhile inTarget)).map fun rest => (text, target, rest)
  | _ => none

theorem length_skipTitle {s r : List Char} (h : skipTitle s = some r) : r.length < s.length := by
  unfold skipTitle at h
  split at h
  · simp only [Option.some.injEq] at h
    subst h
    simp
  · rename_i c s _
    split at h
    · split at h
      · rename_i t ht
        split at h
        · rename_i r' hr
          obtain ⟨⟨a, b⟩, hab, hb⟩ := Option.map_eq_some_iff.1 hr
          obtain ⟨rfl, -⟩ := eq_append_of_cutAt hab
          have hd := length_dropWhile_le isBlank s
          simp only [Option.some.injEq] at h
          simp only at hb
          subst h hb
          rw [ht] at hd
          simp only [List.length_cons, List.length_append] at hd ⊢
          omega
        · simp at h
      · simp at h
    · simp at h
  · simp at h

theorem length_readLink {s text target rest : List Char}
    (h : readLink s = some (text, target, rest)) : rest.length < s.length := by
  unfold readLink at h
  split at h
  · rename_i t r hc
    obtain ⟨rfl, -⟩ := eq_append_of_cutAt hc
    simp only at h
    split at h
    · simp at h
    · obtain ⟨q, hq, heq⟩ := Option.map_eq_some_iff.1 h
      simp only [Prod.mk.injEq] at heq
      obtain ⟨-, -, rfl⟩ := heq
      have h1 := length_skipTitle hq
      have h2 := length_dropWhile_le inTarget r
      simp only [List.length_append, List.length_cons]
      omega
  · simp at h

/-- The texts and targets of all links of a text, from left to right. -/
def scanLinks : List Char → List (List Char × List Char)
  | [] => []
  | c :: s =>
    if c == '[' then
      match h : readLink s with
      | some (text, target, rest) =>
        have : rest.length < s.length := length_readLink h
        (text, target) :: scanLinks rest
      | none => scanLinks s
    else scanLinks s
termination_by s => s.length

/-- All links of a text. -/
def findLinks (s : String) : List Link :=
  (scanLinks s.toList).map fun (text, target) =>
    ⟨String.ofList (trim text), String.ofList target⟩

/-- The text between a pair of backquotes that is all there is. -/
def codeSpan? : List Char → Option (List Char)
  | '\x60' :: s =>
    match cutAt '\x60' s with
    | some (code, []) => if code.isEmpty then none else some code
    | _ => none
  | _ => none

/-- The reference that a text spells: a link in it, a path between backquotes or a text without
blanks. -/
def Link.ofString? (s : String) : Option Link :=
  let t := trim s.toList
  match scanLinks t with
  | (text, target) :: _ => some ⟨String.ofList (trim text), String.ofList target⟩
  | [] =>
    match codeSpan? t with
    | some code => some ⟨String.ofList code, String.ofList code⟩
    | none =>
      if t.isEmpty || t.any isBlank then none else some ⟨String.ofList t, String.ofList t⟩

end DocAudit.Markdown
