import DocAudit.Text.Search

/-!
# Paths

Paths as texts and their lexical normal form: empty components and `'.'` are left out and `'..'`
takes back the component before it. `Path.within` brings the spellings that documents use
(backslashes, blanks around the path, a leading `'./'`) to one form relative to the root of a
project, the root itself being the empty text. Main statement: a component of a normal form is
neither empty nor `'.'`.
-/

namespace DocAudit.Path

open Text

/-- The parts of a path between its slashes. -/
def components (p : List Char) : List (List Char) := splitOn '/' p

/-- The component that leads to the directory above. -/
def up : List Char := ['.', '.']

/-- Go one component further; `trail` holds the components walked so far, the last one first. -/
def step (absolute : Bool) (trail : List (List Char)) (part : List Char) : List (List Char) :=
  if part.isEmpty || part == ['.'] then trail
  else if part != up then part :: trail
  else
    match trail with
    | [] => if absolute then [] else [up]
    | last :: rest => if last == up then up :: last :: rest else rest

/-- The components that are left of a path. -/
def resolved (absolute : Bool) (parts : List (List Char)) : List (List Char) :=
  (parts.foldl (step absolute) []).reverse

/-- The number of slashes that an absolute path keeps at its start: exactly two stay two. -/
def leadingSlashes : List Char → Nat
  | '/' :: '/' :: '/' :: _ => 1
  | '/' :: '/' :: _ => 2
  | '/' :: _ => 1
  | _ => 0

/-- The normal form of a path; that of the empty one is `'.'`. -/
def normalize (p : List Char) : List Char :=
  let slashes := leadingSlashes p
  let q := List.replicate slashes '/' ++ join ['/'] (resolved (slashes != 0) (components p))
  if q.isEmpty then ['.'] else q

/-- A path read from a directory. -/
def joinTo (base p : List Char) : List Char :=
  if p.head? == some '/' then p
  else if base.isEmpty || base.getLast? == some '/' then base ++ p
  else base ++ '/' :: p

/-- The path of a reference, read from a directory, in normal form. -/
def follow (base reference : List Char) : List Char := normalize (joinTo base reference)

/-- The last component of a path. -/
def baseName (p : List Char) : List Char := (components p).getLast?.getD []

/-- The path without its last component. -/
def parent (p : List Char) : List Char :=
  let head := p.take (p.length - (baseName p).length)
  if head.all (· == '/') then head else dropTrailing (· == '/') head

/-- The form of a path inside a project: empty for the root, otherwise without `'.'`, empty and
needless `'..'` components. -/
def within (p : List Char) : List Char :=
  let p := trim (replaceChar '\\' ['/'] p)
  let p :=
    match p with
    | '.' :: '/' :: rest => rest
    | other => other
  let n := if p.isEmpty then [] else normalize p
  if n == ['.'] then [] else dropTrailing (· == '/') n

/-- Whether a path in that form leaves the project. -/
def leaves (p : List Char) : Bool :=
  p.head? == some '/' || (up ++ ['/']).isPrefixOf p || p == up

/-- A path without empty components and without `'.'`, as messages show it; of the empty one only
`'.'` stays. -/
def tidy (p : String) : String :=
  let parts := (components p.toList).filter fun c => !c.isEmpty && c != ['.']
  let q := List.replicate (leadingSlashes p.toList) '/' ++ join ['/'] parts
  if q.isEmpty then "." else String.ofList q

/-- The name of a path as a string. -/
def nameOf (p : String) : String := String.ofList (baseName p.toList)

/-- The directory of a path as a string. -/
def directoryOf (p : String) : String := String.ofList (parent p.toList)

/-- The form of a path inside a project, as a string. -/
def canonical (p : String) : String := String.ofList (within p.toList)

theorem mem_step {absolute : Bool} {trail : List (List Char)} {part c : List Char}
    (h : c ∈ step absolute trail part) :
    c ∈ trail ∨ c = part ∧ part ≠ [] ∧ part ≠ ['.'] := by
  unfold step at h
  split at h
  · exact .inl h
  · rename_i hp
    have hp : part ≠ [] ∧ part ≠ ['.'] := by simpa using hp
    split at h
    · rcases List.mem_cons.1 h with rfl | h
      · exact .inr ⟨rfl, hp⟩
      · exact .inl h
    · rename_i hup
      have hup : part = up := by simpa using hup
      split at h
      · split at h
        · simp at h
        · exact .inr ⟨by simpa [hup] using h, hp⟩
      · split at h
        · rcases List.mem_cons.1 h with rfl | h
          · exact .inr ⟨hup.symm, hp⟩
          · exact .inl h
        · exact .inl (List.mem_cons_of_mem _ h)

/-- A normal form has neither empty components nor `'.'`. -/
theorem ne_of_mem_resolved {absolute : Bool} {parts : List (List Char)} {c : List Char}
    (h : c ∈ resolved absolute parts) : c ≠ [] ∧ c ≠ ['.'] := by
  have key : ∀ (parts trail : List (List Char)), (∀ d ∈ trail, d ≠ [] ∧ d ≠ ['.']) →
      ∀ d ∈ parts.foldl (step absolute) trail, d ≠ [] ∧ d ≠ ['.'] := by
    intro parts
    induction parts with
    | nil => exact fun _ ht => ht
    | cons p ps ih =>
      intro trail ht
      refine ih _ fun d hd => ?_
      rcases mem_step hd with hd | ⟨rfl, hd⟩
      · exact ht d hd
      · exact hd
  exact key parts [] (by simp) c (List.mem_reverse.1 h)

end DocAudit.Path
