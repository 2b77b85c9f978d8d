import DocAudit.Check.Naming

/-!
# Checks of links

Links in the Markdown files below `docs` lead to something that exists. Here a link's target is all
that stands between its parentheses, and external targets are never followed.
-/

namespace DocAudit.Check

open Text

/-- The target of a link whose opening bracket was read, and what follows the link. -/
def readTarget (s : List Char) : Option (List Char × List Char) :=
  match cutAt ']' s with
  | some (_, '(' :: r) =>
    match cutAt ')' r with
    | some (target, rest) => if target.isEmpty then none else some (target, rest)
    | none => none
  | _ => none

theorem length_readTarget {s target rest : List Char} (h : readTarget s = some (target, rest)) :
    rest.length < s.length := by
  unfold readTarget at h
  split at h
  · rename_i a r hc
    obtain ⟨rfl, -⟩ := eq_append_of_cutAt hc
    split at h
    · rename_i t u hc'
      obtain ⟨rfl, -⟩ := eq_append_of_cutAt hc'
      split at h
      · simp at h
      · simp only [Option.some.injEq, Prod.mk.injEq] at h
        obtain ⟨-, rfl⟩ := h
        simp only [List.length_append, List.length_cons]
        omega
    · simp at h
  · simp at h

/-- The targets of all links of a text, from left to right. -/
def targetsIn : List Char → List (List Char)
  | [] => []
  | c :: s =>
    if c == '[' then
      match h : readTarget s with
      | some (target, rest) =>
        have : rest.length < s.length := length_readTarget h
        trim target :: targetsIn rest
      | none => targetsIn s
    else targetsIn s
termination_by s => s.length

/-- Where a target leads to inside the project. -/
structure LocalLink where
  target : List Char
  path : List Char
  isAbsolute : Bool
  deriving DecidableEq, Repr

/-- The beginnings of targets outside of the project, and of those in the same document. -/
def externalStarts : List (List Char) := ["http://", "https://", "mailto:", "#"].map String.toList

/-- Where a target leads to, read from a directory; nothing if that is not inside the project. -/
def localLink? (directory target : List Char) : Option LocalLink :=
  if externalStarts.any fun e => e.isPrefixOf target then none
  else
    let path := before '#' target
    if path.isEmpty then none
    else if path.head? == some '/' then some ⟨target, path.dropWhile (· == '/'), true⟩
    else some ⟨target, Path.follow directory path, false⟩

/-- The links of a file that lead to somewhere in the project. -/
def localLinks (p : Project) (path : String) : List LocalLink :=
  match p.read path with
  | .error _ => []
  | .ok text => (targetsIn text.toList).filterMap (localLink? (Path.parent path.toList))

/-- The findings among the links of a class that lead to nothing. -/
def checkLinks (p : Project) (applies : LocalLink → Bool)
    (kind : String) : Except Fault Verdict := do
  let files := documents p
  if files.isEmpty then return noDocuments
  let broken ← files.mapM fun f => do
    let links := (localLinks p f).filter applies
    let missing ← links.filterM fun l => return !(← p.holds (String.ofList l.path))
    return missing.map fun l =>
      Finding.at f s!"Broken {kind}: '{String.ofList l.target}' does not exist"
  return .found broken.flatten

/-- A link to a Markdown file. -/
def LocalLink.isMarkdown (l : LocalLink) : Bool := ".md".toList.isSuffixOf (before '#' l.target)

/-- Links to Markdown files lead to something. -/
def linkResolution (p : Project) : Except Fault Verdict := checkLinks p LocalLink.isMarkdown "link"

/-- Relative links lead to something. -/
def relativeLinkResolution (p : Project) : Except Fault Verdict :=
  checkLinks p (fun l => !l.isAbsolute) "relative link"

end DocAudit.Check
