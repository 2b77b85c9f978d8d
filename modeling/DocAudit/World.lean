import DocAudit.Project

/-!
# The file system around a project

A file system as a value, with the directory that relative paths are read from. Projects and single
files are found in it by paths that may go up.
-/

namespace DocAudit

open Text

/-- A file system and its current directory. -/
structure World where
  root : Tree
  /-- The names on the way from the root to the current directory. -/
  current : List String

namespace Tree

/-- What stands at a path that may go up; `above` holds the directories over this one, the nearest
first. The directory above the root is the root. -/
def locate (above : List Tree) : Tree → List String → Except Refusal Tree
  | t, [] => .ok t
  | file _, _ :: _ => .error .notDirectory
  | dir entries, name :: rest =>
    if name == ".." then
      match above with
      | [] => locate [] (dir entries) rest
      | t :: above => locate above t rest
    else if name.utf8ByteSize > maxNameBytes then .error .nameTooLong
    else
      match entry? name entries with
      | none => .error .missing
      | some t => locate (dir entries :: above) t rest

end Tree

namespace World

/-- What stands at a path. -/
def find (w : World) (path : String) : Except Refusal Tree :=
  let path := Path.tidy path
  if path.utf8ByteSize ≥ Project.pathLimit then .error .nameTooLong
  else
    let names := (namesOf path).filter fun name => !name.isEmpty && name != "."
    w.root.locate [] (if startsWith path "/" then names else w.current ++ names)

/-- The text of a file. -/
def readText (w : World) (path : String) : Except Fault String :=
  let shown := Path.tidy path
  if shown.toList.contains '\x00' then .error .zeroInPath
  else
    match w.find path with
    | .error r => .error (.refused shown r)
    | .ok (.dir _) => .error (.refused shown .isDirectory)
    | .ok (.file bytes) =>
      match decode bytes with
      | .error f => .error (.undecodable f)
      | .ok text => .ok (String.ofList (unifyLineEnds text))

/-- Look through the directory at a path, if there is one. -/
def project? (w : World) (path : String) : Except Fault (Option Project) :=
  let shown := Path.tidy path
  if shown.toList.contains '\x00' then .ok none
  else
    match w.find path with
    | .ok (.dir entries) => (Project.scan? shown (.dir entries)).map some
    | .error .nameTooLong => .error (.refused shown .nameTooLong)
    | _ => .ok none

end World

end DocAudit
