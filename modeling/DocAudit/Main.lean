import DocAudit.CommandLine.Run

/-!
# The program

Reads the environment and the files that a command line asks for, runs it and prints what it says.
All that is decided is decided in `DocAudit.CommandLine.run`.
-/

open DocAudit

/-- The variables that the program looks at. -/
def variableNames : List String :=
  ["CONFIG_DIR", "RULES_PATH", "PROJECT_TYPE", "PROJECT_SCOPE", "HOST", "PORT", "URL_TOKEN",
   "LOG_LEVEL"].map (variableStart ++ ·)

/-- The program's part of the environment. -/
def readEnvironment : IO Environment :=
  variableNames.filterMapM fun name => return (← IO.getEnv name).map fun value => (name, value)

/-- What stands on the disk at a path; what cannot be read is left out. -/
partial def readTree (path : String) : IO (Option Tree) := do
  let place := (← IO.currentDir) / path
  if ← place.isDir then
    let entries ← (← place.readDir).toList.filterMapM fun e => do
      return (← readTree (path ++ "/" ++ e.fileName)).map fun t => (e.fileName, t)
    return some (.dir entries)
  else if ← place.pathExists then
    try
      return some (.file (← IO.FS.readBinFile place).toList)
    catch _ => return none
  else return none

/-- The names on an absolute path without needless steps. -/
def namesFrom (here path : String) : List String :=
  let whole := Path.follow here.toList path.toList
  (namesOf (String.ofList whole)).filter fun name => !name.isEmpty

/-- The file system, as far as some paths go. -/
def readWorld (paths : List String) : IO World := do
  let here := (← IO.currentDir).toString
  let start := ((Tree.dir []).put (.dir []) (namesFrom here "")).toOption.getD (.dir [])
  let root ← paths.foldlM (fun root path => do
    match ← readTree path with
    | some t => return (t.put root (namesFrom here path)).toOption.getD root
    | none => return root) start
  return ⟨root, namesFrom here ""⟩

/-- Run a command line. -/
def main (line : List String) : IO UInt32 := do
  let env ← readEnvironment
  let world ← readWorld (CommandLine.paths env line)
  let outcome := CommandLine.run env world line
  IO.print outcome.output
  match outcome.complaint?, outcome.escaped? with
  | some text, _ => IO.eprint text
  | none, some e => IO.eprintln e.message
  | none, none => pure ()
  return outcome.exitCode.toUInt32
