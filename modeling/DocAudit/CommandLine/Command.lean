import DocAudit.CommandLine.Arguments
import DocAudit.Rule.Basic

/-!
# Commands

What a command line asks for. A command line is read in two steps: the name of a command first, and
its arguments when the settings are known. A name that no command has is refused before anything
else is read.
-/

namespace DocAudit.CommandLine

/-- The names of the commands. -/
inductive Name where
  | scan
  | rules
  | validate
  | crossReference
  /-- The name of a group of commands without that of a command, or with an unknown one. -/
  | incomplete
  deriving DecidableEq, Repr

/-- What is asked for. -/
inductive Command where
  | scan (path : String) (asJson : Bool) (projectType : Option ProjectType) (scope : Option Scope)
      (filter rules : Option String)
  | rules (path : Option String)
  | validate (path : String) (asJson : Bool)
  | crossReference (path : String) (asJson : Bool)
  deriving DecidableEq, Repr

/-- Why arguments ask for nothing. -/
inductive Refused where
  /-- They are not those of the command. -/
  | usage
  /-- A path among them holds the character zero. -/
  | zeroInPath
  deriving DecidableEq, Repr

/-- The options before the name of a command. -/
def commonFlags : List Flag := [⟨"verbose", false, some 'v'⟩]

/-- An option with a value. -/
def Flag.valued (name : String) : Flag := ⟨name, true, none⟩

/-- The option for reports in JSON. -/
def jsonFlag : Flag := ⟨"json", false, none⟩

/-- The options of a command. -/
def Name.flags : Name → List Flag
  | scan => [jsonFlag, .valued "type", .valued "scope", .valued "checks", .valued "rules"]
  | rules => [.valued "rules"]
  | validate | crossReference => [jsonFlag]
  | incomplete => []

/-- The name of a command for specifications and its arguments. -/
def specName (arguments : List String) : Name × List String :=
  match (readArguments [] true arguments).map Arguments.words with
  | some ("validate" :: rest) => (.validate, rest)
  | some ("cross-ref" :: rest) => (.crossReference, rest)
  | _ => (.incomplete, [])

/-- The name of the command and its arguments, if the line begins with one. -/
def nameOf? (line : List String) : Option (Name × List String) :=
  match (readArguments commonFlags true line).map Arguments.words with
  | some ("scan" :: rest) => some (.scan, rest)
  | some ("rules" :: rest) => some (.rules, rest)
  | some ("spec" :: rest) => some (specName rest)
  | _ => none

/-- Whether a path among the arguments holds the character zero. -/
def holdsZero (a : Arguments) (takesPath : Bool) : Bool :=
  let paths := (if takesPath then a.words.take 1 else []) ++
    (a.uses.filter fun u => u.name == "rules").map Use.value
  paths.any fun path => path.toList.contains '\x00'

/-- A word for a choice, if it is one. -/
def chosen {α : Type} (ofWord? : String → Option α) :
    Option String → Except Refused (Option α)
  | none => .ok none
  | some word =>
    match ofWord? word with
    | some a => .ok (some a)
    | none => .error .usage

/-- The arguments of a command. -/
def argumentsOf (name : Name) (arguments : List String) : Except Refused Arguments :=
  match readArguments name.flags false arguments with
  | none => .error .usage
  | some a => if holdsZero a (name ≠ .rules) then .error .zeroInPath else .ok a

/-- The only word of some arguments. -/
def onlyWord (a : Arguments) : Except Refused String :=
  match a.words with
  | [word] => .ok word
  | _ => .error .usage

/-- The command of a name with arguments. -/
def Command.ofArguments (name : Name) (arguments : List String) : Except Refused Command := do
  let a ← argumentsOf name arguments
  match name with
  | .scan =>
    let path ← onlyWord a
    let type ← chosen ProjectType.ofWord? (a.value? "type")
    let scope ← chosen Scope.ofWord? (a.value? "scope")
    return .scan path (a.has "json") type scope (a.value? "checks") (a.value? "rules")
  | .rules => if a.words.isEmpty then return .rules (a.value? "rules") else .error .usage
  | .validate => return .validate (← onlyWord a) (a.has "json")
  | .crossReference => return .crossReference (← onlyWord a) (a.has "json")
  | .incomplete => .error .usage

end DocAudit.CommandLine
