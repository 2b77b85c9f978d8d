/-!
# Command-line arguments

Arguments are options, values of options and words. An option begins with two hyphens, or with one
if its name is a single letter; a value stands behind an equals sign or is the next argument,
whatever that looks like. Two hyphens alone end the options. Main statement: after the end of the
options all arguments are words.
-/

namespace DocAudit.CommandLine

/-- An option that a command knows. -/
structure Flag where
  name : String
  takesValue : Bool
  /-- A letter that stands for the option behind a single hyphen. -/
  letter : Option Char
  deriving DecidableEq, Repr

/-- An option in use. -/
structure Use where
  name : String
  value : String
  deriving DecidableEq, Repr

/-- What arguments say: the options in use, in order, and the words. -/
structure Arguments where
  uses : List Use
  words : List String
  deriving DecidableEq, Repr

/-- An argument that is an option. -/
inductive Reading where
  /-- It has all it needs. -/
  | complete (uses : List Use)
  /-- Its value is the next argument. -/
  | open (name : String)
  deriving DecidableEq, Repr

/-- Read an option with two hyphens, whose name and value are given. -/
def readLong (flags : List Flag) (name : String) (value : Option String) : Option Reading :=
  (flags.find? fun f => "--" ++ f.name == name).bind fun f =>
    match f.takesValue, value with
    | true, some v => some (.complete [⟨f.name, v⟩])
    | true, none => some (.open f.name)
    | false, none => some (.complete [⟨f.name, ""⟩])
    | false, some _ => none

/-- Read the letters behind a single hyphen. -/
def readLetters (flags : List Flag) (letters : List Char) : Option Reading :=
  (letters.mapM fun c =>
    (flags.find? fun f => f.letter == some c && !f.takesValue).map
      fun f => (⟨f.name, ""⟩ : Use)).map
      .complete

/-- The text before the first equals sign and the text behind it, if there is one. -/
def splitValue (argument : String) : String × Option String :=
  let cs := argument.toList
  match cs.dropWhile (· != '=') with
  | [] => (argument, none)
  | _ :: value => (String.ofList (cs.takeWhile (· != '=')), some (String.ofList value))

/-- Read an argument that begins with a hyphen. -/
def readOption (flags : List Flag) (argument : String) : Option Reading :=
  match argument.toList with
  | '-' :: '-' :: _ =>
    let (name, value) := splitValue argument
    readLong flags name value
  | _ :: letters => readLetters flags letters
  | [] => none

/-- Whether an argument is an option. -/
def isOption (argument : String) : Bool :=
  match argument.toList with
  | '-' :: _ :: _ => true
  | _ => false

/-- Put an option in front. -/
def Arguments.using (uses : List Use) (a : Arguments) : Arguments :=
  { a with uses := uses ++ a.uses }

/-- Put a word in front. -/
def Arguments.saying (word : String) (a : Arguments) : Arguments :=
  { a with words := word :: a.words }

/-- Read arguments; nothing if one of them is an option that nobody knows or that lacks its value.
With `stopAtWord` the first word ends the options. -/
def readArguments (flags : List Flag) (stopAtWord : Bool) : List String → Option Arguments
  | [] => some ⟨[], []⟩
  | "--" :: rest => some ⟨[], rest⟩
  | argument :: rest =>
    if isOption argument then
      match readOption flags argument with
      | none => none
      | some (.complete uses) => (readArguments flags stopAtWord rest).map (.using uses)
      | some (.open name) =>
        match rest with
        | [] => none
        | value :: rest => (readArguments flags stopAtWord rest).map (.using [⟨name, value⟩])
    else if stopAtWord then some ⟨[], argument :: rest⟩
    else (readArguments flags stopAtWord rest).map (.saying argument)

/-- The last value of an option. -/
def Arguments.value? (a : Arguments) (name : String) : Option String :=
  (a.uses.findRev? fun u => u.name == name).map Use.value

/-- Whether an option is in use. -/
def Arguments.has (a : Arguments) (name : String) : Bool := a.uses.any fun u => u.name == name

/-- After the end of the options all arguments are words. -/
theorem readArguments_end (flags : List Flag) (stopAtWord : Bool) (words : List String) :
    readArguments flags stopAtWord ("--" :: words) = some ⟨[], words⟩ := by
  simp [readArguments]

end DocAudit.CommandLine
