import DocAudit.Fault

/-!
# Why a manifest cannot be read

The problems of a TOML document and the places they stand at. A place is given by the number of
characters from there to the end of the document.
-/

namespace DocAudit.Toml

open Text

/-- A key with its parts. -/
abbrev Key := List String

/-- What is wrong at a place of a document. -/
inductive Problem where
  | invalidStatement
  | expectedLineEnd
  | expectedDelimiter (delimiter : String)
  | invalidCharacter (c : Char)
  | illegalCharacter (c : Char)
  | declaredTwice (key : Key)
  | overwritten
  | expectedTableEnd
  | expectedArrayEnd
  | immutable (key : Key)
  | redefined (key : Key)
  | expectedEquals
  | invalidKey
  | unclosedArray
  | duplicateKey (part : String)
  | unclosedTable
  | strayBackslash
  | invalidHex
  | notAScalarValue
  | unterminated
  | invalidDate
  | invalidValue
  deriving DecidableEq, Repr

/-- A problem with its place. -/
structure Failure where
  problem : Problem
  remaining : Nat
  deriving DecidableEq, Repr

/-- A key as messages show it: a tuple, of which one with a single part has a comma. -/
def keyText (key : Key) : String :=
  match key with
  | [part] => s!"({quotedString part},)"
  | parts => "(" ++ ", ".intercalate (parts.map quotedString) ++ ")"

/-- The problem in words. -/
def Problem.message : Problem → String
  | invalidStatement => "Invalid statement"
  | expectedLineEnd => "Expected newline or end of document after a statement"
  | expectedDelimiter delimiter => s!"Expected {quotedString delimiter}"
  | invalidCharacter c => s!"Found invalid character {quotedChar c}"
  | illegalCharacter c => s!"Illegal character {quotedChar c}"
  | declaredTwice key => s!"Cannot declare {keyText key} twice"
  | overwritten => "Cannot overwrite a value"
  | expectedTableEnd => "Expected ']' at the end of a table declaration"
  | expectedArrayEnd => "Expected ']]' at the end of an array declaration"
  | immutable key => s!"Cannot mutate immutable namespace {keyText key}"
  | redefined key => s!"Cannot redefine namespace {keyText key}"
  | expectedEquals => "Expected '=' after a key in a key/value pair"
  | invalidKey => "Invalid initial character for a key part"
  | unclosedArray => "Unclosed array"
  | duplicateKey part => s!"Duplicate inline table key {quotedString part}"
  | unclosedTable => "Unclosed inline table"
  | strayBackslash => "Unescaped '\\' in a string"
  | invalidHex => "Invalid hex value"
  | notAScalarValue => "Escaped character is not a Unicode scalar value"
  | unterminated => "Unterminated string"
  | invalidDate => "Invalid date or datetime"
  | invalidValue => "Invalid value"

/-- A place in words. -/
def placeText (text : List Char) (remaining : Nat) : String :=
  if remaining == 0 then "end of document"
  else
    let lines := newlineLines (text.take (text.length - remaining))
    s!"line {lines.length}, column {(lines.getLast?.getD []).length + 1}"

/-- The failure in words. -/
def Failure.message (text : List Char) (f : Failure) : String :=
  s!"{f.problem.message} (at {placeText text f.remaining})"

/-- Why a document gives no value. -/
inductive Refused where
  | failure (f : Failure)
  | fault (f : Fault)
  deriving DecidableEq, Repr

end DocAudit.Toml
