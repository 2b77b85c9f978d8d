import DocAudit.Tree
import DocAudit.Value
import DocAudit.Yaml.Failure

/-!
# Faults

Faults that end a run and are no finding about a project: a name that the file system refuses, a
text that spells a value which does not exist, or a value that cannot be written. How deep a value
may be nested depends on what else is being done, which is not modelled: the bound is approximate.
-/

namespace DocAudit

/-- A fault that ends a run. -/
inductive Fault where
  /-- The file system refuses a path. -/
  | refused (shown : String) (refusal : Refusal)
  /-- A path holds the character zero. -/
  | zeroInPath
  /-- A file is not in UTF-8. -/
  | undecodable (fault : Text.Utf8Fault)
  /-- A scalar of a document denotes no value. -/
  | scalar (fault : Yaml.ScalarFault)
  /-- A text of digits is no numeral. -/
  | notNumeral (text : String)
  /-- A numeral has more digits than an integer is read with. -/
  | longNumeral (digits : Nat)
  /-- An integer has more digits than it is written with. -/
  | longInteger
  /-- A pattern repeats something more often than can be counted. -/
  | largeRepetition
  /-- A pattern asks for ASCII and for Unicode classes at once. -/
  | asciiAndUnicode
  /-- A pattern asks for classes of the locale. -/
  | localeClasses
  /-- What is to be read is nested too deeply. -/
  | tooDeep
  deriving DecidableEq, Repr

/-- The fault in words. -/
def Fault.message : Fault → String
  | refused shown r => r.message shown
  | zeroInPath => "embedded null byte"
  | undecodable f => f.message
  | scalar f => f.message
  | notNumeral text => Yaml.notAnIntegerMessage 10 text
  | longNumeral n => Yaml.tooManyDigitsMessage n
  | longInteger =>
    s!"Exceeds the limit ({Text.maxDigits} digits) for integer string conversion; use sys.set_int_max_str_digits() to increase the limit"
  | largeRepetition => "the repetition number is too large"
  | asciiAndUnicode => "ASCII and UNICODE flags are incompatible"
  | localeClasses => "cannot use LOCALE flag with a str pattern"
  | tooDeep => "nested too deeply"

namespace Value

/-- How many values may stand inside one another in a text. Each of them is written by a call of its
own, and about a thousand calls may be open at once; how many of them are open where a text is asked
for is not modelled. -/
def maxNesting : Nat := 980

mutual

/-- The first fault that is met where a value is written with room for so many values inside one
another. -/
def faultWithin : Value → Nat → Option Fault
  | _, 0 => some .tooDeep
  | int n, _ + 1 => if (int n).holdsLongInteger then some .longInteger else none
  | list items, room + 1 => faultAmong items room
  | set members, room + 1 => faultAmong members room
  | pair a b, room + 1 => (faultWithin a room).or (faultWithin b room)
  | dict entries, room + 1 => faultAmongEntries entries room
  | _, _ + 1 => none

/-- The same of the items of a list. -/
def faultAmong : List Value → Nat → Option Fault
  | [], _ => none
  | v :: vs, room => (faultWithin v room).or (faultAmong vs room)

/-- The same of the entries of a mapping. -/
def faultAmongEntries : List (Value × Value) → Nat → Option Fault
  | [], _ => none
  | (k, v) :: rest, room =>
    ((faultWithin k room).or (faultWithin v room)).or (faultAmongEntries rest room)

end

/-- The fault that keeps a value from being written. -/
def textFault? (v : Value) : Option Fault := v.faultWithin maxNesting

/-- The text of a value, if it can be written. -/
def textOrFault (v : Value) : Except Fault String :=
  match v.textFault? with
  | some fault => .error fault
  | none => .ok v.text

end Value

end DocAudit
