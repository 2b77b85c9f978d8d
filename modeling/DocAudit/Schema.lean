import DocAudit.Text.Search
import DocAudit.Text.Utf8
import DocAudit.Value

/-!
# Reading records out of values

A reader takes a value and gives either a result or all the places where the value does not fit,
each with its path. Numbers are read leniently: a truth value, a number without a fraction and a
text that spells an integer are integers. Main statement: a pair of checks succeeds exactly when
both do, and otherwise reports the issues of both in order.
-/

namespace DocAudit

open Decimal Text

/-- How a value does not fit. -/
inductive Mismatch where
  | missing
  | notString
  | undecodable
  | notInteger
  | notIntegerText
  | fractional
  | oversized
  | notFinite
  | notPositive
  | notOneOf (words : List String)
  | notList
  | notTuple
  | notMapping
  | notRecord (name : String)
  | noFields
  | noTag (field : String)
  | unknownTag (tag field : String) (words : List String)
  | unprintableInteger
  | notPath
  deriving DecidableEq, Repr

/-- A place in a value and how it does not fit there. -/
structure Issue where
  path : List String
  cause : Mismatch
  deriving DecidableEq, Repr

/-- Words in quotes, the last after an "or". -/
def alternatives : List String → String
  | [] => ""
  | [w] => s!"'{w}'"
  | [v, w] => s!"'{v}' or '{w}'"
  | w :: rest => s!"'{w}', " ++ alternatives rest

/-- How a value does not fit, in words. -/
def Mismatch.message : Mismatch → String
  | missing => "Field required"
  | notString => "Input should be a valid string"
  | undecodable => "Input should be a valid string, unable to parse raw data as a unicode string"
  | notInteger => "Input should be a valid integer"
  | notIntegerText => "Input should be a valid integer, unable to parse string as an integer"
  | fractional => "Input should be a valid integer, got a number with a fractional part"
  | oversized => "Unable to parse input string as an integer, exceeded maximum size"
  | notFinite => "Input should be a finite number"
  | notPositive => "Input should be greater than 0"
  | notOneOf words => "Input should be " ++ alternatives words
  | notList => "Input should be a valid list"
  | notTuple => "Input should be a valid tuple"
  | notMapping => "Input should be a valid dictionary"
  | notRecord name => s!"Input should be a valid dictionary or instance of {name}"
  | noFields => "Input should be a valid dictionary or object to extract fields from"
  | noTag field => s!"Unable to extract tag using discriminator '{field}'"
  | unknownTag tag field words =>
    s!"Input tag '{tag}' found using '{field}' does not match any of the expected tags: " ++
      ", ".intercalate (words.map fun w => s!"'{w}'")
  | unprintableInteger =>
    s!"Value error, Exceeds the limit ({maxDigits} digits) for integer string conversion; use sys.set_int_max_str_digits() to increase the limit"
  | notPath => "Input is not a valid path"

/-- A result, or the issues that stand in its way. -/
inductive Checked (α : Type) where
  | ok (a : α)
  | bad (issues : List Issue)

namespace Checked

/-- Two checks together: both results, or the issues of both in order. -/
def both {α β : Type} : Checked α → Checked β → Checked (α × β)
  | ok a, ok b => ok (a, b)
  | ok _, bad js => bad js
  | bad is, ok _ => bad is
  | bad is, bad js => bad (is ++ js)

/-- Apply a function to the result. -/
def map {α β : Type} (f : α → β) : Checked α → Checked β
  | ok a => ok (f a)
  | bad is => bad is

/-- A further check of the result. -/
def andThen {α β : Type} (x : Checked α) (f : α → Checked β) : Checked β :=
  match x with
  | ok a => f a
  | bad is => bad is

/-- Put a step in front of the paths of all issues. -/
def under {α : Type} (step : String) : Checked α → Checked α
  | ok a => ok a
  | bad is => bad (is.map fun i => { i with path := step :: i.path })

/-- One issue at the value itself. -/
def fail {α : Type} (cause : Mismatch) : Checked α := bad [⟨[], cause⟩]

instance : Functor Checked where
  map := map

instance : Applicative Checked where
  pure := ok
  seq f x := (both f (x ())).map fun (f, a) => f a

/-- The issues of a check. -/
def issues {α : Type} : Checked α → List Issue
  | ok _ => []
  | bad is => is

/-- All results of a list of checks, or all their issues. -/
def all {α : Type} : List (Checked α) → Checked (List α)
  | [] => ok []
  | x :: xs => (both x (all xs)).map fun (a, as) => a :: as

theorem map_eq_ok_iff {α β : Type} {f : α → β} {x : Checked α} {b : β} :
    f <$> x = ok b ↔ ∃ a, x = ok a ∧ f a = b := by
  cases x <;> simp [Functor.map, map]

theorem seq_eq_ok_iff {α β : Type} {f : Checked (α → β)} {x : Checked α} {b : β} :
    f <*> x = ok b ↔ ∃ g a, f = ok g ∧ x = ok a ∧ g a = b := by
  cases f <;> cases x <;> simp [Seq.seq, both, map]

theorem both_eq_ok_iff {α β : Type} {x : Checked α} {y : Checked β} {a : α} {b : β} :
    both x y = ok (a, b) ↔ x = ok a ∧ y = ok b := by
  cases x <;> cases y <;> simp [both]

theorem issues_both {α β : Type} (x : Checked α) (y : Checked β) :
    (both x y).issues = x.issues ++ y.issues := by
  cases x <;> cases y <;> simp [both, issues]

end Checked

/-- A reader of values. -/
abbrev Reader (α : Type) := Value → Checked α

/-- The entries of a mapping. -/
abbrev Entries := List (Value × Value)

namespace Reader

/-- Read a string. -/
def string : Reader String
  | .str s => .ok s
  | .bytes bs =>
    match decode bs with
    | .ok cs => .ok (String.ofList cs)
    | .error _ => .fail .undecodable
  | _ => .fail .notString

/-- Read a path. -/
def path : Reader String
  | .str s => .ok s
  | _ => .fail .notPath

/-- Leave out zeros at the start of an unsigned number, of which one stays before a point or at the
end. Nothing stays of what is no number. -/
def withoutLeadingZeros (s : List Char) : Option (List Char) :=
  match s with
  | [] => none
  | c :: r =>
    if c == '0' then
      match r.dropWhile fun d => d == '0' || d == '_' with
      | [] => some [r.getLast?.getD '0']
      | d :: t =>
        if isAsciiDigit d then some (d :: t)
        else if d == '.' then some ('0' :: d :: t)
        else none
    else if isAsciiDigit c || c == '-' then some s
    else none

/-- Leave out a fraction of zeros. -/
def withoutZeroFraction (s : List Char) : List Char :=
  match cutAt '.' s with
  | some (whole, fraction) => if fraction.all (· == '0') then whole else s
  | none => s

/-- Leave out single underscores between other characters. -/
def withoutUnderscores (s : List Char) : List Char :=
  if s.head? == some '_' || s.getLast? == some '_' || occursIn ['_', '_'] s then s
  else s.filter (· != '_')

/-- The integer that a text spells: blanks around it, a plus sign, zeros at its start, a fraction of
zeros and single underscores do not matter. -/
def integerText (s : List Char) : Checked Int :=
  let t := trim s
  let body :=
    match t with
    | '+' :: '-' :: _ => none
    | '+' :: r => some r
    | r => some r
  match body.bind withoutLeadingZeros with
  | none => .fail .notIntegerText
  | some r =>
    let r := withoutUnderscores (withoutZeroFraction r)
    let (negative, digits) :=
      match r with
      | '-' :: ds => (true, ds)
      | ds => (false, ds)
    if r.length > maxDigits then .fail .oversized
    else if digits.isEmpty || !digits.all isAsciiDigit then .fail .notIntegerText
    else
      let n : Int := ofDigits 10 (digits.map hexValue)
      .ok (if negative then -n else n)

/-- Read an integer. -/
def integer : Reader Int
  | .int n => .ok n
  | .bool b => .ok (if b then 1 else 0)
  | .float x =>
    if !x.isFinite then .fail .notFinite
    else
      match x.toInt? with
      | none => .fail .fractional
      | some n => if n.natAbs < Nat.pow 2 63 then .ok n else .fail .oversized
  | .str s => integerText s.toList
  | .bytes bs =>
    match decode bs with
    | .ok cs => integerText cs
    | .error _ => .fail .notIntegerText
  | _ => .fail .notInteger

/-- Read an integer above zero. -/
def positive : Reader Int := fun v =>
  (integer v).andThen fun n => if n > 0 then .ok n else .fail .notPositive

/-- Read one of some words, each of which has a meaning. -/
def oneOf {α : Type} (meanings : List (String × α)) : Reader α := fun v =>
  match v.string?.bind fun w => meanings.lookup w with
  | some a => .ok a
  | none => .fail (.notOneOf (meanings.map Prod.fst))

/-- Read null as nothing. -/
def nullable {α : Type} (r : Reader α) : Reader (Option α)
  | .null => .ok none
  | v => (r v).map some

/-- The items of anything that is a sequence of values. -/
def items? : Value → Option (List Value)
  | .list vs => some vs
  | .set vs => some vs
  | .pair a b => some [a, b]
  | _ => none

/-- Read every item, issues being placed by the number of the item. -/
def readItems {α : Type} (r : Reader α) (vs : List Value) : Checked (List α) :=
  Checked.all (vs.zipIdx.map fun (v, i) => (r v).under (toString i))

/-- Read a list. -/
def list {α : Type} (r : Reader α) : Reader (List α) := fun v =>
  match items? v with
  | some vs => readItems r vs
  | none => .fail .notList

/-- Read a list that is fixed once it is read. -/
def tuple {α : Type} (r : Reader α) : Reader (List α) := fun v =>
  match items? v with
  | some vs => readItems r vs
  | none => .fail .notTuple

/-- Read a record of a kind by its entries. -/
def record {α : Type} (name : String) (f : Entries → Checked α) : Reader α
  | .dict entries => f entries
  | _ => .fail (.notRecord name)

/-- The first of some keys that is there, with its value. -/
def find? (keys : List String) (entries : Entries) : Option (String × Value) :=
  keys.findSome? fun k => (Value.lookup k entries).map fun v => (k, v)

/-- Read a field that must be there, under the first of its names that is. -/
def required {α : Type} (keys : List String) (r : Reader α) (entries : Entries) : Checked α :=
  match find? keys entries with
  | some (k, v) => (r v).under k
  | none => (Checked.fail .missing).under (keys.headD "")

/-- Read a field that may be left out, under the first of its names that is there. -/
def optional {α : Type} (keys : List String) (default : α) (r : Reader α) (entries : Entries) :
    Checked α :=
  match find? keys entries with
  | some (k, v) => (r v).under k
  | none => .ok default

/-- Read one of several kinds of records, told apart by the word under a field. -/
def tagged {α : Type} (field : String) (kinds : List (String × (Entries → Checked α))) :
    Reader α
  | .dict entries =>
    match Value.lookup field entries with
    | none => .fail (.noTag field)
    | some v =>
      match v.string?.bind fun w => (kinds.lookup w).map fun f => (w, f) with
      | some (w, f) => (f entries).under w
      | none => .fail (.unknownTag v.text field (kinds.map Prod.fst))
  | _ => .fail .noFields

end Reader

end DocAudit
