import DocAudit.Calendar
import DocAudit.Decimal.Shortest

/-!
# Data values

The values that a structured document holds, whatever its syntax: scalars, lists and mappings. A
mapping keeps its entries in order of first insertion and holds no key twice, where numbers are the
same key when they are equal, whatever their kind. A collection that refers back to one around it is
no such value; `Value.enclosing` stands for the reference.
-/

namespace DocAudit

open Decimal Text

/-- A value of a structured document. -/
inductive Value where
  | null
  | bool (b : Bool)
  | int (n : Int)
  | float (x : Double)
  | str (s : String)
  | bytes (bs : List UInt8)
  | date (d : Date)
  | moment (t : Moment)
  | clock (c : Clock)
  | list (items : List Value)
  | pair (first second : Value)
  | dict (entries : List (Value × Value))
  | set (members : List Value)
  /-- A reference back to a list or a mapping around it, which is not followed. -/
  | enclosing (isMapping : Bool)
  deriving Inhabited

namespace Value

/-- The exact value of a number. -/
def number? : Value → Option (Int ⊕ Double)
  | bool b => some (.inl (if b then 1 else 0))
  | int n => some (.inl n)
  | float x =>
    match x.toInt? with
    | some n => some (.inl n)
    | none => some (.inr x)
  | _ => none

/-- Whether two scalars are the same key. -/
def sameKey (a b : Value) : Bool :=
  match a.number?, b.number? with
  | some (.inl m), some (.inl n) => m == n
  | some (.inr x), some (.inr y) => x == y
  | some _, _ | _, some _ => false
  | none, none =>
    match a, b with
    | null, null => true
    | str s, str t => s == t
    | bytes s, bytes t => s == t
    | date d, date e => d == e
    | clock c, clock d => c == d
    | moment t, moment u => t.offset.isSome == u.offset.isSome && t.instant == u.instant
    | _, _ => false

/-- The entries with the value of a key replaced, or with a new entry at the end. -/
def insert (key value : Value) : List (Value × Value) → List (Value × Value)
  | [] => [(key, value)]
  | (k, v) :: rest => if k.sameKey key then (k, value) :: rest else (k, v) :: insert key value rest

/-- The entries that a list of keys and values leaves, a later value of a key taking the place of an
earlier one. -/
def ofEntries (entries : List (Value × Value)) : List (Value × Value) :=
  entries.foldl (fun acc (k, v) => insert k v acc) []

/-- The value that entries give a text key. -/
def lookup (key : String) : List (Value × Value) → Option Value
  | [] => none
  | (k, v) :: rest => if k.sameKey (.str key) then some v else lookup key rest

/-- The text of a boolean. -/
def boolText (b : Bool) : String := if b then "True" else "False"

mutual

/-- The text of a value inside another one: strings are quoted and dates are written as
constructors. -/
def quoted : Value → String
  | null => "None"
  | bool b => boolText b
  | int n => toString n
  | float x => x.render
  | str s => quotedString s
  | bytes bs => quotedBytes bs
  | date d => d.constructor
  | moment t => t.constructor
  | clock c => c.constructor
  | list items => "[" ++ ", ".intercalate (quotedAll items) ++ "]"
  | pair a b => "(" ++ quoted a ++ ", " ++ quoted b ++ ")"
  | dict entries => "\x7b" ++ ", ".intercalate (quotedEntries entries) ++ "\x7d"
  | set [] => "set()"
  | set (m :: ms) => "\x7b" ++ ", ".intercalate (quoted m :: quotedAll ms) ++ "\x7d"
  | enclosing isMapping => if isMapping then "\x7b...\x7d" else "[...]"

/-- The texts of the items of a list. -/
def quotedAll : List Value → List String
  | [] => []
  | v :: vs => quoted v :: quotedAll vs

/-- The texts of the entries of a mapping. -/
def quotedEntries : List (Value × Value) → List String
  | [] => []
  | (k, v) :: rest => (quoted k ++ ": " ++ quoted v) :: quotedEntries rest

end

/-- The text of a value by itself: a string as it is, a date in digits. -/
def text : Value → String
  | str s => s
  | date d => d.text
  | moment t => t.text
  | clock c => c.text
  | v => v.quoted

mutual

/-- Whether a value holds an integer with more digits than it can be written with. -/
def holdsLongInteger : Value → Bool
  | int n => Nat.pow 10 maxDigits ≤ n.natAbs
  | list items => anyHoldsLongInteger items
  | set members => anyHoldsLongInteger members
  | pair a b => holdsLongInteger a || holdsLongInteger b
  | dict entries => anyEntryHoldsLongInteger entries
  | _ => false

/-- The same of the items of a list. -/
def anyHoldsLongInteger : List Value → Bool
  | [] => false
  | v :: vs => holdsLongInteger v || anyHoldsLongInteger vs

/-- The same of the entries of a mapping. -/
def anyEntryHoldsLongInteger : List (Value × Value) → Bool
  | [] => false
  | (k, v) :: rest => holdsLongInteger k || holdsLongInteger v || anyEntryHoldsLongInteger rest

end

/-- The string, if the value is one. -/
def string? : Value → Option String
  | str s => some s
  | _ => none

end Value

end DocAudit
