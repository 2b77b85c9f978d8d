import DocAudit.Toml.Scalar

/-!
# Manifests

The reading of TOML documents. Tables may be declared once, in headers or by dotted keys, and what
is written as a value cannot be added to afterwards. Main statement: a key that is frozen freezes
all keys below it.
-/

namespace DocAudit.Toml

open Text

/-- Which keys may not be declared again, and which may not be added to. -/
structure Marks where
  declared : List Key
  frozen : List Key
  /-- Keys that count as declared from the next header on. -/
  pending : List Key

namespace Marks

/-- Whether a key or one above it is frozen. -/
def isFrozen (m : Marks) (key : Key) : Bool := m.frozen.any fun k => k.isPrefixOf key

/-- Whether a key is declared. -/
def isDeclared (m : Marks) (key : Key) : Bool := m.declared.contains key

/-- Declare a key. -/
def declare (m : Marks) (key : Key) : Marks := { m with declared := key :: m.declared }

/-- Freeze a key and all below it. -/
def freeze (m : Marks) (key : Key) : Marks := { m with frozen := key :: m.frozen }

/-- Declare what is pending. -/
def settle (m : Marks) : Marks := { m with declared := m.pending ++ m.declared, pending := [] }

/-- Forget a key and all below it. -/
def forget (m : Marks) (key : Key) : Marks :=
  { m with
    declared := m.declared.filter fun k => !key.isPrefixOf k
    frozen := m.frozen.filter fun k => !key.isPrefixOf k }

theorem isFrozen_append {m : Marks} {key : Key} (h : m.isFrozen key = true) (more : Key) :
    m.isFrozen (key ++ more) = true := by
  simp only [isFrozen, List.any_eq_true, List.isPrefixOf_iff_prefix] at h ⊢
  obtain ⟨k, hk, hp⟩ := h
  exact ⟨k, hk, hp.trans (List.prefix_append key more)⟩

end Marks

/-- Change the table at a key, tables on the way being made where they are missing. The last table
of an array stands for the array, if `throughArrays` says so. Nothing if something else is in the
way. -/
def changeAt (throughArrays : Bool) (f : List (Value × Value) → Option (List (Value × Value))) :
    Key → Value → Option Value
  | [], .dict e => (f e).map .dict
  | k :: ks, .dict e =>
    let child := (Value.lookup k e).getD (.dict [])
    let changed :=
      match child with
      | .list items =>
        if throughArrays then
          match items.getLast? with
          | some last =>
            (changeAt throughArrays f ks last).map fun t => Value.list (items.dropLast ++ [t])
          | none => none
        else none
      | v => changeAt throughArrays f ks v
    changed.map fun v => .dict (Value.insert (.str k) v e)
  | _, _ => none

/-- Put a value under a new key; nothing if the key is there. -/
def putNew (part : String) (v : Value) (e : List (Value × Value)) :
    Option (List (Value × Value)) :=
  if (Value.lookup part e).isSome then none else some (e ++ [(.str part, v)])

/-- Append an empty table to the array under a key. -/
def appendTable (part : String) (e : List (Value × Value)) : Option (List (Value × Value)) :=
  match Value.lookup part e with
  | none => some (e ++ [(.str part, .list [.dict []])])
  | some (.list items) => some (Value.insert (.str part) (.list (items ++ [.dict []])) e)
  | some _ => none

/-! ## Keys -/

/-- A character of a bare key. -/
def isBareKeyChar (c : Char) : Bool := isAsciiLetter c || isAsciiDigit c || c == '-' || c == '_'

/-- Leave out spaces and tabs. -/
def skipBlanks (s : List Char) : List Char := s.dropWhile isSpaceOrTab

/-- A part of a key. -/
def keyPart (s : List Char) : Except Refused (String × List Char) :=
  match s with
  | [] => problem .invalidKey s
  | c :: r =>
    if isBareKeyChar c then
      .ok (String.ofList (s.takeWhile isBareKeyChar), s.dropWhile isBareKeyChar)
    else if c == '\'' || c == '"' then
      (lineString c r).map fun (text, rest) => (String.ofList text, rest)
    else problem .invalidKey s

/-- A key, by a count of its parts. -/
def keyFrom : Nat → List Char → Except Refused (Key × List Char)
  | 0, s => problem .invalidKey s
  | n + 1, s => do
    let (part, s) ← keyPart s
    match skipBlanks s with
    | '.' :: r => do
      let (key, s) ← keyFrom n (skipBlanks r)
      return (part :: key, s)
    | r => return ([part], r)

/-- A key and the blanks after it. -/
def readKey (s : List Char) : Except Refused (Key × List Char) := keyFrom (s.length + 1) s

/-! ## Values -/

/-- A comment, if one stands here. -/
def skipComment (s : List Char) : Except Refused (List Char) :=
  match s with
  | '#' :: r =>
    let text := r.takeWhile (· != '\n')
    match text.dropWhile fun c => !isIllegal c with
    | c :: t =>
      .error (.failure ⟨.invalidCharacter c, (c :: t).length + (r.length - text.length)⟩)
    | [] => .ok (r.drop text.length)
  | _ => .ok s

/-- Blanks, line ends and comments, by a count of comments. -/
def skipGapFrom : Nat → List Char → Except Refused (List Char)
  | 0, s => .ok s
  | n + 1, s => do
    let r ← skipComment (s.dropWhile isBlankOrLineEnd)
    if r.length == s.length then return r else skipGapFrom n r

/-- Blanks, line ends and comments. -/
def skipGap (s : List Char) : Except Refused (List Char) := skipGapFrom (s.length + 1) s

/-- A table or an array. -/
def isCollection : Value → Bool
  | .dict _ | .list _ => true
  | _ => false

/-- The scalar that begins here. -/
def scalar (s : List Char) : Except Refused (Value × List Char) :=
  match moment? s with
  | some (.ok v, r) => .ok (v, r)
  | some (.error _, _) => problem .invalidDate s
  | none =>
    match clock? s with
    | some (c, r) => .ok (.clock c, r)
    | none =>
      match number? s with
      | some (.ok v, r) => .ok (v, r)
      | some (.error f, _) => .error (.fault f)
      | none =>
        match numberWord? s with
        | some (v, r) => .ok (v, r)
        | none => problem .invalidValue s

/-- The string that begins here with the given quote. -/
def stringValue (quote : Char) (s : List Char) : Except Refused (Value × List Char) :=
  let text :=
    if [quote, quote, quote].isPrefixOf s then multilineString quote (s.drop 3)
    else lineString quote (s.drop 1)
  text.map fun (text, rest) => (.str (String.ofList text), rest)

/-- Go on with less room, if there is enough of it. -/
def within {α : Type} (room needed : Nat) (f : Nat → Except Refused α) : Except Refused α :=
  if room < needed then .error (.fault .tooDeep) else f (room - needed)

/-- The room that the values of a document may take: an array needs two parts of it for what it
holds, a table on one line three. -/
def fullRoom : Nat := 980

mutual

/-- The value that begins here, by the room for nested values and a count of parts. -/
def readValue (room : Nat) : Nat → List Char → Except Refused (Value × List Char)
  | 0, s => problem .invalidValue s
  | n + 1, s =>
    match s with
    | [] => problem .invalidValue s
    | c :: r =>
      if c == '"' || c == '\'' then stringValue c s
      else if "true".toList.isPrefixOf s then .ok (.bool true, s.drop 4)
      else if "false".toList.isPrefixOf s then .ok (.bool false, s.drop 5)
      else if c == '[' then do
        let (items, r) ← within room 2 fun room => do
          readItems room n (← skipGap r)
        return (.list items, r)
      else if c == '\x7b' then
        match skipBlanks r with
        | '\x7d' :: t => .ok (.dict [], t)
        | t => within room 3 fun room => readFields room n (.dict []) ⟨[], [], []⟩ t
      else scalar s

/-- The items of an array up to its end. -/
def readItems (room : Nat) : Nat → List Char → Except Refused (List Value × List Char)
  | 0, s => problem .unclosedArray s
  | n + 1, s =>
    match s with
    | ']' :: r => .ok ([], r)
    | s => do
      let (v, s) ← readValue room n s
      match ← skipGap s with
      | ']' :: r => return ([v], r)
      | ',' :: r => do
        let (vs, r) ← readItems room n (← skipGap r)
        return (v :: vs, r)
      | r => problem .unclosedArray r

/-- The fields of a table on one line up to its end, added to those of `table`. -/
def readFields (room : Nat) :
    Nat → Value → Marks → List Char → Except Refused (Value × List Char)
  | 0, _, _, s => problem .unclosedTable s
  | n + 1, table, marks, s => do
    let ((key, v), s) ← readPair room n s
    let part := key.getLast?.getD ""
    if marks.isFrozen key then problem (.immutable key) s
    else
      match changeAt false some key.dropLast table with
      | none => problem .overwritten s
      | some _ =>
        match changeAt false (putNew part v) key.dropLast table with
        | none => problem (.duplicateKey part) s
        | some table =>
          match skipBlanks s with
          | '\x7d' :: r => return (table, r)
          | ',' :: r =>
            let marks := if isCollection v then marks.freeze key else marks
            readFields room n table marks (skipBlanks r)
          | r => problem .unclosedTable r

/-- A key, an equals sign and a value. -/
def readPair (room : Nat) : Nat → List Char → Except Refused ((Key × Value) × List Char)
  | 0, s => problem .invalidKey s
  | n + 1, s => do
    let (key, s) ← readKey s
    match s with
    | '=' :: r => do
      let (v, s) ← readValue room n (skipBlanks r)
      return ((key, v), s)
    | s => problem .expectedEquals s

end

/-! ## Documents -/

/-- What was read of a document: its table so far, the marks, and the key of the last header. -/
structure State where
  table : Value
  marks : Marks
  header : Key

/-- A table header whose bracket was read. -/
def readTableHeader (st : State) (s : List Char) : Except Refused (State × List Char) := do
  let (key, s) ← readKey (skipBlanks s)
  if st.marks.isDeclared key || st.marks.isFrozen key then problem (.declaredTwice key) s
  else
    match changeAt true some key st.table with
    | none => problem .overwritten s
    | some table =>
      match s with
      | ']' :: r => return (⟨table, st.marks.declare key, key⟩, r)
      | s => problem .expectedTableEnd s

/-- A header of an array's next table whose brackets were read. -/
def readArrayHeader (st : State) (s : List Char) : Except Refused (State × List Char) := do
  let (key, s) ← readKey (skipBlanks s)
  if st.marks.isFrozen key then problem (.immutable key) s
  else
    match changeAt true (appendTable (key.getLast?.getD "")) key.dropLast st.table with
    | none => problem .overwritten s
    | some table =>
      match s with
      | ']' :: ']' :: r => return (⟨table, (st.marks.forget key).declare key, key⟩, r)
      | s => problem .expectedArrayEnd s

/-- The keys that a dotted key goes through, below a header. -/
def keysThrough (header key : Key) : List Key :=
  ((List.range key.length).drop 1).map fun n => header ++ key.take n

/-- A field of the table of the last header. -/
def readField (st : State) (s : List Char) : Except Refused (State × List Char) := do
  let ((key, v), s) ← readPair fullRoom (2 * s.length + 4) s
  let through := keysThrough st.header key
  match through.find? st.marks.isDeclared with
  | some k => problem (.redefined k) s
  | none =>
    let parent := st.header ++ key.dropLast
    if st.marks.isFrozen parent then problem (.immutable parent) s
    else
      match changeAt true (putNew (key.getLast?.getD "") v) parent st.table with
      | none => problem .overwritten s
      | some table =>
        let marks := { st.marks with pending := through ++ st.marks.pending }
        let marks := if isCollection v then marks.freeze (st.header ++ key) else marks
        return ({ st with table := table, marks := marks }, s)

/-- A statement and the blanks after it; nothing is read where a comment begins. -/
def readStatement (st : State) (s : List Char) : Except Refused (State × List Char) :=
  match s with
  | [] => .ok (st, s)
  | c :: r =>
    let settled := { st with marks := st.marks.settle }
    if isBareKeyChar c || c == '\'' || c == '"' then
      (readField st s).map fun (st, s) => (st, skipBlanks s)
    else if c == '[' then
      let outcome :=
        match r with
        | '[' :: t => readArrayHeader settled t
        | t => readTableHeader settled t
      outcome.map fun (st, s) => (st, skipBlanks s)
    else if c == '#' then .ok (st, s)
    else problem .invalidStatement s

/-- The statements of a document, by a count of lines. -/
def readStatements : Nat → State → List Char → Except Refused Value
  | 0, st, _ => .ok st.table
  | n + 1, st, s =>
    match skipBlanks s with
    | [] => .ok st.table
    | '\n' :: r => readStatements n st r
    | s => do
      let (st, s) ← readStatement st s
      match ← skipComment s with
      | [] => return st.table
      | '\n' :: r => readStatements n st r
      | r => problem .expectedLineEnd r

/-- The text with `'\n'` for every `'\r\n'`. -/
def joinLineEnds : List Char → List Char
  | [] => []
  | '\r' :: '\n' :: s => '\n' :: joinLineEnds s
  | c :: s => c :: joinLineEnds s

/-- The outcome of reading a manifest: its table, or a message. -/
def readDocument (text : String) : Except Fault (Except String Value) :=
  let s := joinLineEnds text.toList
  match readStatements (s.length + 1) ⟨.dict [], ⟨[], [], []⟩, []⟩ s with
  | .ok v => .ok (.ok v)
  | .error (.failure f) => .ok (.error (f.message s))
  | .error (.fault f) => .error f

end DocAudit.Toml
