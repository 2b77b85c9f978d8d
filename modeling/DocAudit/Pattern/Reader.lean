import DocAudit.Fault
import DocAudit.Pattern.Basic
import DocAudit.Pattern.NameTable

/-!
# Reading patterns

The notation of patterns. A text is cut into tokens first, an escape being one token; a reader then
takes token after token. Every text is a pattern, or no pattern, or stops the run with a fault.
-/

namespace DocAudit.Pattern

open Text

/-- Why a text gives no pattern. -/
inductive Refused where
  | malformed
  | fault (f : Fault)
  deriving DecidableEq, Repr

/-- A part of a pattern's text. -/
inductive Token where
  | char (c : Char)
  | escape (c : Char)
  /-- A backslash with nothing behind it. -/
  | loneBackslash
  deriving DecidableEq, Repr

/-- The tokens of a text. -/
def tokensOf : List Char → List Token
  | [] => []
  | ['\\'] => [.loneBackslash]
  | '\\' :: c :: s => .escape c :: tokensOf s
  | c :: s => .char c :: tokensOf s

/-- The characters of a token. -/
def Token.chars : Token → List Char
  | char c => [c]
  | escape c => ['\\', c]
  | loneBackslash => ['\\']

/-- How the characters of a pattern are to be understood. -/
structure Flags where
  caseless : Bool
  multiline : Bool
  dotAll : Bool
  verbose : Bool
  ascii : Bool
  deriving DecidableEq, Repr

/-- The flags that patterns start with. -/
def Flags.initial : Flags := ⟨false, true, false, false, false⟩

/-- The least and the greatest length of what a pattern matches. -/
structure Width where
  least : Nat
  greatest : Nat
  deriving DecidableEq, Repr

/-- A length that stands for all greater ones. -/
def maxWidth : Nat := Nat.pow 2 64

/-- The number from which on a repetition cannot be counted. -/
def maxRepeat : Nat := Nat.pow 2 32 - 1

/-- What is known while a pattern is read. -/
structure State where
  rest : List Token
  /-- The flags of the whole pattern. -/
  flags : Flags
  /-- Whether the whole pattern asks for ASCII classes, for Unicode classes, or for a template. -/
  asksAscii : Bool
  asksUnicode : Bool
  asksTemplate : Bool
  /-- The number of the next group. -/
  groups : Nat
  names : List (String × Nat)
  /-- The groups that are complete, with their widths. -/
  closed : List (Nat × Width)
  /-- The number of the first group inside the lookbehind that is being read. -/
  behindFrom : Option Nat
  /-- The groups that conditions ask for. -/
  asked : List Nat
  hasRepetition : Bool
  hasLooseLookbehind : Bool
  /-- The number of groups around the place that was come to. -/
  depth : Nat

/-- A reader of patterns. -/
abbrev Read := StateT State (Except Refused)

/-- Refuse the text. -/
def refuse {α : Type} : Read α := throw .malformed

/-- The number of groups that may stand inside one another. -/
def maxDepth : Nat := 488

/-- Read what a group holds, if it does not stand too deep. -/
def inside {α : Type} (x : Read α) : Read α := do
  if maxDepth ≤ (← get).depth then throw (.fault .tooDeep)
  modify fun s => { s with depth := s.depth + 1 }
  let a ← x
  modify fun s => { s with depth := s.depth - 1 }
  return a

/-- What kind of element an item of a sequence is, as far as repetitions ask. -/
inductive ItemKind where
  | anchor
  | repetition
  | other
  deriving DecidableEq, Repr

/-- An item of a sequence with its width. -/
structure Element where
  pattern : Pattern
  width : Width
  kind : ItemKind

/-! ## Tokens -/

/-- The next token, which stays. -/
def peek : Read (Option Token) := return (← get).rest.head?

/-- Take the next token. A lone backslash is refused as soon as it is next. -/
def next : Read (Option Token) := do
  match (← get).rest with
  | [] => return none
  | t :: rest =>
    if rest.head? == some .loneBackslash then refuse
    modify fun s => { s with rest := rest }
    return some t

/-- Take the next token if it is a given character. -/
def accept (c : Char) : Read Bool := do
  if (← peek) == some (.char c) then
    let _ ← next
    return true
  return false

/-- Require a given character. -/
def expect (c : Char) : Read Unit := do
  if !(← accept c) then refuse

/-- Take characters of a class, at most `n`. -/
def takeUpTo (p : Char → Bool) : Nat → Read (List Char)
  | 0 => return []
  | n + 1 => do
    match ← peek with
    | some (.char c) =>
      if p c then
        let _ ← next
        return c :: (← takeUpTo p n)
      return []
    | _ => return []

/-- Take all characters of a class. -/
def takeAll (p : Char → Bool) : Read (List Char) := do takeUpTo p (← get).rest.length

/-- Take everything up to a character, by a count of tokens. -/
def takeUntilFrom (c : Char) : Nat → Read (List Char)
  | 0 => refuse
  | n + 1 => do
    match ← next with
    | none => refuse
    | some t =>
      if t == .char c then return []
      return t.chars ++ (← takeUntilFrom c n)

/-- Take everything up to a character, which must be something. -/
def takeUntil (c : Char) : Read (List Char) := do
  let name ← takeUntilFrom c ((← get).rest.length + 1)
  if name.isEmpty then refuse
  return name

/-! ## Escapes -/

/-- The control characters that have an escape of their own. -/
def controlEscapes : List (Char × Nat) :=
  [('a', 7), ('b', 8), ('f', 12), ('n', 10), ('r', 13), ('t', 9), ('v', 11), ('\\', 92)]

/-- The kinds of characters that have an escape of their own. -/
def categoryEscapes : List (Char × Item) :=
  [('d', .category .digit false), ('D', .category .digit true), ('s', .category .space false),
   ('S', .category .space true), ('w', .category .word false), ('W', .category .word true)]

/-- An octal digit. -/
def isOctalDigit (c : Char) : Bool := '0' ≤ c && c ≤ '7'

/-- The number that hexadecimal digits spell. -/
def hexNumber (digits : List Char) : Nat := ofDigits 16 (digits.map hexValue)

/-- The number that octal digits spell. -/
def octalNumber (digits : List Char) : Nat := ofDigits 8 (digits.map hexValue)

/-- A code point given by exactly `n` hexadecimal digits. -/
def hexEscape (n : Nat) : Read Nat := do
  let digits ← takeUpTo isHexDigit n
  if digits.length != n then refuse
  let code := hexNumber digits
  if code < 0x110000 then return code
  refuse

/-- A code point given by name. -/
def namedEscape : Read Nat := do
  expect '\x7b'
  let name ← takeUntil '\x7d'
  match codeOfName? (String.ofList name) with
  | some n => return n
  | none => refuse

/-- A code point that an escape spells in a class as well as outside of one, if it is of that
form. -/
def codeEscape? (c : Char) : Option (Read Nat) :=
  if c == 'x' then some (hexEscape 2)
  else if c == 'u' then some (hexEscape 4)
  else if c == 'U' then some (hexEscape 8)
  else if c == 'N' then some namedEscape
  else none

/-- An escape that stands for its own character; letters do not. -/
def plainEscape (c : Char) : Read Nat := if isAsciiLetter c then refuse else return c.toNat

/-- An escape in a class. -/
def classEscape (c : Char) : Read Item := do
  match controlEscapes.lookup c, categoryEscapes.lookup c, codeEscape? c with
  | some n, _, _ => return .code n
  | none, some item, _ => return item
  | none, none, some code => return .code (← code)
  | none, none, none =>
    if isOctalDigit c then
      let n := octalNumber (c :: (← takeUpTo isOctalDigit 2))
      if n > 255 then refuse
      return .code n
    if isAsciiDigit c then refuse
    return .code (← plainEscape c)

/-! ## Widths -/

/-- The width of one part after another. -/
def Width.add (a b : Width) : Width :=
  ⟨min (a.least + b.least) maxWidth, min (a.greatest + b.greatest) maxWidth⟩

/-- The width of one part or another. -/
def Width.or (a b : Width) : Width := ⟨min a.least b.least, max a.greatest b.greatest⟩

/-- The width of a repeated part. -/
def Width.times (w : Width) (least : Nat) (greatest : Option Nat) : Width :=
  let most :=
    match greatest with
    | some m => w.greatest * m
    | none => if w.greatest == 0 then 0 else maxWidth
  ⟨min (w.least * least) maxWidth, min most maxWidth⟩

/-- The pattern of elements one after the other, with its width. -/
def ofElements (elements : List Element) : Pattern × Width :=
  elements.foldr
    (fun e (p, w) => (if p = .empty then e.pattern else .sequence e.pattern p, e.width.add w))
    (.empty, ⟨0, 0⟩)

/-! ## Groups -/

/-- The form of a group's name. -/
def isName : List Char → Bool
  | [] => false
  | c :: s => (isWordChar c && !isDigit c) && s.all isWordChar

/-- Begin a group. -/
def openGroup (name : Option String) : Read Nat := do
  let s ← get
  match name with
  | none =>
    set { s with groups := s.groups + 1 }
    return s.groups
  | some n =>
    if (s.names.lookup n).isSome then refuse
    set { s with groups := s.groups + 1, names := (n, s.groups) :: s.names }
    return s.groups

/-- Require that a lookbehind refers to complete groups outside of it only. -/
def checkBehind (number : Nat) : Read Unit := do
  let s ← get
  match s.behindFrom with
  | none => return
  | some first => if (s.closed.lookup number).isNone || number ≥ first then refuse

/-- A reference to a complete group. -/
def referTo (flags : Flags) (number : Nat) : Read Element := do
  let s ← get
  match s.closed.lookup number with
  | none => refuse
  | some width =>
    checkBehind number
    return ⟨.reference number flags.caseless flags.ascii, width, .other⟩

/-- One character of a class. -/
def element (cls : CharClass) : Element := ⟨.one cls, ⟨1, 1⟩, .other⟩

/-- One given code point. -/
def oneCode (flags : Flags) (n : Nat) : Element := element (.single flags.caseless flags.ascii n)

/-- One character of a class with a single member. -/
def oneItem (flags : Flags) (item : Item) : Element :=
  element ⟨[item], false, flags.caseless, flags.ascii⟩

/-- A condition on a place. -/
def anchored (a : Anchor) : Element := ⟨.anchor a, ⟨0, 0⟩, .anchor⟩

/-- The conditions that have an escape. -/
def anchorEscape? (flags : Flags) (c : Char) : Option Anchor :=
  if c == 'A' then some .textStart
  else if c == 'Z' then some .textEnd
  else if c == 'b' then some (.wordBoundary flags.ascii false)
  else if c == 'B' then some (.wordBoundary flags.ascii true)
  else none

/-- An escape that begins with a digit other than zero: a reference to a group, or an octal number
of three digits. -/
def numberEscape (flags : Flags) (c : Char) : Read Element := do
  match ← takeUpTo isAsciiDigit 1 with
  | [] => referTo flags (hexValue c)
  | d :: _ =>
    if isOctalDigit c && isOctalDigit d then
      match ← takeUpTo isOctalDigit 1 with
      | e :: _ =>
        let n := octalNumber [c, d, e]
        if n > 255 then refuse
        return oneCode flags n
      | [] => pure ()
    referTo flags (hexValue c * 10 + hexValue d)

/-- An escape outside of a class. -/
def escaped (flags : Flags) (c : Char) : Read Element := do
  match anchorEscape? flags c, categoryEscapes.lookup c, controlEscapes.lookup c, codeEscape? c with
  | some a, _, _, _ => return anchored a
  | none, some item, _, _ => return oneItem flags item
  | none, none, some n, _ => return oneCode flags n
  | none, none, none, some code => return oneCode flags (← code)
  | none, none, none, none =>
    if c == '0' then return oneCode flags (octalNumber (← takeUpTo isOctalDigit 2))
    if isAsciiDigit c then numberEscape flags c
    else return oneCode flags (← plainEscape c)

/-! ## Classes -/

/-- A member of a class, begun by a token. -/
def classItem (t : Token) : Read Item :=
  match t with
  | .char c => return .code c.toNat
  | .escape c => classEscape c
  | .loneBackslash => refuse

/-- The members of a class up to its closing bracket, by a count of tokens. A bracket that comes
first is a member. -/
def classItems : Nat → Bool → Read (List Item)
  | 0, _ => refuse
  | n + 1, isFirst => do
    match ← next with
    | none => refuse
    | some t =>
      if t == .char ']' && !isFirst then return []
      let low ← classItem t
      if ← accept '-' then
        match ← next with
        | none => refuse
        | some u =>
          if u == .char ']' then return [low, .code 45]
          match low, ← classItem u with
          | .code a, .code b =>
            if b < a then refuse
            return .range a b :: (← classItems n false)
          | _, _ => refuse
      return low :: (← classItems n false)

/-- A class whose opening bracket was read. -/
def readClass (flags : Flags) : Read Element := do
  let negated ← accept '^'
  let items ← classItems ((← get).rest.length + 1) true
  return element ⟨items, negated, flags.caseless, flags.ascii⟩

/-! ## Repetitions -/

/-- A number of rounds. -/
def roundCount (digits : List Char) : Read Nat := do
  if digits.length > maxDigits then throw (.fault (.longNumeral digits.length))
  let n := ofDigits 10 (digits.map hexValue)
  if n ≥ maxRepeat then throw (.fault .largeRepetition)
  return n

/-- The bounds of a repetition in braces, the opening one being read; nothing if that is a plain
character. -/
def readBounds : Read (Option (Nat × Option Nat)) := do
  let here ← get
  if here.rest.head? == some (.char '\x7d') then return none
  let low ← takeAll isAsciiDigit
  let high ← if ← accept ',' then takeAll isAsciiDigit else pure low
  if !(← accept '\x7d') then
    set here
    return none
  let least ← if low.isEmpty then pure 0 else roundCount low
  if high.isEmpty then return some (least, none)
  let most ← roundCount high
  if most < least then refuse
  return some (least, some most)

/-- The last element repeated; `done` holds the elements in reverse. -/
def repeatLast (bounds : Nat × Option Nat) (done : List Element) : Read (List Element) := do
  match done with
  | [] => refuse
  | e :: before =>
    if e.kind != .other then refuse
    let greed ← if ← accept '?' then pure Greed.lazy
      else if ← accept '+' then pure Greed.possessive
      else pure Greed.greedy
    modify fun s => { s with hasRepetition := true }
    let (least, most) := bounds
    return ⟨.repeated greed least most e.pattern, e.width.times least most,
      .repetition⟩ :: before

/-! ## Flags -/

/-- Switches that a flag group turns on or off. -/
structure Switches where
  caseless : Bool
  multiline : Bool
  dotAll : Bool
  verbose : Bool
  ascii : Bool
  unicode : Bool
  template : Bool
  deriving DecidableEq, Repr

/-- No switch. -/
def Switches.none : Switches := ⟨false, false, false, false, false, false, false⟩

/-- The switches with that of a letter. -/
def Switches.set? (w : Switches) (c : Char) : Option Switches :=
  if c == 'i' then some { w with caseless := true }
  else if c == 'm' then some { w with multiline := true }
  else if c == 's' then some { w with dotAll := true }
  else if c == 'x' then some { w with verbose := true }
  else if c == 'a' then some { w with ascii := true }
  else if c == 'u' then some { w with unicode := true }
  else if c == 't' then some { w with template := true }
  else .none

/-- Whether a switch is on in both. -/
def Switches.meet (v w : Switches) : Bool :=
  (v.caseless && w.caseless) || (v.multiline && w.multiline) || (v.dotAll && w.dotAll) ||
    (v.verbose && w.verbose)

/-- The flags after switches are turned on and others off. -/
def Flags.switch (f : Flags) (on off : Switches) : Flags where
  caseless := (f.caseless || on.caseless) && !off.caseless
  multiline := (f.multiline || on.multiline) && !off.multiline
  dotAll := (f.dotAll || on.dotAll) && !off.dotAll
  verbose := (f.verbose || on.verbose) && !off.verbose
  ascii := if on.ascii then true else if on.unicode then false else f.ascii

/-- Read switches to turn on, `c` being the first letter, up to the character that ends them. -/
def readOn : Nat → Switches → Char → Read (Switches × Char)
  | 0, _, _ => refuse
  | n + 1, on, c => do
    match on.set? c with
    | none => refuse
    | some on =>
      if on.ascii && on.unicode then refuse
      match ← next with
      | some (.char d) => if d == ')' || d == '-' || d == ':' then return (on, d) else readOn n on d
      | _ => refuse

/-- Read switches to turn off, `c` being the first letter, up to the colon. -/
def readOff : Nat → Switches → Char → Read Switches
  | 0, _, _ => refuse
  | n + 1, off, c => do
    match off.set? c with
    | none => refuse
    | some off =>
      if off.ascii || off.unicode then refuse
      match ← next with
      | some (.char d) => if d == ':' then return off else readOff n off d
      | _ => refuse

/-- Read the switches of a flag group that begins with `c`. If the group ends with them they hold
for the whole pattern, and nothing is returned. -/
def readSwitches (c : Char) : Read (Option (Switches × Switches)) := do
  let size := (← get).rest.length + 1
  let (on, last) ← if c == '-' then pure (Switches.none, '-') else readOn size .none c
  if last == ')' then
    modify fun s => { s with
      flags := s.flags.switch on .none
      asksAscii := s.asksAscii || on.ascii
      asksUnicode := s.asksUnicode || on.unicode
      asksTemplate := s.asksTemplate || on.template }
    return none
  if on.template then refuse
  let off ←
    if last == '-' then
      match ← next with
      | some (.char d) => readOff size .none d
      | _ => refuse
    else pure .none
  if off.template || on.meet off then refuse
  return some (on, off)

/-! ## Sequences and alternatives -/

/-- Skip a comment up to the end of the line, by a count of tokens. -/
def skipLine : Nat → Read Unit
  | 0 => return
  | n + 1 => do
    match ← next with
    | none => return
    | some t => if t == .char '\n' then return else skipLine n

/-- Skip a comment up to the closing parenthesis, by a count of tokens. -/
def skipComment : Nat → Read Unit
  | 0 => refuse
  | n + 1 => do
    match ← next with
    | none => refuse
    | some t => if t == .char ')' then return else skipComment n

/-- White space that verbose patterns pass over. -/
def isVerboseBlank (c : Char) : Bool := c == ' ' || (9 ≤ c.toNat && c.toNat ≤ 13)

/-- The number of the group that a condition asks for. -/
def askedGroup (name : List Char) : Read Nat := do
  if isName name then
    match (← get).names.lookup (String.ofList name) with
    | some n => return n
    | none => refuse
  else
    match readInteger name with
    | .ok n =>
      if n ≤ 0 || n ≥ Nat.pow 2 30 then refuse
      modify fun s => { s with asked := n.toNat :: s.asked }
      return n.toNat
    | .error _ => refuse

/-- What a group is, as its opening tells. -/
inductive Opening where
  | group (number : Option Nat) (isAtomic : Bool) (flags : Flags)
  | look (isBehind negated : Bool)
  | ask (number : Nat)
  | reference (e : Element)
  | nothing (flags : Option Flags)

/-- Read the opening of a group that goes on with `'?P'`. -/
def readNamed (flags : Flags) : Read Opening := do
  if ← accept '<' then
    let name ← takeUntil '>'
    if !isName name then refuse
    return .group (some (← openGroup (some (String.ofList name)))) false flags
  else if ← accept '=' then
    let name ← takeUntil ')'
    if !isName name then refuse
    match (← get).names.lookup (String.ofList name) with
    | some n => return .reference (← referTo flags n)
    | none => refuse
  else refuse

/-- Read what stands between the opening parenthesis of a group and what it holds. -/
def readOpening (flags : Flags) : Read Opening := do
  if !(← accept '?') then return .group (some (← openGroup none)) false flags
  match ← next with
  | some (.char c) =>
    if c == 'P' then readNamed flags
    else if c == ':' then return .group none false flags
    else if c == '>' then return .group none true flags
    else if c == '#' then
      skipComment ((← get).rest.length + 1)
      return .nothing none
    else if c == '=' || c == '!' then return .look false (c == '!')
    else if c == '<' then
      match ← next with
      | some (.char d) => if d == '=' || d == '!' then return .look true (d == '!') else refuse
      | _ => refuse
    else if c == '(' then
      let number ← askedGroup (← takeUntil ')')
      checkBehind number
      return .ask number
    else if c == '-' || (Switches.none.set? c).isSome then
      match ← readSwitches c with
      | some (on, off) => return .group none false (flags.switch on off)
      | none => return .nothing (some (← get).flags)
    else refuse
  | _ => refuse

mutual

/-- Read alternatives up to a closing parenthesis or the end. -/
def readAlternatives : Nat → Flags → Bool → Read (Pattern × Width)
  | 0, _, _ => refuse
  | n + 1, flags, isOutermost => do
    let (p, w) ← readSequence n flags [] isOutermost
    if ← accept '|' then
      let whole := (← get).flags
      let (q, v) ← readFurther n (if isOutermost then whole else flags)
      return (.either p q, w.or v)
    return (p, w)

/-- Read the alternatives after the first one. -/
def readFurther : Nat → Flags → Read (Pattern × Width)
  | 0, _ => refuse
  | n + 1, flags => do
    let (p, w) ← readSequence n flags [] false
    if ← accept '|' then
      let (q, v) ← readFurther n flags
      return (.either p q, w.or v)
    return (p, w)

/-- Read a sequence; `done` holds its elements so far in reverse. Flags for the whole pattern may
only stand where `isStart` says that nothing was read before. -/
def readSequence : Nat → Flags → List Element → Bool → Read (Pattern × Width)
  | 0, _, _, _ => refuse
  | n + 1, flags, done, isStart => do
    match ← peek with
    | none => return ofElements done.reverse
    | some t =>
      if t == .char '|' || t == .char ')' then return ofElements done.reverse
      let _ ← next
      match t with
      | .loneBackslash => refuse
      | .escape c => readSequence n flags ((← escaped flags c) :: done) isStart
      | .char c =>
        if flags.verbose && isVerboseBlank c then readSequence n flags done isStart
        else if flags.verbose && c == '#' then
          skipLine ((← get).rest.length + 1)
          readSequence n flags done isStart
        else if c == '[' then readSequence n flags ((← readClass flags) :: done) isStart
        else if c == '.' then readSequence n flags (element (.any flags.dotAll) :: done) isStart
        else if c == '^' then
          let a := if flags.multiline then Anchor.lineStart else .textStart
          readSequence n flags (anchored a :: done) isStart
        else if c == '$' then
          let a := if flags.multiline then Anchor.lineEnd else .lastLineEnd
          readSequence n flags (anchored a :: done) isStart
        else if c == '*' then readSequence n flags (← repeatLast (0, none) done) isStart
        else if c == '+' then readSequence n flags (← repeatLast (1, none) done) isStart
        else if c == '?' then readSequence n flags (← repeatLast (0, some 1) done) isStart
        else if c == '\x7b' then
          match ← readBounds with
          | some bounds => readSequence n flags (← repeatLast bounds done) isStart
          | none => readSequence n flags (oneCode flags c.toNat :: done) isStart
        else if c == '(' then
          match ← readOpening flags with
          | .nothing none => readSequence n flags done isStart
          | .nothing (some whole) =>
            if !isStart || !done.isEmpty then refuse
            readSequence n whole done isStart
          | .reference e => readSequence n flags (e :: done) isStart
          | opening => readSequence n flags ((← readGroup n flags opening) :: done) isStart
        else readSequence n flags (oneCode flags c.toNat :: done) isStart

/-- Read what a group holds, and its closing parenthesis. -/
def readGroup : Nat → Flags → Opening → Read Element
  | 0, _, _ => refuse
  | n + 1, flags, opening => do
    match opening with
    | .group number isAtomic inner =>
      let (p, w) ← inside (readAlternatives n inner false)
      expect ')'
      match number with
      | none => return ⟨if isAtomic then .atomic p else p, w, .other⟩
      | some k =>
        modify fun s => { s with closed := (k, w) :: s.closed }
        return ⟨.group k p, w, .other⟩
    | .look isBehind negated =>
      let outer := (← get).behindFrom
      if isBehind && outer.isNone then modify fun s => { s with behindFrom := some s.groups }
      let (p, w) ← inside (readAlternatives n flags false)
      if isBehind && outer.isNone then modify fun s => { s with behindFrom := none }
      expect ')'
      if !isBehind then return ⟨.ahead negated p, ⟨0, 0⟩, .other⟩
      if w.least != w.greatest || w.least > maxRepeat then
        modify fun s => { s with hasLooseLookbehind := true }
      return ⟨.behind w.least negated p, ⟨0, 0⟩, .other⟩
    | .ask number =>
      let (p, w) ← readSequence n flags [] false
      if ← accept '|' then
        let (q, v) ← readSequence n flags [] false
        expect ')'
        return ⟨.ifGroup number p q, w.or v, .other⟩
      expect ')'
      return ⟨.ifGroup number p .empty, ⟨0, w.greatest⟩, .other⟩
    | _ => refuse

end

/-- Read a whole pattern. -/
def readWhole : Read Pattern := do
  let size := (← get).rest.length
  let (p, _) ← readAlternatives (4 * size + 8) .initial true
  let s ← get
  if s.asksAscii && s.asksUnicode then throw (.fault .asciiAndUnicode)
  if !s.rest.isEmpty then refuse
  if s.asked.any fun g => g ≥ s.groups then refuse
  if s.hasLooseLookbehind then refuse
  if s.asksTemplate && s.hasRepetition then refuse
  return p

/-- Where the reading of a pattern starts. -/
def State.initial (tokens : List Token) : State where
  rest := tokens
  flags := .initial
  asksAscii := false
  asksUnicode := false
  asksTemplate := false
  groups := 1
  names := []
  closed := []
  behindFrom := none
  asked := []
  hasRepetition := false
  hasLooseLookbehind := false
  depth := 0

/-- The pattern of a text, if it is one. -/
def ofText (text : String) : Except Fault (Option Pattern) :=
  let tokens := tokensOf text.toList
  if tokens.head? == some .loneBackslash then .ok none
  else
    match (readWhole.run (.initial tokens)) with
    | .ok (p, _) => .ok (some p)
    | .error .malformed => .ok none
    | .error (.fault f) => .error f

end DocAudit.Pattern
