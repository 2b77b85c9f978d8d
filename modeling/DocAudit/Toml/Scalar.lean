import DocAudit.Toml.Failure

/-!
# Scalars of manifests

Strings, numbers, dates and times. Each reader takes the text from the scalar on and gives the value
and what follows it.
-/

namespace DocAudit.Toml

open Decimal Text

/-- A problem at a place. -/
def problem {α : Type} (p : Problem) (rest : List Char) : Except Refused α :=
  .error (.failure ⟨p, rest.length⟩)

/-- A control character that a string of one line must not hold. -/
def isIllegal (c : Char) : Bool := (c.toNat < 32 && c != '\t') || c.toNat == 127

/-- A control character that no string may hold. -/
def isIllegalInLines (c : Char) : Bool := isIllegal c && c != '\n'

/-- The text before and after the first occurrence of a text, if there is one. -/
def cutAtText (p : List Char) : List Char → Option (List Char × List Char)
  | [] => if p.isEmpty then some ([], []) else none
  | c :: s =>
    if p.isPrefixOf (c :: s) then some ([], (c :: s).drop p.length)
    else (cutAtText p s).map fun (a, b) => (c :: a, b)

/-- The text up to a delimiter, without illegal characters. -/
def untilDelimiter (delimiter : List Char) (illegal : Char → Bool) (s : List Char) :
    Except Refused (List Char × List Char) :=
  match cutAtText delimiter s with
  | none => problem (.expectedDelimiter (String.ofList delimiter)) []
  | some (text, rest) =>
    match s.dropWhile fun c => !illegal c with
    | c :: r => if (text.any illegal) then problem (.invalidCharacter c) (c :: r)
      else .ok (text, rest)
    | [] => .ok (text, rest)

/-! ## Strings -/

/-- A literal string of one line whose opening quote was read. -/
def literalString (s : List Char) : Except Refused (List Char × List Char) :=
  untilDelimiter ['\''] isIllegal s

/-- The escapes of one letter. -/
def letterEscapes : List (Char × Char) :=
  [('b', '\x08'), ('t', '\t'), ('n', '\n'), ('f', '\x0c'), ('r', '\r'), ('"', '"'), ('\\', '\\')]

/-- A character given by exactly `n` hexadecimal digits. -/
def hexCharacter (n : Nat) (s : List Char) : Except Refused (List Char × List Char) :=
  let digits := s.take n
  if digits.length != n || !digits.all isHexDigit then problem .invalidHex s
  else
    let code := ofDigits 16 (digits.map hexValue)
    if code < 0xd800 || (0xdfff < code && code < 0x110000) then
      .ok ([Char.ofNat code], s.drop n)
    else problem .notAScalarValue (s.drop n)

/-- A blank of a line or a line end. -/
def isBlankOrLineEnd (c : Char) : Bool := isSpaceOrTab c || c == '\n'

/-- An escape whose backslash was read. In a string of several lines, a backslash at the end of a
line takes the blanks after it away. -/
def readEscape (lines : Bool) (s : List Char) : Except Refused (List Char × List Char) :=
  match s with
  | [] => problem .strayBackslash []
  | c :: r =>
    if lines && c == '\n' then .ok ([], r.dropWhile isBlankOrLineEnd)
    else if lines && isSpaceOrTab c then
      match r.dropWhile isSpaceOrTab with
      | [] => .ok ([], [])
      | d :: t =>
        if d == '\n' then .ok ([], t.dropWhile isBlankOrLineEnd)
        else problem .strayBackslash (d :: t)
    else if c == 'u' then hexCharacter 4 r
    else if c == 'U' then hexCharacter 8 r
    else
      match letterEscapes.lookup c with
      | some d => .ok ([d], r)
      | none => problem .strayBackslash r

/-- A string with escapes, its opening quotes being read, by a count of characters. -/
def basicString (lines : Bool) : Nat → List Char → Except Refused (List Char × List Char)
  | 0, s => problem .unterminated s
  | n + 1, s =>
    match s with
    | [] => problem .unterminated []
    | c :: r =>
      if c == '"' && !lines then .ok ([], r)
      else if c == '"' && ['"', '"'].isPrefixOf r then .ok ([], r.drop 2)
      else if c == '\\' then do
        let (text, r) ← readEscape lines r
        let (more, r) ← basicString lines n r
        return (text ++ more, r)
      else if (if lines then isIllegalInLines c else isIllegal c) then
        problem (.illegalCharacter c) (c :: r)
      else do
        let (more, r) ← basicString lines n r
        return (c :: more, r)

/-- Up to two more delimiters, which belong to the string. -/
def moreDelimiters (c : Char) (text s : List Char) : List Char × List Char :=
  match s with
  | d :: e :: r =>
    if d != c then (text, s) else if e != c then (text ++ [c], e :: r) else (text ++ [c, c], r)
  | [d] => if d != c then (text, s) else (text ++ [c], [])
  | [] => (text, s)

/-- A string of several lines whose opening quotes were read. -/
def multilineString (quote : Char) (s : List Char) : Except Refused (List Char × List Char) := do
  let s :=
    match s with
    | '\n' :: r => r
    | r => r
  let (text, rest) ←
    if quote == '\'' then untilDelimiter ['\'', '\'', '\''] isIllegalInLines s
    else basicString true (s.length + 1) s
  return moreDelimiters quote text rest

/-- A string of one line whose opening quote was read. -/
def lineString (quote : Char) (s : List Char) : Except Refused (List Char × List Char) :=
  if quote == '\'' then literalString s else basicString false (s.length + 1) s

/-! ## Dates and times -/

/-- A number of exactly `n` digits. -/
def fixedNumber (n : Nat) (s : List Char) : Option (Nat × List Char) :=
  let digits := s.take n
  if digits.length == n && digits.all isAsciiDigit then
    some (ofDigits 10 (digits.map hexValue), s.drop n)
  else none

/-- The rest of a text after a character of a class. -/
def afterChar (p : Char → Bool) : List Char → Option (List Char)
  | [] => none
  | c :: s => if p c then some s else none

/-- A number of two digits up to a bound. -/
def twoDigits (bound : Nat) (s : List Char) : Option (Nat × List Char) :=
  (fixedNumber 2 s).filter fun (n, _) => n ≤ bound

/-- The microseconds of a fraction of a second. -/
def fraction (s : List Char) : Nat × List Char :=
  match s with
  | '.' :: r =>
    let digits := r.takeWhile isAsciiDigit
    if digits.isEmpty then (0, s)
    else
      let six := (digits ++ List.replicate 6 '0').take 6
      (ofDigits 10 (six.map hexValue), r.dropWhile isAsciiDigit)
  | _ => (0, s)

/-- A time of day. -/
def clock? (s : List Char) : Option (Clock × List Char) := do
  let (h, s) ← twoDigits 23 s
  let s ← afterChar (· == ':') s
  let (m, s) ← twoDigits 59 s
  let s ← afterChar (· == ':') s
  let (sec, s) ← twoDigits 59 s
  let (micro, s) := fraction s
  return (⟨h, m, sec, micro⟩, s)

/-- The offset of a time from universal time, in minutes. -/
def offset? (s : List Char) : Option (Int × List Char) :=
  match s with
  | [] => none
  | c :: r =>
    if c == 'Z' || c == 'z' then some (0, r)
    else if c == '+' || c == '-' then do
      let (h, r) ← twoDigits 23 r
      let r ← afterChar (· == ':') r
      let (m, r) ← twoDigits 59 r
      let minutes : Int := h * 60 + m
      return (if c == '-' then -minutes else minutes, r)
    else none

/-- The year, the month and the day of a date; it need not exist. -/
def date? (s : List Char) : Option ((Nat × Nat × Nat) × List Char) := do
  let (y, s) ← fixedNumber 4 s
  let s ← afterChar (· == '-') s
  let (m, s) ← (twoDigits 12 s).filter fun (m, _) => 1 ≤ m
  let s ← afterChar (· == '-') s
  let (d, s) ← (twoDigits 31 s).filter fun (d, _) => 1 ≤ d
  return ((y, m, d), s)

/-- A date, which a time may follow. -/
def moment? (s : List Char) : Option (Except Unit Value × List Char) := do
  let ((y, m, d), rest) ← date? s
  let time := (afterChar (fun c => c == 'T' || c == 't' || c == ' ') rest).bind clock?
  match time with
  | none => return (((Date.of? y m d).toOption.map Value.date).elim (.error ()) .ok, rest)
  | some (clock, rest) =>
    let (offset, rest) :=
      match offset? rest with
      | some (o, r) => (some o, r)
      | none => (none, rest)
    let value := (Date.of? y m d).toOption.map fun date => Value.moment ⟨date, clock, offset⟩
    return (value.elim (.error ()) .ok, rest)

/-! ## Numbers -/

/-- Digits of a class with single underscores between them. -/
def digitRun (p : Char → Bool) : Bool → List Char → List Char × List Char
  | _, [] => ([], [])
  | afterDigit, c :: s =>
    if p c then
      let (ds, r) := digitRun p true s
      (c :: ds, r)
    else if c == '_' && afterDigit && (s.head?).any p then
      let (ds, r) := digitRun p false s
      (c :: ds, r)
    else ([], c :: s)

/-- Digits after a sign that is left out or not, in the exponent of a number. -/
def exponentRun (s : List Char) : List Char × List Char :=
  match s with
  | c :: r =>
    if c == 'e' || c == 'E' then
      let (sign, t) :=
        match r with
        | '+' :: t => (['+'], t)
        | '-' :: t => (['-'], t)
        | t => ([], t)
      match digitRun isAsciiDigit false t with
      | ([], _) => ([], s)
      | (ds, t) => (c :: sign ++ ds, t)
    else ([], s)
  | [] => ([], [])

/-- The digits behind a point. -/
def fractionRun (s : List Char) : List Char × List Char :=
  match s with
  | '.' :: r =>
    match digitRun isAsciiDigit false r with
    | ([], _) => ([], s)
    | (ds, t) => ('.' :: ds, t)
  | _ => ([], s)

/-- The digits without underscores. -/
def plainDigits (ds : List Char) : List Char := ds.filter (· != '_')

/-- A number in another base than ten, its mark being read. -/
def basedNumber (base : Nat) (p : Char → Bool) (s : List Char) : Option (Value × List Char) :=
  match digitRun p false s with
  | ([], _) => none
  | (ds, r) => some (.int (ofDigits base ((plainDigits ds).map hexValue)), r)

/-- An integer in base ten with an optional sign, or nothing if no digit stands there. -/
def wholeRun (s : List Char) : Option (List Char × List Char × List Char) :=
  let (sign, t) :=
    match s with
    | '+' :: t => (['+'], t)
    | '-' :: t => (['-'], t)
    | t => ([], t)
  match t with
  | '0' :: r => some (sign, ['0'], r)
  | t =>
    match digitRun isAsciiDigit false t with
    | ([], _) => none
    | (ds, r) => some (sign, ds, r)

/-- An integer or a number with a fraction or an exponent. -/
def decimalNumber? (s : List Char) : Option (Except Fault Value × List Char) :=
  match wholeRun s with
  | none => none
  | some (sign, ds, rest) =>
    let (point, r) := fractionRun rest
    let (power, r) := exponentRun r
    if point.isEmpty && power.isEmpty then
      let digits := plainDigits ds
      let n : Int := ofDigits 10 (digits.map hexValue)
      if digits.length > maxDigits then some (.error (.longNumeral digits.length), r)
      else some (.ok (.int (if sign == ['-'] then -n else n)), r)
    else some (.ok (.float ((readDouble (sign ++ ds ++ point ++ power)).getD .nan)), r)

/-- A number. -/
def number? (s : List Char) : Option (Except Fault Value × List Char) :=
  let based :=
    match s with
    | '0' :: 'x' :: r => basedNumber 16 isHexDigit r
    | '0' :: 'b' :: r => basedNumber 2 (fun c => c == '0' || c == '1') r
    | '0' :: 'o' :: r => basedNumber 8 (fun c => '0' ≤ c && c ≤ '7') r
    | _ => none
  match based with
  | some (v, r) => some (.ok v, r)
  | none => decimalNumber? s

/-- The words for infinity and for no number. -/
def numberWord? (s : List Char) : Option (Value × List Char) :=
  [("inf", Double.infinity), ("nan", Double.nan), ("+inf", Double.infinity), ("+nan", Double.nan),
   ("-inf", Double.infinity.negate), ("-nan", Double.nan.negate)].findSome? fun (word, x) =>
    if word.toList.isPrefixOf s then some (.float x, s.drop word.toList.length) else none

end DocAudit.Toml
