import DocAudit.Text.Letter
import DocAudit.Value
import DocAudit.Yaml.Failure

/-!
# Scalars and their tags

Which tag a plain scalar gets by its form, and which value the text of a scalar denotes under a
tag. The forms are those of the 1.1 schema: integers in five notations, numbers, truth values, null,
dates and times, and the two marks that matter in mappings.
-/

namespace DocAudit.Yaml

open Text Decimal

/-- A tag of the schema by its short name. -/
def coreTag (name : String) : String := "tag:yaml.org,2002:" ++ name

/-! ## Forms -/

/-- A digit of the given class or an underscore. -/
def orUnderscore (p : Char → Bool) (c : Char) : Bool := c == '_' || p c

/-- The text without a sign. -/
def withoutSign : List Char → List Char
  | '-' :: s => s
  | '+' :: s => s
  | s => s

/-- One or more characters, all of a class. -/
def allOf (p : Char → Bool) (s : List Char) : Bool := !s.isEmpty && s.all p

/-- A digit from one to nine. -/
def isLeadingDigit (c : Char) : Bool := '1' ≤ c && c ≤ '9'

/-- A part of a number to the base sixty: one digit, or two with the first at most five. -/
def isSexagesimal : List Char → Bool
  | [c] => isAsciiDigit c
  | [c, d] => '0' ≤ c && c ≤ '5' && isAsciiDigit d
  | _ => false

/-- An integer in binary, octal, decimal, hexadecimal or sexagesimal notation. -/
def looksLikeInteger (s : List Char) : Bool :=
  match withoutSign s with
  | ['0'] => true
  | '0' :: 'b' :: r => allOf (orUnderscore fun c => c == '0' || c == '1') r
  | '0' :: 'x' :: r => allOf (orUnderscore isHexDigit) r
  | '0' :: r => allOf (orUnderscore fun c => '0' ≤ c && c ≤ '7') r
  | c :: r =>
    isLeadingDigit c &&
      match splitOn ':' r with
      | [] => false
      | whole :: parts => whole.all (orUnderscore isAsciiDigit) && parts.all isSexagesimal
  | [] => false

/-- Nothing, or an exponent with a sign. -/
def isExponent : List Char → Bool
  | [] => true
  | c :: d :: r => (c == 'e' || c == 'E') && (d == '-' || d == '+') && allOf isAsciiDigit r
  | _ => false

/-- The text from the first character outside a class on. -/
def afterAll (p : Char → Bool) (s : List Char) : List Char := s.dropWhile p

/-- A number with a point, in decimal or sexagesimal notation, or a word for infinity or NaN. -/
def looksLikeNumber (s : List Char) : Bool :=
  let words := [".inf", ".Inf", ".INF"].map String.toList
  let notNumbers := [".nan", ".NaN", ".NAN"].map String.toList
  let digits := orUnderscore isAsciiDigit
  let body := withoutSign s
  words.contains body || notNumbers.contains s ||
    (match s with
    | '.' :: c :: r => isAsciiDigit c && isExponent (afterAll digits r)
    | _ => false) ||
    match body with
    | c :: r =>
      isAsciiDigit c &&
        match afterAll digits r with
        | '.' :: t => isExponent (afterAll digits t)
        | ':' :: _ =>
          match (splitOn ':' (afterAll digits r)).tail.reverse with
          | [] => false
          | last :: middle =>
            middle.all isSexagesimal &&
              match cutAt '.' last with
              | some (part, t) => isSexagesimal part && t.all digits
              | none => false
        | _ => false
    | [] => false

/-- The parts of a date with an optional time as they are written. -/
structure Stamp where
  year : List Char
  month : List Char
  day : List Char
  /-- Hour, minute, second and fraction. -/
  time : Option (List Char × List Char × List Char × List Char)
  /-- Sign, hour and minute of the offset; no sign stands for universal time. -/
  zone : Option (Option Char × List Char × List Char)

/-- One or two digits and the rest. -/
def oneOrTwoDigits : List Char → Option (List Char × List Char)
  | c :: d :: s =>
    if !isAsciiDigit c then none
    else if isAsciiDigit d then some ([c, d], s)
    else some ([c], d :: s)
  | [c] => if isAsciiDigit c then some ([c], []) else none
  | [] => none

/-- Exactly two digits and the rest. -/
def twoDigits : List Char → Option (List Char × List Char)
  | c :: d :: s => if isAsciiDigit c && isAsciiDigit d then some ([c, d], s) else none
  | _ => none

/-- The rest after a character. -/
def afterChar (c : Char) : List Char → Option (List Char)
  | d :: s => if d == c then some s else none
  | [] => none

/-- Read an offset that ends the text; no text is no offset. -/
def readZone (s : List Char) : Option (Option (Option Char × List Char × List Char)) :=
  match s with
  | [] => some none
  | _ =>
    match s.dropWhile isSpaceOrTab with
    | ['Z'] => some (some (none, [], []))
    | c :: r =>
      if c == '-' || c == '+' then do
        let (h, r) ← oneOrTwoDigits r
        match r with
        | [] => some (some (some c, h, []))
        | ':' :: r =>
          let (m, r) ← twoDigits r
          if r.isEmpty then some (some (some c, h, m)) else none
        | _ => none
      else none
    | [] => none

/-- Read a date with an optional time and an optional offset. -/
def readStamp (s : List Char) : Option Stamp := do
  let year := s.take 4
  if year.length != 4 || !year.all isAsciiDigit then none
  else
    let s ← afterChar '-' (s.drop 4)
    let (month, s) ← oneOrTwoDigits s
    let s ← afterChar '-' s
    let (day, s) ← oneOrTwoDigits s
    match s with
    | [] => some ⟨year, month, day, none, none⟩
    | c :: r =>
      let r ←
        if c == 'T' || c == 't' then some r
        else if isSpaceOrTab c then some (r.dropWhile isSpaceOrTab)
        else none
      let (hour, r) ← oneOrTwoDigits r
      let r ← afterChar ':' r
      let (minute, r) ← twoDigits r
      let r ← afterChar ':' r
      let (second, r) ← twoDigits r
      let (fraction, r) :=
        match r with
        | '.' :: t => (t.takeWhile isAsciiDigit, t.dropWhile isAsciiDigit)
        | t => ([], t)
      let zone ← readZone r
      some ⟨year, month, day, some (hour, minute, second, fraction), zone⟩

/-- A date of ten characters, or a date with a time. -/
def looksLikeTimestamp (s : List Char) : Bool :=
  match readStamp s with
  | some p => p.time.isSome || (p.month.length == 2 && p.day.length == 2)
  | none => false

/-- The words for the two truth values. -/
def truthWords : List (String × Bool) :=
  [("yes", true), ("no", false), ("true", true), ("false", false), ("on", true), ("off", false)]

/-- A word as it may be written for a truth value: in lower case, in upper case or capitalised. -/
def spellings (w : String) : List (List Char) :=
  let s := w.toList
  [s, s.map upperChar, (s.take 1).map upperChar ++ s.drop 1]

/-- A word for a truth value. -/
def looksLikeTruth (s : List Char) : Bool := truthWords.any fun (w, _) => (spellings w).contains s

/-- A word for null. -/
def looksLikeNull (s : List Char) : Bool := s.isEmpty || s == ['~'] || (spellings "null").contains s

/-- The text without a newline at its end. -/
def withoutFinalNewline (s : List Char) : List Char :=
  match s.getLast? with
  | some '\n' => s.dropLast
  | _ => s

/-- The tag of a plain scalar by its form. -/
def tagOfForm (text : String) : String :=
  let s := withoutFinalNewline text.toList
  coreTag <|
    if looksLikeTruth s then "bool"
    else if looksLikeNumber s then "float"
    else if looksLikeInteger s then "int"
    else if s == ['<', '<'] then "merge"
    else if looksLikeNull s then "null"
    else if looksLikeTimestamp s then "timestamp"
    else if s == ['='] then "value"
    else "str"

/-! ## Values -/

/-- The number that ASCII digits spell. -/
def number (s : List Char) : Nat := ofDigits 10 (s.map hexValue)

/-- Read an integer of a base other than ten, which may have its own mark before its digits. -/
def readInBase (base : Nat) (s : List Char) : Except ScalarFault Int :=
  let fault : Except ScalarFault Int := .error (.notAnInteger base (String.ofList s))
  let body := dropTrailing isNumberBlank (s.dropWhile isNumberBlank)
  let negative := body.head? == some '-'
  let digits :=
    match withoutSign body with
    | '0' :: c :: r =>
      let d := lowerChar c
      if (base == 2 && d == 'b') || (base == 8 && d == 'o') || (base == 16 && d == 'x') then r
      else '0' :: c :: r
    | r => r
  match digits.mapM (baseDigit? base) with
  | some (d :: ds) =>
    let n : Int := ofDigits base (d :: ds)
    .ok (if negative then -n else n)
  | _ => fault

/-- Read a decimal integer. -/
def readDecimalInteger (s : List Char) : Except ScalarFault Int :=
  match readInteger s with
  | .ok n => .ok n
  | .error .malformed => .error (.notAnInteger 10 (String.ofList s))
  | .error (.tooLong n) => .error (.tooManyDigits n)

/-- The integer that a text denotes. Underscores are left out before it is read. -/
def integerOf (text : List Char) : Except ScalarFault Int := do
  let s := text.filter (· != '_')
  let negative := s.head? == some '-'
  let sign (n : Int) : Int := if negative then -n else n
  if s.isEmpty then .error .emptyNumber
  else
    match withoutSign s with
    | [] => .error .emptyNumber
    | ['0'] => .ok 0
    | '0' :: 'b' :: r => return sign (← readInBase 2 r)
    | '0' :: 'x' :: r => return sign (← readInBase 16 r)
    | '0' :: r => return sign (← readInBase 8 ('0' :: r))
    | r =>
      if r.contains ':' then
        let parts ← (splitOn ':' r).mapM readDecimalInteger
        return sign (parts.foldl (fun n d => n * 60 + d) 0)
      else return sign (← readDecimalInteger r)

/-- Read a part of a number. -/
def readNumberPart (s : List Char) : Except ScalarFault Double :=
  match readDouble s with
  | some x => .ok x
  | none => .error (.notANumber (String.ofList s))

/-- The number of parts to the base sixty, the last first, `base` being the worth of the next. -/
def sumSexagesimal (value base : Float) : List Double → Float
  | [] => value
  | d :: ds => sumSexagesimal (value + d.toFloat * base) (base * 60) ds

/-- The number that a text denotes. -/
def numberOf (text : List Char) : Except ScalarFault Double := do
  let s := lower (text.filter (· != '_'))
  let negative := s.head? == some '-'
  let sign (x : Double) : Double := if negative then x.negate else x
  if s.isEmpty then .error .emptyNumber
  else
    let r := withoutSign s
    if r == ".inf".toList then return sign Double.infinity
    else if r == ".nan".toList then return Double.nan
    else if r.contains ':' then
      let parts ← (splitOn ':' r).mapM readNumberPart
      return sign (Double.ofFloat (sumSexagesimal 0 1 parts.reverse))
    else return sign (← readNumberPart r)

/-- The offset from universal time in minutes. -/
def offsetOf : Option Char × List Char × List Char → Except ScalarFault Int
  | (none, _, _) => .ok 0
  | (some sign, h, m) =>
    let n : Int := number h * 60 + number m
    let n := if sign == '-' then -n else n
    if n.natAbs < 1440 then .ok n else .error (.noSuchTime (.offset n))

/-- A fault of the calendar as a fault of a scalar. -/
def calendar {α : Type} (x : Except CalendarFault α) : Except ScalarFault α :=
  x.mapError .noSuchTime

/-- The date or the time that a text denotes. -/
def timestampOf (text : List Char) : Except ScalarFault Value := do
  match readStamp (withoutFinalNewline text) with
  | none => .error .notATimestamp
  | some p =>
    match p.time with
    | none => return .date (← calendar (Date.of? (number p.year) (number p.month) (number p.day)))
    | some (h, m, s, fraction) =>
      let six := fraction.take 6
      let micro := number (six ++ List.replicate (6 - six.length) '0')
      let offset ← p.zone.mapM offsetOf
      let date ← calendar (Date.of? (number p.year) (number p.month) (number p.day))
      let clock ← calendar (Clock.of? (number h) (number m) (number s) micro)
      return .moment ⟨date, clock, offset⟩

/-- The six bits of a character of the base-64 alphabet. -/
def base64Value? (c : Char) : Option Nat :=
  if 'A' ≤ c && c ≤ 'Z' then some (c.toNat - 65)
  else if 'a' ≤ c && c ≤ 'z' then some (c.toNat - 71)
  else if isAsciiDigit c then some (c.toNat + 4)
  else if c == '+' then some 62
  else if c == '/' then some 63
  else none

/-- Decode base-64 text: `held` are the bits left over from the last character, `phase` is the
number of characters since the last full group and `pads` the number of padding signs in a row.
Other characters are passed over, and a padded group ends the data. -/
def decodeBase64 (done : List UInt8) (phase pads held : Nat) :
    List Char → Except Problem (List UInt8)
  | [] =>
    if phase == 0 then .ok done.reverse
    else if phase == 1 then .error (.binaryLength (done.length / 3 * 4 + 1))
    else .error .binaryPadding
  | c :: s =>
    if c == '=' then
      if phase ≥ 2 && phase + (pads + 1) ≥ 4 then .ok done.reverse
      else decodeBase64 done phase (if phase ≥ 2 then pads + 1 else pads) held s
    else
      match base64Value? c with
      | none => decodeBase64 done phase pads held s
      | some v =>
        match phase with
        | 0 => decodeBase64 done 1 0 v s
        | 1 => decodeBase64 (UInt8.ofNat (held * 4 + v / 16) :: done) 2 0 (v % 16) s
        | 2 => decodeBase64 (UInt8.ofNat (held * 16 + v / 4) :: done) 3 0 (v % 4) s
        | _ => decodeBase64 (UInt8.ofNat (held * 64 + v) :: done) 0 0 0 s

/-- The bytes that a base-64 text denotes. -/
def bytesOf (text : List Char) : Except Problem (List UInt8) :=
  let isAscii (c : Char) : Bool := c.toNat < 128
  match text.dropWhile isAscii with
  | [] => decodeBase64 [] 0 0 0 text
  | c :: rest =>
    .error (.binaryNotAscii c (text.takeWhile isAscii).length
      ((c :: rest).takeWhile fun d => !isAscii d).length)

end DocAudit.Yaml
