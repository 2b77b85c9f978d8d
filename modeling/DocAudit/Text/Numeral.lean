import DocAudit.Text.Blank

/-!
# Numerals

Decimal digits of every script, and the reading of integers: an optional sign and digits with
single underscores between them, blanks allowed around the whole.
-/

namespace DocAudit.Text

/-- The code points of the zeros; each begins a run of ten digits in ascending order. -/
def zeroDigits : List Nat :=
  [0x30, 0x660, 0x6f0, 0x7c0, 0x966, 0x9e6, 0xa66, 0xae6, 0xb66, 0xbe6, 0xc66, 0xce6, 0xd66, 0xde6,
   0xe50, 0xed0, 0xf20, 0x1040, 0x1090, 0x17e0, 0x1810, 0x1946, 0x19d0, 0x1a80, 0x1a90, 0x1b50,
   0x1bb0, 0x1c40, 0x1c50, 0xa620, 0xa8d0, 0xa900, 0xa9d0, 0xa9f0, 0xaa50, 0xabf0, 0xff10, 0x104a0,
   0x10d30, 0x11066, 0x110f0, 0x11136, 0x111d0, 0x112f0, 0x11450, 0x114d0, 0x11650, 0x116c0,
   0x11730, 0x118e0, 0x11950, 0x11c50, 0x11d50, 0x11da0, 0x16a60, 0x16ac0, 0x16b50, 0x1d7ce,
   0x1d7d8, 0x1d7e2, 0x1d7ec, 0x1d7f6, 0x1e140, 0x1e2f0, 0x1e950, 0x1fbf0]

/-- Digits that are no decimal digits: superscripts, subscripts, circled digits and their like. -/
def specialDigitRanges : List (Nat × Nat) :=
  [(0xb2, 0xb3), (0xb9, 0xb9), (0x1369, 0x1371), (0x19da, 0x19da), (0x2070, 0x2070),
   (0x2074, 0x2079), (0x2080, 0x2089), (0x2460, 0x2468), (0x2474, 0x247c), (0x2488, 0x2490),
   (0x24ea, 0x24ea), (0x24f5, 0x24fd), (0x24ff, 0x24ff), (0x2776, 0x277e), (0x2780, 0x2788),
   (0x278a, 0x2792), (0x10a40, 0x10a43), (0x10e60, 0x10e68), (0x11052, 0x1105a),
   (0x1f100, 0x1f10a)]

/-- Whether a code point lies in one of the closed ranges. -/
def inRanges (ranges : List (Nat × Nat)) (n : Nat) : Bool :=
  ranges.any fun (lo, hi) => lo ≤ n && n ≤ hi

/-- An ASCII digit. -/
def isAsciiDigit (c : Char) : Bool := '0' ≤ c && c ≤ '9'

/-- An ASCII hexadecimal digit of either case. -/
def isHexDigit (c : Char) : Bool :=
  isAsciiDigit c || ('a' ≤ c && c ≤ 'f') || ('A' ≤ c && c ≤ 'F')

/-- An ASCII letter. -/
def isAsciiLetter (c : Char) : Bool := ('a' ≤ c && c ≤ 'z') || ('A' ≤ c && c ≤ 'Z')

/-- The value of a decimal digit of any script. -/
def digitValue? (c : Char) : Option Nat :=
  let n := c.toNat
  if n < 128 then if isAsciiDigit c then some (n - 48) else none
  else (zeroDigits.find? fun z => z ≤ n && n ≤ z + 9).map fun z => n - z

/-- A decimal digit of any script. -/
def isDecimal (c : Char) : Bool := (digitValue? c).isSome

/-- A digit of any kind, superscripts and circled digits included. -/
def isDigit (c : Char) : Bool := isDecimal c || inRanges specialDigitRanges c.toNat

/-- The value of a hexadecimal digit. -/
def hexValue (c : Char) : Nat :=
  if isAsciiDigit c then c.toNat - 48
  else if 'a' ≤ c && c ≤ 'f' then c.toNat - 87
  else c.toNat - 55

/-- The number that digits of a base spell, the most significant first. -/
def ofDigits (base : Nat) (digits : List Nat) : Nat :=
  digits.foldl (fun n d => n * base + d) 0

/-- The greatest number of decimal digits that an integer may be written or read with. -/
def maxDigits : Nat := 4300

/-- Why a text is no integer. -/
inductive IntegerFault where
  /-- Something else than a sign and digits stands there. -/
  | malformed
  /-- There are more digits than an integer may be read with. -/
  | tooLong (digits : Nat)
  deriving DecidableEq, Repr

/-- A blank that may surround a number: the ASCII separators are none. -/
def isNumberBlank (c : Char) : Bool := isBlank c && !(28 ≤ c.toNat && c.toNat ≤ 31)

/-- The leading digits of a base, with single underscores between them, and what follows; nothing
if an underscore stands anywhere else. -/
def takeDigits (value? : Char → Option Nat) (afterDigit : Bool) :
    List Char → Option (List Nat × List Char)
  | [] => some ([], [])
  | c :: s =>
    if c == '_' then
      match s with
      | d :: _ => if afterDigit && (value? d).isSome then takeDigits value? false s else none
      | [] => none
    else
      match value? c with
      | none => some ([], c :: s)
      | some v => (takeDigits value? true s).map fun (ds, rest) => (v :: ds, rest)

/-- The value of a digit in a base up to sixteen. -/
def baseDigit? (base : Nat) (c : Char) : Option Nat :=
  if isHexDigit c && hexValue c < base then some (hexValue c) else none

/-- Read an integer: blanks, a sign, decimal digits of any script with single underscores between
them, blanks. -/
def readInteger (s : List Char) : Except IntegerFault Int :=
  let s := s.dropWhile isNumberBlank
  let (negative, s) :=
    match s with
    | '-' :: r => (true, r)
    | '+' :: r => (false, r)
    | r => (false, r)
  match takeDigits digitValue? false s with
  | none => .error .malformed
  | some (digits, rest) =>
    if digits.isEmpty then .error .malformed
    else if digits.length > maxDigits then .error (.tooLong digits.length)
    else if rest.all isNumberBlank then
      let n : Int := ofDigits 10 digits
      .ok (if negative then -n else n)
    else .error .malformed

end DocAudit.Text
