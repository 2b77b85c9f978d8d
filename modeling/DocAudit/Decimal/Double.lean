import DocAudit.Text.Numeral

/-!
# Double-precision numbers

A floating-point number given by its 64 bits, its exact value `± m · 2 ^ q`, and the nearest such
number to a decimal fraction, ties going to the even significand.
-/

namespace DocAudit.Decimal

/-- A double-precision floating-point number, given by its bits. -/
structure Double where
  bits : UInt64
  deriving DecidableEq, Repr, Inhabited

namespace Double

/-- Whether the sign bit is set. -/
def isNegative (x : Double) : Bool := x.bits.toNat / Nat.pow 2 63 == 1

/-- The eleven bits of the exponent. -/
def exponentField (x : Double) : Nat := x.bits.toNat / Nat.pow 2 52 % Nat.pow 2 11

/-- The fifty-two bits of the fraction. -/
def fractionField (x : Double) : Nat := x.bits.toNat % Nat.pow 2 52

/-- Neither infinite nor a NaN. -/
def isFinite (x : Double) : Bool := x.exponentField != 2047

/-- No number. -/
def isNaN (x : Double) : Bool := x.exponentField == 2047 && x.fractionField != 0

/-- The significand `m` of the magnitude `m · 2 ^ q` of a finite number. -/
def significand (x : Double) : Nat :=
  if x.exponentField == 0 then x.fractionField else Nat.pow 2 52 + x.fractionField

/-- The exponent `q` of the magnitude `m · 2 ^ q` of a finite number. -/
def exponent (x : Double) : Int :=
  if x.exponentField == 0 then -1074 else (x.exponentField : Int) - 1075

/-- Positive infinity. -/
def infinity : Double := ⟨0x7ff0000000000000⟩

/-- The NaN that a file can spell. -/
def nan : Double := ⟨0x7ff8000000000000⟩

/-- Positive zero. -/
def zero : Double := ⟨0⟩

/-- The number with the opposite sign. -/
def negate (x : Double) : Double := ⟨x.bits ^^^ 0x8000000000000000⟩

/-- The number as a machine float, for arithmetic. -/
def toFloat (x : Double) : Float := Float.ofBits x.bits

/-- The number of a machine float. -/
def ofFloat (x : Float) : Double := ⟨x.toBits⟩

/-- The value if the number is an integer. -/
def toInt? (x : Double) : Option Int :=
  if !x.isFinite then none
  else
    let m := x.significand
    let magnitude? : Option Nat :=
      if x.exponent ≥ 0 then some (m * Nat.pow 2 x.exponent.toNat)
      else
        let d := Nat.pow 2 (-x.exponent).toNat
        if m % d == 0 then some (m / d) else none
    magnitude?.map fun n => if x.isNegative then -(n : Int) else n

/-- `num / den` rounded to the nearest integer, ties to even. -/
def roundDiv (num den : Nat) : Nat :=
  let n := num / den
  let r := num % den
  if 2 * r > den || (2 * r == den && n % 2 == 1) then n + 1 else n

/-- The positive number nearest to `num / den`. -/
def nearest (num den : Nat) : Double :=
  if num == 0 then zero
  else
    -- `2 ^ k ≤ num / den < 2 ^ (k + 1)` holds for `k` or `k - 1`
    let guess : Int := (num.log2 : Int) - (den.log2 : Int)
    let reaches (k : Int) : Bool :=
      if k ≥ 0 then decide (den * Nat.pow 2 k.toNat ≤ num)
      else decide (den ≤ num * Nat.pow 2 (-k).toNat)
    let top := if reaches guess then guess else guess - 1
    let q := max (top - 52) (-1074)
    let m :=
      if q ≥ 0 then roundDiv num (den * Nat.pow 2 q.toNat)
      else roundDiv (num * Nat.pow 2 (-q).toNat) den
    -- a significand of `2 ^ 53` carries into the exponent by itself
    if m < Nat.pow 2 52 then ⟨UInt64.ofNat m⟩
    else
      let field := (q + 1074).toNat * Nat.pow 2 52 + m
      if field ≥ 2047 * Nat.pow 2 52 then infinity else ⟨UInt64.ofNat field⟩

/-- The positive number nearest to `digits · 10 ^ e`. -/
def ofDecimal (digits : Nat) (e : Int) : Double :=
  if digits == 0 then zero
  else
    let size := e + ((toString digits).length : Int)
    if size > 400 then infinity
    else if size < -400 then zero
    else if e ≥ 0 then nearest (digits * Nat.pow 10 e.toNat) 1
    else nearest digits (Nat.pow 10 (-e).toNat)

end Double

open Text

/-- Read the unsigned part of a number: digits with an optional point and an optional exponent, or
one of the words for infinity and NaN. -/
def readMagnitude (s : List Char) : Option Double :=
  let word := s.map fun c => if 'A' ≤ c && c ≤ 'Z' then Char.ofNat (c.toNat + 32) else c
  if word == "inf".toList || word == "infinity".toList then some Double.infinity
  else if word == "nan".toList then some Double.nan
  else
    match takeDigits digitValue? false s with
    | none => none
    | some (whole, rest) =>
      let fraction? : Option (List Nat × List Char) :=
        match rest with
        | '.' :: r => takeDigits digitValue? false r
        | r => some ([], r)
      match fraction? with
      | none => none
      | some (fraction, rest) =>
        if whole.isEmpty && fraction.isEmpty then none
        else
          let value (e : Int) :=
            Double.ofDecimal (ofDigits 10 (whole ++ fraction)) (e - fraction.length)
          match rest with
          | [] => some (value 0)
          | c :: r =>
            if c == 'e' || c == 'E' then
              let (negative, r) :=
                match r with
                | '-' :: t => (true, t)
                | '+' :: t => (false, t)
                | t => (false, t)
              match takeDigits digitValue? false r with
              | some (ds, []) =>
                if ds.isEmpty then none
                else
                  let e : Int := ofDigits 10 ds
                  some (value (if negative then -e else e))
              | _ => none
            else none

/-- Read a number with an optional sign, blanks allowed around it. -/
def readDouble (s : List Char) : Option Double :=
  match dropTrailing isNumberBlank (s.dropWhile isNumberBlank) with
  | '-' :: r => (readMagnitude r).map Double.negate
  | '+' :: r => readMagnitude r
  | r => readMagnitude r

end DocAudit.Decimal
