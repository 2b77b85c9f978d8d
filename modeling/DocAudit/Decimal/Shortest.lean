import DocAudit.Decimal.Double

/-!
# The shortest decimal text of a number

Of all decimal fractions that are nearer to a number than to any other, the one with the fewest
digits is written, and of those the one nearest to the number.
-/

namespace DocAudit.Decimal

/-- A decimal fraction `digits · 10 ^ exponent`. -/
structure Fraction where
  digits : Nat
  exponent : Int
  deriving DecidableEq, Repr

/-- The decimal fraction without zeros at its end, by a count that bounds their number. -/
def Fraction.strip : Nat → Fraction → Fraction
  | 0, f => f
  | k + 1, f =>
    if f.digits != 0 && f.digits % 10 == 0 then Fraction.strip k ⟨f.digits / 10, f.exponent + 1⟩
    else f

/-- Where a positive value stands: the open or closed interval of reals that round to it. All three
points are numerators over the common denominator `den`. -/
structure Rounding where
  low : Nat
  mid : Nat
  high : Nat
  den : Nat
  closed : Bool

/-- The reals that round to `m · 2 ^ q`. -/
def Rounding.ofBinary (m : Nat) (q : Int) : Rounding :=
  let low := if m == Nat.pow 2 52 && q > -1074 then 4 * m - 1 else 4 * m - 2
  let p := q - 2
  let scale := if p ≥ 0 then Nat.pow 2 p.toNat else 1
  let den := if p ≥ 0 then 1 else Nat.pow 2 (-p).toNat
  ⟨low * scale, 4 * m * scale, (4 * m + 2) * scale, den, m % 2 == 0⟩

/-- Whether `d · 10 ^ e` lies in the interval. -/
def Rounding.holds (r : Rounding) (d : Nat) (e : Int) : Bool :=
  let x := if e ≥ 0 then d * Nat.pow 10 e.toNat * r.den else d * r.den
  let scale := if e ≥ 0 then 1 else Nat.pow 10 (-e).toNat
  if r.closed then r.low * scale ≤ x && x ≤ r.high * scale
  else r.low * scale < x && x < r.high * scale

/-- The multiple of `10 ^ e` in the interval that is nearest to the value, if there is one. -/
def Rounding.onGrid? (r : Rounding) (e : Int) : Option Fraction :=
  let num := if e ≥ 0 then r.mid else r.mid * Nat.pow 10 (-e).toNat
  let den := if e ≥ 0 then r.den * Nat.pow 10 e.toNat else r.den
  let d := num / den
  let below := r.holds d e
  let above := r.holds (d + 1) e
  if below && above then
    let rest := num % den
    some ⟨if 2 * rest < den || (2 * rest == den && d % 2 == 0) then d else d + 1, e⟩
  else if below then some ⟨d, e⟩
  else if above then some ⟨d + 1, e⟩
  else none

/-- The exponent of the first digit of the value, by a count that bounds how small it is. -/
def Rounding.magnitude (r : Rounding) : Int :=
  if r.mid ≥ r.den then ((toString (r.mid / r.den)).length : Int) - 1
  else
    match (List.range 400).find? fun j => r.mid * Nat.pow 10 j ≥ r.den with
    | some j => -(j : Int)
    | none => -400

/-- The shortest decimal fraction that rounds to the positive number `m · 2 ^ q`. -/
def shortest (m : Nat) (q : Int) : Fraction :=
  let r := Rounding.ofBinary m q
  let top := r.magnitude
  match (List.range 18).findSome? fun (k : Nat) => r.onGrid? (top - (k : Int)) with
  | some f => f.strip 20
  | none => ⟨0, 0⟩

/-- How a number is written: from which and below which exponent of the first digit without an
exponent. -/
structure NumberFormat where
  leastPlain : Int
  greatestPlain : Int
  exponentWidth : Nat

/-- Numbers from `0.0001` up to below `10 ^ 16` are written without an exponent, others with one of
at least two digits. -/
def plainFormat : NumberFormat := ⟨-4, 15, 2⟩

/-- The text of an exponent with its sign. -/
def exponentText (width : Nat) (e : Int) : List Char :=
  let ds := (toString e.natAbs).toList
  (if e < 0 then '-' else '+') :: (List.replicate (width - ds.length) '0' ++ ds)

/-- The text of a positive decimal fraction. -/
def Fraction.render (fmt : NumberFormat) (f : Fraction) : List Char :=
  let ds := (toString f.digits).toList
  let first := f.exponent + (ds.length : Int) - 1
  if fmt.leastPlain ≤ first && first ≤ fmt.greatestPlain then
    if f.exponent ≥ 0 then ds ++ List.replicate f.exponent.toNat '0' ++ ['.', '0']
    else if first ≥ 0 then ds.take (first.toNat + 1) ++ '.' :: ds.drop (first.toNat + 1)
    else '0' :: '.' :: (List.replicate (-first - 1).toNat '0' ++ ds)
  else
    let body :=
      match ds with
      | [] => []
      | [d] => [d]
      | d :: rest => d :: '.' :: rest
    body ++ 'e' :: exponentText fmt.exponentWidth first

/-- The text of a number. -/
def Double.render (x : Double) : String :=
  if x.isNaN then "nan"
  else
    let magnitude : List Char :=
      if !x.isFinite then ['i', 'n', 'f']
      else if x.significand == 0 then ['0', '.', '0']
      else (shortest x.significand x.exponent).render plainFormat
    String.ofList (if x.isNegative then '-' :: magnitude else magnitude)

end DocAudit.Decimal
