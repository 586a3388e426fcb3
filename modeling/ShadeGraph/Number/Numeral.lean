import ShadeGraph.Number.Shortest

/-!
# Numerals

How a double is written: the shortest digits that read back, laid out in
positional or in exponent form.
-/

namespace ShadeGraph

structure NumeralStyle where
  /-- The least and greatest `Decimal.point` written in positional form. -/
  leastPoint : Int
  greatestPoint : Int
  exponentMark : String
  positiveExponent : String
  notANumber : String
  infinity : String
  negativeZero : String

/-- Positional from 1e-6 to below 1e21; a zero has no sign. -/
def NumeralStyle.plain : NumeralStyle where
  leastPoint := -5
  greatestPoint := 21
  exponentMark := "e"
  positiveExponent := "+"
  notANumber := "NaN"
  infinity := "Infinity"
  negativeZero := "0"

namespace Decimal

def positional (d : Decimal) : String :=
  if d.point ≤ 0 then
    "0." ++ String.ofList (List.replicate (-d.point).toNat '0' ++ d.digits)
  else
    let whole := d.digits.take d.point.toNat
    let fraction := d.digits.drop d.point.toNat
    let zeros := List.replicate (d.point.toNat - d.digits.length) '0'
    String.ofList (whole ++ zeros) ++
      if fraction.isEmpty then "" else "." ++ String.ofList fraction

def exponential (style : NumeralStyle) (d : Decimal) : String :=
  let exponent := d.point - 1
  String.ofList (d.digits.take 1) ++
    (if d.digits.length ≤ 1 then "" else "." ++ String.ofList (d.digits.drop 1)) ++
    style.exponentMark ++ (if 0 ≤ exponent then style.positiveExponent else "-") ++
    toString exponent.natAbs

end Decimal

def NumeralStyle.write (style : NumeralStyle) : Binary → String
  | .notANumber => style.notANumber
  | .infinite negative => (if negative then "-" else "") ++ style.infinity
  | .finite negative m q =>
    if m = 0 then if negative then style.negativeZero else "0"
    else
      let d := Decimal.shortest m q
      (if negative then "-" else "") ++
        if style.leastPoint ≤ d.point ∧ d.point ≤ style.greatestPoint then d.positional
        else d.exponential style

/-- The text of a double inside messages and printed trees. -/
def Double.text (x : Float) : String := NumeralStyle.plain.write (Binary.ofFloat x)

example : NumeralStyle.plain.write (.finite true 1 (-1)) = "-0.5" := by decide +kernel
example : NumeralStyle.plain.write (.finite false 1 0) = "1" := by decide +kernel
example : NumeralStyle.plain.write (.finite false 1 (-1074)) = "5e-324" := by decide +kernel
example : NumeralStyle.plain.write (.finite false (5 ^ 22) 22) = "1e+22" := by decide +kernel

end ShadeGraph
