/-! # Decimal text of binary fractions

A double is written with the fewest digits that are nearer to it than to any other double. The
search is exact: the doubles and the decimal grids are compared as whole numbers. -/

namespace GrammarArtifact.Decimal

/-- The positive number `numerator / denominator` and the distances, in the same unit, down and up
to the ends of the interval of the reals that round to it. -/
structure Rounding where
  numerator : Nat
  denominator : Nat
  below : Nat
  above : Nat
  closed : Bool

/-- The rounding interval of a positive finite double. Its lower half is shorter where the
exponent changes, and its ends belong to it if the significand is even. -/
def Rounding.ofFloat (x : Float) : Rounding :=
  let bits := x.toBits.toNat % 0x8000000000000000
  let fraction := bits % 0x10000000000000
  let exponent := bits / 0x10000000000000
  let significand := if exponent = 0 then fraction else fraction + 0x10000000000000
  let power : Int := Int.ofNat (max exponent 1) - 1077
  let unit := Nat.pow 2 power.toNat
  { numerator := 4 * significand * unit
    denominator := Nat.pow 2 (-power).toNat
    below := (if fraction = 0 ∧ exponent > 1 then 1 else 2) * unit
    above := 2 * unit
    closed := significand % 2 = 0 }

/-- A decimal number `digits · 10 ^ exponent`. -/
structure Digits where
  digits : Nat
  exponent : Int

/-- The multiple of `10 ^ exponent` nearest to the number, if it lies in the interval. -/
def Rounding.onGrid? (r : Rounding) (exponent : Int) : Option Digits :=
  let scale := Nat.pow 10 (-exponent).toNat
  let step := r.denominator * Nat.pow 10 exponent.toNat
  let value := r.numerator * scale
  let down := value / step
  let fits (k : Nat) : Bool :=
    let lo := (r.numerator - r.below) * scale
    let hi := (r.numerator + r.above) * scale
    if r.closed then lo ≤ k * step && k * step ≤ hi else lo < k * step && k * step < hi
  let nearUp := 2 * (value - down * step) > step
  let choices := if nearUp then [down + 1, down] else [down, down + 1]
  (choices.find? fun k => k > 0 && fits k).map fun k => ⟨k, exponent⟩

/-- The exponent of the first digit of the number. -/
def Rounding.magnitude (r : Rounding) : Int :=
  ((Nat.toDigits 10 (r.numerator * Nat.pow 10 400 / r.denominator)).length : Int) - 401

/-- The coarsest decimal grid that has a point in the interval, and that point. Seventeen digits
tell any two doubles apart. -/
def Rounding.shortest (r : Rounding) : Digits :=
  let grids := (List.range 18).map fun n => r.magnitude + 1 - Int.ofNat n
  (grids.findSome? r.onGrid?).getD ⟨0, 0⟩

/-- The text of a decimal number. Numbers of more than sixteen digits before the point, or with
more than four zeros after it, are written with an exponent, which always has a sign. -/
def Digits.text (d : Digits) : String :=
  let digits := (Nat.toDigits 10 d.digits)
  let zeros (n : Int) : List Char := List.replicate n.toNat '0'
  let count : Int := digits.length
  let point := count + d.exponent
  String.ofList <|
    if 0 ≤ d.exponent ∧ point ≤ 16 then digits ++ zeros d.exponent ++ ['.', '0']
    else if 0 < point ∧ point ≤ 16 then
      digits.take point.toNat ++ ['.'] ++ digits.drop point.toNat
    else if -5 < point ∧ point ≤ 0 then ['0', '.'] ++ zeros (-point) ++ digits
    else
      let tail := digits.drop 1
      let mark := if 0 < point then ['e', '+'] else ['e', '-']
      digits.take 1 ++ (if tail.isEmpty then [] else '.' :: tail) ++ mark ++
        Nat.toDigits 10 (point - 1).natAbs

def ofFloat (x : Float) : String :=
  let sign := if x.toBits.toNat < 0x8000000000000000 then "" else "-"
  let size := if x == 0.0 then "0.0" else (Rounding.ofFloat x).shortest.text
  sign ++ size

end GrammarArtifact.Decimal
