import GrammarArtifact.Json.Reader
import GrammarArtifact.Text.Decimal

/-! # Numbers

A numeral is scanned digit by digit and valued afterwards. Whole numbers keep their value as long
as their size fits 64 bits; any other numeral is a double: the digits that fit 64 bits make a
significand and the rest only moves the exponent. -/

namespace GrammarArtifact.Json

inductive Number where
  | whole (n : Int)
  | double (x : Float)

/-- How messages speak of a number. -/
def Number.found : Number → Found
  | .whole n => .integer n
  | .double x => .decimal (Decimal.ofFloat x)

namespace Number

/-- A significand of at most 64 bits and a power of ten. -/
structure Scaled where
  significand : Nat
  exponent : Int

/-- One more digit behind the significand, if it still fits 64 bits. -/
def push? (significand digit : Nat) : Option Nat :=
  let longer := 10 * significand + digit
  if longer < 0x10000000000000000 then some longer else none

/-- The digits before the point. From the first that does not fit, each multiplies by ten. -/
def wholeDigits (significand : Nat) : List Nat → Scaled
  | [] => ⟨significand, 0⟩
  | d :: rest =>
    match push? significand d with
    | some longer => wholeDigits longer rest
    | none => ⟨significand, rest.length + 1⟩

/-- The digits behind the point. From the first that does not fit, none counts. -/
def fractionDigits (start : Scaled) : List Nat → Scaled
  | [] => start
  | d :: rest =>
    match push? start.significand d with
    | some longer => fractionDigits ⟨longer, start.exponent - 1⟩ rest
    | none => start

/-- A power of ten, for exponents of at most 308. -/
def powerOfTen (exponent : Nat) : Float := Float.ofScientific 1 false exponent

/-- The double next to a scaled significand; none if it is beyond all of them. A significand that
is divided by ten to the 616 is zero. -/
def Scaled.toFloat? (s : Scaled) : Option Float :=
  let x := (UInt64.ofNat s.significand).toFloat
  if 0 ≤ s.exponent then
    if 308 < s.exponent then if s.significand = 0 then some 0.0 else none
    else
      let y := x * powerOfTen s.exponent.toNat
      if y.isInf then none else some y
  else
    let down := (-s.exponent).toNat
    some <|
      if down ≤ 308 then x / powerOfTen down
      else if down ≤ 616 then x / powerOfTen 308 / powerOfTen (down - 308)
      else 0.0

def signed (negative : Bool) (x : Float) : Number := .double (if negative then -x else x)

/-- A whole numeral that fits 64 bits. Below zero the last bit is the sign, and zero with a sign is
no whole number. -/
def ofWhole (negative : Bool) (n : Nat) : Number :=
  if !negative then .whole n
  else if 0 < n ∧ n ≤ 0x8000000000000000 then .whole (-n)
  else signed true (UInt64.ofNat n).toFloat

/-- The exponent that digits write, or how many of them it takes to leave 31 bits. -/
def exponentDigits (value taken : Nat) : List Nat → Except Nat Nat
  | [] => .ok value
  | d :: rest =>
    let longer := 10 * value + d
    if longer < 0x80000000 then exponentDigits longer (taken + 1) rest else .error (taken + 1)

end Number

namespace Reader

def digit? (c : Char) : Option Nat := if c.isDigit then some (c.toNat - '0'.toNat) else none

def digits : Reader (List Nat) := do
  let here ← get
  let taken := here.rest.takeWhile Char.isDigit
  set (Cursor.mk (here.rest.drop taken.length) (here.offset + taken.length))
  return taken.filterMap digit?

/-- Takes the digits before the point: a zero stands alone. -/
def wholePart (atEnd : Problem) : Reader (List Nat) := do
  match ← peek? with
  | none => fail atEnd
  | some '0' => do
    skip
    match ← peek? with
    | some c => if c.isDigit then failAhead .badNumber else return [0]
    | none => return [0]
  | some c => if c.isDigit then digits else failAhead .badNumber

/-- Takes the sign of an exponent and tells whether it is a minus. -/
def exponentSign : Reader Bool := do
  match ← peek? with
  | some '+' => do skip; return false
  | some '-' => do skip; return true
  | _ => return false

def exponentNext : Reader Bool := do
  let next ← peek?
  return next == some 'e' || next == some 'E'

def exponentPart (negative : Bool) (start : Number.Scaled) : Reader Number := do
  skip
  let down ← exponentSign
  let before := (← get).offset
  match ← peek? with
  | none => fail .endInValue
  | some c => if c.isDigit then pure () else failAhead .badNumber
  match Number.exponentDigits 0 0 (← digits) with
  | .ok n =>
    let scaled := { start with exponent := start.exponent + (if down then -(n : Int) else n) }
    match scaled.toFloat? with
    | some x => return .signed negative x
    | none => fail .numberTooLarge
  | .error taken =>
    if start.significand ≠ 0 && !down then
      throw (.placed .numberTooLarge (before + taken))
    else return .signed negative 0.0

/-- Takes the rest of a numeral that is no whole number. -/
def doubleRest (negative : Bool) (start : Number.Scaled) : Reader Number := do
  if ← exponentNext then exponentPart negative start
  else
    match start.toFloat? with
    | some x => return .signed negative x
    | none => fail .numberTooLarge

/-- Reads a numeral behind its sign. -/
def number (negative : Bool) : Reader Number := do
  let start := Number.wholeDigits 0 (← wholePart .endInValue)
  match ← peek? with
  | some '.' => do
    skip
    let fraction ← digits
    if fraction.isEmpty then
      if (← peek?).isNone then fail .endInValue else failAhead .badNumber
    else doubleRest negative (Number.fractionDigits start fraction)
  | _ =>
    if start.exponent = 0 && !(← exponentNext) then return .ofWhole negative start.significand
    else doubleRest negative start

/-- Passes over a numeral that nobody asks for. Its form is checked and its size is not. -/
def skipNumber : Reader Unit := do
  let _ ← wholePart .badNumber
  if (← peek?) == some '.' then do
    skip
    if (← digits).isEmpty then failAhead .badNumber
  if ← exponentNext then do
    skip
    let _ ← exponentSign
    if (← peek?).any Char.isDigit then do
      let _ ← digits
    else failAhead .badNumber

end Reader
end GrammarArtifact.Json
