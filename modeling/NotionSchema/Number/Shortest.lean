import NotionSchema.Number.Binary64

namespace NotionSchema

structure Decimal where
  coefficient : Nat
  exponent : Int
deriving DecidableEq, Repr

inductive Tie where
  | toEven
  | up
deriving DecidableEq, Repr

namespace Decimal

def stripZeros (coefficient : Nat) (exponent : Int) : Decimal :=
  if _h : coefficient % 10 = 0 ∧ coefficient ≠ 0 then
    stripZeros (coefficient / 10) (exponent + 1)
  else ⟨coefficient, exponent⟩
termination_by coefficient
decreasing_by omega

def digitCount (n : Nat) : Nat := (Nat.toDigits 10 n).length

def orderOf (num den : Nat) : Int :=
  if den ≤ num then (digitCount (num / den) : Int) - 1
  else
    let k := digitCount (den / num)
    if den = num * Nat.pow 10 (k - 1) then 1 - (k : Int) else -(k : Int)

/-- The fractions that round to one double, over a common denominator. -/
structure Neighbourhood where
  low : Nat
  centre : Nat
  high : Nat
  den : Nat
  closed : Bool

def Neighbourhood.scale (s : Neighbourhood) (n : Nat) : Neighbourhood :=
  { s with low := s.low * n, centre := s.centre * n, high := s.high * n }

def Neighbourhood.holds (s : Neighbourhood) (n : Nat) : Bool :=
  if s.closed then s.low ≤ n && n ≤ s.high else s.low < n && n < s.high

/-- Below a power of two the neighbours lie half as far apart as above it. -/
def neighbourhood (x : Binary64) : Neighbourhood :=
  let m := x.significand
  let narrow := m = Binary64.hiddenBit ∧ x.exponent > -1074
  let s : Neighbourhood :=
    { low := 4 * m - (if narrow then 1 else 2), centre := 4 * m, high := 4 * m + 2, den := 1,
      closed := m % 2 == 0 }
  let e := x.exponent - 2
  if 0 ≤ e then s.scale (Nat.pow 2 e.toNat) else { s with den := Nat.pow 2 (-e).toNat }

/-- The nearest multiple of `10 ^ exponent` in the neighbourhood, as the multiplier. -/
def nearestMultiple? (tie : Tie) (s : Neighbourhood) (exponent : Int) : Option Nat :=
  let s := if 0 ≤ exponent then { s with den := s.den * Nat.pow 10 exponent.toNat }
    else s.scale (Nat.pow 10 (-exponent).toNat)
  let q := s.centre / s.den
  let r := s.centre % s.den
  match s.holds (q * s.den), s.holds ((q + 1) * s.den) with
  | false, false => none
  | true, false => some q
  | false, true => some (q + 1)
  | true, true =>
    if 2 * r < s.den then some q
    else if s.den < 2 * r then some (q + 1)
    else match tie with
      | .toEven => some (q + q % 2)
      | .up => some (q + 1)

/-- Seventeen digits are always enough. -/
def shortest (tie : Tie) (x : Binary64) : Decimal :=
  let s := neighbourhood x
  let order := orderOf s.centre s.den
  let found := (List.range 17).findSome? fun (n : Nat) =>
    (nearestMultiple? tie s (order - n)).map fun c => stripZeros c (order - n)
  found.getD ⟨0, 0⟩

end Decimal

end NotionSchema
