namespace NotionSchema

structure Binary64 where
  bits : UInt64
deriving DecidableEq, Repr

namespace Binary64

structure Fraction where
  num : Nat
  den : Nat
deriving DecidableEq, Repr

def Fraction.mul (x y : Fraction) : Fraction := ⟨x.num * y.num, x.den * y.den⟩

def Fraction.div (x y : Fraction) : Fraction := ⟨x.num * y.den, x.den * y.num⟩

/-- `m · 2 ^ e` -/
def Fraction.scaled (m : Nat) (e : Int) : Fraction :=
  if 0 ≤ e then ⟨m * Nat.pow 2 e.toNat, 1⟩ else ⟨m, Nat.pow 2 (-e).toNat⟩

def signBit : Nat := Nat.pow 2 63

def hiddenBit : Nat := Nat.pow 2 52

def infinityBits : Nat := 0x7FF * hiddenBit

def negative (x : Binary64) : Bool := signBit ≤ x.bits.toNat

def magnitude (x : Binary64) : Nat := x.bits.toNat % signBit

def isZero (x : Binary64) : Bool := x.magnitude == 0

def isFinite (x : Binary64) : Bool := x.magnitude < infinityBits

/-- A finite number is `significand · 2 ^ exponent`, up to its sign. -/
def significand (x : Binary64) : Nat :=
  if x.magnitude / hiddenBit = 0 then x.magnitude else x.magnitude % hiddenBit + hiddenBit

def exponent (x : Binary64) : Int :=
  if x.magnitude / hiddenBit = 0 then -1074 else (x.magnitude / hiddenBit : Int) - 1075

def toFraction (x : Binary64) : Fraction := .scaled x.significand x.exponent

/-- The integer nearest to the quotient, the even one of two. -/
def roundDiv (num den : Nat) : Nat :=
  let q := num / den
  let r := num % den
  if 2 * r < den then q
  else if den < 2 * r then q + 1
  else q + q % 2

/-- The power of two that leaves 53 bits before the point, and never less than the smallest. -/
def unitExponent (x : Fraction) : Int :=
  let e : Int := (Nat.log2 x.num : Int) - (Nat.log2 x.den : Int) - 52
  let below : Bool :=
    if 0 ≤ e then x.num < x.den * Nat.pow 2 (e.toNat + 52)
    else x.num * Nat.pow 2 (-e).toNat < x.den * Nat.pow 2 52
  max (if below then e - 1 else e) (-1074)

/-- The bits of the number nearest to a fraction. Too large a fraction becomes infinite. -/
def magnitudeOf (x : Fraction) : Nat :=
  if x.num = 0 then 0 else
    let e := unitExponent x
    let m := if 0 ≤ e then roundDiv x.num (x.den * Nat.pow 2 e.toNat)
      else roundDiv (x.num * Nat.pow 2 (-e).toNat) x.den
    if m < hiddenBit then m
    else min ((e + 1074).toNat * hiddenBit + m) infinityBits

def ofFraction (negative : Bool) (x : Fraction) : Binary64 :=
  ⟨UInt64.ofNat ((if negative then signBit else 0) + magnitudeOf x)⟩

def ofNat (n : Nat) : Binary64 := ofFraction false ⟨n, 1⟩

def ofInt (n : Int) : Binary64 := ofFraction (n < 0) ⟨n.natAbs, 1⟩

def zero : Binary64 := ⟨0⟩

def neg (x : Binary64) : Binary64 := ⟨x.bits ^^^ UInt64.ofNat signBit⟩

def powerOfTen (n : Nat) : Binary64 := ofNat (Nat.pow 10 n)

def mul (x y : Binary64) : Binary64 :=
  ofFraction (x.negative != y.negative) (x.toFraction.mul y.toFraction)

def div (x y : Binary64) : Binary64 :=
  ofFraction (x.negative != y.negative) (x.toFraction.div y.toFraction)

end Binary64

end NotionSchema
