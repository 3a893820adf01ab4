import NotionSchema.Number.Shortest

namespace NotionSchema

/-- How a double is written. `scientific` tells the decimal orders that take an exponent, and
`pointZero` whether a whole number gets `.0`. -/
structure DecimalStyle where
  tie : Tie
  scientific : Int → Bool
  pointZero : Bool

namespace DecimalStyle

def json : DecimalStyle := ⟨.toEven, fun order => order < -5 || 16 ≤ order, true⟩

def plain : DecimalStyle := ⟨.up, fun _ => false, false⟩

def fixedDigits (digits : List Char) (whole : Int) (pointZero : Bool) : List Char :=
  if whole ≤ 0 then '0' :: '.' :: (List.replicate (-whole).toNat '0' ++ digits)
  else if (digits.length : Int) ≤ whole then
    digits ++ List.replicate (whole.toNat - digits.length) '0' ++
      (if pointZero then ['.', '0'] else [])
  else digits.take whole.toNat ++ '.' :: digits.drop whole.toNat

def scientificDigits (digits : List Char) (order : Int) : List Char :=
  digits.take 1 ++ (if digits.length ≤ 1 then [] else '.' :: digits.drop 1) ++
    'e' :: (if order < 0 then '-' else '+') :: Nat.toDigits 10 order.natAbs

def magnitudeText (style : DecimalStyle) (x : Binary64) : List Char :=
  if x.isZero then (if style.pointZero then ['0', '.', '0'] else ['0'])
  else
    let d := Decimal.shortest style.tie x
    let digits := Nat.toDigits 10 d.coefficient
    let order := d.exponent + digits.length - 1
    if style.scientific order then scientificDigits digits order
    else fixedDigits digits (order + 1) style.pointZero

def write (style : DecimalStyle) (x : Binary64) : String :=
  String.ofList ((if x.negative then ['-'] else []) ++ style.magnitudeText x)

end DecimalStyle

namespace Binary64

def jsonText (x : Binary64) : String := DecimalStyle.json.write x

def plainText (x : Binary64) : String := DecimalStyle.plain.write x

end Binary64

end NotionSchema
