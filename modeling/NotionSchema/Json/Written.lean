import NotionSchema.Json.Basic

namespace NotionSchema

inductive WrittenJson where
  | null
  | bool (value : Bool)
  | number (value : Option JsonNumber)
  | string (value : Option String)
  | array (items : List WrittenJson)
  | object (members : List (Option String × WrittenJson))

namespace WrittenJson

def isSpace (c : Char) : Bool := c == ' ' || c == '\n' || c == '\t' || c == '\r'

def skipSpace (s : List Char) : List Char := s.dropWhile isSpace

def isDigit (c : Char) : Bool := '0' ≤ c && c ≤ '9'

def digitValue (c : Char) : Nat := c.toNat - '0'.toNat

def hexValue? (c : Char) : Option Nat :=
  if isDigit c then some (digitValue c)
  else if 'a' ≤ c && c ≤ 'f' then some (c.toNat - 'a'.toNat + 10)
  else if 'A' ≤ c && c ≤ 'F' then some (c.toNat - 'A'.toNat + 10)
  else none

def hexUnit? (a b c d : Char) : Option Nat := do
  return (((← hexValue? a) * 16 + (← hexValue? b)) * 16 + (← hexValue? c)) * 16 + (← hexValue? d)

/-- A character of a text, or a code unit that pairs with no other. -/
inductive TextPart where
  | char (c : Char)
  | unit (n : Nat)

def isLead (n : Nat) : Bool := 0xD800 ≤ n && n ≤ 0xDBFF

def isTrail (n : Nat) : Bool := 0xDC00 ≤ n && n ≤ 0xDFFF

def partOfUnit (n : Nat) : TextPart :=
  if isLead n || isTrail n then .unit n else .char (Char.ofNat n)

def plainEscape? : Char → Option Char
  | '"' => some '"'
  | '\\' => some '\\'
  | '/' => some '/'
  | 'b' => some '\x08'
  | 'f' => some '\x0c'
  | 'n' => some '\n'
  | 'r' => some '\r'
  | 't' => some '\t'
  | _ => none

/-- Reads up to the closing quote. `parts` holds what was read, the last part first. -/
def readParts (parts : List TextPart) : List Char → Option (List TextPart × List Char)
  | [] => none
  | '"' :: rest => some (parts, rest)
  | '\\' :: 'u' :: a :: b :: c :: d :: rest => do
    readParts (partOfUnit (← hexUnit? a b c d) :: parts) rest
  | '\\' :: c :: rest => do readParts (.char (← plainEscape? c) :: parts) rest
  | c :: rest => if c.toNat < 0x20 then none else readParts (.char c :: parts) rest

/-- The text that parts make, the last part first. A trailing unit needs its leading one before
it, and nothing else may stand alone. -/
def textOfParts : List TextPart → List Char → Option (List Char)
  | [], text => some text
  | .char c :: rest, text => textOfParts rest (c :: text)
  | .unit trail :: .unit lead :: rest, text =>
    if isLead lead && isTrail trail then
      textOfParts rest (Char.ofNat ((lead - 0xD800) * 0x400 + (trail - 0xDC00) + 0x10000) :: text)
    else none
  | [.unit _], _ => none
  | .unit _ :: .char _ :: _, _ => none

def readText (s : List Char) : Option (Option String × List Char) := do
  let (parts, rest) ← readParts [] s
  return ((textOfParts parts []).map String.ofList, rest)

def significandBound : Nat := Nat.pow 2 64

structure Scaled where
  significand : Nat
  exponent : Int

/-- Whole digits go into the significand while it fits. The first that does not, and all after it,
only count. -/
def wholeDigits (n : Nat) : List Char → Scaled
  | [] => ⟨n, 0⟩
  | c :: rest =>
    if n * 10 + digitValue c < significandBound then wholeDigits (n * 10 + digitValue c) rest
    else ⟨n, rest.length + 1⟩

def fractionDigits (x : Scaled) : List Char → Scaled
  | [] => x
  | c :: rest =>
    if x.significand * 10 + digitValue c < significandBound then
      fractionDigits ⟨x.significand * 10 + digitValue c, x.exponent - 1⟩ rest
    else x

/-- Scales down by powers of ten that a double holds, one rounding each. -/
def scaleDown (x : Binary64) (places : Nat) : Binary64 :=
  if places ≤ 308 then x.div (.powerOfTen places)
  else if x.isZero then x
  else scaleDown (x.div (.powerOfTen 308)) (places - 308)
termination_by places

/-- The significand is rounded first and scaled then, so two roundings may add up. Nothing stands
for a number that is too large. -/
def Scaled.toFloat? (x : Scaled) : Option Binary64 :=
  let f := Binary64.ofNat x.significand
  if x.exponent < 0 then some (scaleDown f x.exponent.natAbs)
  else if f.isZero then some f
  else if 308 < x.exponent then none
  else
    let y := f.mul (.powerOfTen x.exponent.natAbs)
    if y.isFinite then some y else none

def signed (negative : Bool) (x : Binary64) : Binary64 := if negative then x.neg else x

def integerNumber (negative : Bool) (n : Nat) : JsonNumber :=
  if !negative then .int n
  else if n = 0 || Nat.pow 2 63 < n then .float (Binary64.ofNat n).neg
  else .int (-(n : Int))

def readFraction : List Char → Option (List Char × List Char)
  | '.' :: s =>
    let digits := s.takeWhile isDigit
    if digits.isEmpty then none else some (digits, s.dropWhile isDigit)
  | s => some ([], s)

def readExponentDigits (s : List Char) : Option (Nat × List Char) :=
  let digits := s.takeWhile isDigit
  if digits.isEmpty then none
  else some (digits.foldl (fun n c => n * 10 + digitValue c) 0, s.dropWhile isDigit)

def readExponent : List Char → Option (Option Int × List Char)
  | c :: s =>
    if c = 'e' || c = 'E' then
      match s with
      | '+' :: s => (readExponentDigits s).map fun (n, rest) => (some (n : Int), rest)
      | '-' :: s => (readExponentDigits s).map fun (n, rest) => (some (-(n : Int)), rest)
      | s => (readExponentDigits s).map fun (n, rest) => (some (n : Int), rest)
    else some (none, c :: s)
  | [] => some (none, [])

def readWhole : List Char → Option (List Char × List Char)
  | '0' :: s => if (s.headD ' ' |> isDigit) then none else some (['0'], s)
  | s =>
    let digits := s.takeWhile isDigit
    if digits.isEmpty then none else some (digits, s.dropWhile isDigit)

def readMagnitude (negative : Bool) (s : List Char) : Option (Option JsonNumber × List Char) := do
  let (whole, s) ← readWhole s
  let (fraction, s) ← readFraction s
  let (exponent, s) ← readExponent s
  let x := wholeDigits 0 whole
  if fraction.isEmpty && exponent.isNone && x.exponent == 0 then
    return (some (integerNumber negative x.significand), s)
  let x := fractionDigits x fraction
  let x := { x with exponent := x.exponent + exponent.getD 0 }
  return (x.toFloat?.map fun y => .float (signed negative y), s)

def readNumber : List Char → Option (Option JsonNumber × List Char)
  | '-' :: s => readMagnitude true s
  | s => readMagnitude false s

mutual

def readValue : Nat → List Char → Option (WrittenJson × List Char)
  | 0, _ => none
  | fuel + 1, s =>
    match s with
    | 'n' :: 'u' :: 'l' :: 'l' :: rest => some (.null, rest)
    | 't' :: 'r' :: 'u' :: 'e' :: rest => some (.bool true, rest)
    | 'f' :: 'a' :: 'l' :: 's' :: 'e' :: rest => some (.bool false, rest)
    | '"' :: rest => (readText rest).map fun (text, rest) => (.string text, rest)
    | '[' :: rest =>
      match skipSpace rest with
      | ']' :: rest => some (.array [], rest)
      | rest => (readItems fuel [] rest).map fun (items, rest) => (.array items, rest)
    | '\x7b' :: rest =>
      match skipSpace rest with
      | '\x7d' :: rest => some (.object [], rest)
      | rest => (readMembers fuel [] rest).map fun (members, rest) => (.object members, rest)
    | s => (readNumber s).map fun (n, rest) => (.number n, rest)

/-- The items from here to the closing bracket. `items` holds those before, the last one first. -/
def readItems : Nat → List WrittenJson → List Char → Option (List WrittenJson × List Char)
  | 0, _, _ => none
  | fuel + 1, items, s => do
    let (v, rest) ← readValue fuel s
    match skipSpace rest with
    | ',' :: rest => readItems fuel (v :: items) (skipSpace rest)
    | ']' :: rest => some ((v :: items).reverse, rest)
    | _ => none

def readMembers : Nat → List (Option String × WrittenJson) → List Char →
    Option (List (Option String × WrittenJson) × List Char)
  | 0, _, _ => none
  | fuel + 1, members, s =>
    match s with
    | '"' :: rest => do
      let (key, rest) ← readText rest
      match skipSpace rest with
      | ':' :: rest =>
        let (v, rest) ← readValue fuel (skipSpace rest)
        match skipSpace rest with
        | ',' :: rest => readMembers fuel ((key, v) :: members) (skipSpace rest)
        | '\x7d' :: rest => some (((key, v) :: members).reverse, rest)
        | _ => none
      | _ => none
    | _ => none

end

/-- Reads one document with nothing but blanks around it. Each step of the descent reads a
character or opens an item, so twice the length is enough. -/
def read? (text : String) : Option WrittenJson := do
  let s := skipSpace text.toList
  let (v, rest) ← readValue (2 * s.length + 2) s
  if (skipSpace rest).isEmpty then some v else none

end WrittenJson

end NotionSchema
