import NotionSchema.Text.CodeTable
import NotionSchema.Url.Domain.Table

namespace NotionSchema.Domain

/-- Every `step`-th code point from `first` to `last`, the first of which moves to `image`. -/
structure Shift where
  first : Nat
  last : Nat
  step : Nat
  image : Nat

namespace Shift

def ofRow? : List Nat → Option Shift
  | [first, last, step, image] => some ⟨first, last, step, image⟩
  | _ => none

def move? (r : Shift) (n : Nat) : Option (List Nat) :=
  if r.first ≤ n && n ≤ r.last && (n - r.first) % r.step == 0 then some [r.image + (n - r.first)]
  else none

end Shift

def shifts : List Shift := (Text.rows shiftRows).filterMap Shift.ofRow?

def images : List (List Nat) := Text.rows imageRows

def expansions : List (List Nat) := Text.rows expansionRows

def ignored : List Text.CodeRange := Text.ranges ignoredRows

def disallowed : List Text.CodeRange := Text.ranges disallowedRows

def neighbourImage? (n : Nat) : List Nat → Option (List Nat)
  | [] => none
  | first :: codes => if first ≤ n then (codes[n - first]?).map ([·]) else none

def expansion? (n : Nat) : List Nat → Option (List Nat)
  | [] => none
  | code :: codes => if code = n then some codes else none

/-- What a code point above U+007F becomes, if it does not stay or vanish. -/
def image? (n : Nat) : Option (List Nat) :=
  (shifts.findSome? (·.move? n)) <|> (images.findSome? (neighbourImage? n)) <|>
    (expansions.findSome? (expansion? n))

def mapChar? (c : Char) : Option (List Char) :=
  if c.toNat < 0x80 then some [c.toLower]
  else if Text.covered disallowed c then none
  else if Text.covered ignored c then some []
  else some (((image? c.toNat).getD [c.toNat]).map Char.ofNat)

def map? (s : List Char) : Option (List Char) := (s.mapM mapChar?).map List.flatten

def isStable (c : Char) : Bool := mapChar? c == some [c]

end NotionSchema.Domain
