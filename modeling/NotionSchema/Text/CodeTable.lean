import NotionSchema.Text.Range

namespace NotionSchema.Text

def capitalHexValue (c : Char) : Nat :=
  if c.toNat < 'A'.toNat then c.toNat - '0'.toNat else c.toNat - 'A'.toNat + 10

/-- `row` holds the numbers that the current row has so far, the last one first, and `number` the
digits that were read after them. -/
def rowsFrom (row : List Nat) (number : Nat) : List Char → List (List Nat)
  | [] => if row.isEmpty && number == 0 then [] else [(number :: row).reverse]
  | c :: rest =>
    if c == ',' then rowsFrom (number :: row) 0 rest
    else if c == ' ' || c == '\n' then
      if row.isEmpty && number == 0 then rowsFrom [] 0 rest
      else (number :: row).reverse :: rowsFrom [] 0 rest
    else rowsFrom row (16 * number + capitalHexValue c) rest

def rows (text : String) : List (List Nat) := rowsFrom [] 0 text.toList

/-- Reads a row of one number as a range of one code point. -/
def rangeOfRow? : List Nat → Option CodeRange
  | [n] => some (n, n)
  | [first, last] => some (first, last)
  | _ => none

def ranges (text : String) : List CodeRange := (rows text).filterMap rangeOfRow?

end NotionSchema.Text
