import NotionSchema.Url.Ipv4

namespace NotionSchema.Ipv6

/-- The text before and after the first two colons in a row. -/
def splitGap : List Char → List Char × Option (List Char)
  | [] => ([], none)
  | ':' :: ':' :: rest => ([], some rest)
  | c :: rest => (c :: (splitGap rest).1, (splitGap rest).2)

def piece? (s : List Char) : Option Nat :=
  if s.isEmpty || 4 < s.length then none else Ipv4.readDigits? 16 0 s

/-- A decimal byte without needless zeros. -/
def byte? : List Char → Option Nat
  | [] => none
  | ['0'] => some 0
  | '0' :: _ => none
  | s => if s.length ≤ 3 then (Ipv4.readDigits? 10 0 s).filter (· < 256) else none

def bytes? (s : List Char) : Option (List Nat) := do
  match ← (s.splitOn '.').mapM byte? with
  | [a, b, c, d] => some [256 * a + b, 256 * c + d]
  | _ => none

/-- Groups between single colons. Only the last may be decimal bytes, and only if `decimals`. -/
def groups? (decimals : Bool) : List (List Char) → Option (List Nat)
  | [] => some []
  | [s] => if decimals && s.contains '.' then bytes? s else (piece? s).map ([·])
  | s :: rest => do
    let n ← piece? s
    let others ← groups? decimals rest
    some (n :: others)

def pieces? (decimals : Bool) (s : List Char) : Option (List Nat) :=
  if s.isEmpty then some [] else groups? decimals (s.splitOn ':')

def parse? (s : List Char) : Option (List Nat) := do
  match splitGap s with
  | (all, none) =>
    let pieces ← pieces? true all
    if pieces.length = 8 then some pieces else none
  | (before, some after) =>
    let front ← pieces? false before
    let back ← pieces? true after
    if front.length + back.length ≤ 7 then
      some (front ++ List.replicate (8 - front.length - back.length) 0 ++ back)
    else none

def zeroRun (pieces : List Nat) : Nat := (pieces.takeWhile (· == 0)).length

/-- Where the first of the longest runs of zeros starts, and how long it is. -/
def longestZeroRun : List Nat → Nat × Nat
  | [] => (0, 0)
  | n :: rest =>
    let here := zeroRun (n :: rest)
    let (start, length) := longestZeroRun rest
    if length ≤ here then (0, here) else (start + 1, length)

def pieceText (n : Nat) : String := String.ofList (Nat.toDigits 16 n)

def piecesText (pieces : List Nat) : String := ":".intercalate (pieces.map pieceText)

/-- A run of at least two zeros is left out. -/
def text (pieces : List Nat) : String :=
  let (start, length) := longestZeroRun pieces
  if length < 2 then piecesText pieces
  else piecesText (pieces.take start) ++ "::" ++ piecesText (pieces.drop (start + length))

end NotionSchema.Ipv6
