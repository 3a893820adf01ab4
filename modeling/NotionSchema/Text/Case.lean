import NotionSchema.Text.Alphanumeric
import NotionSchema.Text.Case.Table

namespace NotionSchema.Text

def CaseRun.moved? (r : CaseRun) (n : Nat) : Option Nat :=
  if r.1 ≤ n && n ≤ r.2.1 && (n - r.1) % r.2.2.1 == 0 then some ((n : Int) + r.2.2.2).toNat
  else none

def moveBy (runs : List CaseRun) (c : Char) : Char :=
  Char.ofNat ((runs.findSome? (·.moved? c.toNat)).getD c.toNat)

def lowerChar (c : Char) : List Char :=
  if c.toNat < 0x80 then [c.toLower]
  else if c = '\u0130' then ['i', '\u0307']
  else [moveBy lowerRuns c]

def upperChar (c : Char) : List Char :=
  if c.toNat < 0x80 then [c.toUpper]
  else match upperExpansions.lookup c.toNat with
    | some codes => codes.map Char.ofNat
    | none => [moveBy upperRuns c]

def isCased (c : Char) : Bool :=
  if c.toNat < 0x80 then isAsciiLetter c else covered casedRanges c

def isCaseIgnorable (c : Char) : Bool :=
  if c.toNat < 0x80 then ['\x27', '.', ':', '^', '\x60'].contains c
  else covered caseIgnorableRanges c

/-- A letter with case comes next, when the characters that case ignores are passed over. -/
def meetsCased (s : List Char) : Bool :=
  match s.dropWhile isCaseIgnorable with
  | [] => false
  | c :: _ => isCased c

/-- The capital sigma is final when a letter stands before it and none after it. -/
def lowerSigma (before after : List Char) : Char :=
  if meetsCased before && !meetsCased after then 'ς' else 'σ'

/-- `before` is what was read already, the nearest character first. -/
def lowerFrom (before : List Char) : List Char → List Char
  | [] => []
  | c :: rest =>
    (if c = 'Σ' then [lowerSigma before rest] else lowerChar c) ++ lowerFrom (c :: before) rest

def lower (s : String) : String := String.ofList (lowerFrom [] s.toList)

/-- Both texts have one lower-case form. -/
def sameIgnoringCase (s t : String) : Bool := lower s == lower t

end NotionSchema.Text
