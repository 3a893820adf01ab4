import NotionSchema.Text.Canonical.Table
import NotionSchema.Text.CodeTable

namespace NotionSchema.Text

abbrev ClassRange := CodeRange × Nat

def classRangeOfRow? : List Nat → Option ClassRange
  | [first, last, k] => some ((first, last), k)
  | _ => none

def combiningClasses : List ClassRange := (rows combiningClassRows).filterMap classRangeOfRow?

/-- A character of class zero stays where it is. -/
def combiningClass (c : Char) : Nat :=
  if c.toNat < 0x300 then 0
  else ((combiningClasses.find? (·.1.covers c.toNat)).map (·.2)).getD 0

structure Composition where
  whole : Char
  left : Char
  right : Char

def compositionOfRow? : List Nat → Option Composition
  | [whole, left, right] => some ⟨Char.ofNat whole, Char.ofNat left, Char.ofNat right⟩
  | _ => none

def compositions : List Composition := (rows compositionRows).filterMap compositionOfRow?

namespace Hangul

/-- Syllables are numbered by their leading consonant, vowel and trailing consonant; the first of
the 28 trailing consonants is none. -/
def firstSyllable : Nat := 0xAC00

def syllableCount : Nat := 19 * 21 * 28

def leading (n : Nat) : Char := Char.ofNat (0x1100 + n)

def vowel (n : Nat) : Char := Char.ofNat (0x1161 + n)

def trailing (n : Nat) : Char := Char.ofNat (0x11A7 + n)

def syllable (n : Nat) : Char := Char.ofNat (firstSyllable + n)

def syllableIndex? (c : Char) : Option Nat :=
  if firstSyllable ≤ c.toNat && c.toNat < firstSyllable + syllableCount then
    some (c.toNat - firstSyllable)
  else none

def parts? (c : Char) : Option (Char × Char) :=
  (syllableIndex? c).map fun n =>
    if n % 28 = 0 then (leading (n / (21 * 28)), vowel (n / 28 % 21))
    else (syllable (n - n % 28), trailing (n % 28))

def offset? (first count : Nat) (c : Char) : Option Nat :=
  if first ≤ c.toNat && c.toNat < first + count then some (c.toNat - first) else none

def join? (left right : Char) : Option Char :=
  match offset? 0x1100 19 left, offset? 0x1161 21 right with
  | some l, some v => some (syllable ((l * 21 + v) * 28))
  | _, _ =>
    match syllableIndex? left, offset? 0x11A8 27 right with
    | some n, some t => if n % 28 = 0 then some (syllable (n + t + 1)) else none
    | _, _ => none

end Hangul

def parts? (c : Char) : Option (Char × Char) :=
  match compositions.find? (·.whole == c) with
  | some p => some (p.left, p.right)
  | none => Hangul.parts? c

def join? (left right : Char) : Option Char :=
  match compositions.find? (fun p => p.left == left && p.right == right) with
  | some p => some p.whole
  | none => Hangul.join? left right

def splitOnce (s : List Char) : List Char :=
  s.flatMap fun c =>
    match parts? c with
    | some (left, right) => [left, right]
    | none => [c]

/-- No character is composed of compositions more than three deep. -/
def decomposed (s : List Char) : List Char := splitOnce (splitOnce (splitOnce s))

/-- Puts a character behind a text that is given last character first. Marks of higher classes stay
behind it. -/
def settle (c : Char) : List Char → List Char
  | [] => [c]
  | d :: rest =>
    if 0 < combiningClass c && combiningClass c < combiningClass d then d :: settle c rest
    else c :: d :: rest

def ordered (s : List Char) : List Char := (s.foldl (fun before c => settle c before) []).reverse

/-- A text while it is composed, last character first: the marks after the last character of class
zero, that character, and what stands before it. -/
structure Composing where
  marks : List Char
  base : Option Char
  before : List Char

namespace Composing

def push (t : Composing) (c : Char) : Composing :=
  if combiningClass c = 0 then ⟨[], some c, t.marks ++ t.base.toList ++ t.before⟩
  else { t with marks := c :: t.marks }

/-- A mark of the same class, or any mark before a character of class zero, stands in the way. -/
def isBlocked (t : Composing) (c : Char) : Bool :=
  match t.marks with
  | [] => false
  | m :: _ => combiningClass c ≤ combiningClass m

def add (t : Composing) (c : Char) : Composing :=
  if t.isBlocked c then t.push c
  else match t.base.bind (join? · c) with
    | some whole => { t with base := some whole }
    | none => t.push c

def text (t : Composing) : List Char := (t.marks ++ t.base.toList ++ t.before).reverse

end Composing

def composed (s : List Char) : List Char := (s.foldl Composing.add ⟨[], none, []⟩).text

def canonical (s : List Char) : List Char := composed (ordered (decomposed s))

end NotionSchema.Text
