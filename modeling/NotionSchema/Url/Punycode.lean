namespace NotionSchema.Punycode

def isBasic (c : Char) : Bool := c.toNat < 0x80

def digit (n : Nat) : Char :=
  if n < 26 then Char.ofNat ('a'.toNat + n) else Char.ofNat ('0'.toNat + (n - 26))

def value? (c : Char) : Option Nat :=
  if 'a' ≤ c && c ≤ 'z' then some (c.toNat - 'a'.toNat)
  else if 'A' ≤ c && c ≤ 'Z' then some (c.toNat - 'A'.toNat)
  else if '0' ≤ c && c ≤ '9' then some (c.toNat - '0'.toNat + 26)
  else none

def threshold (bias position : Nat) : Nat :=
  if position ≤ bias then 1 else min 26 (position - bias)

theorem threshold_pos (bias position : Nat) : 0 < threshold bias position := by
  unfold threshold
  split <;> omega

theorem threshold_le (bias position : Nat) : threshold bias position ≤ 26 := by
  unfold threshold
  split <;> omega

def biasFrom (position delta : Nat) : Nat :=
  if 455 < delta then biasFrom (position + 36) (delta / 35)
  else position + 36 * delta / (delta + 38)
termination_by delta
decreasing_by omega

/-- The bias after a distance; `count` characters are there now. -/
def adapt (delta count : Nat) (isFirst : Bool) : Nat :=
  let scaled := if isFirst then delta / 700 else delta / 2
  biasFrom 0 (scaled + scaled / count)

def digitsFrom (bias position n : Nat) : List Char :=
  let t := threshold bias position
  if n < t then [digit n]
  else digit (t + (n - t) % (36 - t)) :: digitsFrom bias (position + 36) ((n - t) / (36 - t))
termination_by n
decreasing_by
  have hpos := threshold_pos bias position
  have hle := threshold_le bias position
  have hdiv : (n - threshold bias position) / (36 - threshold bias position) ≤
      n - threshold bias position := Nat.div_le_self _ _
  omega

/-- How far encoding came: the distance since the last written character, the bias, the number of
characters that are written, and the digits, last one first. -/
structure Encoding where
  delta : Nat
  bias : Nat
  written : Nat
  digits : List Char

namespace Encoding

/-- Passes over one character of the text while the characters of code point `n` are written. -/
def pass (basics n : Nat) (e : Encoding) (c : Char) : Encoding :=
  if c.toNat < n then { e with delta := e.delta + 1 }
  else if c.toNat = n then
    ⟨0, adapt e.delta (e.written + 1) (e.written = basics), e.written + 1,
      (digitsFrom e.bias 36 e.delta).reverse ++ e.digits⟩
  else e

/-- Writes the characters of each code point in turn; `next` is the first that may come. -/
def run (s : List Char) (basics : Nat) : List Nat → Nat → Encoding → Encoding
  | [], _, e => e
  | n :: later, next, e =>
    let e := s.foldl (pass basics n) { e with delta := e.delta + (n - next) * (e.written + 1) }
    run s basics later (n + 1) { e with delta := e.delta + 1 }

end Encoding

def extendedCodes (s : List Char) : List Nat :=
  (((s.filter (!isBasic ·)).map Char.toNat).mergeSort).eraseReps

def encode (s : List Char) : List Char :=
  let basics := s.filter isBasic
  let start : Encoding := ⟨0, 72, basics.length, []⟩
  basics ++ (if basics.isEmpty then [] else ['-']) ++
    (Encoding.run s basics.length (extendedCodes s) 0x80 start).digits.reverse

def readNumber? (bias position weight n : Nat) : List Char → Option (Nat × List Char)
  | [] => none
  | c :: rest => do
    let d ← value? c
    let t := threshold bias position
    if d < t then some (n + d * weight, rest)
    else readNumber? bias (position + 36) (weight * (36 - t)) (n + d * weight) rest

theorem length_readNumber? {bias position weight n m : Nat} {s rest : List Char}
    (h : readNumber? bias position weight n s = some (m, rest)) : rest.length < s.length := by
  induction s generalizing position weight n with
  | nil => simp [readNumber?] at h
  | cons c s ih =>
    unfold readNumber? at h
    cases hd : value? c with
    | none => simp [hd] at h
    | some d =>
      simp only [hd, Option.bind_eq_bind, Option.bind_some] at h
      split at h
      · simp_all
      · exact Nat.lt_succ_of_lt (ih h)

def charOfCode? (n : Nat) : Option Char := if n.isValidChar then some (Char.ofNat n) else none

/-- Inserts the characters that the digits give. `last` is the code point before, and `place` the
first place that the next one may take. -/
def insertAll? (bias last place : Nat) (isFirst : Bool) (text digits : List Char) :
    Option (List Char) :=
  match digits with
  | [] => some text
  | c :: rest =>
    match _h : readNumber? bias 36 1 0 (c :: rest) with
    | none => none
    | some (delta, rest') => do
      let count := text.length + 1
      let code := last + (place + delta) / count
      let here := (place + delta) % count
      let c ← charOfCode? code
      insertAll? (adapt delta count isFirst) code (here + 1) false
        (text.take here ++ c :: text.drop here) rest'
termination_by digits.length
decreasing_by exact length_readNumber? _h

/-- The text before the last hyphen, and what follows that. A hyphen with nothing before it does not
count. -/
def splitBasics (s : List Char) : List Char × List Char :=
  let basics := (s.reverse.dropWhile (· != '-')).tail.reverse
  if basics.isEmpty then ([], s) else (basics, s.drop (basics.length + 1))

def decode? (s : List Char) : Option (List Char) :=
  let (basics, digits) := splitBasics s
  if basics.all isBasic then insertAll? 72 0x80 0 true basics digits else none

end NotionSchema.Punycode
