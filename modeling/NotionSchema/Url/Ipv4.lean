import NotionSchema.Url.Percent

namespace NotionSchema.Ipv4

def bound : Nat := Nat.pow 2 32

def readDigits? (base : Nat) (value : Nat) : List Char → Option Nat
  | [] => some value
  | c :: rest =>
    match Url.hexValue? c with
    | some d => if d < base then readDigits? base (base * value + d) rest else none
    | none => none

/-- A number with the sign of its base in front: `0x` for sixteen, `0` for eight. -/
def readNumber? : List Char → Option Nat
  | [] => none
  | '0' :: 'x' :: rest => readDigits? 16 0 rest
  | '0' :: 'X' :: rest => readDigits? 16 0 rest
  | '0' :: c :: rest => readDigits? 8 0 (c :: rest)
  | s => readDigits? 10 0 s

/-- The dot-separated parts of a name. A dot at the very end adds none. -/
def parts (name : List Char) : List (List Char) :=
  let all := name.splitOn '.'
  if all.getLast? = some [] then all.dropLast else all

/-- A name whose last part is a number stands for an address, or for nothing. -/
def endsInNumber (name : List Char) : Bool :=
  match (parts name).getLast? with
  | none => false
  | some last => (!last.isEmpty && last.all Text.isAsciiDigit) || (readNumber? last).isSome

/-- The address with these leading bytes, and `last` for all the others. -/
def assemble (leading : List Nat) (last : Nat) : Nat :=
  leading.foldl (256 * · + ·) 0 * Nat.pow 256 (4 - leading.length) + last

def parse? (name : List Char) : Option Nat := do
  let numbers ← (parts name).mapM readNumber?
  let last ← numbers.getLast?
  let leading := numbers.dropLast
  if leading.length ≤ 3 && last * Nat.pow 256 leading.length < bound && leading.all (· < 256) then
    some (assemble leading last)
  else none

def text (address : Nat) : String :=
  ".".intercalate ([3, 2, 1, 0].map fun i => toString (address / Nat.pow 256 i % 256))

end NotionSchema.Ipv4
