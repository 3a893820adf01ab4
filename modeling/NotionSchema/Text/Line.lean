import NotionSchema.Text.Blank

namespace NotionSchema.Text

structure Line where
  number : Nat
  text : List Char
deriving DecidableEq, Repr

def isComment : List Char → Bool
  | '/' :: '/' :: _ => true
  | _ => false

def isSignificant (text : List Char) : Bool := !text.isEmpty && !isComment text

def numbered (start : Nat) : List (List Char) → List Line
  | [] => []
  | raw :: rest => ⟨start, trim raw⟩ :: numbered (start + 1) rest

def rawLines (text : String) : List (List Char) := text.toList.splitOn '\n'

def significantLines (text : String) : List Line :=
  (numbered 1 (rawLines text)).filter (isSignificant ·.text)

end NotionSchema.Text
