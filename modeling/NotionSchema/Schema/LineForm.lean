import NotionSchema.Schema.Field
import NotionSchema.Text.Blank
import NotionSchema.Text.Word

namespace NotionSchema.LineForm

open Text

def isIdentifierStart (c : Char) : Bool := isAsciiLetter c || c == '_'

def isIdentifierChar (c : Char) : Bool := isIdentifierStart c || isAsciiDigit c

def isIdentifier : List Char → Bool
  | [] => false
  | c :: s => isIdentifierStart c && s.all isIdentifierChar

def readIdentifier : List Char → Option (List Char × List Char)
  | [] => none
  | c :: s =>
    if isIdentifierStart c then
      some (c :: s.takeWhile isIdentifierChar, s.dropWhile isIdentifierChar)
    else none

def after? : List Char → List Char → Option (List Char)
  | [], s => some s
  | _ :: _, [] => none
  | c :: word, d :: s => if c = d then after? word s else none

/-- What follows the blanks at the front, of which there is at least one. -/
def afterBlanks? : List Char → Option (List Char)
  | [] => none
  | c :: s => if isBlank c then some (s.dropWhile isBlank) else none

def readArgument (s : List Char) : Option (List Char × List Char) := do
  let s ← after? ['('] s
  let s ← after? ['"'] (s.dropWhile isBlank)
  let rest ← after? ['"'] (s.dropWhile (· != '"'))
  let rest ← after? [')'] (rest.dropWhile isBlank)
  return (s.takeWhile (· != '"'), rest)

def modelWord : List Char := "model".toList

def databaseMark : List Char := "@notionDatabase".toList

/-- The name in a model header, and what follows it. -/
def readHeader (line : List Char) : Option (List Char × List Char) := do
  let s ← after? modelWord line
  let s ← afterBlanks? s
  let (name, rest) ← readIdentifier s
  if endsWord rest then some (name, rest) else none

def isHeader (line : List Char) : Bool := (readHeader line).isSome

def readDatabaseMark (s : List Char) : Option (List Char) := do
  let s ← after? databaseMark s
  let (id, _) ← readArgument s
  if id.isEmpty then none else some id

/-- The id in the first database mark that a text holds anywhere. -/
def databaseId? : List Char → Option (List Char)
  | [] => none
  | c :: s =>
    match readDatabaseMark (c :: s) with
    | some id => some id
    | none => databaseId? s

/-- A header that names its database opens a model even inside another one. -/
def isBoundHeader (line : List Char) : Bool :=
  match readHeader line with
  | some (_, rest) => (databaseId? rest).isSome
  | none => false

def opensBody (rest : List Char) : Bool := ['\x7b'].isSuffixOf (trimEnd rest)

def readAttribute : List Char → Option (Attribute × List Char)
  | '@' :: s => do
    let (name, rest) ← readIdentifier s
    match readArgument rest with
    | some (argument, rest) =>
      return (⟨String.ofList name, some (String.ofList argument)⟩, rest)
    | none => return (⟨String.ofList name, none⟩, rest)
  | _ => none

theorem length_dropWhile_le {α : Type} (p : α → Bool) (l : List α) :
    (l.dropWhile p).length ≤ l.length := (List.dropWhile_sublist p).length_le

theorem length_after? {word s rest : List Char} (h : after? word s = some rest) :
    rest.length ≤ s.length := by
  induction word generalizing s with
  | nil => simp_all [after?]
  | cons c word ih =>
    cases s with
    | nil => simp [after?] at h
    | cons d s =>
      rw [after?] at h
      split at h
      · exact Nat.le_succ_of_le (ih h)
      · simp at h

theorem length_readArgument {s argument rest : List Char}
    (h : readArgument s = some (argument, rest)) : rest.length ≤ s.length := by
  simp only [readArgument, Option.bind_eq_bind, Option.bind_eq_some_iff, Option.some.injEq,
    Option.pure_def, Prod.mk.injEq] at h
  obtain ⟨s₁, h₁, s₂, h₂, s₃, h₃, s₄, h₄, -, rfl⟩ := h
  calc s₄.length ≤ _ := length_after? h₄
    _ ≤ _ := length_dropWhile_le _ _
    _ ≤ _ := length_after? h₃
    _ ≤ _ := length_dropWhile_le _ _
    _ ≤ _ := length_after? h₂
    _ ≤ _ := length_dropWhile_le _ _
    _ ≤ _ := length_after? h₁

theorem length_readIdentifier {s name rest : List Char}
    (h : readIdentifier s = some (name, rest)) : rest.length < s.length := by
  cases s with
  | nil => simp [readIdentifier] at h
  | cons c s =>
    simp only [readIdentifier, Option.ite_none_right_eq_some, Option.some.injEq,
      Prod.mk.injEq] at h
    obtain ⟨-, -, rfl⟩ := h
    exact Nat.lt_succ_of_le (length_dropWhile_le _ _)

theorem length_readAttribute {s rest : List Char} {a : Attribute}
    (h : readAttribute s = some (a, rest)) : rest.length < s.length := by
  unfold readAttribute at h
  split at h
  · next s =>
    simp only [Option.bind_eq_bind, Option.bind_eq_some_iff] at h
    obtain ⟨⟨name, r⟩, hname, h⟩ := h
    have hlt := length_readIdentifier hname
    split at h
    · next argument r' harg =>
      have : r'.length ≤ r.length := length_readArgument harg
      simp only [Option.pure_def, Option.some.injEq, Prod.mk.injEq] at h
      obtain ⟨-, rfl⟩ := h
      simp only [List.length_cons]
      omega
    · simp only [Option.pure_def, Option.some.injEq, Prod.mk.injEq] at h
      obtain ⟨-, rfl⟩ := h
      simp only [List.length_cons]
      omega
  · simp at h

/-- Attributes may follow one another without blanks. -/
def readAttributes : List Char → Option (List Attribute)
  | [] => some []
  | c :: s =>
    if isBlank c then readAttributes s
    else
      match _h : readAttribute (c :: s) with
      | some (a, rest) => (readAttributes rest).map (a :: ·)
      | none => none
termination_by s => s.length
decreasing_by
  · simp
  · exact length_readAttribute _h

def readListSuffix : List Char → Bool × List Char
  | '[' :: ']' :: s => (true, s)
  | s => (false, s)

def readOptionalMark : List Char → Bool × List Char
  | '?' :: s => (true, s)
  | s => (false, s)

def readFieldAttributes : List Char → Option (List Attribute)
  | [] => some []
  | s => (afterBlanks? s).bind readAttributes

def readField (line : List Char) : Option Field := do
  let (name, s) ← readIdentifier line
  let s ← afterBlanks? s
  let (token, s) ← readIdentifier s
  let (isList, s) := readListSuffix s
  let (optional, s) := readOptionalMark s
  let attributes ← readFieldAttributes s
  let suffix := if isList then PropertyType.listSuffix else []
  return ⟨String.ofList name, String.ofList (token ++ suffix), optional, attributes⟩

end NotionSchema.LineForm
