import NotionSchema.Proofs.Schema.Reading

namespace NotionSchema.Schema

open Text LineForm

/-- A line in the body of a model: a field, or a line that is none. -/
inductive BodyLine
  | field (line : Line) (f : Field)
  | other (line : Line)

namespace BodyLine

def line : BodyLine → Line
  | field line _ => line
  | other line => line

def field? : BodyLine → Option Field
  | field _ f => some f
  | other _ => none

def skipped? (model : String) : BodyLine → Option SkippedLine
  | field _ _ => none
  | other line => some ⟨model, line.number, String.ofList line.text⟩

def Fits (b : BodyLine) : Prop :=
  b.line.text ≠ ['\x7d'] ∧ ¬ IsBoundHeader b.line ∧
    match b with
    | field line f => FieldForm f line.text
    | other line => ∀ f, ¬ FieldForm f line.text

instance (b : BodyLine) : Decidable b.Fits :=
  match b with
  | field line f =>
      inferInstanceAs (Decidable (line.text ≠ ['\x7d'] ∧ ¬ IsBoundHeader line ∧
        FieldForm f line.text))
  | other line =>
      decidable_of_iff (line.text ≠ ['\x7d'] ∧ ¬ IsBoundHeader line ∧
        readField line.text = none) (by simp only [readField_eq_none_iff]; rfl)

end BodyLine

/-- The lines of one model. The opening brace has a line of its own or ends the header. -/
structure Block where
  header : Line
  name : List Char
  databaseId : List Char
  brace : Option Line
  body : List BodyLine
  close : Line

namespace Block

def lines (b : Block) : List Line :=
  b.header :: (b.brace.toList ++ (b.body.map BodyLine.line ++ [b.close]))

def modelName (b : Block) : String := String.ofList b.name

def fields (b : Block) : List Field := b.body.filterMap BodyLine.field?

def model (b : Block) : Model := ⟨b.modelName, String.ofList b.databaseId, b.fields⟩

def skipped (b : Block) : List SkippedLine := b.body.filterMap (BodyLine.skipped? b.modelName)

structure Fits (b : Block) : Prop where
  header : ∃ rest, HeaderForm b.header.text b.name rest ∧ FirstMark b.databaseId rest
  brace : match b.brace with
    | none => b.header.text.getLast? = some '\x7b'
    | some line => b.header.text.getLast? ≠ some '\x7b' ∧ line.text = ['\x7b']
  body : ∀ l ∈ b.body, l.Fits
  close : b.close.text = ['\x7d']

end Block

inductive Part
  | stray (line : Line)
  | block (b : Block)

namespace Part

def lines : Part → List Line
  | stray line => [line]
  | block b => b.lines

def Fits : Part → Prop
  | stray line => ¬ IsHeader line
  | block b => b.Fits

end Part

def blocks : List Part → List Block
  | [] => []
  | .stray _ :: parts => blocks parts
  | .block b :: parts => b :: blocks parts

/-- The parts spell the lines, and no name of a block is repeated or used before. -/
structure Spells (names : List String) (parts : List Part) (lines : List Line) : Prop where
  lines_eq : parts.flatMap Part.lines = lines
  fits : ∀ p ∈ parts, p.Fits
  distinct : ((blocks parts).map Block.modelName).Nodup
  fresh : ∀ b ∈ blocks parts, b.modelName ∉ names

theorem length_fields_add_length_skipped (b : Block) :
    b.fields.length + b.skipped.length = b.body.length := by
  rw [Block.fields, Block.skipped]
  induction b.body with
  | nil => rfl
  | cons l body ih =>
      cases l with
      | field line f =>
          simp only [List.filterMap_cons, BodyLine.field?, BodyLine.skipped?, List.length_cons]
          omega
      | other line =>
          simp only [List.filterMap_cons, BodyLine.field?, BodyLine.skipped?, List.length_cons]
          omega

theorem line_mem_of_skipped {b : Block} {s : SkippedLine} (h : s ∈ b.skipped) :
    ∃ line ∈ b.lines, s = ⟨b.modelName, line.number, String.ofList line.text⟩ := by
  obtain ⟨l, hl, hs⟩ := List.mem_filterMap.1 h
  cases l with
  | field line f => cases hs
  | other line =>
      cases hs
      have hm : line ∈ b.body.map BodyLine.line := List.mem_map.2 ⟨_, hl, rfl⟩
      exact ⟨line, by simp [Block.lines, hm], rfl⟩

theorem mem_of_mem_blocks {parts : List Part} {b : Block} (h : b ∈ blocks parts) :
    Part.block b ∈ parts := by
  induction parts with
  | nil => cases h
  | cons p parts ih =>
      cases p with
      | stray line => exact List.mem_cons_of_mem _ (ih h)
      | block b' =>
          rcases List.mem_cons.1 h with rfl | h
          · exact List.mem_cons_self
          · exact List.mem_cons_of_mem _ (ih h)

theorem mem_lines_of_mem_blocks {names : List String} {parts : List Part} {lines : List Line}
    {b : Block} {line : Line} (hs : Spells names parts lines) (hb : b ∈ blocks parts)
    (hl : line ∈ b.lines) : line ∈ lines := by
  rw [← hs.lines_eq]
  exact List.mem_flatMap.2 ⟨.block b, mem_of_mem_blocks hb, hl⟩

theorem ne_nil_of_firstMark {id rest : List Char} (h : FirstMark id rest) : rest ≠ [] := by
  rintro rfl
  obtain ⟨before, mark, he, hm, -⟩ := h
  obtain ⟨-, rfl⟩ := List.append_eq_nil_iff.1 he.symm
  exact not_markForm_nil hm

theorem opensBody_iff {line name rest id : List Char} (ht : Trimmed line)
    (hh : HeaderForm line name rest) (hm : FirstMark id rest) :
    opensBody rest = true ↔ line.getLast? = some '\x7b' := by
  obtain ⟨gap, -, -, -, rfl⟩ := hh
  have hne : rest ≠ [] := ne_nil_of_firstMark hm
  have hr : rest.reverse ≠ [] := by simpa using hne
  have hstop : Stops isBlank rest.reverse := by
    have h := ht.2
    simp only [List.reverse_append, List.append_assoc] at h
    exact (stops_append_left hr).1 h
  have hlast : (modelWord ++ (gap ++ (name ++ rest))).getLast? = rest.getLast? := by
    simp [List.getLast?_append, List.getLast?_eq_some_getLast hne]
  rw [opensBody, trimEnd_eq_self hstop, hlast, List.isSuffixOf_iff_suffix]
  constructor
  · rintro ⟨init, rfl⟩
    simp
  · intro h
    obtain ⟨init, hi⟩ := List.getLast?_eq_some_iff.1 h
    exact ⟨init, hi.symm⟩

end NotionSchema.Schema
