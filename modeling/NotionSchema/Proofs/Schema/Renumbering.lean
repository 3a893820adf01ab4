import NotionSchema.Proofs.Schema.Blocks
import Mathlib.Data.List.Basic

namespace NotionSchema

namespace Text

def Line.renumber (f : Nat → Nat) (line : Line) : Line := ⟨f line.number, line.text⟩

theorem numbered_append (start : Nat) (a b : List (List Char)) :
    numbered start (a ++ b) = numbered start a ++ numbered (start + a.length) b := by
  induction a generalizing start with
  | nil => rfl
  | cons raw a ih =>
      rw [List.cons_append, numbered, numbered, ih, List.length_cons, Nat.add_right_comm,
        Nat.add_assoc]
      rfl

theorem numbered_add (k start : Nat) (raws : List (List Char)) :
    numbered (k + start) raws = (numbered start raws).map (Line.renumber (k + ·)) := by
  induction raws generalizing start with
  | nil => rfl
  | cons raw raws ih =>
      rw [numbered, numbered, List.map_cons, Nat.add_assoc, ih]
      rfl

def lineCount (text : String) : Nat := text.toList.count '\n' + 1

theorem length_rawLines (text : String) : (rawLines text).length = lineCount text := by
  rw [rawLines, lineCount]
  induction text.toList with
  | nil => rfl
  | cons c s ih =>
      rw [List.splitOn, List.splitOnP_cons_eq_if_modifyHead, List.count_cons]
      split_ifs with hc
      · rw [List.length_cons]
        exact congrArg (· + 1) ih
      · rw [List.length_modifyHead]
        exact ih

theorem rawLines_joined (a b : String) :
    rawLines (a ++ "\n" ++ b) = rawLines a ++ rawLines b := by
  rw [rawLines, String.toList_append, String.toList_append, List.append_assoc]
  exact List.splitOn_append_cons_self _ _

theorem significantLines_joined (a b : String) :
    significantLines (a ++ "\n" ++ b) = significantLines a ++
      (significantLines b).map (Line.renumber (lineCount a + ·)) := by
  have hfilter (lines : List Line) (f : Nat → Nat) :
      (lines.map (Line.renumber f)).filter (isSignificant ·.text) =
        (lines.filter (isSignificant ·.text)).map (Line.renumber f) := List.filter_map
  rw [significantLines, rawLines_joined, numbered_append, length_rawLines, Nat.add_comm 1,
    numbered_add, List.filter_append, hfilter]
  rfl

end Text

def SkippedLine.renumber (f : Nat → Nat) (s : SkippedLine) : SkippedLine :=
  { s with line := f s.line }

namespace Schema

open Text LineForm

variable {ns : List String} {parts parts' : List Part} {lines lines' : List Line}

def BodyLine.renumber (f : Nat → Nat) : BodyLine → BodyLine
  | field line declared => .field (line.renumber f) declared
  | other line => .other (line.renumber f)

def Block.renumber (f : Nat → Nat) (b : Block) : Block where
  header := b.header.renumber f
  name := b.name
  databaseId := b.databaseId
  brace := b.brace.map (Line.renumber f)
  body := b.body.map (BodyLine.renumber f)
  close := b.close.renumber f

def Part.renumber (f : Nat → Nat) : Part → Part
  | stray line => .stray (line.renumber f)
  | block b => .block (b.renumber f)

variable (f : Nat → Nat)

theorem BodyLine.line_renumber (l : BodyLine) : (l.renumber f).line = l.line.renumber f := by
  cases l <;> rfl

theorem BodyLine.field?_renumber (l : BodyLine) : (l.renumber f).field? = l.field? := by
  cases l <;> rfl

theorem BodyLine.skipped?_renumber (model : String) (l : BodyLine) :
    (l.renumber f).skipped? model = (l.skipped? model).map (SkippedLine.renumber f) := by
  cases l <;> rfl

theorem BodyLine.Fits.renumber {l : BodyLine} (h : l.Fits) : (l.renumber f).Fits := by
  cases l with
  | field line declared => exact h
  | other line => exact h

namespace Block

theorem model_renumber (b : Block) : (b.renumber f).model = b.model := by
  have hfields : (b.renumber f).fields = b.fields := by
    rw [fields, fields, Block.renumber, List.filterMap_map]
    exact List.filterMap_congr fun l _ => l.field?_renumber f
  rw [model, model, hfields]
  rfl

theorem skipped_renumber (b : Block) :
    (b.renumber f).skipped = b.skipped.map (SkippedLine.renumber f) := by
  rw [skipped, skipped, Block.renumber, List.filterMap_map, List.map_filterMap]
  exact List.filterMap_congr fun l _ => l.skipped?_renumber f b.modelName

theorem lines_renumber (b : Block) : (b.renumber f).lines = b.lines.map (Line.renumber f) := by
  have hbody : (b.body.map (BodyLine.renumber f)).map BodyLine.line =
      (b.body.map BodyLine.line).map (Line.renumber f) := by
    rw [List.map_map, List.map_map]
    exact List.map_congr_left fun l _ => l.line_renumber f
  rw [lines, lines, List.map_cons, List.map_append, List.map_append, ← hbody]
  cases h : b.brace <;> simp [Block.renumber, h]

theorem Fits.renumber {b : Block} (h : b.Fits) : (b.renumber f).Fits := by
  refine ⟨h.header, ?_, ?_, h.close⟩
  · have hbrace := h.brace
    cases hb : b.brace <;> simpa [Block.renumber, hb, Line.renumber] using hbrace
  · intro l hl
    obtain ⟨before, hbefore, rfl⟩ := List.mem_map.1 hl
    exact (h.body before hbefore).renumber f

end Block

namespace Part

theorem lines_renumber (p : Part) : (p.renumber f).lines = p.lines.map (Line.renumber f) := by
  cases p with
  | stray line => rfl
  | block b => exact b.lines_renumber f

theorem Fits.renumber {p : Part} (h : p.Fits) : (p.renumber f).Fits := by
  cases p with
  | stray line => exact h
  | block b => exact Block.Fits.renumber f h

end Part

theorem blocks_renumber (parts : List Part) :
    blocks (parts.map (Part.renumber f)) = (blocks parts).map (Block.renumber f) := by
  induction parts with
  | nil => rfl
  | cons p parts ih => cases p <;> simp [blocks, Part.renumber, ih]

theorem Spells.renumber (h : Spells ns parts lines) :
    Spells ns (parts.map (Part.renumber f)) (lines.map (Line.renumber f)) := by
  refine ⟨?_, ?_, ?_, ?_⟩
  · rw [← h.lines_eq, List.map_flatMap, List.flatMap_map]
    exact List.flatMap_congr fun p _ => p.lines_renumber f
  · intro p hp
    obtain ⟨before, hbefore, rfl⟩ := List.mem_map.1 hp
    exact (h.fits before hbefore).renumber f
  · rw [blocks_renumber, List.map_map]
    exact h.distinct
  · rw [blocks_renumber]
    intro b hb
    obtain ⟨before, hbefore, rfl⟩ := List.mem_map.1 hb
    exact h.fresh before hbefore

theorem blocks_append (parts parts' : List Part) :
    blocks (parts ++ parts') = blocks parts ++ blocks parts' := by
  induction parts with
  | nil => rfl
  | cons p parts ih => cases p <;> simp [blocks, ih]

theorem Spells.append (h : Spells ns parts lines) (h' : Spells ns parts' lines')
    (hd : ∀ b ∈ blocks parts, ∀ b' ∈ blocks parts', b.modelName ≠ b'.modelName) :
    Spells ns (parts ++ parts') (lines ++ lines') := by
  refine ⟨?_, List.forall_mem_append.2 ⟨h.fits, h'.fits⟩, ?_, ?_⟩
  · rw [List.flatMap_append, h.lines_eq, h'.lines_eq]
  · rw [blocks_append, List.map_append, List.nodup_append]
    refine ⟨h.distinct, h'.distinct, ?_⟩
    intro name hname name' hname'
    obtain ⟨b, hb, rfl⟩ := List.mem_map.1 hname
    obtain ⟨b', hb', rfl⟩ := List.mem_map.1 hname'
    exact hd b hb b' hb'
  · rw [blocks_append]
    exact List.forall_mem_append.2 ⟨h.fresh, h'.fresh⟩

theorem Spells.front (h : Spells ns (parts ++ parts') lines) :
    Spells ns parts (parts.flatMap Part.lines) := by
  obtain ⟨-, hfits, hdistinct, hfresh⟩ := h
  rw [blocks_append] at hdistinct hfresh
  rw [List.map_append] at hdistinct
  exact ⟨rfl, (List.forall_mem_append.1 hfits).1, (List.nodup_append.1 hdistinct).1,
    (List.forall_mem_append.1 hfresh).1⟩

theorem exists_front_of_blocks {before after : List Block} {b : Block}
    (h : blocks parts = before ++ b :: after) :
    ∃ front back, parts = front ++ .block b :: back ∧ blocks front = before := by
  induction parts generalizing before with
  | nil => simp [blocks] at h
  | cons p parts ih =>
      cases p with
      | stray line =>
          obtain ⟨front, back, rfl, hfront⟩ := ih h
          exact ⟨.stray line :: front, back, rfl, hfront⟩
      | block first =>
          rw [blocks] at h
          cases before with
          | nil =>
              obtain ⟨rfl, -⟩ := List.cons_eq_cons.1 h
              exact ⟨[], parts, rfl, rfl⟩
          | cons first' before =>
              obtain ⟨rfl, hrest⟩ := List.cons_eq_cons.1 h
              obtain ⟨front, back, rfl, rfl⟩ := ih hrest
              exact ⟨.block first :: front, back, rfl, rfl⟩

end Schema

end NotionSchema
