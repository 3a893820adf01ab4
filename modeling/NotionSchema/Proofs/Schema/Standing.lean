import NotionSchema.Proofs.Schema.Acceptance
import NotionSchema.Proofs.Schema.Renumbering

namespace NotionSchema.Schema

open Text LineForm

/-- The lines of a model that nothing has closed yet. -/
structure OpenBlock where
  header : Line
  name : List Char
  databaseId : List Char
  brace : Option Line
  body : List BodyLine

namespace OpenBlock

def lines (o : OpenBlock) : List Line :=
  o.header :: (o.brace.toList ++ o.body.map BodyLine.line)

def modelName (o : OpenBlock) : String := String.ofList o.name

def model (o : OpenBlock) : OpenModel :=
  ⟨o.modelName, String.ofList o.databaseId, o.header.number, o.body.filterMap BodyLine.field?⟩

def closedBy (o : OpenBlock) (close : Line) : Block :=
  ⟨o.header, o.name, o.databaseId, o.brace, o.body, close⟩

structure Fits (o : OpenBlock) : Prop where
  header : ∃ rest, HeaderForm o.header.text o.name rest ∧ FirstMark o.databaseId rest
  brace : match o.brace with
    | none => o.header.text.getLast? = some '\x7b'
    | some line => o.header.text.getLast? ≠ some '\x7b' ∧ line.text = ['\x7b']
  body : ∀ l ∈ o.body, l.Fits

variable {o : OpenBlock}

theorem lines_closedBy (o : OpenBlock) (close : Line) :
    (o.closedBy close).lines = o.lines ++ [close] := by
  simp [Block.lines, lines, closedBy]

theorem Fits.closedBy {close : Line} (h : o.Fits) (hc : close.text = ['\x7d']) :
    (o.closedBy close).Fits :=
  ⟨h.header, h.brace, h.body, hc⟩

def extend (o : OpenBlock) (l : BodyLine) : OpenBlock := { o with body := o.body ++ [l] }

theorem lines_extend (o : OpenBlock) (l : BodyLine) : (o.extend l).lines = o.lines ++ [l.line] := by
  simp [lines, extend]

theorem model_extend (o : OpenBlock) (l : BodyLine) :
    (o.extend l).model = { o.model with fields := o.model.fields ++ l.field?.toList } := by
  cases l <;> simp [model, extend, modelName, List.filterMap_append, BodyLine.field?]

theorem Fits.extend {l : BodyLine} (h : o.Fits) (hl : l.Fits) : (o.extend l).Fits :=
  ⟨h.header, h.brace, List.forall_mem_append.2 ⟨h.body, by simpa using hl⟩⟩

end OpenBlock

variable {p q : Progress} {line : Line} {before lines rest : List Line} {parts : List Part}

theorem spells_nil (names : List String) : Spells names [] [] :=
  ⟨rfl, by simp, by simp [blocks], by simp [blocks]⟩

theorem lines_snoc (parts : List Part) (last : Part) :
    (parts ++ [last]).flatMap Part.lines = parts.flatMap Part.lines ++ last.lines := by simp

theorem Spells.snoc_stray (h : Spells [] parts (parts.flatMap Part.lines)) (hl : ¬ IsHeader line) :
    Spells [] (parts ++ [.stray line]) ((parts ++ [Part.stray line]).flatMap Part.lines) := by
  rw [lines_snoc]
  exact h.append (spells_stray hl (spells_nil [])) (by simp [blocks])

theorem Spells.snoc_block {b : Block} (h : Spells [] parts (parts.flatMap Part.lines)) (hb : b.Fits)
    (hn : b.modelName ∉ (blocks parts).map Block.modelName) :
    Spells [] (parts ++ [.block b]) ((parts ++ [Part.block b]).flatMap Part.lines) := by
  have hlast : Spells [] [.block b] b.lines := by
    simpa using spells_block hb (List.not_mem_nil) (spells_nil [b.modelName])
  rw [lines_snoc]
  refine h.append hlast ?_
  intro b' hb' b'' hb'' he
  rw [blocks, blocks, List.mem_singleton] at hb''
  rw [hb''] at he
  exact hn (he ▸ List.mem_map.2 ⟨b', hb', rfl⟩)

def namesMet (parts : List Part) : List String := ((blocks parts).map Block.modelName).reverse

theorem namesMet_snoc_block (parts : List Part) (b : Block) :
    namesMet (parts ++ [.block b]) = b.modelName :: namesMet parts := by
  simp [namesMet, blocks_append, blocks]

theorem namesMet_snoc_stray (parts : List Part) (line : Line) :
    namesMet (parts ++ [.stray line]) = namesMet parts := by
  simp [namesMet, blocks_append, blocks]

/-- What is behind the complete parts when these lines have been read. -/
inductive Standing (parts : List Part) : List Line → Progress → Prop
  | between (sk) : Standing parts (parts.flatMap Part.lines)
      ⟨(blocks parts).map Block.model, sk, namesMet parts, .betweenModels⟩
  | headed (sk) (header : Line) (name rest id : List Char)
      (hh : HeaderForm header.text name rest) (hm : FirstMark id rest)
      (hn : String.ofList name ∉ namesMet parts) (hlast : header.text.getLast? ≠ some '\x7b') :
      Standing parts (parts.flatMap Part.lines ++ [header])
        ⟨(blocks parts).map Block.model, sk, String.ofList name :: namesMet parts,
          .afterHeader (opened header name id)⟩
  | inside (sk) (o : OpenBlock) (ho : o.Fits) (hn : o.modelName ∉ namesMet parts) :
      Standing parts (parts.flatMap Part.lines ++ o.lines)
        ⟨(blocks parts).map Block.model, sk, o.modelName :: namesMet parts, .inBody o.model⟩

def StandsAfter (before : List Line) (p : Progress) : Prop :=
  ∃ parts, Spells [] parts (parts.flatMap Part.lines) ∧ Standing parts before p

theorem standsAfter_nil : StandsAfter [] .start := ⟨[], spells_nil [], .between []⟩

theorem Standing.head {sk : List SkippedLine} {name r id : List Char} (ht : Trimmed line.text)
    (hh : HeaderForm line.text name r) (hm : FirstMark id r)
    (hn : String.ofList name ∉ namesMet parts) :
    Standing parts (parts.flatMap Part.lines ++ [line])
      ⟨(blocks parts).map Block.model, sk, String.ofList name :: namesMet parts,
        if opensBody r then .inBody (opened line name id) else .afterHeader (opened line name id)⟩ := by
  have hopens := opensBody_iff ht hh hm
  by_cases hlast : line.text.getLast? = some '\x7b'
  · rw [if_pos (hopens.2 hlast)]
    have ho : OpenBlock.Fits ⟨line, name, id, none, []⟩ := ⟨⟨r, hh, hm⟩, hlast, by simp⟩
    exact .inside sk _ ho hn
  · rw [if_neg (fun ho => hlast (hopens.1 ho))]
    exact .headed sk line name r id hh hm hn hlast

theorem Standing.extend {sk : List SkippedLine} {o : OpenBlock} {l : BodyLine} (ho : o.Fits)
    (hn : o.modelName ∉ namesMet parts) (hl : l.Fits) :
    Standing parts (parts.flatMap Part.lines ++ o.lines ++ [l.line])
      ⟨(blocks parts).map Block.model, sk, o.modelName :: namesMet parts,
        .inBody { o.model with fields := o.model.fields ++ l.field?.toList }⟩ := by
  rw [List.append_assoc, ← o.lines_extend, ← o.model_extend]
  exact .inside sk (o.extend l) (ho.extend hl) hn

theorem StandsAfter.step (h : StandsAfter before p) (hs : Step p line q) (ht : Trimmed line.text) :
    StandsAfter (before ++ [line]) q := by
  obtain ⟨parts, hspells, hstanding⟩ := h
  cases hstanding with
  | between sk =>
      cases hs with
      | pass _ _ _ _ hl =>
          have hbetween : Standing (parts ++ [.stray line]) _ _ := .between sk
          rw [lines_snoc, namesMet_snoc_stray, blocks_append, blocks, blocks,
            List.append_nil] at hbetween
          exact ⟨parts ++ [.stray line], hspells.snoc_stray hl, hbetween⟩
      | head _ _ _ _ name rest id hh hm hn => exact ⟨parts, hspells, .head ht hh hm hn⟩
  | headed sk header name rest id hh hm hn hlast =>
      cases hs with
      | brace _ _ _ _ _ hl =>
          have ho : OpenBlock.Fits ⟨header, name, id, some line, []⟩ :=
            ⟨⟨rest, hh, hm⟩, ⟨hlast, hl⟩, by simp⟩
          refine ⟨parts, hspells, ?_⟩
          rw [List.append_assoc]
          exact .inside sk _ ho hn
  | inside sk o ho hn =>
      cases hs with
      | close _ _ _ _ _ hl =>
          -- The closing line completes a block, which is the next part.
          have hnew : (o.closedBy line).modelName ∉ (blocks parts).map Block.modelName :=
            fun hmem => hn (List.mem_reverse.2 hmem)
          have hbetween : Standing (parts ++ [.block (o.closedBy line)]) _ _ := .between sk
          rw [lines_snoc, namesMet_snoc_block, blocks_append, List.map_append, Part.lines,
            o.lines_closedBy, ← List.append_assoc] at hbetween
          exact ⟨parts ++ [.block (o.closedBy line)], hspells.snoc_block (ho.closedBy hl) hnew,
            hbetween⟩
      | skip _ _ _ _ _ hc hb hf =>
          have hl : (BodyLine.other line).Fits := ⟨hc, hb, hf⟩
          have hlonger : Standing parts _
              ⟨_, sk ++ [⟨o.modelName, line.number, String.ofList line.text⟩], _, _⟩ :=
            .extend ho hn hl
          rw [BodyLine.field?, Option.toList_none, List.append_nil] at hlonger
          exact ⟨parts, hspells, hlonger⟩
      | field _ _ _ _ _ f hc hb hf =>
          have hl : (BodyLine.field line f).Fits := ⟨hc, hb, hf⟩
          exact ⟨parts, hspells, .extend ho hn hl⟩

theorem StandsAfter.run (h : StandsAfter before p) (hr : Run p lines q)
    (ht : ∀ l ∈ lines, Trimmed l.text) : StandsAfter (before ++ lines) q := by
  induction hr generalizing before with
  | nil => rwa [List.append_nil]
  | cons p q r line rest hs _ ih =>
      obtain ⟨htl, htrest⟩ := List.forall_mem_cons.1 ht
      have hlater := ih (h.step hs htl) htrest
      rwa [List.append_assoc] at hlater

end NotionSchema.Schema
