import NotionSchema.Proofs.Schema.Faults

namespace NotionSchema.Schema

open Text LineForm

variable {lines rest : List Line}

theorem parseWithSkipped_of_duplicate {text : String} {parts : List Part} {b : Block}
    (hs : Spells [] parts lines) (hb : b.Fits)
    (htext : significantLines text = lines ++ (b.lines ++ rest))
    (hname : b.modelName ∈ (blocks parts).map Block.modelName) :
    (parseWithSkipped text).value = .error (.duplicateModel b.modelName b.header.number) := by
  obtain ⟨r, hh, hm⟩ := hb.header
  rw [Block.lines, List.cons_append, ← hs.lines_eq] at htext
  rw [← hs.lines_eq] at hs
  exact parseWithSkipped_of_fault hs htext (.repeated b.name r b.databaseId hh hm hname)

variable {t₁ t₂ : String} {parts₁ parts₂ : List Part}

theorem names_disjoint_renumber (f : Nat → Nat) {parts₁ parts₂ : List Part}
    (h : ∀ b' ∈ blocks parts₂, b'.modelName ∉ (blocks parts₁).map Block.modelName) :
    ∀ b ∈ blocks parts₁, ∀ b' ∈ blocks (parts₂.map (Part.renumber f)),
      b.modelName ≠ b'.modelName := by
  intro b hb b' hb' he
  rw [blocks_renumber] at hb'
  obtain ⟨b₂, hb₂, rfl⟩ := List.mem_map.1 hb'
  exact h b₂ hb₂ (List.mem_map.2 ⟨b, hb, he⟩)

theorem parseWithSkipped_joined (hs₁ : Spells [] parts₁ (significantLines t₁))
    (hs₂ : Spells [] parts₂ (significantLines t₂)) (hne : blocks parts₁ ≠ [])
    (hd : ∀ b' ∈ blocks parts₂, b'.modelName ∉ (blocks parts₁).map Block.modelName) :
    (parseWithSkipped (t₁ ++ "\n" ++ t₂)).value =
      .ok (⟨(blocks parts₁).map Block.model ++ (blocks parts₂).map Block.model⟩,
        (blocks parts₁).flatMap Block.skipped ++
          ((blocks parts₂).flatMap Block.skipped).map
            (SkippedLine.renumber (lineCount t₁ + ·))) := by
  have hspells := hs₁.append (hs₂.renumber (lineCount t₁ + ·)) (names_disjoint_renumber _ hd)
  have hlines : significantLines (t₁ ++ "\n" ++ t₂) = _ := significantLines_joined t₁ t₂
  have hparse := parseWithSkipped_of_spells (hlines ▸ hspells) (by simp [blocks_append, hne])
  have hmodels : ((blocks parts₂).map (Block.renumber (lineCount t₁ + ·))).map Block.model =
      (blocks parts₂).map Block.model := by
    rw [List.map_map]
    exact List.map_congr_left fun b _ => b.model_renumber _
  have hskipped : ((blocks parts₂).map (Block.renumber (lineCount t₁ + ·))).flatMap Block.skipped =
      ((blocks parts₂).flatMap Block.skipped).map (SkippedLine.renumber (lineCount t₁ + ·)) := by
    rw [List.map_flatMap, List.flatMap_map]
    exact List.flatMap_congr fun b _ => b.skipped_renumber _
  rw [blocks_append, blocks_renumber, List.map_append, List.flatMap_append, hmodels,
    hskipped] at hparse
  exact hparse

theorem parseWithSkipped_joined_duplicate {before after : List Block} {b : Block}
    (hs₁ : Spells [] parts₁ (significantLines t₁)) (hs₂ : Spells [] parts₂ (significantLines t₂))
    (hblocks : blocks parts₂ = before ++ b :: after)
    (hbefore : ∀ b' ∈ before, b'.modelName ∉ (blocks parts₁).map Block.modelName)
    (hb : b.modelName ∈ (blocks parts₁).map Block.modelName) :
    (parseWithSkipped (t₁ ++ "\n" ++ t₂)).value =
      .error (.duplicateModel b.modelName (lineCount t₁ + b.header.number)) := by
  -- The first text and what stands before the block are spelled together.
  obtain ⟨front, back, rfl, rfl⟩ := exists_front_of_blocks hblocks
  have hlater := hs₂.renumber (lineCount t₁ + ·)
  rw [List.map_append, List.map_cons] at hlater
  have hspells := hs₁.append hlater.front (names_disjoint_renumber _ hbefore)
  have hfits : (b.renumber (lineCount t₁ + ·)).Fits :=
    hlater.fits (.block (b.renumber (lineCount t₁ + ·))) (by simp [Part.renumber])
  have hlines : significantLines (t₁ ++ "\n" ++ t₂) = _ := significantLines_joined t₁ t₂
  rw [← hlater.lines_eq, List.flatMap_append, List.flatMap_cons,
    ← List.append_assoc] at hlines
  refine parseWithSkipped_of_duplicate (b := b.renumber (lineCount t₁ + ·)) hspells hfits hlines ?_
  rw [blocks_append, List.map_append]
  exact List.mem_append_left _ hb

theorem exists_first_block {bs : List Block} {names : List String}
    (h : ∃ b ∈ bs, b.modelName ∈ names) :
    ∃ before b after, bs = before ++ b :: after ∧ (∀ b' ∈ before, b'.modelName ∉ names) ∧
      b.modelName ∈ names := by
  have hsome : (bs.find? fun b => b.modelName ∈ names).isSome = true := by
    rw [List.find?_isSome]
    simpa using h
  obtain ⟨b, hb⟩ := Option.isSome_iff_exists.1 hsome
  obtain ⟨hname, before, after, hbs, hbefore⟩ := List.find?_eq_some_iff_append.1 hb
  exact ⟨before, b, after, hbs, by simpa using hbefore, by simpa using hname⟩

/-- Let two texts be accepted, and let the second be written behind the first on a line of its own.
If no name is that of a model of both, this gives the models and the skipped lines of the first text
and then those of the second, with the lines of the second counted on from those of the first.
Otherwise the text is refused at the header of the first block of the second text whose name the
first text has. -/
theorem parse_joined {s₁ s₂ : Schema} {skipped₁ skipped₂ : List SkippedLine}
    (h₁ : (parseWithSkipped t₁).value = .ok (s₁, skipped₁))
    (h₂ : (parseWithSkipped t₂).value = .ok (s₂, skipped₂)) :
    let n := t₁.toList.count '\n' + 1
    let joined := (parseWithSkipped (t₁ ++ "\n" ++ t₂)).value
    ((∀ m ∈ s₁.models, ∀ m' ∈ s₂.models, m.name ≠ m'.name) →
      joined = .ok (⟨s₁.models ++ s₂.models⟩,
        skipped₁ ++ skipped₂.map fun s => { s with line := n + s.line })) ∧
    ((∃ m ∈ s₁.models, ∃ m' ∈ s₂.models, m.name = m'.name) →
      ∃ parts before b after, Spells [] parts (significantLines t₂) ∧
        blocks parts = before ++ b :: after ∧ s₂.models = (blocks parts).map Block.model ∧
        (∀ b' ∈ before, b'.modelName ∉ s₁.models.map (·.name)) ∧
        b.modelName ∈ s₁.models.map (·.name) ∧
        joined = .error (.duplicateModel b.modelName (n + b.header.number))) := by
  intro n joined
  obtain ⟨parts₁, hs₁, hne₁, hmodels₁, rfl⟩ := exists_spelling h₁
  obtain ⟨parts₂, hs₂, -, hmodels₂, rfl⟩ := exists_spelling h₂
  have hnames : s₁.models.map (·.name) = (blocks parts₁).map Block.modelName := by
    rw [hmodels₁, List.map_map]
    rfl
  refine ⟨?_, ?_⟩
  · intro hd
    rw [hmodels₁, hmodels₂]
    refine parseWithSkipped_joined hs₁ hs₂ hne₁ ?_
    intro b' hb' hshared
    rw [← hnames] at hshared
    obtain ⟨m, hm, he⟩ := List.mem_map.1 hshared
    exact hd m hm b'.model (hmodels₂ ▸ List.mem_map.2 ⟨b', hb', rfl⟩) he
  · rintro ⟨m, hm, m', hm', he⟩
    rw [hmodels₂] at hm'
    obtain ⟨b', hb', rfl⟩ := List.mem_map.1 hm'
    obtain ⟨before, b, after, hblocks, hbefore, hb⟩ :=
      exists_first_block ⟨b', hb', List.mem_map.2 ⟨m, hm, he⟩⟩
    refine ⟨parts₂, before, b, after, hs₂, hblocks, hmodels₂, hbefore, hb, ?_⟩
    rw [hnames] at hbefore hb
    exact parseWithSkipped_joined_duplicate hs₁ hs₂ hblocks hbefore hb

def shelfText : String :=
  "model Shelf @notionDatabase(\"db1\") \x7b\n  ??\n\x7d\n"

def roomText : String :=
  "// below\r\nmodel Room @notionDatabase(\"db2\")\n\x7b\n  name String @title\n  !\n\x7d"

theorem shelfText_joined :
    (parseWithSkipped (shelfText ++ "\n" ++ roomText)).value =
      .ok (⟨[⟨"Shelf", "db1", []⟩,
          ⟨"Room", "db2", [⟨"name", "String", false, [⟨"title", none⟩]⟩]⟩]⟩,
        [⟨"Shelf", 2, "??"⟩, ⟨"Room", 9, "!"⟩]) ∧
    ∃ parts, ∃ b ∈ blocks parts, Spells [] parts (significantLines shelfText) ∧
      (parseWithSkipped (shelfText ++ "\n" ++ shelfText)).value =
        .error (.duplicateModel b.modelName (4 + b.header.number)) := by
  have hshelf : (parseWithSkipped shelfText).value =
      .ok (⟨[⟨"Shelf", "db1", []⟩]⟩, [⟨"Shelf", 2, "??"⟩]) := by decide +kernel
  have hroom : (parseWithSkipped roomText).value =
      .ok (⟨[⟨"Room", "db2", [⟨"name", "String", false, [⟨"title", none⟩]⟩]⟩]⟩,
        [⟨"Room", 5, "!"⟩]) := by decide +kernel
  refine ⟨(parse_joined hshelf hroom).1 (by decide), ?_⟩
  obtain ⟨parts, before, b, after, hs, hblocks, -, -, -, herror⟩ :=
    (parse_joined hshelf hshelf).2 (by decide)
  exact ⟨parts, b, by simp [hblocks], hs, herror⟩

end NotionSchema.Schema
