import NotionSchema.Proofs.Schema.Acceptance
import NotionSchema.Proofs.Schema.Printer

namespace NotionSchema

open Text LineForm

variable {lines : List Line}

namespace LineLayout

theorem noBreak_placeAll {contents : List (List Char)} (h : ∀ s ∈ contents, Solid s)
    (layouts : Nat → LineLayout) : ∀ raw ∈ placeAll layouts contents, '\n' ∉ raw := by
  induction contents generalizing layouts with
  | nil => simp [placeAll]
  | cons s contents ih =>
      obtain ⟨hs, hrest⟩ := List.forall_mem_cons.1 h
      refine List.forall_mem_append.2 ⟨List.forall_mem_append.2 ⟨?_, ?_⟩, ih hrest _⟩
      · intro raw hraw
        obtain ⟨filler, -, rfl⟩ := List.mem_map.1 hraw
        exact filler.noBreak
      · intro raw hraw
        rw [List.mem_singleton.1 hraw, padded, List.mem_append, List.mem_append, not_or, not_or]
        exact ⟨⟨(layouts 0).indent.noBreak, hs.noBreak⟩, (layouts 0).trailing.noBreak⟩

theorem trim_padded (l : LineLayout) {s : List Char} (h : Solid s) : trim (l.padded s) = s :=
  trim_pad l.indent.blank l.trailing.blank h.trimmed

theorem filter_fillers (fillers : List Filler) :
    ((fillers.map (·.chars)).map trim).filter isSignificant = [] := by
  rw [List.filter_eq_nil_iff]
  intro s hs
  obtain ⟨raw, hraw, rfl⟩ := List.mem_map.1 hs
  obtain ⟨filler, -, rfl⟩ := List.mem_map.1 hraw
  simp [filler.ignored]

theorem filter_placeAll {contents : List (List Char)} (h : ∀ s ∈ contents, Solid s)
    (layouts : Nat → LineLayout) :
    ((placeAll layouts contents).map trim).filter isSignificant = contents := by
  induction contents generalizing layouts with
  | nil => rfl
  | cons s contents ih =>
      obtain ⟨hs, hrest⟩ := List.forall_mem_cons.1 h
      have hplaced := ih hrest fun n => layouts (n + 1)
      simp only [placeAll, place, List.map_append, List.filter_append, filter_fillers, hplaced,
        List.nil_append, List.map_cons, List.map_nil, trim_padded _ hs]
      simp [hs.significant]

end LineLayout

namespace Schema

theorem rawLines_printed {s : Schema} (h : s.Printable) (l : Layout) :
    rawLines (s.printed l) = s.physicalLines l := by
  have hsolid := Model.solid_linesOfAll h.models l.braceBelow
  rw [rawLines, printed, String.toList_ofList]
  apply List.splitOn_intercalate
  · intro raw hraw
    rcases List.mem_append.1 hraw with hraw | hraw
    · exact LineLayout.noBreak_placeAll hsolid l.line raw hraw
    · obtain ⟨filler, -, rfl⟩ := List.mem_map.1 hraw
      exact filler.noBreak
  · obtain ⟨m, ms, hms⟩ := List.exists_cons_of_ne_nil h.models_ne_nil
    rw [physicalLines, hms, Model.linesOfAll, Model.lines, Model.openingLines]
    split <;> simp [LineLayout.placeAll, LineLayout.place]

theorem text_significantLines_printed {s : Schema} (h : s.Printable) (l : Layout) :
    (significantLines (s.printed l)).map (·.text) = Model.linesOfAll l.braceBelow s.models := by
  have hsolid := Model.solid_linesOfAll h.models l.braceBelow
  have hfilter : (numbered 1 (rawLines (s.printed l))).filter (isSignificant ·.text) =
      (numbered 1 (rawLines (s.printed l))).filter (isSignificant ∘ (·.text)) := rfl
  rw [significantLines, hfilter, ← List.filter_map, map_text_numbered, rawLines_printed h,
    physicalLines, List.map_append, List.filter_append, LineLayout.filter_placeAll hsolid,
    LineLayout.filter_fillers, List.append_nil]

/-- The block spells the model and nothing besides. -/
structure Block.Prints (b : Block) (m : Model) : Prop where
  fits : b.Fits
  model_eq : b.model = m
  skipped_eq : b.skipped = []

theorem bodyLine_fits {line : Line} {f : Field} (h : f.Printable) (hline : line.text = f.lineText) :
    (BodyLine.field line f).Fits := by
  refine ⟨?_, ?_, ?_⟩
  · change line.text ≠ _
    rw [hline]
    exact h.lineText_ne_close
  · rintro ⟨n, r, id, hh, hm⟩
    change HeaderForm line.text n r at hh
    rw [hline] at hh
    exact h.not_bound hh hm
  · change FieldForm f line.text
    rw [hline]
    exact h.form

theorem bodyLines_of_text {fs : List Field} (h : ∀ f ∈ fs, f.Printable)
    (hl : lines.map (·.text) = fs.map Field.lineText) :
    ∃ body : List BodyLine, body.map BodyLine.line = lines ∧ (∀ l ∈ body, l.Fits) ∧
      body.filterMap BodyLine.field? = fs ∧
      ∀ name, body.filterMap (BodyLine.skipped? name) = [] := by
  induction fs generalizing lines with
  | nil =>
      obtain rfl := List.map_eq_nil_iff.1 hl
      exact ⟨[], rfl, by simp, rfl, fun _ => rfl⟩
  | cons f fs ih =>
      obtain ⟨line, rest, rfl, hline, hrest⟩ := List.map_eq_cons_iff.1 hl
      obtain ⟨hf, hfs⟩ := List.forall_mem_cons.1 h
      obtain ⟨body, rfl, hfits, hfields, hskipped⟩ := ih hfs hrest
      refine ⟨.field line f :: body, rfl, List.forall_mem_cons.2 ⟨?_, hfits⟩, ?_, ?_⟩
      · exact bodyLine_fits hf hline
      · rw [List.filterMap_cons, BodyLine.field?, hfields]
      · intro name
        rw [List.filterMap_cons, BodyLine.skipped?, hskipped]

theorem prints_of_body {m : Model} (h : m.Printable) {header close : Line} (brace : Option Line)
    {s : List Char} {body : List BodyLine} (hheader : header.text = m.headerText ++ s)
    (hbrace : match brace with
      | none => header.text.getLast? = some '\x7b'
      | some line => header.text.getLast? ≠ some '\x7b' ∧ line.text = ['\x7b'])
    (hfits : ∀ l ∈ body, l.Fits) (hclose : close.text = ['\x7d'])
    (hfields : body.filterMap BodyLine.field? = m.fields)
    (hskipped : ∀ name, body.filterMap (BodyLine.skipped? name) = []) :
    Block.Prints ⟨header, m.name.toList, m.databaseId.toList, brace, body, close⟩ m := by
  refine ⟨⟨⟨m.headerTail ++ s, ?_, h.firstMark s⟩, hbrace, hfits, hclose⟩, ?_, hskipped _⟩
  · rw [hheader]
    exact h.headerForm s
  · simp only [Block.model, Block.modelName, Block.fields, hfields, String.ofList_toList]

theorem block_of_text {m : Model} (h : m.Printable) {braceBelow : Bool}
    (hl : lines.map (·.text) = m.lines braceBelow) :
    ∃ b : Block, b.lines = lines ∧ b.Prints m := by
  obtain ⟨opening, rest, rfl, hopening, hrest⟩ := List.map_eq_append_iff.1 hl
  obtain ⟨inner, last, rfl, hinner, hlast⟩ := List.map_eq_append_iff.1 hrest
  obtain ⟨body, rfl, hfits, hfields, hskipped⟩ := bodyLines_of_text h.fields hinner
  obtain ⟨close, last, rfl, hclose, hnil⟩ := List.map_eq_cons_iff.1 hlast
  obtain rfl := List.map_eq_nil_iff.1 hnil
  cases braceBelow with
  | true =>
      obtain ⟨header, opening, rfl, hheader, hopening⟩ := List.map_eq_cons_iff.1 hopening
      obtain ⟨brace, opening, rfl, hbrace, hnil⟩ := List.map_eq_cons_iff.1 hopening
      obtain rfl := List.map_eq_nil_iff.1 hnil
      have hlast : header.text.getLast? ≠ some '\x7b' := by
        rw [hheader]
        simp [Model.headerText, List.getLast?_append, List.getLast?_cons]
      exact ⟨_, rfl, prints_of_body h (some brace) (s := []) (by simpa using hheader)
        ⟨hlast, hbrace⟩ hfits hclose hfields hskipped⟩
  | false =>
      obtain ⟨header, opening, rfl, hheader, hnil⟩ := List.map_eq_cons_iff.1 hopening
      obtain rfl := List.map_eq_nil_iff.1 hnil
      have hlast : header.text.getLast? = some '\x7b' := by
        rw [hheader]
        simp [List.getLast?_append]
      exact ⟨_, rfl, prints_of_body h none hheader hlast hfits hclose hfields hskipped⟩

theorem blocks_of_text {ms : List Model} (h : ∀ m ∈ ms, m.Printable) {braceBelow : Nat → Bool}
    (hl : lines.map (·.text) = Model.linesOfAll braceBelow ms) :
    ∃ bs : List Block, bs.flatMap Block.lines = lines ∧ bs.map Block.model = ms ∧
      (∀ b ∈ bs, b.Fits) ∧ ∀ b ∈ bs, b.skipped = [] := by
  induction ms generalizing lines braceBelow with
  | nil =>
      obtain rfl := List.map_eq_nil_iff.1 hl
      exact ⟨[], rfl, rfl, by simp, by simp⟩
  | cons m ms ih =>
      obtain ⟨front, rest, rfl, hfront, hrest⟩ := List.map_eq_append_iff.1 hl
      obtain ⟨hm, hms⟩ := List.forall_mem_cons.1 h
      obtain ⟨b, rfl, hb⟩ := block_of_text hm hfront
      obtain ⟨bs, rfl, rfl, hfits, hskipped⟩ := ih hms hrest
      refine ⟨b :: bs, rfl, ?_, ?_, ?_⟩
      · rw [List.map_cons, hb.model_eq]
      · exact List.forall_mem_cons.2 ⟨hb.fits, hfits⟩
      · exact List.forall_mem_cons.2 ⟨hb.skipped_eq, hskipped⟩

theorem blocks_map_block (bs : List Block) : blocks (bs.map Part.block) = bs := by
  induction bs with
  | nil => rfl
  | cons b bs ih => rw [List.map_cons, blocks, ih]

theorem modelName_of_model (bs : List Block) :
    bs.map Block.modelName = (bs.map Block.model).map (·.name) := by
  rw [List.map_map]
  rfl

/-- A printed schema is read back as it was, whatever its layout, and no line is skipped. -/
theorem parse_printed (layout : Layout) (s : Schema) (h : s.Printable) :
    (parseWithSkipped (s.printed layout)).value = .ok (s, []) := by
  obtain ⟨bs, hlines, hmodels, hfits, hskipped⟩ :=
    blocks_of_text h.models (text_significantLines_printed h layout)
  have hblocks := blocks_map_block bs
  have hspells : Spells [] (bs.map Part.block) (significantLines (s.printed layout)) := by
    refine ⟨?_, ?_, ?_, ?_⟩
    · rw [List.flatMap_map]
      exact hlines
    · intro p hp
      obtain ⟨b, hb, rfl⟩ := List.mem_map.1 hp
      exact hfits b hb
    · rw [hblocks, modelName_of_model, hmodels]
      exact h.distinct
    · simp
  have hne : blocks (bs.map Part.block) ≠ [] := by
    rw [hblocks]
    rintro rfl
    exact h.models_ne_nil hmodels.symm
  have hparse := parseWithSkipped_of_spells hspells hne
  have hnone : bs.flatMap Block.skipped = [] := List.flatMap_eq_nil_iff.2 hskipped
  rw [hblocks, hmodels, hnone] at hparse
  exact hparse

def garage : Schema :=
  ⟨[⟨"Owner", "db-1",
      [⟨"model", "Car[]", true, [⟨"map", some "a \x7bb\x7d (@date) // c"⟩, ⟨"relation", none⟩]⟩,
        ⟨"name", "String", false, [⟨"notionDatabase", some ") \x7b"⟩]⟩]⟩,
    ⟨"Car", "@map(2)", []⟩]⟩

def garageLayout : Layout :=
  ⟨fun n => ⟨if n = 1 then [⟨"\t// \x7b".toList, by decide +kernel, by decide⟩] else [],
      ⟨[' ', '\t'], by decide +kernel, by decide⟩, ⟨['\r'], by decide +kernel, by decide⟩⟩,
    fun n => n == 0, [⟨[], by decide, by decide⟩]⟩

theorem garage_printed :
    garage.printed garageLayout = String.intercalate "\r\n" [
      " \tmodel Owner @notionDatabase(\"db-1\")", "\t// \x7b\n \t\x7b",
      " \tmodel Car[]? @map(\"a \x7bb\x7d (@date) // c\") @relation",
      " \tname String @notionDatabase(\") \x7b\")", " \t\x7d",
      " \tmodel Car @notionDatabase(\"@map(2)\") \x7b", " \t\x7d", ""] ∧
    garage.Printable ∧
    (parseWithSkipped (garage.printed garageLayout)).value = .ok (garage, []) := by
  have hmodel : Field.Printable
      ⟨"model", "Car[]", true, [⟨"map", some "a \x7bb\x7d (@date) // c"⟩, ⟨"relation", none⟩]⟩ :=
    ⟨by decide, ⟨"Car".toList, true, by decide, by decide⟩, by
      intro a ha
      rcases List.mem_cons.1 ha with rfl | ha
      · exact ⟨by decide, by decide +kernel⟩
      · rw [List.mem_singleton.1 ha]
        exact ⟨by decide, by decide⟩, fun _ => by decide +kernel⟩
  have hname : Field.Printable ⟨"name", "String", false, [⟨"notionDatabase", some ") \x7b"⟩]⟩ :=
    ⟨by decide, ⟨"String".toList, false, by decide, by decide⟩, by
      intro a ha
      rw [List.mem_singleton.1 ha]
      exact ⟨by decide, by decide⟩, fun he => absurd he (by decide)⟩
  have hgarage : garage.Printable := by
    refine ⟨by decide, by decide, ?_⟩
    intro m hm
    rcases List.mem_cons.1 hm with rfl | hm
    · refine ⟨by decide, by decide, ?_⟩
      intro f hf
      rcases List.mem_cons.1 hf with rfl | hf
      · exact hmodel
      · rw [List.mem_singleton.1 hf]
        exact hname
    · rw [List.mem_singleton.1 hm]
      exact ⟨by decide, by decide, by simp⟩
  exact ⟨by decide +kernel, hgarage, parse_printed garageLayout garage hgarage⟩

end Schema

end NotionSchema
