import NotionSchema.Proofs.Schema.Blocks

namespace NotionSchema.Schema

open Text LineForm

variable {ms : List Model} {sk : List SkippedLine} {ns : List String} {m : OpenModel}
  {p q : Progress} {line close : Line} {lines rest : List Line} {parts : List Part}

theorem run_body (ms : List Model) (sk : List SkippedLine) (ns : List String) (m : OpenModel)
    (body : List BodyLine) (h : ∀ l ∈ body, l.Fits) :
    Run ⟨ms, sk, ns, .inBody m⟩ (body.map BodyLine.line)
      ⟨ms, sk ++ body.filterMap (BodyLine.skipped? m.name), ns,
        .inBody { m with fields := m.fields ++ body.filterMap BodyLine.field? }⟩ := by
  induction body generalizing sk m with
  | nil => simpa using Run.nil ⟨ms, sk, ns, .inBody m⟩
  | cons l body ih =>
      obtain ⟨⟨hc, hb, hf⟩, hbody⟩ := List.forall_mem_cons.1 h
      cases l with
      | field line f =>
          have hr := ih sk { m with fields := m.fields ++ [f] } hbody
          rw [List.append_assoc] at hr
          exact .cons _ _ _ line _ (.field ms sk ns m line f hc hb hf) hr
      | other line =>
          have hr := ih (sk ++ [⟨m.name, line.number, String.ofList line.text⟩]) m hbody
          rw [List.append_assoc] at hr
          exact .cons _ _ _ line _ (.skip ms sk ns m line hc hb hf) hr

theorem run_opening (ms : List Model) (sk : List SkippedLine) (b : Block) (h : b.Fits)
    (ht : Trimmed b.header.text) (hn : b.modelName ∉ ns) :
    Run ⟨ms, sk, ns, .betweenModels⟩ (b.header :: b.brace.toList)
      ⟨ms, sk, b.modelName :: ns, .inBody (opened b.header b.name b.databaseId)⟩ := by
  obtain ⟨r, hh, hm⟩ := h.header
  have hstep := Step.head ms sk ns b.header b.name r b.databaseId hh hm hn
  have hopens := opensBody_iff ht hh hm
  have hbrace := h.brace
  cases hb : b.brace with
  | none =>
      rw [hb] at hbrace
      rw [if_pos (hopens.2 hbrace)] at hstep
      exact .single hstep
  | some line =>
      rw [hb] at hbrace
      rw [if_neg (fun ho => hbrace.1 (hopens.1 ho))] at hstep
      exact .cons _ _ _ _ _ hstep (.single (.brace ms sk _ _ line hbrace.2))

theorem run_block (ms : List Model) (sk : List SkippedLine) (b : Block) (h : b.Fits)
    (ht : Trimmed b.header.text) (hn : b.modelName ∉ ns) :
    Run ⟨ms, sk, ns, .betweenModels⟩ b.lines
      ⟨ms ++ [b.model], sk ++ b.skipped, b.modelName :: ns, .betweenModels⟩ := by
  have hopen := run_opening ms sk b h ht hn
  have hbody := run_body ms sk (b.modelName :: ns) (opened b.header b.name b.databaseId) b.body
    h.body
  have hclose := Step.close ms (sk ++ b.skipped) (b.modelName :: ns)
    { opened b.header b.name b.databaseId with fields := [] ++ b.fields } b.close h.close
  exact hopen.append (hbody.append (.single hclose))

theorem run_of_spells (ms : List Model) (sk : List SkippedLine) (h : Spells ns parts lines)
    (ht : ∀ l ∈ lines, Trimmed l.text) :
    ∃ ns', Run ⟨ms, sk, ns, .betweenModels⟩ lines ⟨ms ++ (blocks parts).map Block.model,
      sk ++ (blocks parts).flatMap Block.skipped, ns', .betweenModels⟩ := by
  obtain ⟨rfl, hfits, hdistinct, hfresh⟩ := h
  induction parts generalizing ms sk ns with
  | nil => exact ⟨ns, by simpa [blocks] using Run.nil ⟨ms, sk, ns, .betweenModels⟩⟩
  | cons part parts ih =>
      obtain ⟨hpart, hrest⟩ := List.forall_mem_cons.1 hfits
      have htrest : ∀ l ∈ parts.flatMap Part.lines, Trimmed l.text := by
        intro l hl
        exact ht l (by rw [List.flatMap_cons]; exact List.mem_append_right _ hl)
      cases part with
      | stray line =>
          obtain ⟨ns', hr⟩ := ih ms sk hrest hdistinct hfresh htrest
          have hs : ¬ IsHeader line := hpart
          exact ⟨ns', .cons _ _ _ line _ (.pass ms sk ns line hs) hr⟩
      | block b =>
          obtain ⟨hnew, hnodup⟩ := List.nodup_cons.1 hdistinct
          have hb : b.Fits := hpart
          obtain ⟨hfreshHead, hfreshRest⟩ := List.forall_mem_cons.1 hfresh
          have htb : Trimmed b.header.text := ht _ (by simp [Part.lines, Block.lines])
          have hr := run_block ms sk b hb htb hfreshHead
          -- Later blocks repeat neither the names met before nor the name of this block.
          have hfresh' : ∀ b' ∈ blocks parts, b'.modelName ∉ b.modelName :: ns := by
            intro b' hb'
            rw [List.mem_cons, not_or]
            refine ⟨?_, hfreshRest b' hb'⟩
            intro he
            exact hnew (List.mem_map.2 ⟨b', hb', he⟩)
          obtain ⟨ns', hr'⟩ := ih (ms ++ [b.model]) (sk ++ b.skipped) hrest hnodup hfresh' htrest
          refine ⟨ns', ?_⟩
          simpa [blocks, Part.lines] using hr.append hr'

/-- How the lines go on in the body of a model. -/
def BodyGoesOn (ns : List String) (m : OpenModel) (lines : List Line) (ms : List Model)
    (sk : List SkippedLine) : Prop :=
  ∃ (body : List BodyLine) (close : Line) (rest : List Line) (parts : List Part),
    lines = body.map BodyLine.line ++ close :: rest ∧
    (∀ l ∈ body, l.Fits) ∧ close.text = ['\x7d'] ∧ Spells ns parts rest ∧
    ms = ⟨m.name, m.databaseId, m.fields ++ body.filterMap BodyLine.field?⟩ ::
      (blocks parts).map Block.model ∧
    sk = body.filterMap (BodyLine.skipped? m.name) ++ (blocks parts).flatMap Block.skipped

def GoesOn (ns : List String) (lines : List Line) (ms : List Model) (sk : List SkippedLine) :
    Place → Prop
  | .betweenModels => ∃ parts, Spells ns parts lines ∧ ms = (blocks parts).map Block.model ∧
      sk = (blocks parts).flatMap Block.skipped
  | .afterHeader m => ∃ brace rest, lines = brace :: rest ∧ brace.text = ['\x7b'] ∧
      BodyGoesOn ns m rest ms sk
  | .inBody m => BodyGoesOn ns m lines ms sk

theorem spells_stray (h : ¬ IsHeader line) (hs : Spells ns parts rest) :
    Spells ns (.stray line :: parts) (line :: rest) := by
  obtain ⟨rfl, hfits, hdistinct, hfresh⟩ := hs
  have hall : ∀ p ∈ Part.stray line :: parts, p.Fits := List.forall_mem_cons.2 ⟨h, hfits⟩
  exact ⟨rfl, hall, hdistinct, hfresh⟩

theorem spells_block {b : Block} (h : b.Fits) (hn : b.modelName ∉ ns)
    (hs : Spells (b.modelName :: ns) parts rest) :
    Spells ns (.block b :: parts) (b.lines ++ rest) := by
  obtain ⟨rfl, hfits, hdistinct, hfresh⟩ := hs
  have hall : ∀ p ∈ Part.block b :: parts, p.Fits := List.forall_mem_cons.2 ⟨h, hfits⟩
  refine ⟨rfl, hall, ?_, ?_⟩
  · refine List.nodup_cons.2 ⟨?_, hdistinct⟩
    intro hb
    obtain ⟨b', hb', he⟩ := List.mem_map.1 hb
    exact hfresh b' hb' (List.mem_cons.2 (.inl he))
  · refine List.forall_mem_cons.2 ⟨hn, ?_⟩
    intro b' hb' hmem
    exact hfresh b' hb' (List.mem_cons_of_mem _ hmem)

theorem goesOn_of_header {name r id : List Char} (brace : Option Line)
    (hh : HeaderForm line.text name r) (hm : FirstMark id r) (hn : String.ofList name ∉ ns)
    (hb : match brace with
      | none => line.text.getLast? = some '\x7b'
      | some l => line.text.getLast? ≠ some '\x7b' ∧ l.text = ['\x7b'])
    (h : BodyGoesOn (String.ofList name :: ns) (opened line name id) rest ms sk) :
    GoesOn ns (line :: (brace.toList ++ rest)) ms sk .betweenModels := by
  obtain ⟨body, close, rest', parts, rfl, hbody, hclose, hs, rfl, rfl⟩ := h
  have hfits : Block.Fits ⟨line, name, id, brace, body, close⟩ := ⟨⟨r, hh, hm⟩, hb, hbody, hclose⟩
  have hspells := spells_block hfits hn hs
  simp only [Block.lines, List.cons_append, List.append_assoc, List.nil_append] at hspells
  exact ⟨_, hspells, rfl, rfl⟩

theorem bodyGoesOn_cons {l : BodyLine} (hl : l.Fits)
    (h : BodyGoesOn ns { m with fields := m.fields ++ l.field?.toList } rest ms sk) :
    BodyGoesOn ns m (l.line :: rest) ms ((l.skipped? m.name).toList ++ sk) := by
  obtain ⟨body, close, rest', parts, rfl, hbody, hclose, hs, rfl, rfl⟩ := h
  have hall : ∀ l' ∈ l :: body, l'.Fits := List.forall_mem_cons.2 ⟨hl, hbody⟩
  refine ⟨l :: body, close, rest', parts, rfl, hall, hclose, hs, ?_, ?_⟩
  · cases l <;> simp [List.filterMap_cons, BodyLine.field?]
  · cases l <;> simp [List.filterMap_cons, BodyLine.skipped?]

theorem goesOn_of_run (h : Run p lines q) (hq : q.place = .betweenModels)
    (ht : ∀ l ∈ lines, Trimmed l.text) :
    ∃ ms sk, GoesOn p.names lines ms sk p.place ∧ q.models = p.models ++ ms ∧
      q.skipped = p.skipped ++ sk := by
  induction h with
  | nil p =>
      refine ⟨[], [], ?_, by simp, by simp⟩
      rw [hq]
      exact ⟨[], ⟨rfl, by simp, by simp [blocks], by simp [blocks]⟩, rfl, rfl⟩
  | cons p q r line rest hs _ ih =>
      -- The later lines are spelled from the place that the first line leads to.
      obtain ⟨htl, htrest⟩ := List.forall_mem_cons.1 ht
      obtain ⟨ms, sk, hgo, hms, hsk⟩ := ih hq htrest
      cases hs with
      | pass ms₀ sk₀ ns _ hh =>
          obtain ⟨parts, hspells, rfl, rfl⟩ := hgo
          exact ⟨_, _, ⟨.stray line :: parts, spells_stray hh hspells, rfl, rfl⟩, hms, hsk⟩
      | head ms₀ sk₀ ns _ name r' id hh hm hn =>
          refine ⟨ms, sk, ?_, hms, hsk⟩
          by_cases ho : opensBody r' = true
          · rw [if_pos ho] at hgo
            exact goesOn_of_header none hh hm hn ((opensBody_iff htl hh hm).1 ho) hgo
          · rw [if_neg ho] at hgo
            obtain ⟨brace, rest', rfl, hbrace, hbody⟩ := hgo
            have hlast : line.text.getLast? ≠ some '\x7b' :=
              fun hl => ho ((opensBody_iff htl hh hm).2 hl)
            exact goesOn_of_header (some brace) hh hm hn ⟨hlast, hbrace⟩ hbody
      | brace ms₀ sk₀ ns m _ hb => exact ⟨ms, sk, ⟨line, rest, rfl, hb, hgo⟩, hms, hsk⟩
      | close ms₀ sk₀ ns m _ hc =>
          obtain ⟨parts, hspells, rfl, rfl⟩ := hgo
          refine ⟨m.close :: (blocks parts).map Block.model, _,
            ⟨[], line, rest, parts, rfl, by simp, hc, hspells, ?_, rfl⟩, by simp [hms], hsk⟩
          rw [List.filterMap_nil, List.append_nil, OpenModel.close]
      | skip ms₀ sk₀ ns m _ hc hb hf =>
          have hl : (BodyLine.other line).Fits := ⟨hc, hb, hf⟩
          have hbody : BodyGoesOn ns { m with fields := m.fields ++ [] } rest ms sk := by
            rw [List.append_nil]
            exact hgo
          refine ⟨ms, _, bodyGoesOn_cons hl hbody, hms, ?_⟩
          rw [hsk, List.append_assoc]
          rfl
      | field ms₀ sk₀ ns m _ f hc hb hf =>
          have hl : (BodyLine.field line f).Fits := ⟨hc, hb, hf⟩
          exact ⟨ms, _, bodyGoesOn_cons hl hgo, hms, hsk⟩

theorem parseWithSkipped_of_spells {text : String} (hs : Spells [] parts (significantLines text))
    (hne : blocks parts ≠ []) : (parseWithSkipped text).value =
      .ok (⟨(blocks parts).map Block.model⟩, (blocks parts).flatMap Block.skipped) := by
  obtain ⟨ns, hr⟩ := run_of_spells [] [] hs fun l hl => trimmed_of_mem hl
  exact parseWithSkipped_eq_ok_iff.2 ⟨ns, hr, by simpa using hne⟩

theorem spells_of_parseWithSkipped {text : String} {s : Schema} {skipped : List SkippedLine}
    (h : (parseWithSkipped text).value = .ok (s, skipped)) :
    ∃ parts, Spells [] parts (significantLines text) ∧ blocks parts ≠ [] := by
  obtain ⟨ns, hr, hne⟩ := parseWithSkipped_eq_ok_iff.1 h
  obtain ⟨ms, sk, ⟨parts, hs, hms, -⟩, hmodels, -⟩ :=
    goesOn_of_run hr rfl fun l hl => trimmed_of_mem hl
  refine ⟨parts, hs, ?_⟩
  rintro he
  rw [he] at hms
  rw [hms] at hmodels
  exact hne hmodels

theorem exists_skipped_of_parse {text : String} {s : Schema} (h : (parse text).value = .ok s) :
    ∃ skipped, (parseWithSkipped text).value = .ok (s, skipped) := by
  rw [parse, Logged.value_bind] at h
  cases hp : (parseWithSkipped text).value with
  | error e =>
      rw [hp] at h
      cases h
  | ok result =>
      rw [hp] at h
      cases h
      exact ⟨result.2, rfl⟩

theorem exists_spelling {text : String} {s : Schema} {skipped : List SkippedLine}
    (h : (parseWithSkipped text).value = .ok (s, skipped)) :
    ∃ parts, Spells [] parts (significantLines text) ∧ blocks parts ≠ [] ∧
      s.models = (blocks parts).map Block.model ∧
      skipped = (blocks parts).flatMap Block.skipped := by
  obtain ⟨parts, hs, hne⟩ := spells_of_parseWithSkipped h
  rw [parseWithSkipped_of_spells hs hne] at h
  cases h
  exact ⟨parts, hs, hne, rfl, rfl⟩

theorem exists_block {text : String} {s : Schema} {skipped : List SkippedLine} {m : Model}
    (h : (parseWithSkipped text).value = .ok (s, skipped)) (hm : m ∈ s.models) :
    ∃ b : Block, b.Fits ∧ b.model = m ∧ ∀ line ∈ b.lines, line ∈ significantLines text := by
  obtain ⟨parts, hs, -, hmodels, -⟩ := exists_spelling h
  rw [hmodels] at hm
  obtain ⟨b, hb, rfl⟩ := List.mem_map.1 hm
  exact ⟨b, hs.fits _ (mem_of_mem_blocks hb), rfl, fun _ hl => mem_lines_of_mem_blocks hs hb hl⟩

/-- The parser accepts exactly the texts that the block grammar spells, and the result accounts for
every line of every body: it is a field of its model or skipped, under its number in the text. -/
theorem accepted_iff_spelled (text : String) :
    ((∃ result, (parseWithSkipped text).value = .ok result) ↔
      ∃ parts, Spells [] parts (significantLines text) ∧ blocks parts ≠ []) ∧
    ∀ parts, Spells [] parts (significantLines text) → blocks parts ≠ [] →
      (parseWithSkipped text).value =
        .ok (⟨(blocks parts).map Block.model⟩, (blocks parts).flatMap Block.skipped) ∧
      (∀ b ∈ blocks parts, b.fields.length + b.skipped.length = b.body.length) ∧
      ∀ b ∈ blocks parts, ∀ s ∈ b.skipped, ∃ line ∈ b.lines, StandsIn text line ∧
        s = ⟨b.modelName, line.number, String.ofList line.text⟩ := by
  refine ⟨⟨?_, ?_⟩, ?_⟩
  · rintro ⟨⟨s, skipped⟩, h⟩
    exact spells_of_parseWithSkipped h
  · rintro ⟨parts, hs, hne⟩
    exact ⟨_, parseWithSkipped_of_spells hs hne⟩
  · intro parts hs hne
    refine ⟨parseWithSkipped_of_spells hs hne, ?_, ?_⟩
    · intro b _
      exact length_fields_add_length_skipped b
    · intro b hb s hsk
      obtain ⟨line, hl, he⟩ := line_mem_of_skipped hsk
      exact ⟨line, hl, standsIn_of_mem (mem_lines_of_mem_blocks hs hb hl), he⟩

def taskText : String :=
  "tasks:\nmodel Task @notionDatabase(\"db1\")\n// open\n\x7b\n  model Car? @map(\"\x7d\")\n  ??\n\x7d\n"

def taskParts : List Part :=
  [.stray ⟨1, "tasks:".toList⟩,
    .block ⟨⟨2, "model Task @notionDatabase(\"db1\")".toList⟩, "Task".toList, "db1".toList,
      some ⟨4, ['\x7b']⟩,
      [.field ⟨5, "model Car? @map(\"\x7d\")".toList⟩ ⟨"model", "Car", true, [⟨"map", some "\x7d"⟩]⟩,
        .other ⟨6, "??".toList⟩],
      ⟨7, ['\x7d']⟩⟩]

theorem taskText_accepted :
    Spells [] taskParts (significantLines taskText) ∧ blocks taskParts ≠ [] ∧
      (parseWithSkipped taskText).value =
        .ok (⟨[⟨"Task", "db1", [⟨"model", "Car", true, [⟨"map", some "\x7d"⟩]⟩]⟩]⟩,
          [⟨"Task", 6, "??"⟩]) := by
  have hs : Spells [] taskParts (significantLines taskText) := by
    refine ⟨by decide +kernel, ?_, by decide +kernel, by decide +kernel⟩
    intro p hp
    simp only [taskParts, List.mem_cons, List.not_mem_nil, or_false] at hp
    rcases hp with rfl | rfl
    · change ¬ IsHeader _
      decide +kernel
    · exact ⟨⟨" @notionDatabase(\"db1\")".toList, by decide +kernel⟩, by decide +kernel,
        by decide +kernel, rfl⟩
  have hne : blocks taskParts ≠ [] := by simp [taskParts, blocks]
  have h := ((accepted_iff_spelled taskText).2 taskParts hs hne).1
  have hmodels : (blocks taskParts).map Block.model =
      [⟨"Task", "db1", [⟨"model", "Car", true, [⟨"map", some "\x7d"⟩]⟩]⟩] := by decide +kernel
  have hskipped : (blocks taskParts).flatMap Block.skipped = [⟨"Task", 6, "??"⟩] := by
    decide +kernel
  rw [hmodels, hskipped] at h
  exact ⟨hs, hne, h⟩

end NotionSchema.Schema
