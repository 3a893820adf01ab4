import NotionSchema.Proofs.Schema.Standing

namespace NotionSchema

namespace Text

def textAbove (text : String) (n : Nat) : String :=
  String.ofList (['\n'].intercalate ((rawLines text).take (n - 1)))

theorem notMem_of_mem_splitOn {c : Char} {s raw : List Char} (h : raw ∈ s.splitOn c) : c ∉ raw := by
  rw [List.splitOn_eq_splitOnP] at h
  induction s generalizing raw with
  | nil =>
      rw [List.splitOnP_nil, List.mem_singleton] at h
      simp [h]
  | cons d s ih =>
      rw [List.splitOnP_cons_eq_if_modifyHead] at h
      split_ifs at h with hd
      · rcases List.mem_cons.1 h with rfl | h
        · simp
        · exact ih h
      · obtain ⟨first, later, hs⟩ := List.exists_cons_of_ne_nil (List.splitOnP_ne_nil (· == c) s)
        rw [hs, List.modifyHead_cons] at h
        rw [hs] at ih
        rcases List.mem_cons.1 h with rfl | h
        · have hne : c ≠ d := fun he => hd (by simp [he])
          exact List.not_mem_cons_of_ne_of_not_mem hne (ih List.mem_cons_self)
        · exact ih (List.mem_cons_of_mem _ h)

theorem significantLines_textAbove (text : String) (n : Nat) :
    significantLines (textAbove text n) =
      (numbered 1 ((rawLines text).take (n - 1))).filter (isSignificant ·.text) := by
  by_cases hnil : (rawLines text).take (n - 1) = []
  · rw [textAbove, hnil]
    decide +kernel
  · have hraw : rawLines (textAbove text n) = (rawLines text).take (n - 1) := by
      rw [rawLines, textAbove, String.toList_ofList]
      refine List.splitOn_intercalate _ (fun raw hmem => ?_) hnil
      exact notMem_of_mem_splitOn (List.mem_of_mem_take hmem)
    rw [significantLines, hraw]

theorem filter_numbered_take {raws : List (List Char)} {start : Nat} {before after : List Line}
    {line : Line}
    (h : (numbered start raws).filter (isSignificant ·.text) = before ++ line :: after) :
    start ≤ line.number ∧
    (numbered start (raws.take (line.number - start))).filter (isSignificant ·.text) = before ∧
    (numbered start (raws.take (line.number - start + 1))).filter (isSignificant ·.text) =
      before ++ [line] := by
  induction raws generalizing start before with
  | nil => simp [numbered] at h
  | cons raw raws ih =>
      rw [numbered, List.filter_cons] at h
      by_cases hs : isSignificant (trim raw) = true
      · rw [if_pos hs] at h
        cases before with
        | nil =>
            obtain ⟨rfl, -⟩ := List.cons_eq_cons.1 h
            simp [numbered, hs]
        | cons first before =>
            obtain ⟨rfl, hrest⟩ := List.cons_eq_cons.1 h
            obtain ⟨hle, habove, hthrough⟩ := ih hrest
            have hindex : line.number - start = line.number - (start + 1) + 1 := by omega
            refine ⟨by omega, ?_, ?_⟩
            · rw [hindex, List.take_succ_cons, numbered, List.filter_cons, if_pos hs, habove]
            · rw [hindex, List.take_succ_cons, numbered, List.filter_cons, if_pos hs, hthrough]
              rfl
      · rw [if_neg hs] at h
        obtain ⟨hle, habove, hthrough⟩ := ih h
        have hindex : line.number - start = line.number - (start + 1) + 1 := by omega
        refine ⟨by omega, ?_, ?_⟩
        · rw [hindex, List.take_succ_cons, numbered, List.filter_cons, if_neg hs, habove]
        · rw [hindex, List.take_succ_cons, numbered, List.filter_cons, if_neg hs, hthrough]

variable {text text' : String} {before after : List Line} {line : Line}

theorem significantLines_above (h : significantLines text = before ++ line :: after) :
    significantLines (textAbove text line.number) = before := by
  rw [significantLines_textAbove]
  exact (filter_numbered_take h).2.1

theorem significantLines_of_take (h : significantLines text = before ++ line :: after)
    (htake : (rawLines text').take line.number = (rawLines text).take line.number) :
    ∃ after', significantLines text' = before ++ line :: after' := by
  obtain ⟨hle, -, hthrough⟩ := filter_numbered_take h
  have hn : line.number - 1 + 1 = line.number := by omega
  rw [hn, ← htake] at hthrough
  rw [significantLines, ← List.take_append_drop line.number (rawLines text'), numbered_append,
    List.filter_append, hthrough, List.append_assoc]
  exact ⟨_, rfl⟩

end Text

def ParseError.line? : ParseError → Option Nat
  | .missingDatabaseId line _ => some line
  | .unterminatedModel _ line => some line
  | .duplicateModel _ line => some line
  | .noModels => none

namespace Schema

open Text LineForm

variable {p q : Progress} {line header : Line} {before after lines rest : List Line}
  {parts : List Part} {names : List String} {e : ParseError} {text : String}

/-- How a reading stops before lines that are left, or at the end of the text. -/
inductive Halts : Progress → List Line → ParseError → Prop
  | unbound (ms sk ns) (line : Line) (after : List Line) (hh : IsHeader line)
      (hb : ¬ IsBoundHeader line) :
      Halts ⟨ms, sk, ns, .betweenModels⟩ (line :: after)
        (.missingDatabaseId line.number (String.ofList line.text))
  | repeated (ms sk ns) (line : Line) (after : List Line) (name rest id : List Char)
      (hh : HeaderForm line.text name rest) (hm : FirstMark id rest) (hn : String.ofList name ∈ ns) :
      Halts ⟨ms, sk, ns, .betweenModels⟩ (line :: after)
        (.duplicateModel (String.ofList name) line.number)
  | unopened (ms sk ns) (m : OpenModel) (after : List Line)
      (h : ∀ line ∈ after.head?, line.text ≠ ['\x7b']) :
      Halts ⟨ms, sk, ns, .afterHeader m⟩ after m.unterminated
  | unclosed (ms sk ns) (m : OpenModel) (after : List Line)
      (h : ∀ line ∈ after.head?, IsBoundHeader line) :
      Halts ⟨ms, sk, ns, .inBody m⟩ after m.unterminated
  | empty (sk ns) : Halts ⟨[], sk, ns, .betweenModels⟩ [] .noModels

def readFrom (p : Progress) (lines : List Line) : Reading (Schema × List SkippedLine) := do
  let q ← readLines p lines
  ExceptT.mk (pure q.finish)

theorem value_parseWithSkipped (text : String) :
    (parseWithSkipped text).value = outcome (readFrom .start (significantLines text)) := rfl

theorem outcome_readFrom_cons (p : Progress) (line : Line) (rest : List Line) :
    outcome (readFrom p (line :: rest)) =
      (outcome (p.step line)).bind fun q => outcome (readFrom q rest) := by
  rw [readFrom, readLines, bind_assoc, outcome_bind]
  rfl

theorem outcome_readLines_append (h : Run p lines q) :
    outcome (readLines p (lines ++ rest)) = outcome (readLines q rest) := by
  induction h with
  | nil => rfl
  | cons p q r line lines hs _ ih =>
      rw [List.cons_append, readLines, outcome_bind, outcome_step_of_step hs]
      exact ih

theorem outcome_readFrom_append (h : Run p before q) :
    outcome (readFrom p (before ++ after)) = outcome (readFrom q after) := by
  rw [readFrom, readFrom, outcome_bind, outcome_bind, outcome_readLines_append h]

theorem ne_closeBrace_of_isBoundHeader (h : IsBoundHeader line) : line.text ≠ ['\x7d'] := by
  obtain ⟨name, rest, id, ⟨gap, -, -, -, hline⟩, -⟩ := h
  simp [hline, modelWord]

theorem isBoundHeader_of_form {name rest id : List Char} (hh : HeaderForm line.text name rest)
    (hm : FirstMark id rest) : IsBoundHeader line := ⟨name, rest, id, hh, hm⟩

theorem outcome_step_of_openModel {name rest : List Char} (hp : p.place = .betweenModels)
    (hh : HeaderForm line.text name rest) (hopen : openModel p.names line name rest = .error e) :
    outcome (p.step line) = .error e := by
  rw [Progress.step, hp]
  change p.betweenModels line = _
  rw [Progress.betweenModels, readHeader_eq_some_iff.2 hh]
  simp only [hopen]
  rfl

theorem outcome_step_duplicate {name rest id : List Char} (hp : p.place = .betweenModels)
    (hh : HeaderForm line.text name rest) (hm : FirstMark id rest)
    (hn : String.ofList name ∈ p.names) :
    outcome (p.step line) = .error (.duplicateModel (String.ofList name) line.number) := by
  refine outcome_step_of_openModel hp hh ?_
  rw [openModel, databaseId?_eq_some_iff.2 hm]
  exact if_pos (by simpa using hn)

theorem outcome_step_unbound (hp : p.place = .betweenModels) (hh : IsHeader line)
    (hb : ¬ IsBoundHeader line) : outcome (p.step line) =
      .error (.missingDatabaseId line.number (String.ofList line.text)) := by
  obtain ⟨name, rest, hform⟩ := hh
  have hid : databaseId? rest = none := by
    refine Option.eq_none_iff_forall_ne_some.2 fun id hid => hb ?_
    exact isBoundHeader_of_form hform (databaseId?_eq_some_iff.1 hid)
  refine outcome_step_of_openModel hp hform ?_
  rw [openModel, hid]

theorem Halts.outcome_step (h : Halts p (line :: after) e) :
    outcome (p.step line) = .error e := by
  cases h with
  | unbound ms sk ns _ _ hh hb => exact outcome_step_unbound rfl hh hb
  | repeated ms sk ns _ _ name rest id hh hm hn => exact outcome_step_duplicate rfl hh hm hn
  | unopened ms sk ns m _ h =>
      have hne : line.text ≠ ['\x7b'] := h line rfl
      rw [Progress.step]
      simp only [hne, if_false]
      rfl
  | unclosed ms sk ns m _ h =>
      have hb : IsBoundHeader line := h line rfl
      change outcome (Progress.inBody _ m line) = _
      rw [outcome_inBody, if_neg (ne_closeBrace_of_isBoundHeader hb),
        if_pos (isBoundHeader_eq_true_iff.2 hb)]

theorem Halts.finish_eq (h : Halts p [] e) : p.finish = .error e := by
  cases h <;> rfl

theorem Halts.outcome_eq (h : Halts p lines e) : outcome (readFrom p lines) = .error e := by
  cases lines with
  | nil =>
      change p.finish = _
      exact h.finish_eq
  | cons line after =>
      rw [outcome_readFrom_cons, h.outcome_step]
      rfl

theorem halts_of_betweenModels {ms : List Model} {sk : List SkippedLine} {ns : List String}
    (h : Progress.betweenModels ⟨ms, sk, ns, .betweenModels⟩ line = .error e) :
    Halts ⟨ms, sk, ns, .betweenModels⟩ (line :: after) e := by
  by_cases hh : IsHeader line
  · by_cases hb : IsBoundHeader line
    · obtain ⟨name, rest, id, hform, hm⟩ := hb
      by_cases hn : String.ofList name ∈ ns
      · have hstep := outcome_step_duplicate
          (p := ⟨ms, sk, ns, .betweenModels⟩) rfl hform hm hn
        cases Except.error.inj (h.symm.trans hstep)
        exact .repeated ms sk ns line after name rest id hform hm hn
      · rw [betweenModels_head hform hm hn] at h
        cases h
    · have hstep := outcome_step_unbound (p := ⟨ms, sk, ns, .betweenModels⟩) rfl hh hb
      cases Except.error.inj (h.symm.trans hstep)
      exact .unbound ms sk ns line after hh hb
  · rw [betweenModels_pass hh] at h
    cases h

theorem halts_of_step (h : outcome (p.step line) = .error e) : Halts p (line :: after) e := by
  obtain ⟨ms, sk, ns, place⟩ := p
  cases place with
  | betweenModels => exact halts_of_betweenModels h
  | afterHeader m =>
      simp only [Progress.step] at h
      by_cases hb : line.text = ['\x7b']
      · rw [if_pos hb] at h
        cases h
      · rw [if_neg hb] at h
        cases h
        exact .unopened ms sk ns m _ (by simpa using hb)
  | inBody m =>
      change outcome (Progress.inBody _ m line) = _ at h
      rw [outcome_inBody] at h
      by_cases hc : line.text = ['\x7d']
      · rw [if_pos hc] at h
        cases h
      · rw [if_neg hc] at h
        by_cases hb : IsBoundHeader line
        · rw [if_pos (isBoundHeader_eq_true_iff.2 hb)] at h
          cases h
          exact .unclosed ms sk ns m _ (by simpa using hb)
        · rw [if_neg (by rwa [isBoundHeader_eq_true_iff])] at h
          cases hf : readField line.text <;> rw [hf] at h <;> cases h

theorem halts_of_finish (h : p.finish = .error e) : Halts p [] e := by
  obtain ⟨ms, sk, ns, place⟩ := p
  cases place with
  | betweenModels =>
      rw [Progress.finish] at h
      dsimp only at h
      split at h
      · rename_i hms
        cases h
        rw [List.isEmpty_iff.1 hms]
        exact .empty sk ns
      · cases h
  | afterHeader m =>
      cases h
      exact .unopened ms sk ns m [] (by simp)
  | inBody m =>
      cases h
      exact .unclosed ms sk ns m [] (by simp)

theorem exists_halt (h : outcome (readFrom p lines) = .error e) :
    ∃ before q after, lines = before ++ after ∧ Run p before q ∧ Halts q after e := by
  induction lines generalizing p with
  | nil => exact ⟨[], p, [], rfl, .nil p, halts_of_finish h⟩
  | cons line rest ih =>
      rw [outcome_readFrom_cons] at h
      cases hs : outcome (p.step line) with
      | error e' =>
          rw [hs] at h
          cases h
          exact ⟨[], p, line :: rest, rfl, .nil p, halts_of_step hs⟩
      | ok q =>
          rw [hs] at h
          obtain ⟨before, r, after, rfl, hrun, hhalts⟩ := ih h
          have hstep := outcome_step_eq_ok_iff.1 hs
          exact ⟨line :: before, r, after, rfl, .cons p q r line before hstep hrun, hhalts⟩

/-- What is wrong with a header behind models of these names, with the lines below the header. -/
inductive Fault (names : List String) (header : Line) (after : List Line) : ParseError → Prop
  | unbound (hh : IsHeader header) (hb : ¬ IsBoundHeader header) :
      Fault names header after (.missingDatabaseId header.number (String.ofList header.text))
  | repeated (name rest id : List Char) (hh : HeaderForm header.text name rest)
      (hm : FirstMark id rest) (hn : String.ofList name ∈ names) :
      Fault names header after (.duplicateModel (String.ofList name) header.number)
  | unopened (name rest id : List Char) (hh : HeaderForm header.text name rest)
      (hm : FirstMark id rest) (hn : String.ofList name ∉ names)
      (hlast : header.text.getLast? ≠ some '\x7b')
      (hnext : ∀ line ∈ after.head?, line.text ≠ ['\x7b']) :
      Fault names header after (.unterminatedModel (String.ofList name) header.number)
  | unclosed (o : OpenBlock) (tail : List Line) (ho : o.Fits)
      (hlines : header :: after = o.lines ++ tail) (hn : o.modelName ∉ names)
      (htail : ∀ line ∈ tail.head?, IsBoundHeader line) :
      Fault names header after (.unterminatedModel o.modelName header.number)

theorem Fault.isHeader (h : Fault names header after e) : IsHeader header := by
  cases h with
  | unbound hh => exact hh
  | repeated name rest _ hh => exact ⟨name, rest, hh⟩
  | unopened name rest _ hh => exact ⟨name, rest, hh⟩
  | unclosed o tail ho hlines =>
      obtain ⟨rest, hh, -⟩ := ho.header
      obtain ⟨rfl, -⟩ := List.cons_eq_cons.1 hlines
      exact ⟨o.name, rest, hh⟩

theorem Fault.line?_eq (h : Fault names header after e) : e.line? = some header.number := by
  cases h <;> rfl

theorem Fault.of_header (h : Fault names header after e)
    (hu : ∀ name, e ≠ .unterminatedModel name header.number) (after' : List Line) :
    Fault names header after' e := by
  cases h with
  | unbound hh hb => exact .unbound hh hb
  | repeated name rest id hh hm hn => exact .repeated name rest id hh hm hn
  | unopened name => exact absurd rfl (hu (String.ofList name))
  | unclosed o => exact absurd rfl (hu o.modelName)

theorem mem_namesMet {name : String} :
    name ∈ namesMet parts ↔ name ∈ (blocks parts).map Block.modelName := List.mem_reverse

theorem Standing.fault (hst : Standing parts before p) (hh : Halts p after e) :
    (e = .noModels ∧ blocks parts = [] ∧ before ++ after = parts.flatMap Part.lines) ∨
    ∃ header rest, before ++ after = parts.flatMap Part.lines ++ header :: rest ∧
      Fault ((blocks parts).map Block.modelName) header rest e := by
  cases hst with
  | between sk =>
      generalize hms : (blocks parts).map Block.model = ms at hh
      cases hh with
      | unbound _ _ _ line rest hh hb => exact .inr ⟨line, rest, rfl, .unbound hh hb⟩
      | repeated _ _ _ line rest name r id hh hm hn =>
          exact .inr ⟨line, rest, rfl, .repeated name r id hh hm (mem_namesMet.1 hn)⟩
      | empty => exact .inl ⟨rfl, List.map_eq_nil_iff.1 hms, List.append_nil _⟩
  | headed sk header name r id hform hm hn hlast =>
      generalize (blocks parts).map Block.model = ms at hh
      cases hh with
      | unopened _ _ _ _ _ hnext =>
          refine .inr ⟨header, after, by simp, ?_⟩
          exact .unopened name r id hform hm (fun hmem => hn (mem_namesMet.2 hmem)) hlast hnext
  | inside sk o ho hn =>
      generalize (blocks parts).map Block.model = ms at hh
      cases hh with
      | unclosed _ _ _ _ _ htail =>
          refine .inr ⟨o.header, o.brace.toList ++ o.body.map BodyLine.line ++ after,
            by simp [OpenBlock.lines], ?_⟩
          exact .unclosed o after ho (by simp [OpenBlock.lines])
            (fun hmem => hn (mem_namesMet.2 hmem)) htail

theorem exists_fault (h : (parseWithSkipped text).value = .error e) :
    ∃ parts, Spells [] parts (parts.flatMap Part.lines) ∧
      ((e = .noModels ∧ blocks parts = [] ∧ significantLines text = parts.flatMap Part.lines) ∨
      ∃ header after, significantLines text = parts.flatMap Part.lines ++ header :: after ∧
        Fault ((blocks parts).map Block.modelName) header after e) := by
  obtain ⟨before, q, after, hlines, hrun, hhalts⟩ := exists_halt (value_parseWithSkipped text ▸ h)
  have htrimmed : ∀ l ∈ before, Trimmed l.text := by
    intro l hl
    exact trimmed_of_mem (hlines ▸ List.mem_append_left after hl)
  obtain ⟨parts, hspells, hstanding⟩ := standsAfter_nil.run hrun htrimmed
  rw [List.nil_append] at hstanding
  rw [hlines]
  exact ⟨parts, hspells, hstanding.fault hhalts⟩

theorem run_of_spells_names (hs : Spells [] parts lines) (ht : ∀ l ∈ lines, Trimmed l.text) :
    Run .start lines ⟨(blocks parts).map Block.model, (blocks parts).flatMap Block.skipped,
      namesMet parts, .betweenModels⟩ := by
  have hnames (ps : List Part) :
      namesMet ps = (((blocks ps).map Block.model).map (·.name)).reverse := by
    rw [namesMet, List.map_map]
    rfl
  obtain ⟨ns, hrun⟩ := run_of_spells [] [] hs ht
  obtain ⟨parts', -, hstanding⟩ := standsAfter_nil.run hrun ht
  rw [List.nil_append] at hstanding
  generalize hms : [] ++ (blocks parts).map Block.model = ms at hrun hstanding
  cases hstanding with
  | between =>
      rw [List.nil_append] at hms
      rw [hnames, hms, ← hnames]
      exact hrun

theorem trimmed_of_parts {text : String} {tail : List Line}
    (htext : significantLines text = parts.flatMap Part.lines ++ tail) :
    ∀ l ∈ parts.flatMap Part.lines, Trimmed l.text := by
  intro l hl
  exact trimmed_of_mem (htext ▸ List.mem_append_left tail hl)

theorem OpenBlock.run_lines (ms : List Model) (sk : List SkippedLine) {ns : List String}
    {o : OpenBlock} (ho : o.Fits) (ht : Trimmed o.header.text) (hn : o.modelName ∉ ns) :
    ∃ sk', Run ⟨ms, sk, ns, .betweenModels⟩ o.lines ⟨ms, sk', o.modelName :: ns, .inBody o.model⟩ := by
  have hfits : (o.closedBy ⟨0, ['\x7d']⟩).Fits := ho.closedBy rfl
  have hopening := run_opening ms sk (o.closedBy ⟨0, ['\x7d']⟩) hfits ht hn
  have hbody := run_body ms sk (o.modelName :: ns) (opened o.header o.name o.databaseId) o.body
    ho.body
  exact ⟨_, hopening.append hbody⟩

theorem parseWithSkipped_of_fault (hs : Spells [] parts (parts.flatMap Part.lines))
    (htext : significantLines text = parts.flatMap Part.lines ++ header :: after)
    (hf : Fault ((blocks parts).map Block.modelName) header after e) :
    (parseWithSkipped text).value = .error e := by
  have hrun := run_of_spells_names hs (trimmed_of_parts htext)
  have hheader : header ∈ significantLines text := by simp [htext]
  have ht : Trimmed header.text := trimmed_of_mem hheader
  rw [value_parseWithSkipped, htext, outcome_readFrom_append hrun]
  cases hf with
  | unbound hh hb => exact (Halts.unbound _ _ _ header after hh hb).outcome_eq
  | repeated name rest id hh hm hn =>
      exact (Halts.repeated _ _ _ header after name rest id hh hm (mem_namesMet.2 hn)).outcome_eq
  | unopened name rest id hh hm hn hlast hnext =>
      have hnew : String.ofList name ∉ namesMet parts := fun hmem => hn (mem_namesMet.1 hmem)
      have hstep := Step.head ((blocks parts).map Block.model)
        ((blocks parts).flatMap Block.skipped) (namesMet parts) header name rest id hh hm hnew
      rw [if_neg (fun ho => hlast ((opensBody_iff ht hh hm).1 ho))] at hstep
      rw [outcome_readFrom_cons, outcome_step_of_step hstep]
      exact (Halts.unopened _ _ _ (opened header name id) after hnext).outcome_eq
  | unclosed o tail ho hlines hn htail =>
      obtain ⟨rfl, -⟩ := List.cons_eq_cons.1 hlines
      have hnew : o.modelName ∉ namesMet parts := fun hmem => hn (mem_namesMet.1 hmem)
      obtain ⟨sk, hopen⟩ := OpenBlock.run_lines ((blocks parts).map Block.model)
        ((blocks parts).flatMap Block.skipped) ho ht hnew
      rw [hlines, outcome_readFrom_append hopen]
      exact (Halts.unclosed _ _ _ o.model tail htail).outcome_eq

theorem parseWithSkipped_of_stray (hs : Spells [] parts (significantLines text))
    (hb : blocks parts = []) : (parseWithSkipped text).value = .error .noModels := by
  have hrun := run_of_spells_names hs fun l hl => trimmed_of_mem hl
  rw [hb] at hrun
  rw [value_parseWithSkipped, ← List.append_nil (significantLines text),
    outcome_readFrom_append hrun]
  exact (Halts.empty _ _).outcome_eq

theorem spells_strays (h : ∀ line ∈ lines, ¬ IsHeader line) :
    ∃ parts, Spells [] parts lines ∧ blocks parts = [] := by
  induction lines with
  | nil => exact ⟨[], spells_nil [], rfl⟩
  | cons line rest ih =>
      obtain ⟨hline, hrest⟩ := List.forall_mem_cons.1 h
      obtain ⟨parts, hs, hb⟩ := ih hrest
      exact ⟨.stray line :: parts, spells_stray hline hs, hb⟩

theorem not_isHeader_of_strays (hfits : ∀ part ∈ parts, part.Fits) (hb : blocks parts = []) :
    ∀ line ∈ parts.flatMap Part.lines, ¬ IsHeader line := by
  induction parts with
  | nil => simp
  | cons part parts ih =>
      obtain ⟨hpart, hrest⟩ := List.forall_mem_cons.1 hfits
      cases part with
      | stray line => exact List.forall_mem_cons.2 ⟨hpart, ih hrest hb⟩
      | block b => cases hb

theorem noModels_iff : (parseWithSkipped text).value = .error .noModels ↔
    ∀ line ∈ significantLines text, ¬ IsHeader line := by
  constructor
  · intro h
    obtain ⟨parts, hs, ⟨-, hb, htext⟩ | ⟨header, after, -, hf⟩⟩ := exists_fault h
    · rw [htext]
      exact not_isHeader_of_strays hs.fits hb
    · cases hf
  · intro h
    obtain ⟨parts, hs, hb⟩ := spells_strays h
    exact parseWithSkipped_of_stray hs hb

/-- A text is refused for having no models exactly when none of its lines is a header. Otherwise it
is refused at a header: what stands above that header is spelled, and accepted if there is a model in
it, and the header, alone or with the lines below it, is at fault. Where the header itself is at
fault the text is refused alike whatever stands below. -/
theorem refused_at_first_fault (text : String) (e : ParseError)
    (h : (parseWithSkipped text).value = .error e) :
    (e = .noModels ↔ ∀ line ∈ significantLines text, ¬ IsHeader line) ∧
    (e ≠ .noModels → ∃ parts header after,
      significantLines text = parts.flatMap Part.lines ++ header :: after ∧
      Spells [] parts (parts.flatMap Part.lines) ∧
      Fault ((blocks parts).map Block.modelName) header after e ∧
      e.line? = some header.number ∧ StandsIn text header ∧ IsHeader header ∧
      (parseWithSkipped (textAbove text header.number)).value =
        if blocks parts = [] then .error .noModels
        else .ok (⟨(blocks parts).map Block.model⟩, (blocks parts).flatMap Block.skipped)) ∧
    ∀ n, e.line? = some n → (∀ name, e ≠ .unterminatedModel name n) →
      ∀ text', (rawLines text').take n = (rawLines text).take n →
        (parseWithSkipped text').value = .error e := by
  obtain ⟨parts, hs, hnone | ⟨header, after, htext, hf⟩⟩ := exists_fault h
  · obtain ⟨rfl, hb, htext⟩ := hnone
    refine ⟨⟨fun _ => noModels_iff.1 h, fun _ => rfl⟩, fun hne => absurd rfl hne, ?_⟩
    intro n hn
    cases hn
  · have hmem : header ∈ significantLines text := by simp [htext]
    refine ⟨?_, fun _ => ?_, ?_⟩
    · refine ⟨fun he => ?_, fun hnone => absurd hf.isHeader (hnone header hmem)⟩
      rw [he] at h
      exact noModels_iff.1 h
    · have habove := significantLines_above htext
      refine ⟨parts, header, after, htext, hs, hf, hf.line?_eq, standsIn_of_mem hmem,
        hf.isHeader, ?_⟩
      split
      · rename_i hb
        exact parseWithSkipped_of_stray (habove.symm ▸ hs) hb
      · rename_i hb
        exact parseWithSkipped_of_spells (habove.symm ▸ hs) hb
    · intro n hn hu text' htake
      obtain rfl : header.number = n := Option.some.inj (hf.line?_eq.symm.trans hn)
      obtain ⟨after', htext'⟩ := significantLines_of_take htext htake
      exact parseWithSkipped_of_fault hs htext' (hf.of_header hu after')

def crateText : String :=
  "// crates\nmodel Crate @notionDatabase(\"db1\")\n\n\x7b\n  model Lid\n\x7d\n" ++
    "model Crate @notionDatabase(\"db2\")\n\x7b"

/-- The name is repeated on the last line but one. The body that is open above the last line is not
what the text is refused for. -/
theorem crateText_refused :
    (parseWithSkipped crateText).value = .error (.duplicateModel "Crate" 7) ∧
    (∃ parts header after, significantLines crateText =
        parts.flatMap Part.lines ++ header :: after ∧
      Fault ((blocks parts).map Block.modelName) header after (.duplicateModel "Crate" 7) ∧
      header.number = 7) ∧
    ∀ text', (rawLines text').take 7 = (rawLines crateText).take 7 →
      (parseWithSkipped text').value = .error (.duplicateModel "Crate" 7) := by
  have h : (parseWithSkipped crateText).value = .error (.duplicateModel "Crate" 7) := by
    decide +kernel
  obtain ⟨-, hlocated, hbelow⟩ := refused_at_first_fault crateText _ h
  obtain ⟨parts, header, after, htext, -, hf, hline, -⟩ := hlocated (by decide)
  exact ⟨h, ⟨parts, header, after, htext, hf, (Option.some.inj hline).symm⟩,
    hbelow 7 rfl (by simp)⟩

end Schema

end NotionSchema
