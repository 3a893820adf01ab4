import NotionSchema.Proofs.Schema.Faults
import NotionSchema.Proofs.Schema.Resolution

namespace NotionSchema

namespace Schema

open Text LineForm

variable {α β : Type} {p q : Progress} {line : Line} {before after lines : List Line}
  {e : ParseError} {text : String}

def typeWarnings (fields : List Field) : List LogEvent :=
  (fields.filter fun f => PropertyType.IsUntyped f.typeToken f.attributes).map fun f =>
    ⟨.warn, "No Notion property type for declared type, defaulting to rich_text",
      [("type_token", .text f.typeToken)]⟩

/-- One warning for each line, with its model, its number and its text. -/
def lineWarnings (skipped : List SkippedLine) : List LogEvent :=
  skipped.map fun s => ⟨.warn, "Skipping unparseable field line: `" ++ s.text ++ "`",
    [("line", .count s.line), ("model", .text s.model)]⟩

theorem typeWarnings_append (fields fields' : List Field) :
    typeWarnings (fields ++ fields') = typeWarnings fields ++ typeWarnings fields' := by
  rw [typeWarnings, List.filter_append, List.map_append]
  rfl

theorem log_declare (name token : String) (optional : Bool) (attributes : List Attribute) :
    (Field.declare name token optional attributes).log =
      typeWarnings [⟨name, token, optional, attributes⟩] := by
  change (PropertyType.resolve token attributes).log ++ [] = _
  rw [List.append_nil, PropertyType.log_resolve, typeWarnings, List.filter_singleton]
  by_cases h : PropertyType.IsUntyped token attributes
  · simp only [h, if_true, decide_true, cond_true]
    rfl
  · simp only [h, if_false, decide_false, cond_false, List.map_nil]

def warnings (x : Reading α) : List LogEvent := x.run.log

theorem warnings_bind (x : Reading α) (f : α → Reading β) :
    warnings (x >>= f) = warnings x ++
      match outcome x with
      | .ok a => warnings (f a)
      | .error _ => [] := by
  change x.run.log ++ (ExceptT.bindCont f x.run.value).log = _
  unfold outcome
  cases x.run.value <;> rfl

def Progress.fields (p : Progress) : List Field :=
  p.models.flatMap (·.fields) ++
    match p.place with
    | .betweenModels => []
    | .afterHeader m => m.fields
    | .inBody m => m.fields

theorem warnings_step (h : Step p line q) :
    ∃ new, q.fields = p.fields ++ new ∧ warnings (p.step line) = typeWarnings new := by
  cases h with
  | pass ms sk ns _ h => exact ⟨[], (List.append_nil _).symm, rfl⟩
  | head ms sk ns _ name rest id hh hm hn =>
      refine ⟨[], ?_, ?_⟩
      · by_cases ho : opensBody rest = true
        · rw [if_pos ho]
          exact (List.append_nil _).symm
        · rw [if_neg ho]
          exact (List.append_nil _).symm
      · rfl
  | brace ms sk ns m _ h =>
      refine ⟨[], (List.append_nil _).symm, ?_⟩
      simp only [Progress.step, h, if_true]
      rfl
  | close ms sk ns m _ h =>
      refine ⟨[], by simp [Progress.fields, OpenModel.close], ?_⟩
      change warnings (Progress.inBody _ m line) = _
      rw [Progress.inBody, if_pos h]
      rfl
  | skip ms sk ns m _ hc hb hf =>
      refine ⟨[], (List.append_nil _).symm, ?_⟩
      change warnings (Progress.inBody _ m line) = _
      rw [Progress.inBody, if_neg hc, if_neg (by rwa [isBoundHeader_eq_true_iff]),
        readField_eq_none_iff.2 hf]
      rfl
  | field ms sk ns m _ f hc hb hf =>
      refine ⟨[f], by simp [Progress.fields], ?_⟩
      change warnings (Progress.inBody _ m line) = _
      rw [Progress.inBody, if_neg hc, if_neg (by rwa [isBoundHeader_eq_true_iff]),
        readField_eq_some_iff.2 hf]
      change (Field.declare f.name f.typeToken f.optional f.attributes).log ++ [] ++ [] = _
      rw [List.append_nil, List.append_nil, log_declare]

theorem warnings_step_error (h : outcome (p.step line) = .error e) :
    warnings (p.step line) = [] := by
  obtain ⟨ms, sk, ns, place⟩ := p
  cases place with
  | betweenModels => rfl
  | afterHeader m =>
      change warnings (if line.text = ['\x7b'] then _ else _ : Reading Progress) = _
      split <;> rfl
  | inBody m =>
      change outcome (Progress.inBody _ m line) = _ at h
      change warnings (Progress.inBody _ m line) = _
      rw [outcome_inBody] at h
      rw [Progress.inBody]
      split
      · rfl
      · split
        · rfl
        · rename_i hc hb
          rw [if_neg hc, if_neg hb] at h
          cases hf : readField line.text <;> rw [hf] at h <;> cases h

theorem warnings_readFrom_cons (p : Progress) (line : Line) (rest : List Line) :
    warnings (readFrom p (line :: rest)) = warnings (p.step line) ++
      match outcome (p.step line) with
      | .ok q => warnings (readFrom q rest)
      | .error _ => [] := by
  rw [readFrom, readLines, bind_assoc, warnings_bind]
  cases outcome (p.step line) <;> rfl

theorem warnings_readFrom (h : Run p before q) (after : List Line) :
    ∃ new, q.fields = p.fields ++ new ∧
      warnings (readFrom p (before ++ after)) =
        typeWarnings new ++ warnings (readFrom q after) := by
  induction h with
  | nil p => exact ⟨[], (List.append_nil _).symm, rfl⟩
  | cons p q r line rest hs _ ih =>
      obtain ⟨new, hfields, hstep⟩ := warnings_step hs
      obtain ⟨later, hlater, hrest⟩ := ih
      refine ⟨new ++ later, by rw [hlater, hfields, List.append_assoc], ?_⟩
      rw [List.cons_append, warnings_readFrom_cons, outcome_step_of_step hs, hstep,
        typeWarnings_append, List.append_assoc, ← hrest]

theorem warnings_readFrom_nil (p : Progress) : warnings (readFrom p []) = [] := rfl

theorem Halts.warnings_eq (h : Halts p lines e) : warnings (readFrom p lines) = [] := by
  cases lines with
  | nil => exact warnings_readFrom_nil p
  | cons line after =>
      rw [warnings_readFrom_cons, h.outcome_step, warnings_step_error h.outcome_step]
      rfl

theorem log_parseWithSkipped_of_run (h : Run .start before q)
    (htext : significantLines text = before ++ after) (hrest : warnings (readFrom q after) = []) :
    (parseWithSkipped text).log = typeWarnings q.fields := by
  obtain ⟨new, hfields, hlog⟩ := warnings_readFrom h after
  change warnings (readFrom .start (significantLines text)) = _
  rw [htext, hlog, hrest, List.append_nil, hfields]
  rfl

theorem parse_of_ok {s : Schema} {skipped : List SkippedLine}
    (h : (parseWithSkipped text).value = .ok (s, skipped)) :
    parse text = ⟨.ok s, (parseWithSkipped text).log ++ lineWarnings skipped⟩ := by
  have hwarnings : skipped.map skippedWarning = lineWarnings skipped := rfl
  refine Logged.ext ?_ ?_ <;> simp [parse, h, Logged.emitAll, hwarnings]

theorem parse_of_error (h : (parseWithSkipped text).value = .error e) :
    parse text = ⟨.error e, (parseWithSkipped text).log⟩ := by
  refine Logged.ext ?_ ?_ <;> simp [parse, h]

/-- If a text is accepted, its warnings are those of the fields without a type, in the order of the
fields, and then one for each skipped line, in the order of the lines. If it is refused, its lines
up to some place are read, and the warnings are those of the fields without a type among them. The
result is the one that comes with the skipped lines. -/
theorem warnings_account_for_lines (text : String) :
    (∀ s skipped, (parseWithSkipped text).value = .ok (s, skipped) →
      (parse text).value = .ok s ∧
      (parse text).log = typeWarnings (s.models.flatMap (·.fields)) ++ lineWarnings skipped ∧
      ∃ parts, Spells [] parts (significantLines text) ∧
        s.models = (blocks parts).map Block.model ∧
        skipped = (blocks parts).flatMap Block.skipped) ∧
    ∀ e, (parseWithSkipped text).value = .error e →
      (parse text).value = .error e ∧
      ∃ before p after, significantLines text = before ++ after ∧
        Run .start before p ∧ StandsAfter before p ∧ Halts p after e ∧
        (parse text).log = typeWarnings p.fields := by
  refine ⟨?_, ?_⟩
  · intro s skipped h
    obtain ⟨names, hrun, hne⟩ := parseWithSkipped_eq_ok_iff.1 h
    have hlog := log_parseWithSkipped_of_run hrun (List.append_nil _).symm
      (warnings_readFrom_nil _)
    have hfields : Progress.fields ⟨s.models, skipped, names, .betweenModels⟩ =
        s.models.flatMap (·.fields) := List.append_nil _
    obtain ⟨parts, hs, hblocks⟩ := spells_of_parseWithSkipped h
    have hspelled := (parseWithSkipped_of_spells hs hblocks).symm.trans h
    rw [parse_of_ok h, hlog, hfields]
    cases hspelled
    exact ⟨rfl, rfl, parts, hs, rfl, rfl⟩
  · intro e h
    obtain ⟨before, p, after, htext, hrun, hhalts⟩ := exists_halt (value_parseWithSkipped text ▸ h)
    have hstands : StandsAfter before p := by
      have htrimmed : ∀ l ∈ before, Trimmed l.text := fun l hl =>
        trimmed_of_mem (htext ▸ List.mem_append_left after hl)
      have hrun := standsAfter_nil.run hrun htrimmed
      rwa [List.nil_append] at hrun
    rw [parse_of_error h, log_parseWithSkipped_of_run hrun htext hhalts.warnings_eq]
    exact ⟨rfl, before, p, after, htext, hrun, hstands, hhalts, rfl⟩

def shopText : String :=
  "model Item @notionDatabase(\"db1\") \x7b\n  name String @title\n  price Decimal\n  ??\n" ++
    "  kind Money @select\n\x7d\nmodel Cart @notionDatabase(\"db2\") \x7b\n  total Decimal?\n" ++
    "  items Item[]\n  note String\n  link URL\n"

def shopSchema : Schema :=
  ⟨[⟨"Item", "db1", [⟨"name", "String", false, [⟨"title", none⟩]⟩, ⟨"price", "Decimal", false, []⟩,
      ⟨"kind", "Money", false, [⟨"select", none⟩]⟩]⟩,
    ⟨"Cart", "db2", [⟨"total", "Decimal", true, []⟩, ⟨"items", "Item[]", false, []⟩,
      ⟨"note", "String", false, []⟩, ⟨"link", "URL", false, []⟩]⟩]⟩

def decimalWarning : LogEvent :=
  ⟨.warn, "No Notion property type for declared type, defaulting to rich_text",
    [("type_token", .text "Decimal")]⟩

/-- The line that is no field comes after the first warning in the text and last in the log. Without
the closing line it is not warned of. -/
theorem shopText_warned :
    (parse (shopText ++ "\x7d")).value = .ok shopSchema ∧
    (parse (shopText ++ "\x7d")).log = [decimalWarning, decimalWarning,
      ⟨.warn, "Skipping unparseable field line: `??`",
        [("line", .count 4), ("model", .text "Item")]⟩] ∧
    ∃ before p after, significantLines shopText = before ++ after ∧ Run .start before p ∧
      Halts p after (.unterminatedModel "Cart" 7) ∧ (parse shopText).log = typeWarnings p.fields ∧
      typeWarnings p.fields = [decimalWarning, decimalWarning] := by
  have hclosed : (parseWithSkipped (shopText ++ "\x7d")).value =
      .ok (shopSchema, [⟨"Item", 4, "??"⟩]) := by decide +kernel
  have hopen : (parseWithSkipped shopText).value = .error (.unterminatedModel "Cart" 7) ∧
      (parseWithSkipped shopText).log = [decimalWarning, decimalWarning] := by decide +kernel
  have hfields : typeWarnings (shopSchema.models.flatMap (·.fields)) =
      [decimalWarning, decimalWarning] := by decide +kernel
  have hlines : lineWarnings [⟨"Item", 4, "??"⟩] = [⟨.warn, "Skipping unparseable field line: `??`",
      [("line", .count 4), ("model", .text "Item")]⟩] := by decide
  have hlog : (parse shopText).log = [decimalWarning, decimalWarning] := by
    rw [parse_of_error hopen.1, hopen.2]
  obtain ⟨hvalue, hwarned, -⟩ := (warnings_account_for_lines _).1 _ _ hclosed
  obtain ⟨-, before, p, after, htext, hrun, -, hhalts, hlast⟩ :=
    (warnings_account_for_lines shopText).2 _ hopen.1
  rw [hfields, hlines] at hwarned
  exact ⟨hvalue, hwarned, before, p, after, htext, hrun, hhalts, hlast, hlast.symm.trans hlog⟩

end Schema

end NotionSchema
