import NotionSchema.Proofs.Schema.AttributeScan
import NotionSchema.Proofs.Schema.Printer

namespace NotionSchema.LineForm

open Text

structure ArgumentSpelling where
  before : List Char
  value : List Char
  after : List Char

structure AttributeSpelling where
  gap : List Char
  name : List Char
  argument : Option ArgumentSpelling

structure FieldSpelling where
  name : List Char
  gap : List Char
  token : List Char
  isList : Bool
  optional : Bool
  attributes : List AttributeSpelling

namespace ArgumentSpelling

def text (x : ArgumentSpelling) : List Char :=
  '(' :: (x.before ++ '"' :: (x.value ++ '"' :: (x.after ++ [')'])))

structure Fits (x : ArgumentSpelling) : Prop where
  before : AllBlank x.before
  value : '"' ∉ x.value
  after : AllBlank x.after

end ArgumentSpelling

namespace AttributeSpelling

def argumentText (a : AttributeSpelling) : List Char :=
  match a.argument with
  | none => []
  | some x => x.text

def text (a : AttributeSpelling) : List Char := a.gap ++ '@' :: (a.name ++ a.argumentText)

def toAttribute (a : AttributeSpelling) : Attribute :=
  ⟨String.ofList a.name, a.argument.map fun x => String.ofList x.value⟩

structure Fits (a : AttributeSpelling) : Prop where
  gap : AllBlank a.gap
  name : isIdentifier a.name = true
  argument : ∀ x ∈ a.argument, x.Fits

end AttributeSpelling

namespace FieldSpelling

def attributesText (d : FieldSpelling) : List Char := d.attributes.flatMap (·.text)

def text (d : FieldSpelling) : List Char :=
  d.name ++ (d.gap ++ (d.token ++ (listMark d.isList ++ (optionalMark d.optional ++
    d.attributesText))))

def toField (d : FieldSpelling) : Field :=
  ⟨String.ofList d.name, String.ofList (d.token ++ listMark d.isList), d.optional,
    d.attributes.map (·.toAttribute)⟩

/-- Blanks have to separate the first attribute from the type, but no attribute from the next. -/
structure Fits (d : FieldSpelling) : Prop where
  name : isIdentifier d.name = true
  gap : Gap d.gap
  token : isIdentifier d.token = true
  attributes : ∀ a ∈ d.attributes, a.Fits
  separated : ∀ a ∈ d.attributes.head?, a.gap ≠ []

end FieldSpelling

variable {as : List Attribute} {s t r r' : List Char} {ds ds' : List AttributeSpelling}

theorem AttributeSpelling.Fits.form {a : AttributeSpelling} (h : a.Fits) :
    AttributeForm a.toAttribute ('@' :: (a.name ++ a.argumentText)) := by
  obtain ⟨gap, name, argument⟩ := a
  cases argument with
  | none =>
      change AttributeForm ⟨String.ofList name, none⟩ ('@' :: (name ++ []))
      rw [List.append_nil]
      exact .bare name h.name
  | some x =>
      obtain ⟨hb, hv, ha⟩ := h.argument x rfl
      exact .applied name x.value _ h.name (.intro x.before x.after hb ha hv)

theorem attributesForm_append_blank (hb : AllBlank t) (h : AttributesForm as s) :
    AttributesForm as (t ++ s) := by
  induction t with
  | nil => exact h
  | cons c t ih =>
      obtain ⟨hc, ht⟩ := allBlank_cons.1 hb
      exact .blank c as _ hc (ih ht)

theorem attributesForm_flatMap (h : ∀ a ∈ ds, a.Fits) :
    AttributesForm (ds.map (·.toAttribute)) (ds.flatMap (·.text)) := by
  induction ds with
  | nil => exact .nil
  | cons a ds ih =>
      obtain ⟨ha, hds⟩ := List.forall_mem_cons.1 h
      have hform := AttributesForm.cons _ _ _ _ ha.form (ih hds)
      rw [List.map_cons, List.flatMap_cons, AttributeSpelling.text, List.append_assoc]
      exact attributesForm_append_blank ha.gap hform

theorem FieldSpelling.Fits.tailForm {d : FieldSpelling} (h : d.Fits) :
    TailForm (d.attributes.map (·.toAttribute)) d.attributesText := by
  obtain ⟨name, gap, token, isList, optional, ds⟩ := d
  cases ds with
  | nil => exact .nil
  | cons a ds =>
      obtain ⟨ha, hds⟩ := List.forall_mem_cons.1 h.attributes
      have hform := AttributesForm.cons _ _ _ _ ha.form (attributesForm_flatMap hds)
      rw [attributesText, List.flatMap_cons, AttributeSpelling.text, List.append_assoc]
      exact .gap _ a.gap _ ⟨h.separated a rfl, ha.gap⟩ hform

theorem FieldSpelling.Fits.form {d : FieldSpelling} (h : d.Fits) : FieldForm d.toField d.text :=
  .intro d.name d.gap d.token _ d.isList d.optional _ h.name h.gap h.token h.tailForm

theorem exists_attributeSpelling {a : Attribute} (h : AttributeForm a t) :
    ∃ d : AttributeSpelling, d.Fits ∧ d.text = t ∧ d.toAttribute = a := by
  have hnil : AllBlank [] := by simp [AllBlank]
  cases h with
  | bare name hn =>
      exact ⟨⟨[], name, none⟩, ⟨hnil, hn, by simp⟩, by simp [AttributeSpelling.text,
        AttributeSpelling.argumentText], rfl⟩
  | applied name argument t hn ht =>
      cases ht with
      | intro before after hb ha hq =>
          refine ⟨⟨[], name, some ⟨before, argument, after⟩⟩, ⟨hnil, hn, ?_⟩, rfl, rfl⟩
          rintro x ⟨rfl⟩
          exact ⟨hb, hq, ha⟩

theorem exists_attributes_append_blank (hb : AllBlank t) (hds : ∀ a ∈ ds, a.Fits)
    (hne : ds ≠ []) : ∃ ds' : List AttributeSpelling, (∀ a ∈ ds', a.Fits) ∧
      ds'.flatMap (·.text) = t ++ ds.flatMap (·.text) ∧
      ds'.map (·.toAttribute) = ds.map (·.toAttribute) ∧ ∀ a ∈ ds'.head?, t ≠ [] → a.gap ≠ [] := by
  obtain ⟨a, ds, rfl⟩ := List.exists_cons_of_ne_nil hne
  obtain ⟨ha, hds⟩ := List.forall_mem_cons.1 hds
  have hfits : AttributeSpelling.Fits ⟨t ++ a.gap, a.name, a.argument⟩ :=
    ⟨allBlank_append hb ha.gap, ha.name, ha.argument⟩
  refine ⟨⟨t ++ a.gap, a.name, a.argument⟩ :: ds, List.forall_mem_cons.2 ⟨hfits, hds⟩, ?_, rfl, ?_⟩
  · simp [AttributeSpelling.text, AttributeSpelling.argumentText]
  · rintro x ⟨rfl⟩ ht
    simp [ht]

theorem exists_attributes (h : AttributesForm as s) :
    ∃ (ds : List AttributeSpelling) (blanks : List Char), (∀ a ∈ ds, a.Fits) ∧ AllBlank blanks ∧
      s = ds.flatMap (·.text) ++ blanks ∧ ds.map (·.toAttribute) = as := by
  induction h with
  | nil => exact ⟨[], [], by simp, by simp [AllBlank], rfl, rfl⟩
  | blank c as s hc hs ih =>
      obtain ⟨ds, blanks, hds, hb, rfl, rfl⟩ := ih
      have hc' : AllBlank [c] := by simpa [AllBlank] using hc
      by_cases hne : ds = []
      · subst hne
        exact ⟨[], c :: blanks, hds, allBlank_cons.2 ⟨hc, hb⟩, rfl, rfl⟩
      · obtain ⟨ds', hds', htext, hattributes, -⟩ := exists_attributes_append_blank hc' hds hne
        exact ⟨ds', blanks, hds', hb, by rw [htext]; rfl, hattributes⟩
  | cons a as t s ht hs ih =>
      obtain ⟨ds, blanks, hds, hb, rfl, rfl⟩ := ih
      obtain ⟨d, hd, rfl, rfl⟩ := exists_attributeSpelling ht
      exact ⟨d :: ds, blanks, List.forall_mem_cons.2 ⟨hd, hds⟩, hb, by simp, rfl⟩

theorem eq_nil_of_trimmed (h : Trimmed (s ++ t)) (ht : AllBlank t) : t = [] := by
  by_contra hne
  have hstops : Stops isBlank (t.reverse ++ s.reverse) := by
    rw [← List.reverse_append]
    exact h.2
  have hr : t.reverse ≠ [] := by simpa using hne
  obtain ⟨c, r, hcr⟩ := List.exists_cons_of_ne_nil hr
  have hblank : isBlank c = true := allBlank_reverse ht c (by simp [hcr])
  rw [stops_append_left hr, hcr, stops_cons, hblank] at hstops
  cases hstops

theorem exists_tail (h : TailForm as s) (ht : Trimmed (t ++ s)) :
    ∃ ds : List AttributeSpelling, (∀ a ∈ ds, a.Fits) ∧ s = ds.flatMap (·.text) ∧
      ds.map (·.toAttribute) = as ∧ ∀ a ∈ ds.head?, a.gap ≠ [] := by
  cases h with
  | nil => exact ⟨[], by simp, rfl, rfl, by simp⟩
  | gap as gap s hg hs =>
      obtain ⟨ds, blanks, hds, hb, rfl, rfl⟩ := exists_attributes hs
      have hassoc : t ++ (gap ++ (ds.flatMap (·.text) ++ blanks)) =
          t ++ (gap ++ ds.flatMap (·.text)) ++ blanks := by
        simp only [List.append_assoc]
      have hblanks : blanks = [] := eq_nil_of_trimmed (hassoc ▸ ht) hb
      subst hblanks
      by_cases hne : ds = []
      · subst hne
        have hgap : gap = [] := eq_nil_of_trimmed (by simpa using ht) hg.2
        exact absurd hgap hg.1
      · obtain ⟨ds', hds', htext, hattributes, hsep⟩ :=
          exists_attributes_append_blank hg.2 hds hne
        exact ⟨ds', hds', by rw [htext, List.append_nil], hattributes,
          fun a ha => hsep a ha hg.1⟩

theorem exists_fieldSpelling {f : Field} (h : FieldForm f s) (ht : Trimmed s) :
    ∃ d : FieldSpelling, d.Fits ∧ d.text = s ∧ d.toField = f := by
  cases h with
  | intro name gap token tail isList optional as hn hg htoken ha =>
      have hassoc : name ++ (gap ++ (token ++ (listMark isList ++ (optionalMark optional ++ tail)))) =
          name ++ (gap ++ (token ++ (listMark isList ++ optionalMark optional))) ++ tail := by
        simp only [List.append_assoc]
      obtain ⟨ds, hds, rfl, rfl, hsep⟩ := exists_tail ha (hassoc ▸ ht)
      exact ⟨⟨name, gap, token, isList, optional, ds⟩, ⟨hn, hg, htoken, hds, hsep⟩, rfl, rfl⟩

theorem argument_unique {x x' : ArgumentSpelling} (h : x.text ++ r = x'.text ++ r') (hx : x.Fits)
    (hx' : x'.Fits) : x = x' ∧ r = r' := by
  obtain ⟨before, value, after⟩ := x
  obtain ⟨before', value', after'⟩ := x'
  simp only [ArgumentSpelling.text, List.cons_append, List.append_assoc, List.cons.injEq, true_and,
    List.nil_append] at h
  have hquote : isBlank '"' = false := by decide
  have hclose : isBlank ')' = false := by decide
  have hunquoted (s : List Char) (hs : '"' ∉ s) : ∀ c ∈ s, (c != '"') = true := by
    intro c hc
    simpa using fun he : c = '"' => hs (he ▸ hc)
  obtain ⟨hbefore, h₁⟩ := run_unique h hx.before hx'.before (stops_cons.2 hquote)
    (stops_cons.2 hquote)
  obtain ⟨hvalue, h₂⟩ := run_unique (List.cons_eq_cons.1 h₁).2 (hunquoted _ hx.value)
    (hunquoted _ hx'.value) (by simp) (by simp)
  obtain ⟨hafter, h₃⟩ := run_unique (List.cons_eq_cons.1 h₂).2 hx.after hx'.after
    (stops_cons.2 hclose) (stops_cons.2 hclose)
  exact ⟨by rw [hbefore, hvalue, hafter], (List.cons_eq_cons.1 h₃).2⟩

theorem stops_argumentText {a : AttributeSpelling} (h : Stops isIdentifierChar r) :
    Stops isIdentifierChar (a.argumentText ++ r) := by
  obtain ⟨gap, name, argument⟩ := a
  cases argument with
  | none => exact h
  | some x => exact stops_cons.2 (by decide)

theorem attribute_unique {a a' : AttributeSpelling} (h : a.text ++ r = a'.text ++ r') (ha : a.Fits)
    (ha' : a'.Fits) (hr : Stops isIdentifierChar r) (hr' : Stops isIdentifierChar r')
    (hopen : ∀ c ∈ r.head?, c ≠ '(') (hlater : ∀ c ∈ r'.head?, c ≠ '(') : a = a' ∧ r = r' := by
  have hat : isBlank '@' = false := by decide
  simp only [AttributeSpelling.text, List.append_assoc, List.cons_append] at h
  obtain ⟨hgap, h⟩ := run_unique h ha.gap ha'.gap (stops_cons.2 hat) (stops_cons.2 hat)
  obtain ⟨-, h⟩ := List.cons_eq_cons.1 h
  obtain ⟨hname, h⟩ := name_unique h ha.name ha'.name (stops_argumentText hr)
    (stops_argumentText hr')
  obtain ⟨gap, name, argument⟩ := a
  obtain ⟨gap', name', argument'⟩ := a'
  subst hgap hname
  cases argument with
  | none =>
      cases argument' with
      | none => exact ⟨rfl, h⟩
      | some x' => exact absurd rfl (hopen '(' (by simp [show r = _ from h,
          AttributeSpelling.argumentText, ArgumentSpelling.text]))
  | some x =>
      cases argument' with
      | none => exact absurd rfl (hlater '(' (by simp [show r' = _ from h.symm,
          AttributeSpelling.argumentText, ArgumentSpelling.text]))
      | some x' =>
          obtain ⟨hx, hrest⟩ := argument_unique h (ha.argument x rfl) (ha'.argument x' rfl)
          exact ⟨by rw [hx], hrest⟩

theorem text_ne_nil (a : AttributeSpelling) : a.text ≠ [] := by
  simp [AttributeSpelling.text]

theorem attributes_unique (h : ds.flatMap (·.text) = ds'.flatMap (·.text))
    (hds : ∀ a ∈ ds, a.Fits) (hds' : ∀ a ∈ ds', a.Fits) : ds = ds' := by
  induction ds generalizing ds' with
  | nil =>
      cases ds' with
      | nil => rfl
      | cons a' ds' => exact absurd (List.append_eq_nil_iff.1 h.symm).1 (text_ne_nil a')
  | cons a ds ih =>
      cases ds' with
      | nil => exact absurd (List.append_eq_nil_iff.1 h).1 (text_ne_nil a)
      | cons a' ds' =>
          obtain ⟨ha, hrest⟩ := List.forall_mem_cons.1 hds
          obtain ⟨ha', hrest'⟩ := List.forall_mem_cons.1 hds'
          have hform := attributesForm_flatMap hrest
          have hform' := attributesForm_flatMap hrest'
          obtain ⟨hfirst, htail⟩ := attribute_unique h ha ha' (stops_of_attributesForm hform)
            (stops_of_attributesForm hform') (noOpening_of_attributesForm hform)
            (noOpening_of_attributesForm hform')
          rw [hfirst, ih htail hrest hrest']

theorem marks_unique {isList isList' optional optional' : Bool} {as' : List Attribute}
    (h : listMark isList ++ (optionalMark optional ++ s) =
      listMark isList' ++ (optionalMark optional' ++ t))
    (hs : TailForm as s) (ht : TailForm as' t) : isList = isList' ∧ optional = optional' ∧ s = t := by
  have hlist : readListSuffix (listMark isList ++ (optionalMark optional ++ s)) = _ :=
    readListSuffix_of_tailForm hs
  rw [h, readListSuffix_of_tailForm ht] at hlist
  obtain ⟨rfl, htail⟩ := Prod.mk.inj hlist
  have hopt : readOptionalMark (optionalMark optional ++ s) = _ := readOptionalMark_of_tailForm hs
  rw [← htail, readOptionalMark_of_tailForm ht] at hopt
  obtain ⟨rfl, rfl⟩ := Prod.mk.inj hopt
  exact ⟨rfl, rfl, rfl⟩

theorem field_unique {d d' : FieldSpelling} (h : d.text = d'.text) (hd : d.Fits) (hd' : d'.Fits) :
    d = d' := by
  have ht := hd.tailForm
  have ht' := hd'.tailForm
  obtain ⟨name, gap, token, isList, optional, ds⟩ := d
  obtain ⟨name', gap', token', isList', optional', ds'⟩ := d'
  obtain ⟨hname, h₁⟩ := name_unique h hd.name hd'.name (stops_of_gap hd.gap) (stops_of_gap hd'.gap)
  obtain ⟨hgap, h₂⟩ := run_unique h₁ hd.gap.2 hd'.gap.2 (stops_isBlank_of_isIdentifier hd.token)
    (stops_isBlank_of_isIdentifier hd'.token)
  obtain ⟨htoken, h₃⟩ := name_unique h₂ hd.token hd'.token (stops_of_listMark ht)
    (stops_of_listMark ht')
  obtain ⟨hlist, hoptional, h₄⟩ := marks_unique h₃ ht ht'
  have hattributes := attributes_unique h₄ hd.attributes hd'.attributes
  dsimp only at hname hgap htoken hlist hoptional hattributes
  rw [hname, hgap, htoken, hlist, hoptional, hattributes]

/-- A trimmed line is read as a field exactly if it is put together from the words, blanks and
attributes of this field, and that in one way only. Looking for attributes anywhere behind the type,
and deleting them to see if anything but blanks is left, accepts the same lines with the same
fields. -/
theorem readField_iff_spelled (line : List Char) (ht : Trimmed line) :
    (∀ f, readField line = some f ↔ ∃ d : FieldSpelling, d.Fits ∧ d.text = line ∧ d.toField = f) ∧
    (∀ d d' : FieldSpelling, d.Fits → d'.Fits → d.text = line → d'.text = line → d = d') ∧
    readField line = scanField line := by
  refine ⟨?_, ?_, readField_eq_scanField line⟩
  · intro f
    rw [readField_eq_some_iff]
    constructor
    · intro h
      exact exists_fieldSpelling h ht
    · rintro ⟨d, hd, rfl, rfl⟩
      exact hd.form
  · intro d d' hd hd' h h'
    exact field_unique (h.trans h'.symm) hd hd'

def noteLine : List Char := "due Date[]?\t@map( \"@a(b)\")@date  @x".toList

def noteSpelling : FieldSpelling :=
  ⟨"due".toList, [' '], "Date".toList, true, true,
    [⟨['\t'], "map".toList, some ⟨[' '], "@a(b)".toList, []⟩⟩, ⟨[], "date".toList, none⟩,
      ⟨[' ', ' '], "x".toList, none⟩]⟩

theorem noteLine_spelled : Trimmed noteLine ∧
    readField noteLine = some ⟨"due", "Date[]", true,
      [⟨"map", some "@a(b)"⟩, ⟨"date", none⟩, ⟨"x", none⟩]⟩ ∧
    ∀ d : FieldSpelling, d.Fits → d.text = noteLine → d = noteSpelling := by
  have ht : Trimmed noteLine := ⟨by decide, by decide⟩
  have hfits : noteSpelling.Fits := by
    refine ⟨by decide, ⟨by decide, by decide⟩, by decide, ?_, ?_⟩
    · intro a ha
      simp only [noteSpelling, List.mem_cons, List.not_mem_nil, or_false] at ha
      rcases ha with rfl | rfl | rfl
      · refine ⟨by decide, by decide, ?_⟩
        rintro x ⟨rfl⟩
        exact ⟨by decide, by decide, by decide⟩
      · exact ⟨by decide, by decide, by simp⟩
      · exact ⟨by decide, by decide, by simp⟩
    · rintro a ⟨rfl⟩
      decide
  obtain ⟨hread, hunique, -⟩ := readField_iff_spelled noteLine ht
  refine ⟨ht, (hread _).2 ⟨noteSpelling, hfits, by decide, by decide⟩, ?_⟩
  intro d hd htext
  exact hunique d noteSpelling hd hfits htext (by decide)

end NotionSchema.LineForm
