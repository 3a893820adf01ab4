import NotionSchema.Proofs.Schema.Blocks

namespace NotionSchema

open Text LineForm

structure Padding where
  chars : List Char
  blank : AllBlank chars
  noBreak : '\n' ∉ chars

structure Filler where
  chars : List Char
  ignored : isSignificant (trim chars) = false
  noBreak : '\n' ∉ chars

structure LineLayout where
  above : List Filler
  indent : Padding
  trailing : Padding

structure Layout where
  line : Nat → LineLayout
  braceBelow : Nat → Bool
  below : List Filler

namespace LineLayout

def padded (l : LineLayout) (s : List Char) : List Char := l.indent.chars ++ s ++ l.trailing.chars

def place (l : LineLayout) (s : List Char) : List (List Char) :=
  l.above.map (·.chars) ++ [l.padded s]

def placeAll (layouts : Nat → LineLayout) : List (List Char) → List (List Char)
  | [] => []
  | s :: rest => (layouts 0).place s ++ placeAll (fun n => layouts (n + 1)) rest

end LineLayout

def attributesText (as : List Attribute) : List Char := as.flatMap fun a => ' ' :: a.text.toList

namespace Field

def lineText (f : Field) : List Char :=
  f.name.toList ++ ([' '] ++ (f.typeToken.toList ++ (optionalMark f.optional ++
    attributesText f.attributes)))

end Field

namespace Model

def headerText (m : Model) : List Char :=
  modelWord ++ ([' '] ++ (m.name.toList ++ ([' '] ++ (databaseMark ++
    ('(' :: '"' :: (m.databaseId.toList ++ ['"', ')']))))))

def openingLines (m : Model) (braceBelow : Bool) : List (List Char) :=
  if braceBelow then [m.headerText, ['\x7b']] else [m.headerText ++ [' ', '\x7b']]

def lines (m : Model) (braceBelow : Bool) : List (List Char) :=
  m.openingLines braceBelow ++ (m.fields.map Field.lineText ++ [['\x7d']])

def linesOfAll (braceBelow : Nat → Bool) : List Model → List (List Char)
  | [] => []
  | m :: rest => m.lines (braceBelow 0) ++ linesOfAll (fun n => braceBelow (n + 1)) rest

end Model

namespace Schema

def physicalLines (s : Schema) (l : Layout) : List (List Char) :=
  LineLayout.placeAll l.line (Model.linesOfAll l.braceBelow s.models) ++ l.below.map (·.chars)

def printed (s : Schema) (l : Layout) : String :=
  String.ofList (['\n'].intercalate (s.physicalLines l))

end Schema

structure Attribute.Printable (a : Attribute) : Prop where
  name : isIdentifier a.name.toList = true
  argument : ∀ s ∈ a.argument, '"' ∉ s.toList ∧ '\n' ∉ s.toList

/-- A field named `model` must not look like the header of a model. -/
structure Field.Printable (f : Field) : Prop where
  name : isIdentifier f.name.toList = true
  typeToken : ∃ token isList, isIdentifier token = true ∧ f.typeToken.toList = token ++ listMark isList
  attributes : ∀ a ∈ f.attributes, a.Printable
  noHeader : f.name = "model" → ¬ HasMark (attributesText f.attributes)

structure Model.Printable (m : Model) : Prop where
  name : isIdentifier m.name.toList = true
  databaseId : m.databaseId ≠ "" ∧ '"' ∉ m.databaseId.toList ∧ '\n' ∉ m.databaseId.toList
  fields : ∀ f ∈ m.fields, f.Printable

structure Schema.Printable (s : Schema) : Prop where
  models_ne_nil : s.models ≠ []
  distinct : (s.models.map (·.name)).Nodup
  models : ∀ m ∈ s.models, m.Printable

/-- A line that stays as it is when it is laid out and read. -/
structure Solid (s : List Char) : Prop where
  trimmed : Trimmed s
  significant : isSignificant s = true
  noBreak : '\n' ∉ s

variable {s t a b name : List Char}

theorem isIdentifierChar_of_mem {c : Char} (h : isIdentifier name = true) (hc : c ∈ name) :
    isIdentifierChar c = true := by
  obtain ⟨d, s, rfl, hd, hs⟩ := isIdentifier_iff.1 h
  rcases List.mem_cons.1 hc with rfl | hc
  · exact isIdentifierChar_of_isIdentifierStart hd
  · exact hs c hc

theorem notMem_identifier {c : Char} (h : isIdentifier name = true)
    (hc : isIdentifierChar c = false) : c ∉ name := by
  intro hmem
  rw [isIdentifierChar_of_mem h hmem] at hc
  cases hc

theorem identifier_ne_nil (h : isIdentifier name = true) : name ≠ [] := by
  rintro rfl
  cases h

theorem stops_reverse_identifier (h : isIdentifier name = true) : Stops isBlank name.reverse := by
  intro c hc
  have hmem : c ∈ name := List.mem_reverse.1 (List.mem_of_mem_head? hc)
  by_contra hb
  have hi := not_isIdentifierChar_of_isBlank (c := c) (by simpa using hb)
  rw [isIdentifierChar_of_mem h hmem] at hi
  cases hi

theorem isSignificant_of_identifier (h : isIdentifier name = true) :
    isSignificant (name ++ s) = true := by
  obtain ⟨c, n, rfl, hc, -⟩ := isIdentifier_iff.1 h
  have hne : c ≠ '/' := by
    rintro rfl
    exact absurd hc (by decide)
  have hcomment : isComment (c :: (n ++ s)) = false := by
    unfold isComment
    split
    · next he => exact absurd (List.cons_eq_cons.1 he).1 hne
    · rfl
  simp [isSignificant, hcomment]

theorem solid_of_identifier (hn : isIdentifier name = true)
    (hend : Stops isBlank (name ++ s).reverse) (hs : '\n' ∉ s) : Solid (name ++ s) := by
  refine ⟨⟨stops_isBlank_of_isIdentifier hn, hend⟩, isSignificant_of_identifier hn, ?_⟩
  rw [List.mem_append, not_or]
  exact ⟨notMem_identifier hn (by decide), hs⟩

theorem solid_openBrace : Solid ['\x7b'] :=
  ⟨⟨by decide, by decide⟩, by decide, by decide⟩

theorem solid_closeBrace : Solid ['\x7d'] :=
  ⟨⟨by decide, by decide⟩, by decide, by decide⟩

theorem Attribute.Printable.form {a : Attribute} (h : a.Printable) :
    AttributeForm a a.text.toList := by
  obtain ⟨name, argument⟩ := a
  cases argument with
  | none => simpa [Attribute.text] using AttributeForm.bare name.toList h.name
  | some argument =>
      have harg := ArgumentForm.intro [] [] (by simp [AllBlank]) (by simp [AllBlank])
        (h.argument argument rfl).1
      simpa [Attribute.text] using AttributeForm.applied name.toList argument.toList _ h.name harg

theorem Attribute.Printable.noBreak {a : Attribute} (h : a.Printable) : '\n' ∉ a.text.toList := by
  obtain ⟨name, argument⟩ := a
  have hn : '\n' ∉ name.toList := notMem_identifier h.name (by decide)
  cases argument with
  | none => simpa [Attribute.text] using hn
  | some argument =>
      have ha := (h.argument argument rfl).2
      simp [Attribute.text, hn, ha]

theorem argumentForm_ends {argument : List Char} (h : ArgumentForm argument t) :
    ∃ init, t = init ++ [')'] := by
  obtain ⟨before, after, -, -, -⟩ := h
  exact ⟨'(' :: (before ++ '"' :: (argument ++ '"' :: after)), by simp⟩

theorem attributeForm_ends {attr : Attribute} (h : AttributeForm attr t) :
    t ≠ [] ∧ Stops isBlank t.reverse := by
  cases h with
  | bare name hn =>
      have he := stops_reverse_append_of_ne_nil (a := ['@']) (identifier_ne_nil hn)
        (stops_reverse_identifier hn)
      exact ⟨by simp, he⟩
  | applied name argument t hn ht =>
      obtain ⟨init, rfl⟩ := argumentForm_ends ht
      have hclose : Stops isBlank [')'].reverse := stops_cons.2 (by decide)
      have he := stops_reverse_append_of_ne_nil (a := '@' :: (name ++ init)) (by simp) hclose
      exact ⟨by simp, by simpa using he⟩

theorem gap_blank : Gap [' '] := ⟨by decide, by decide⟩

theorem attributesForm_text {as : List Attribute} (h : ∀ a ∈ as, a.Printable) :
    AttributesForm as (attributesText as) := by
  induction as with
  | nil => exact .nil
  | cons a as ih =>
      obtain ⟨ha, hrest⟩ := List.forall_mem_cons.1 h
      have has := ih hrest
      exact .blank ' ' _ _ (by decide) (.cons a as _ _ ha.form has)

theorem tailForm_text {as : List Attribute} (h : ∀ a ∈ as, a.Printable) :
    TailForm as (attributesText as) := by
  cases as with
  | nil => exact .nil
  | cons a as =>
      obtain ⟨ha, hrest⟩ := List.forall_mem_cons.1 h
      have has := attributesForm_text hrest
      exact .gap _ [' '] _ gap_blank (.cons a as _ _ ha.form has)

theorem attributesText_ends {as : List Attribute} (h : ∀ a ∈ as, a.Printable) :
    Stops isBlank (attributesText as).reverse := by
  induction as with
  | nil => exact stops_nil
  | cons a as ih =>
      obtain ⟨ha, hrest⟩ := List.forall_mem_cons.1 h
      have has := ih hrest
      obtain ⟨hne, hends⟩ := attributeForm_ends ha.form
      exact stops_reverse_append (a := ' ' :: a.text.toList)
        (stops_reverse_append_of_ne_nil (a := [' ']) hne hends) has

theorem noBreak_attributesText {as : List Attribute} (h : ∀ a ∈ as, a.Printable) :
    '\n' ∉ attributesText as := by
  intro hmem
  obtain ⟨a, ha, hc⟩ := List.mem_flatMap.1 hmem
  rcases List.mem_cons.1 hc with he | hc
  · exact absurd he (by decide)
  · exact (h a ha).noBreak hc

theorem marks_ends (isList optional : Bool) :
    Stops isBlank (listMark isList ++ optionalMark optional).reverse := by
  cases isList <;> cases optional <;> decide

theorem notMem_marks {c : Char} (isList optional : Bool) (h : c ∉ ['[', ']', '?']) :
    c ∉ listMark isList ++ optionalMark optional := by
  simp only [List.mem_cons, List.not_mem_nil, or_false, not_or] at h
  obtain ⟨h₁, h₂, h₃⟩ := h
  cases isList <;> cases optional <;>
    simp [listMark, PropertyType.listSuffix, optionalMark, h₁, h₂, h₃]

variable {f : Field}

theorem Field.Printable.form (h : f.Printable) : FieldForm f f.lineText := by
  obtain ⟨token, isList, ht, htoken⟩ := h.typeToken
  have hf := FieldForm.intro f.name.toList [' '] token (attributesText f.attributes) isList
    f.optional f.attributes h.name gap_blank ht (tailForm_text h.attributes)
  rw [← htoken, String.ofList_toList, String.ofList_toList] at hf
  rw [Field.lineText, htoken, List.append_assoc]
  exact hf

theorem Field.Printable.solid (h : f.Printable) : Solid f.lineText := by
  obtain ⟨token, isList, ht, htoken⟩ := h.typeToken
  have hmarks := marks_ends isList f.optional
  have hrest := stops_reverse_append hmarks (attributesText_ends h.attributes)
  have htype := stops_reverse_append (stops_reverse_identifier ht) hrest
  have hends := stops_reverse_append_of_ne_nil (a := f.name.toList ++ [' '])
    (by simp [identifier_ne_nil ht]) htype
  have hbreak : '\n' ∉ listMark isList ++ optionalMark f.optional :=
    notMem_marks isList f.optional (by decide)
  have hbreakToken : '\n' ∉ token := notMem_identifier ht (by decide)
  rw [Field.lineText, htoken]
  apply solid_of_identifier h.name
  · simpa only [List.append_assoc] using hends
  · simp only [List.mem_append, not_or] at hbreak ⊢
    exact ⟨by simp, ⟨hbreakToken, hbreak.1⟩, hbreak.2, noBreak_attributesText h.attributes⟩

theorem Field.Printable.lineText_ne_close (h : f.Printable) : f.lineText ≠ ['\x7d'] := by
  intro he
  have hread := readField_eq_some_iff.2 h.form
  rw [he] at hread
  cases hread

theorem name_unique {n n' r r' : List Char} (h : n ++ r = n' ++ r') (hn : isIdentifier n = true)
    (hn' : isIdentifier n' = true) (hr : Stops isIdentifierChar r) (hr' : Stops isIdentifierChar r') :
    n = n' ∧ r = r' := by
  have h₁ := readIdentifier_eq_some_iff.2 ⟨hn, hr, rfl⟩
  rw [readIdentifier_eq_some_iff.2 ⟨hn', hr', h⟩] at h₁
  obtain ⟨rfl, rfl⟩ := Prod.mk.inj (Option.some.inj h₁)
  exact ⟨rfl, rfl⟩

theorem rest_unique_of_gap {g g' r r' : List Char} (h : g ++ r = g' ++ r') (hg : Gap g)
    (hg' : Gap g') (hr : Stops isBlank r) (hr' : Stops isBlank r') : r = r' := by
  have h₁ := afterBlanks?_eq_some_iff.2 ⟨g, hg, hr, rfl⟩
  rw [afterBlanks?_eq_some_iff.2 ⟨g', hg', hr', h⟩] at h₁
  exact (Option.some.inj h₁).symm

theorem eq_of_headerForm {line n rest first gap second r : List Char}
    (hh : HeaderForm line n rest) (hl : line = first ++ (gap ++ (second ++ r)))
    (hf : isIdentifier first = true) (hg : Gap gap) (hs : isIdentifier second = true)
    (hr : Stops isIdentifierChar r) : first = modelWord ∧ r = rest := by
  obtain ⟨gap', hg', hn, hrest, rfl⟩ := hh
  have hword : isIdentifier modelWord = true := by decide
  obtain ⟨hfirst, htail⟩ := name_unique hl.symm hf hword (stops_of_gap hg) (stops_of_gap hg')
  have hwords := rest_unique_of_gap htail hg hg' (stops_isBlank_of_isIdentifier hs)
    (stops_isBlank_of_isIdentifier hn)
  exact ⟨hfirst, (name_unique hwords hs hn hr (stops_of_endsWord hrest)).2⟩

theorem Field.Printable.not_bound {n rest id : List Char} (h : f.Printable)
    (hh : HeaderForm f.lineText n rest) : ¬ FirstMark id rest := by
  intro hm
  obtain ⟨token, isList, ht, htoken⟩ := h.typeToken
  have hline : f.lineText = f.name.toList ++ ([' '] ++ (token ++
      (listMark isList ++ (optionalMark f.optional ++ attributesText f.attributes)))) := by
    rw [Field.lineText, htoken, List.append_assoc]
  obtain ⟨hname, rfl⟩ := eq_of_headerForm hh hline h.name gap_blank ht
    (stops_of_listMark (tailForm_text h.attributes))
  have hat : '@' ∉ listMark isList ++ optionalMark f.optional :=
    notMem_marks isList f.optional (by decide)
  -- Between the type and the attributes there is no at sign, so the mark is in the attributes.
  have hid := databaseId?_eq_some_iff.2 hm
  rw [← List.append_assoc, databaseId?_append hat] at hid
  have hf : f.name = "model" := String.toList_inj.1 hname
  exact h.noHeader hf (hasMark_iff.2 ⟨id, databaseId?_eq_some_iff.1 hid⟩)

namespace Model

variable {m : Model}

def headerTail (m : Model) : List Char :=
  [' '] ++ (databaseMark ++ ('(' :: '"' :: (m.databaseId.toList ++ ['"', ')'])))

theorem Printable.headerForm (h : m.Printable) (s : List Char) :
    HeaderForm (m.headerText ++ s) m.name.toList (m.headerTail ++ s) := by
  refine ⟨[' '], gap_blank, h.name, ?_, ?_⟩
  · have hblank : isWord ' ' = false := by decide
    simp [headerTail, endsWord, hblank]
  · simp only [headerText, headerTail, List.append_assoc]

theorem Printable.firstMark (h : m.Printable) (s : List Char) :
    FirstMark m.databaseId.toList (m.headerTail ++ s) := by
  have hargument := ArgumentForm.intro [] [] (by simp [AllBlank]) (by simp [AllBlank])
    h.databaseId.2.1
  have hmark : MarkForm m.databaseId.toList _ := ⟨by simpa using h.databaseId.1, _, s, hargument, rfl⟩
  have hid := databaseId?_append (s := [' ']) (by decide)
    (t := databaseMark ++ ('(' :: ([] ++ '"' :: (m.databaseId.toList ++ '"' :: ([] ++ [')']))) ++ s))
  rw [databaseId?_eq_some_iff.2 (firstMark_of_markForm hmark)] at hid
  have hfirst := databaseId?_eq_some_iff.1 hid
  simpa [headerTail] using hfirst

theorem Printable.solid_header (h : m.Printable) {s : List Char} (hs : '\n' ∉ s)
    (hends : Stops isBlank (')' :: s).reverse) : Solid (m.headerText ++ s) := by
  have hword : isIdentifier modelWord = true := by decide
  have hname : '\n' ∉ m.name.toList := notMem_identifier h.name (by decide)
  have hmark : '\n' ∉ databaseMark := by decide
  have he := stops_reverse_append_of_ne_nil (b := ')' :: s) (by simp) hends
    (a := modelWord ++ ([' '] ++ (m.name.toList ++ ([' '] ++ (databaseMark ++
      ('(' :: '"' :: (m.databaseId.toList ++ ['"'])))))))
  rw [headerText, List.append_assoc]
  apply solid_of_identifier hword
  · simpa using he
  · simp [hname, hmark, h.databaseId.2.2, hs]

theorem Printable.solid_lines (h : m.Printable) (braceBelow : Bool) :
    ∀ s ∈ m.lines braceBelow, Solid s := by
  intro s hs
  rcases List.mem_append.1 hs with hs | hs
  · cases braceBelow with
    | true =>
        rcases List.mem_cons.1 hs with rfl | hs
        · have hsolid := h.solid_header (s := []) (by simp) (stops_cons.2 (by decide))
          rwa [List.append_nil] at hsolid
        · rw [List.mem_singleton.1 hs]
          exact solid_openBrace
    | false =>
        rw [List.mem_singleton.1 hs]
        exact h.solid_header (by decide) (stops_cons.2 (by decide))
  · rcases List.mem_append.1 hs with hs | hs
    · obtain ⟨f, hf, rfl⟩ := List.mem_map.1 hs
      exact (h.fields f hf).solid
    · rw [List.mem_singleton.1 hs]
      exact solid_closeBrace

theorem solid_linesOfAll {ms : List Model} (h : ∀ m ∈ ms, m.Printable) (braceBelow : Nat → Bool) :
    ∀ s ∈ linesOfAll braceBelow ms, Solid s := by
  induction ms generalizing braceBelow with
  | nil => simp [linesOfAll]
  | cons m ms ih =>
      obtain ⟨hm, hrest⟩ := List.forall_mem_cons.1 h
      exact List.forall_mem_append.2 ⟨hm.solid_lines _, ih hrest _⟩

end Model

end NotionSchema
