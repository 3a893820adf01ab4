import NotionSchema.Proofs.Reconcile.LocalName
import NotionSchema.Proofs.Schema.RoundTrip

namespace NotionSchema

open Text LineForm

namespace LineForm

variable {s front argument : List Char}

theorem not_hasMark_of_notMem (h : '"' ∉ s) : ¬ HasMark s := by
  rintro ⟨before, mark, id, rfl, -, t, rest, ht, rfl⟩
  cases ht
  simp at h

theorem notMem_of_allBlank {c : Char} (h : AllBlank s) (hc : isBlank c = false) : c ∉ s := by
  intro hmem
  rw [h c hmem] at hc
  cases hc

theorem takeWhile_quote {t : List Char} (h : '"' ∉ s) :
    (s ++ '"' :: t).takeWhile (· != '"') = s := by
  refine takeWhile_append_of_stops ?_ (by simp)
  intro c hc
  simpa using fun he : c = '"' => h (he ▸ hc)

theorem not_hasMark_map (hf : '"' ∉ front) (ha : '"' ∉ argument) :
    ¬ HasMark ((front ++ ['@', 'm', 'a', 'p', '(']) ++ '"' :: (argument ++ ['"', ')'])) := by
  rintro ⟨before, mark, id, he, -, t, rest, ⟨blanks, after, hblanks, -, -⟩, rfl⟩
  have hblank : '"' ∉ blanks := notMem_of_allBlank hblanks (by decide)
  have hquotes := congrArg (List.count '"') he
  have hbefore : '"' ∉ before := by
    rw [databaseMark_eq] at hquotes
    simp [List.count_append, List.count_eq_zero.2 hf, List.count_eq_zero.2 ha] at hquotes
    exact List.count_eq_zero.1 (by omega)
  have hsplit : before ++ (databaseMark ++
      ('(' :: (blanks ++ '"' :: (id ++ '"' :: (after ++ [')']))) ++ rest)) =
      (before ++ (databaseMark ++ '(' :: blanks)) ++
        '"' :: (id ++ '"' :: (after ++ [')']) ++ rest) := by simp
  -- The mark has the first quote, too, and so the text before it.
  have hopen := congrArg (List.takeWhile (· != '"')) he
  rw [hsplit, takeWhile_quote (by simpa using hf), takeWhile_quote (by
    rw [databaseMark_eq]
    simp [hbefore, hblank])] at hopen
  have hends := congrArg List.reverse hopen
  rw [databaseMark_eq] at hends
  simp only [List.reverse_append, List.reverse_cons, List.append_assoc] at hends
  generalize hr : blanks.reverse = back at hends
  cases back with
  | nil => simp at hends
  | cons c back =>
      have hc : c ∈ blanks := List.mem_reverse.1 (hr ▸ List.mem_cons_self)
      have hopening : '(' = c := by simpa using (List.cons_eq_cons.1 hends).1
      exact absurd (hblanks c hc) (hopening ▸ by decide)

end LineForm

namespace Field

variable {p : RemoteProperty}

theorem exists_token (tag : String) : ∃ token isList, isIdentifier token = true ∧
    (DeclaredType.ofTag tag).typeToken.toList = token ++ listMark isList := by
  rw [DeclaredType.ofTag]
  cases PropertyType.ofTagIgnoringCase? tag with
  | none => exact ⟨"String".toList, false, by decide, by decide⟩
  | some t =>
      cases t with
      | title | richText | select | formula | url | email | phoneNumber | files =>
          exact ⟨"String".toList, false, by decide, by decide⟩
      | multiSelect | relation => exact ⟨"String".toList, true, by decide, by decide⟩
      | number => exact ⟨"Number".toList, false, by decide, by decide⟩
      | date => exact ⟨"DateTime".toList, false, by decide, by decide⟩
      | checkbox => exact ⟨"Boolean".toList, false, by decide, by decide⟩
      | people => exact ⟨"Json".toList, false, by decide, by decide⟩

theorem isIdentifier_attributeName (tag : String) :
    ∀ a ∈ (DeclaredType.ofTag tag).attributeName, isIdentifier a.toList = true := by
  rw [DeclaredType.ofTag]
  cases PropertyType.ofTagIgnoringCase? tag with
  | none => simp
  | some t => cases t <;> decide

def typeAttributes (tag : String) : List Attribute :=
  (DeclaredType.ofTag tag).attributeName.toList.map fun a => ⟨a, none⟩

theorem attributes_suggest (p : RemoteProperty) : (suggest p).attributes =
    typeAttributes p.kind ++ if localName p.name = p.name then [] else [⟨"map", some p.name⟩] := rfl

theorem typeAttributes_printable (tag : String) : ∀ a ∈ typeAttributes tag, a.Printable := by
  intro a ha
  obtain ⟨name, hname, rfl⟩ := List.mem_map.1 ha
  exact ⟨isIdentifier_attributeName tag name (Option.mem_toList.1 hname), by simp⟩

theorem notMem_attributesText {c : Char} (tag : String) (hc : isIdentifierChar c = false)
    (hs : c ≠ ' ') (ha : c ≠ '@') : c ∉ attributesText (typeAttributes tag) := by
  intro hmem
  obtain ⟨a, htype, hmem⟩ := List.mem_flatMap.1 hmem
  obtain ⟨name, hname, rfl⟩ := List.mem_map.1 htype
  have hident := isIdentifier_attributeName tag name (Option.mem_toList.1 hname)
  have hnot := notMem_identifier hident hc
  simp [Attribute.text, hs, ha, hnot] at hmem

theorem not_hasMark_suggest (hq : '"' ∉ p.name.toList) :
    ¬ HasMark (attributesText (suggest p).attributes) := by
  have htype := notMem_attributesText p.kind (c := '"') (by decide) (by decide) (by decide)
  rw [attributes_suggest, attributesText, List.flatMap_append]
  split_ifs with hname
  · rw [List.flatMap_nil, List.append_nil]
    exact not_hasMark_of_notMem htype
  · have hfront : '"' ∉ attributesText (typeAttributes p.kind) ++ [' '] := by simpa using htype
    have hmap := not_hasMark_map hfront hq
    simpa [attributesText, Attribute.text] using hmap

theorem suggest_printable (hq : '"' ∉ p.name.toList) (hb : '\n' ∉ p.name.toList)
    (ha : IsAscii (suggest p).name.toList) : (suggest p).Printable := by
  refine ⟨isIdentifier_localName_iff.2 ha, exists_token p.kind, ?_, fun _ => not_hasMark_suggest hq⟩
  rw [attributes_suggest]
  refine List.forall_mem_append.2 ⟨typeAttributes_printable p.kind, ?_⟩
  split_ifs with hname
  · simp
  · intro a ha
    obtain rfl := List.mem_singleton.1 ha
    have hmap : isIdentifier "map".toList = true := by decide
    refine ⟨hmap, ?_⟩
    rintro s ⟨⟩
    exact ⟨hq, hb⟩

end Field

namespace Schema

theorem parseWithSkipped_printed_model {m : Model} (h : m.Printable) (layout : Layout) :
    (parseWithSkipped (printed ⟨[m]⟩ layout)).value = .ok (⟨[m]⟩, []) := by
  have hs : Printable ⟨[m]⟩ := ⟨by simp, by simp, by simpa using h⟩
  have htext := text_significantLines_printed hs layout
  rw [Model.linesOfAll, Model.linesOfAll, List.append_nil] at htext
  obtain ⟨b, hlines, hb⟩ := block_of_text h htext
  have hspells : Spells [] [.block b] (significantLines (printed ⟨[m]⟩ layout)) := by
    refine ⟨?_, ?_, by simp [blocks], by simp⟩
    · rw [← hlines]
      exact List.append_nil _
    · simpa [Part.Fits] using hb.fits
  have hparse := parseWithSkipped_of_spells hspells (by simp [blocks])
  simpa [blocks, hb.model_eq, hb.skipped_eq] using hparse

theorem isIdentifier_of_fieldForm {f : Field} {line : List Char} (h : FieldForm f line) :
    isIdentifier f.name.toList = true := by
  cases h with
  | intro name gap token tail isList optional as hn =>
      rw [String.toList_ofList]
      exact hn

theorem isIdentifier_of_parse {text : String} {s : Schema} {skipped : List SkippedLine} {m : Model}
    {f : Field} (h : (parseWithSkipped text).value = .ok (s, skipped)) (hm : m ∈ s.models)
    (hf : f ∈ m.fields) : isIdentifier f.name.toList = true := by
  obtain ⟨b, hfits, rfl, -⟩ := exists_block h hm
  obtain ⟨l, hl, hfield⟩ := List.mem_filterMap.1 hf
  have hline := (hfits.body l hl).2.2
  cases l with
  | other line => cases hfield
  | field line g =>
      cases hfield
      exact isIdentifier_of_fieldForm hline

/-- Let the name of a remote property have neither quotes nor line breaks. If the suggested name is
ASCII, the suggested declaration is read back as it was from any printed model that has it among
fields that can be printed, whatever the layout, and no line is skipped. If it is not, there is no
text at all that any such field is read from. -/
theorem suggestion_read_back (p : RemoteProperty) (hq : '"' ∉ p.name.toList)
    (hb : '\n' ∉ p.name.toList) :
    (IsAscii (Field.suggest p).name.toList →
      ∀ (name id : String) (before after : List Field) (layout : Layout),
        Model.Printable ⟨name, id, before ++ after⟩ →
        let s : Schema := ⟨[⟨name, id, before ++ Field.suggest p :: after⟩]⟩
        (parseWithSkipped (printed s layout)).value = .ok (s, [])) ∧
    (¬ IsAscii (Field.suggest p).name.toList →
      ∀ text s skipped, (parseWithSkipped text).value = .ok (s, skipped) →
        ∀ m ∈ s.models, Field.suggest p ∉ m.fields) := by
  refine ⟨?_, ?_⟩
  · intro ha name id before after layout hm
    obtain ⟨hbefore, hafter⟩ := List.forall_mem_append.1 hm.fields
    have hfields : ∀ f ∈ before ++ Field.suggest p :: after, f.Printable :=
      List.forall_mem_append.2
        ⟨hbefore, List.forall_mem_cons.2 ⟨Field.suggest_printable hq hb ha, hafter⟩⟩
    have hmodel : Model.Printable ⟨name, id, before ++ Field.suggest p :: after⟩ :=
      ⟨hm.name, hm.databaseId, hfields⟩
    exact parseWithSkipped_printed_model hmodel layout
  · intro ha text s skipped hparse m hm hf
    exact ha (Field.isAscii_of_isIdentifier (isIdentifier_of_parse hparse hm hf))

theorem allBlank_nil : AllBlank [] := List.forall_mem_nil _

theorem noBreak_nil : '\n' ∉ ([] : List Char) := List.not_mem_nil

def noPadding : Padding := ⟨[], allBlank_nil, noBreak_nil⟩

def plainLayout : Layout := ⟨fun _ => ⟨[], noPadding, noPadding⟩, fun _ => false, []⟩

def dueDate : RemoteProperty := ⟨"", "Due Date", "date", []⟩

theorem dueDate_read_back :
    Field.suggest dueDate = ⟨"dueDate", "DateTime", false, [⟨"map", some "Due Date"⟩]⟩ ∧
    (parseWithSkipped (printed ⟨[⟨"Task", "db1", [Field.suggest dueDate]⟩]⟩ plainLayout)).value =
      .ok (⟨[⟨"Task", "db1", [Field.suggest dueDate]⟩]⟩, []) := by
  have hm : Model.Printable ⟨"Task", "db1", [] ++ []⟩ := ⟨by decide, by decide, by simp⟩
  have hread := (suggestion_read_back dueDate (by decide) (by decide)).1 (by decide +kernel)
  have hparse := hread "Task" "db1" [] [] plainLayout hm
  rw [List.nil_append] at hparse
  exact ⟨by decide +kernel, hparse⟩

def umlaut : RemoteProperty := ⟨"", "Überschrift", "rich_text", []⟩

/-- The suggested name starts with a letter that no identifier has, so its line is skipped. -/
theorem umlaut_skipped :
    '"' ∉ umlaut.name.toList ∧ '\n' ∉ umlaut.name.toList ∧
    Field.suggest umlaut = ⟨"überschrift", "String", false, [⟨"map", some "Überschrift"⟩]⟩ ∧
    (parseWithSkipped (printed ⟨[⟨"Task", "db1", [Field.suggest umlaut]⟩]⟩ plainLayout)).value =
      .ok (⟨[⟨"Task", "db1", []⟩]⟩,
        [⟨"Task", 2, "überschrift String @map(\"Überschrift\")"⟩]) := by
  decide +kernel

end Schema

end NotionSchema
