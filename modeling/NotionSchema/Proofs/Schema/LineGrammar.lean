import NotionSchema.Schema.LineForm
import NotionSchema.Proofs.Text.Run
import Mathlib.Tactic.Tauto

namespace NotionSchema.LineForm

open Text

variable {s t rest name argument id gap : List Char}

def Gap (s : List Char) : Prop := s ≠ [] ∧ AllBlank s

inductive ArgumentForm (argument : List Char) : List Char → Prop
  | intro (before after : List Char) (hb : AllBlank before) (ha : AllBlank after)
      (hq : '"' ∉ argument) :
      ArgumentForm argument ('(' :: (before ++ '"' :: (argument ++ '"' :: (after ++ [')']))))

/-- A line that begins with the word `model`, blanks and a whole word that is a name. -/
def HeaderForm (line name rest : List Char) : Prop :=
  ∃ gap, Gap gap ∧ isIdentifier name = true ∧ endsWord rest = true ∧
    line = modelWord ++ (gap ++ (name ++ rest))

def MarkForm (id s : List Char) : Prop :=
  id ≠ [] ∧ ∃ t rest, ArgumentForm id t ∧ s = databaseMark ++ (t ++ rest)

/-- The text holds a mark that names a database. -/
def HasMark (s : List Char) : Prop := ∃ before mark id, s = before ++ mark ∧ MarkForm id mark

/-- The first mark in a text has this id. -/
def FirstMark (id s : List Char) : Prop :=
  ∃ before mark, s = before ++ mark ∧ MarkForm id mark ∧
    ∀ b m i, s = b ++ m → MarkForm i m → before.length ≤ b.length

inductive AttributeForm : Attribute → List Char → Prop
  | bare (name : List Char) (hn : isIdentifier name = true) :
      AttributeForm ⟨String.ofList name, none⟩ ('@' :: name)
  | applied (name argument t : List Char) (hn : isIdentifier name = true)
      (ht : ArgumentForm argument t) :
      AttributeForm ⟨String.ofList name, some (String.ofList argument)⟩ ('@' :: (name ++ t))

/-- Attributes with any blanks before, between and after them. -/
inductive AttributesForm : List Attribute → List Char → Prop
  | nil : AttributesForm [] []
  | blank (c : Char) (as : List Attribute) (s : List Char) (hc : isBlank c = true)
      (hs : AttributesForm as s) : AttributesForm as (c :: s)
  | cons (a : Attribute) (as : List Attribute) (t s : List Char) (ht : AttributeForm a t)
      (hs : AttributesForm as s) : AttributesForm (a :: as) (t ++ s)

inductive TailForm : List Attribute → List Char → Prop
  | nil : TailForm [] []
  | gap (as : List Attribute) (gap s : List Char) (hg : Gap gap) (hs : AttributesForm as s) :
      TailForm as (gap ++ s)

def listMark (isList : Bool) : List Char := if isList then PropertyType.listSuffix else []

def optionalMark (optional : Bool) : List Char := if optional then ['?'] else []

inductive FieldForm : Field → List Char → Prop
  | intro (name gap token tail : List Char) (isList optional : Bool) (as : List Attribute)
      (hn : isIdentifier name = true) (hg : Gap gap) (ht : isIdentifier token = true)
      (ha : TailForm as tail) :
      FieldForm ⟨String.ofList name, String.ofList (token ++ listMark isList), optional, as⟩
        (name ++ (gap ++ (token ++ (listMark isList ++ (optionalMark optional ++ tail)))))

theorem not_isIdentifierChar_of_isBlank {c : Char} (h : isBlank c = true) :
    isIdentifierChar c = false := by
  simp only [isBlank, Bool.or_eq_true, Bool.and_eq_true, decide_eq_true_eq, beq_iff_eq] at h
  by_contra hc
  simp only [isIdentifierChar, isIdentifierStart, isAsciiLetter, isAsciiDigit, Bool.not_eq_false,
    Bool.or_eq_true, Bool.and_eq_true, decide_eq_true_eq, beq_iff_eq, Char.le_def,
    UInt32.le_iff_toNat_le] at hc
  have hn : c.toNat = c.val.toNat := rfl
  rcases hc with ((⟨h₁, h₂⟩ | ⟨h₁, h₂⟩) | rfl) | ⟨h₁, h₂⟩
  · simp at h₁ h₂; omega
  · simp at h₁ h₂; omega
  · simp at h
  · simp at h₁ h₂; omega

theorem toNat_lt_of_isIdentifierChar {c : Char} (h : isIdentifierChar c = true) :
    c.toNat < 0x80 := by
  simp only [isIdentifierChar, isIdentifierStart, isAsciiLetter, isAsciiDigit, Bool.or_eq_true,
    Bool.and_eq_true, decide_eq_true_eq, beq_iff_eq, Char.le_def, UInt32.le_iff_toNat_le] at h
  have hn : c.toNat = c.val.toNat := rfl
  rcases h with ((⟨h₁, h₂⟩ | ⟨h₁, h₂⟩) | rfl) | ⟨h₁, h₂⟩
  · simp at h₁ h₂; omega
  · simp at h₁ h₂; omega
  · decide
  · simp at h₁ h₂; omega

theorem isWord_of_isIdentifierChar {c : Char} (h : isIdentifierChar c = true) :
    isWord c = true := by
  have hn := toNat_lt_of_isIdentifierChar h
  simp only [isIdentifierChar, isIdentifierStart, Bool.or_eq_true] at h
  simp only [isWord, hn, if_true, Bool.or_eq_true]
  tauto

theorem isIdentifierChar_of_isIdentifierStart {c : Char} (h : isIdentifierStart c = true) :
    isIdentifierChar c = true := by
  simp [isIdentifierChar, h]

theorem stops_of_endsWord (h : endsWord s = true) : Stops isIdentifierChar s := by
  cases s with
  | nil => exact stops_nil
  | cons c s =>
      rw [stops_cons]
      by_contra hc
      have hw : isWord c = true := isWord_of_isIdentifierChar (by simpa using hc)
      simp [endsWord, hw] at h

theorem not_isBlank_of_isIdentifierStart {c : Char} (h : isIdentifierStart c = true) :
    isBlank c = false := by
  by_contra hc
  have hi := not_isIdentifierChar_of_isBlank (c := c) (by simpa using hc)
  rw [isIdentifierChar_of_isIdentifierStart h] at hi
  exact absurd hi (by decide)

theorem databaseMark_eq : databaseMark =
    ['@', 'n', 'o', 't', 'i', 'o', 'n', 'D', 'a', 't', 'a', 'b', 'a', 's', 'e'] := by decide

theorem after?_eq_some_iff {word : List Char} : after? word s = some rest ↔ s = word ++ rest := by
  induction word generalizing s with
  | nil => simp [after?]
  | cons c word ih =>
      cases s with
      | nil => simp [after?]
      | cons d s =>
          rw [after?]
          split
          · next h => subst h; simp [ih]
          · next h => simp [Ne.symm h]

theorem afterBlanks?_eq_some_iff :
    afterBlanks? s = some rest ↔ ∃ gap, Gap gap ∧ Stops isBlank rest ∧ s = gap ++ rest := by
  constructor
  · intro h
    cases s with
    | nil => simp [afterBlanks?] at h
    | cons c s =>
        simp only [afterBlanks?, Option.ite_none_right_eq_some, Option.some.injEq] at h
        obtain ⟨hc, rfl⟩ := h
        refine ⟨c :: s.takeWhile isBlank, ⟨by simp, ?_⟩, stops_dropWhile _ _, ?_⟩
        · intro d hd
          rcases List.mem_cons.1 hd with rfl | hd
          · exact hc
          · exact List.mem_takeWhile_imp hd
        · simp
  · rintro ⟨gap, ⟨hne, hg⟩, hr, rfl⟩
    cases gap with
    | nil => exact absurd rfl hne
    | cons c gap =>
        have hc : isBlank c = true := hg c (by simp)
        have hgap : ∀ d ∈ gap, isBlank d = true := fun d hd => hg d (by simp [hd])
        simp [afterBlanks?, hc, dropWhile_append_of_stops hgap hr]

theorem isIdentifier_iff : isIdentifier name = true ↔
    ∃ c s, name = c :: s ∧ isIdentifierStart c = true ∧ ∀ d ∈ s, isIdentifierChar d = true := by
  cases name with
  | nil => simp [isIdentifier]
  | cons c s =>
      constructor
      · intro h
        exact ⟨c, s, rfl, by simpa [isIdentifier] using h⟩
      · rintro ⟨_, _, ⟨rfl, rfl⟩, h⟩
        simpa [isIdentifier] using h

theorem stops_isBlank_of_isIdentifier (h : isIdentifier name = true) :
    Stops isBlank (name ++ rest) := by
  obtain ⟨c, s, rfl, hc, -⟩ := isIdentifier_iff.1 h
  simpa using not_isBlank_of_isIdentifierStart hc

theorem readIdentifier_eq_some_iff : readIdentifier s = some (name, rest) ↔
    isIdentifier name = true ∧ Stops isIdentifierChar rest ∧ s = name ++ rest := by
  constructor
  · intro h
    cases s with
    | nil => simp [readIdentifier] at h
    | cons c s =>
        simp only [readIdentifier, Option.ite_none_right_eq_some, Option.some.injEq,
          Prod.mk.injEq] at h
        obtain ⟨hc, rfl, rfl⟩ := h
        refine ⟨isIdentifier_iff.2 ⟨c, _, rfl, hc, ?_⟩, stops_dropWhile _ _, by simp⟩
        intro d hd
        exact List.mem_takeWhile_imp hd
  · rintro ⟨hn, hr, rfl⟩
    obtain ⟨c, s, rfl, hc, hs⟩ := isIdentifier_iff.1 hn
    simp [readIdentifier, hc, takeWhile_append_of_stops hs hr, dropWhile_append_of_stops hs hr]

end NotionSchema.LineForm
