import NotionSchema.Proofs.Schema.LineGrammar
import Mathlib.Tactic.Set

namespace NotionSchema.LineForm

open Text

variable {s t rest line name argument id : List Char} {a : Attribute} {as : List Attribute}

theorem eq_takeWhile_append {p : Char → Bool} (h : s.dropWhile p = rest) :
    s = s.takeWhile p ++ rest := by
  rw [← h, List.takeWhile_append_dropWhile]

theorem readArgument_eq_some_iff :
    readArgument s = some (argument, rest) ↔ ∃ t, ArgumentForm argument t ∧ s = t ++ rest := by
  constructor
  · intro h
    simp only [readArgument, Option.bind_eq_bind, Option.bind_eq_some_iff, after?_eq_some_iff,
      Option.some.injEq, Option.pure_def, Prod.mk.injEq, List.cons_append, List.nil_append] at h
    obtain ⟨s₁, rfl, s₂, h₂, s₃, h₃, s₄, h₄, rfl, rfl⟩ := h
    refine ⟨_, .intro (s₁.takeWhile isBlank) (s₃.takeWhile isBlank) ?_ ?_ ?_, ?_⟩
    · exact fun c hc => List.mem_takeWhile_imp hc
    · exact fun c hc => List.mem_takeWhile_imp hc
    · intro hq
      have := List.mem_takeWhile_imp hq
      simp at this
    · have e₁ := eq_takeWhile_append h₂
      have e₂ := eq_takeWhile_append h₃
      have e₃ := eq_takeWhile_append h₄
      calc '(' :: s₁ = '(' :: (s₁.takeWhile isBlank ++ '"' :: s₂) := congrArg _ e₁
        _ = '(' :: (s₁.takeWhile isBlank ++ '"' ::
              (s₂.takeWhile (· != '"') ++ '"' :: s₃)) := by rw [← e₂]
        _ = '(' :: (s₁.takeWhile isBlank ++ '"' :: (s₂.takeWhile (· != '"') ++ '"' ::
              (s₃.takeWhile isBlank ++ ')' :: s₄))) := by rw [← e₃]
        _ = _ := by simp
  · rintro ⟨t, ⟨before, after, hb, ha, hq⟩, rfl⟩
    have hne : ∀ c ∈ argument, (c != '"') = true := by
      intro c hc
      simpa using fun he : c = '"' => hq (he ▸ hc)
    have hblank : isBlank '"' = false := by decide
    have hclose : isBlank ')' = false := by decide
    simp [readArgument, after?, dropWhile_append_of_stops hb (stops_cons.2 hblank),
      dropWhile_append_of_stops ha (stops_cons.2 hclose),
      dropWhile_append_of_stops hne (b := '"' :: (after ++ ')' :: rest)) (by simp),
      takeWhile_append_of_stops hne (b := '"' :: (after ++ ')' :: rest)) (by simp)]

theorem readHeader_eq_some_iff :
    readHeader line = some (name, rest) ↔ HeaderForm line name rest := by
  simp only [readHeader, Option.bind_eq_bind, Option.bind_eq_some_iff, after?_eq_some_iff,
    afterBlanks?_eq_some_iff]
  constructor
  · rintro ⟨s₁, rfl, s₂, ⟨gap, hg, -, rfl⟩, ⟨n, r⟩, hn, h⟩
    simp only [Option.ite_none_right_eq_some, Option.some.injEq, Prod.mk.injEq] at h
    obtain ⟨hr, rfl, rfl⟩ := h
    obtain ⟨hi, -, rfl⟩ := readIdentifier_eq_some_iff.1 hn
    exact ⟨gap, hg, hi, hr, rfl⟩
  · rintro ⟨gap, hg, hn, hr, rfl⟩
    refine ⟨_, rfl, _, ⟨gap, hg, stops_isBlank_of_isIdentifier hn, rfl⟩, (name, rest), ?_, ?_⟩
    · exact readIdentifier_eq_some_iff.2 ⟨hn, stops_of_endsWord hr, rfl⟩
    · simp [hr]

theorem isHeader_iff : isHeader line = true ↔ ∃ name rest, HeaderForm line name rest := by
  simp [isHeader, Option.isSome_iff_exists, readHeader_eq_some_iff]

theorem readDatabaseMark_eq_some_iff : readDatabaseMark s = some id ↔ MarkForm id s := by
  simp only [readDatabaseMark, Option.bind_eq_bind, Option.bind_eq_some_iff, after?_eq_some_iff,
    Option.ite_none_left_eq_some, Option.some.injEq, Prod.exists]
  constructor
  · rintro ⟨s, rfl, i, rest, h, hne, rfl⟩
    obtain ⟨t, ht, rfl⟩ := readArgument_eq_some_iff.1 h
    exact ⟨by simpa using hne, t, rest, ht, rfl⟩
  · rintro ⟨hne, t, rest, ht, rfl⟩
    exact ⟨_, rfl, id, rest, readArgument_eq_some_iff.2 ⟨t, ht, rfl⟩, by simpa using hne, rfl⟩

theorem markForm_unique {i j : List Char} (hi : MarkForm i s) (hj : MarkForm j s) : i = j := by
  have h := readDatabaseMark_eq_some_iff.2 hi
  rw [readDatabaseMark_eq_some_iff.2 hj] at h
  exact (Option.some.inj h).symm

theorem not_markForm_nil : ¬ MarkForm id [] := by
  rintro ⟨-, t, rest, -, h⟩
  simp [databaseMark_eq] at h

theorem firstMark_of_markForm (h : MarkForm id s) : FirstMark id s :=
  ⟨[], s, rfl, h, fun _ _ _ _ _ => Nat.zero_le _⟩

theorem firstMark_cons_iff {c : Char} (h : ∀ i, ¬ MarkForm i (c :: s)) :
    FirstMark id (c :: s) ↔ FirstMark id s := by
  constructor
  · rintro ⟨before, mark, he, hm, hfirst⟩
    cases before with
    | nil =>
        rw [List.nil_append] at he
        exact absurd (he ▸ hm) (h id)
    | cons d before =>
        obtain ⟨rfl, rfl⟩ := List.cons_eq_cons.1 he
        refine ⟨before, mark, rfl, hm, ?_⟩
        intro b m i hb hi
        have hle := hfirst (c :: b) m i (congrArg (c :: ·) hb) hi
        simpa using hle
  · rintro ⟨before, mark, rfl, hm, hfirst⟩
    refine ⟨c :: before, mark, rfl, hm, ?_⟩
    intro b m i he hi
    cases b with
    | nil =>
        rw [List.nil_append] at he
        exact absurd (he ▸ hi) (h i)
    | cons d b =>
        obtain ⟨rfl, hb⟩ := List.cons_eq_cons.1 he
        have hle := hfirst b m i hb hi
        simpa using hle

theorem hasMark_iff : HasMark s ↔ ∃ id, FirstMark id s := by
  constructor
  · rintro ⟨before, mark, id, rfl, hm⟩
    induction before with
    | nil => exact ⟨id, firstMark_of_markForm hm⟩
    | cons c before ih =>
        by_cases hc : ∃ i, MarkForm i (c :: (before ++ mark))
        · obtain ⟨i, hi⟩ := hc
          exact ⟨i, firstMark_of_markForm hi⟩
        · obtain ⟨i, hi⟩ := ih
          exact ⟨i, (firstMark_cons_iff (not_exists.1 hc)).2 hi⟩
  · rintro ⟨id, before, mark, rfl, hm, -⟩
    exact ⟨before, mark, id, rfl, hm⟩

theorem databaseId?_eq_some_iff : databaseId? s = some id ↔ FirstMark id s := by
  induction s with
  | nil =>
      simp only [databaseId?, false_iff, reduceCtorEq]
      rintro ⟨before, mark, he, hm, -⟩
      obtain ⟨-, rfl⟩ := List.append_eq_nil_iff.1 he.symm
      exact not_markForm_nil hm
  | cons c s ih =>
      rw [databaseId?]
      cases hr : readDatabaseMark (c :: s) with
      | some i =>
          -- No mark can come before one that is at the front.
          have hi := readDatabaseMark_eq_some_iff.1 hr
          constructor
          · rintro h
            cases h
            exact firstMark_of_markForm hi
          · rintro ⟨before, mark, he, hm, hfirst⟩
            have hb : before = [] := List.length_eq_zero_iff.1
              (Nat.le_zero.1 (hfirst [] (c :: s) i rfl hi))
            subst hb
            rw [List.nil_append] at he
            rw [markForm_unique hi (he ▸ hm)]
      | none =>
          have hno : ∀ i, ¬ MarkForm i (c :: s) := by
            intro i hi
            rw [readDatabaseMark_eq_some_iff.2 hi] at hr
            cases hr
          rw [firstMark_cons_iff hno]
          exact ih

theorem databaseId?_append (h : '@' ∉ s) : databaseId? (s ++ t) = databaseId? t := by
  induction s with
  | nil => rfl
  | cons c s ih =>
      have hc : '@' ≠ c := fun he => h (List.mem_cons.2 (.inl he))
      have hr : readDatabaseMark (c :: (s ++ t)) = none := by
        simp [readDatabaseMark, databaseMark_eq, after?, hc]
      rw [List.cons_append, databaseId?, hr]
      exact ih fun hs => h (List.mem_cons.2 (.inr hs))

theorem isBoundHeader_iff : isBoundHeader line = true ↔
    ∃ name rest id, HeaderForm line name rest ∧ FirstMark id rest := by
  rw [isBoundHeader]
  cases hr : readHeader line with
  | none =>
      simp only [Bool.false_eq_true, false_iff, not_exists, not_and]
      intro name rest id hh
      rw [readHeader_eq_some_iff.2 hh] at hr
      cases hr
  | some p =>
      obtain ⟨n, r⟩ := p
      have hh := readHeader_eq_some_iff.1 hr
      simp only [Option.isSome_iff_exists]
      constructor
      · rintro ⟨id, hid⟩
        exact ⟨n, r, id, hh, databaseId?_eq_some_iff.1 hid⟩
      · rintro ⟨name, rest, id, hh', hid⟩
        rw [readHeader_eq_some_iff.2 hh'] at hr
        cases hr
        exact ⟨id, databaseId?_eq_some_iff.2 hid⟩

theorem readArgument_eq_none (h : ∀ c ∈ s.head?, c ≠ '(') : readArgument s = none := by
  cases s with
  | nil => simp [readArgument, after?]
  | cons c s =>
      have hc : '(' ≠ c := fun he => h c (by simp) he.symm
      simp [readArgument, after?, hc]

theorem readAttribute_of_form (h : AttributeForm a t) (hr : Stops isIdentifierChar rest)
    (ho : ∀ c ∈ rest.head?, c ≠ '(') : readAttribute (t ++ rest) = some (a, rest) := by
  cases h with
  | bare name hn =>
      have hi := readIdentifier_eq_some_iff.2 ⟨hn, hr, rfl⟩
      simp [readAttribute, hi, readArgument_eq_none ho]
  | applied name argument t hn ht =>
      have hs : Stops isIdentifierChar (t ++ rest) := by
        cases ht
        simpa using (by decide : isIdentifierChar '(' = false)
      have hi := readIdentifier_eq_some_iff.2 ⟨hn, hs, rfl⟩
      have ha : readArgument (t ++ rest) = some (argument, rest) :=
        readArgument_eq_some_iff.2 ⟨t, ht, rfl⟩
      simp [readAttribute, hi, ha]

theorem form_of_readAttribute (h : readAttribute s = some (a, rest)) :
    ∃ t, AttributeForm a t ∧ s = t ++ rest := by
  unfold readAttribute at h
  split at h
  · next s =>
    simp only [Option.bind_eq_bind, Option.bind_eq_some_iff] at h
    obtain ⟨⟨name, r⟩, hname, h⟩ := h
    obtain ⟨hn, -, rfl⟩ := readIdentifier_eq_some_iff.1 hname
    split at h
    · next argument r' harg =>
      obtain ⟨t, ht, he⟩ := readArgument_eq_some_iff.1 harg
      simp only [Option.pure_def, Option.some.injEq, Prod.mk.injEq] at h
      obtain ⟨rfl, rfl⟩ := h
      refine ⟨_, .applied name argument t hn ht, ?_⟩
      rw [List.cons_append, List.append_assoc]
      exact congrArg (fun r => '@' :: (name ++ r)) he
    · simp only [Option.pure_def, Option.some.injEq, Prod.mk.injEq] at h
      obtain ⟨rfl, rfl⟩ := h
      exact ⟨_, .bare name hn, rfl⟩
  · simp at h

theorem head_of_attributesForm (h : AttributesForm as s) :
    ∀ c ∈ s.head?, isBlank c = true ∨ c = '@' := by
  cases h with
  | nil => simp
  | blank c as s hc hs =>
      intro d hd
      cases hd
      exact .inl hc
  | cons a as t s ht hs =>
      intro d hd
      cases ht <;> · cases hd; exact .inr rfl

theorem stops_of_attributesForm (h : AttributesForm as s) : Stops isIdentifierChar s := by
  intro c hc
  rcases head_of_attributesForm h c hc with hb | rfl
  · exact not_isIdentifierChar_of_isBlank hb
  · decide

theorem noOpening_of_attributesForm (h : AttributesForm as s) : ∀ c ∈ s.head?, c ≠ '(' := by
  intro c hc he
  subst he
  rcases head_of_attributesForm h _ hc with hb | hb
  · exact absurd hb (by decide)
  · exact absurd hb (by decide)

theorem readAttributes_blank {c : Char} (h : isBlank c = true) :
    readAttributes (c :: s) = readAttributes s := by
  rw [readAttributes, if_pos h]

theorem readAttributes_of_readAttribute (hb : Stops isBlank s)
    (h : readAttribute s = some (a, rest)) :
    readAttributes s = (readAttributes rest).map (a :: ·) := by
  cases s with
  | nil => simp [readAttribute] at h
  | cons c s =>
      have hc : isBlank c = false := by simpa using hb
      rw [readAttributes, if_neg (by simp [hc])]
      split
      · next h' =>
          rw [h] at h'
          cases h'
          rfl
      · next h' =>
          rw [h] at h'
          cases h'

theorem stops_isBlank_of_attributeForm (h : AttributeForm a t) :
    Stops isBlank (t ++ rest) := by
  cases h <;> exact stops_cons.2 (by decide)

theorem readAttributes_of_form (h : AttributesForm as s) : readAttributes s = some as := by
  induction h with
  | nil => rw [readAttributes]
  | blank c as s hc hs ih => rw [readAttributes_blank hc, ih]
  | cons a as t s ht hs ih =>
      have hr := readAttribute_of_form ht (stops_of_attributesForm hs)
        (noOpening_of_attributesForm hs)
      rw [readAttributes_of_readAttribute (stops_isBlank_of_attributeForm ht) hr, ih]
      rfl

theorem form_of_readAttributes (h : readAttributes s = some as) : AttributesForm as s := by
  fun_induction readAttributes s generalizing as with
  | case1 =>
      cases h
      exact .nil
  | case2 c s hc ih => exact .blank c as s hc (ih h)
  | case3 c s hc a rest hr ih =>
      obtain ⟨as', has, rfl⟩ := Option.map_eq_some_iff.1 h
      obtain ⟨t, ht, he⟩ := form_of_readAttribute hr
      rw [he]
      exact .cons a as' t rest ht (ih has)
  | case4 => simp at h

theorem readAttributes_eq_some_iff : readAttributes s = some as ↔ AttributesForm as s :=
  ⟨form_of_readAttributes, readAttributes_of_form⟩

theorem attributesForm_dropWhile (h : AttributesForm as s) :
    AttributesForm as (s.dropWhile isBlank) := by
  induction h with
  | nil => exact .nil
  | blank c as s hc hs ih => simpa [List.dropWhile_cons, hc] using ih
  | cons a as t s ht hs ih =>
      have hstops : Stops isBlank (t ++ s) := stops_isBlank_of_attributeForm ht
      have hd := dropWhile_append_of_stops (a := []) (by simp) hstops
      rw [List.nil_append] at hd
      rw [hd]
      exact .cons a as t s ht hs

theorem readFieldAttributes_eq_some_iff : readFieldAttributes s = some as ↔ TailForm as s := by
  cases s with
  | nil =>
      constructor
      · intro h
        cases h
        exact .nil
      · generalize he : ([] : List Char) = e
        intro h
        cases h with
        | nil => rfl
        | gap as gap s hg hs => exact absurd (List.append_eq_nil_iff.1 he.symm).1 hg.1
  | cons c s =>
      simp only [readFieldAttributes, Option.bind_eq_some_iff, afterBlanks?_eq_some_iff,
        readAttributes_eq_some_iff]
      constructor
      · rintro ⟨r, ⟨gap, hg, -, he⟩, hr⟩
        rw [he]
        exact .gap as gap r hg hr
      · generalize he : c :: s = e
        intro h
        cases h with
        | nil => cases he
        | gap as gap r hg hr =>
            obtain ⟨b, r', hs, hb, hstop⟩ := run_exists isBlank r
            refine ⟨r', ⟨gap ++ b, ⟨by simp [hg.1], ?_⟩, hstop, by simp [hs]⟩, ?_⟩
            · intro d hd
              exact (List.mem_append.1 hd).elim (hg.2 d) (hb d)
            · have hd := attributesForm_dropWhile hr
              rwa [hs, dropWhile_append_of_stops hb hstop] at hd

theorem isBlank_head_of_tailForm (h : TailForm as s) : ∀ c ∈ s.head?, isBlank c = true := by
  cases h with
  | nil => simp
  | gap as gap s hg hs =>
      obtain ⟨hne, hb⟩ := hg
      cases gap with
      | nil => exact absurd rfl hne
      | cons d gap =>
          intro c hc
          cases hc
          exact hb d (by simp)

theorem readListSuffix_listMark (isList : Bool) (h : ∀ c ∈ s.head?, c ≠ '[') :
    readListSuffix (listMark isList ++ s) = (isList, s) := by
  cases isList with
  | true => rfl
  | false =>
      cases s with
      | nil => rfl
      | cons c s =>
          have hc : c ≠ '[' := h c rfl
          change readListSuffix (c :: s) = _
          unfold readListSuffix
          split
          · next he => exact absurd (List.cons_eq_cons.1 he).1 hc
          · rfl

theorem listMark_readListSuffix (s : List Char) :
    listMark (readListSuffix s).1 ++ (readListSuffix s).2 = s := by
  unfold readListSuffix
  split <;> rfl

theorem readOptionalMark_optionalMark (optional : Bool) (h : ∀ c ∈ s.head?, c ≠ '?') :
    readOptionalMark (optionalMark optional ++ s) = (optional, s) := by
  cases optional with
  | true => rfl
  | false =>
      cases s with
      | nil => rfl
      | cons c s =>
          have hc : c ≠ '?' := h c rfl
          change readOptionalMark (c :: s) = _
          unfold readOptionalMark
          split
          · next he => exact absurd (List.cons_eq_cons.1 he).1 hc
          · rfl

theorem optionalMark_readOptionalMark (s : List Char) :
    optionalMark (readOptionalMark s).1 ++ (readOptionalMark s).2 = s := by
  unfold readOptionalMark
  split <;> rfl

theorem head_of_optionalMark {optional : Bool} (h : TailForm as s) :
    ∀ c ∈ (optionalMark optional ++ s).head?, isBlank c = true ∨ c = '?' := by
  cases optional with
  | true =>
      intro c hc
      cases hc
      exact .inr rfl
  | false =>
      intro c hc
      exact .inl (isBlank_head_of_tailForm h c hc)

theorem readOptionalMark_of_tailForm {optional : Bool} (h : TailForm as s) :
    readOptionalMark (optionalMark optional ++ s) = (optional, s) := by
  apply readOptionalMark_optionalMark
  rintro c hc rfl
  exact absurd (isBlank_head_of_tailForm h _ hc) (by decide)

theorem readListSuffix_of_tailForm {isList optional : Bool} (h : TailForm as s) :
    readListSuffix (listMark isList ++ (optionalMark optional ++ s)) =
      (isList, optionalMark optional ++ s) := by
  apply readListSuffix_listMark
  rintro c hc rfl
  rcases head_of_optionalMark h _ hc with hb | hb
  · exact absurd hb (by decide)
  · exact absurd hb (by decide)

theorem stops_of_listMark {isList optional : Bool} (h : TailForm as s) :
    Stops isIdentifierChar (listMark isList ++ (optionalMark optional ++ s)) := by
  cases isList with
  | true => exact stops_cons.2 (by decide)
  | false =>
      intro c hc
      rcases head_of_optionalMark h c hc with hb | rfl
      · exact not_isIdentifierChar_of_isBlank hb
      · decide

theorem stops_of_gap (h : Gap s) : Stops isIdentifierChar (s ++ rest) := by
  obtain ⟨hne, hb⟩ := h
  rw [stops_append_left hne]
  intro c hc
  exact not_isIdentifierChar_of_isBlank (hb c (List.mem_of_mem_head? hc))

theorem readField_of_form {f : Field} (h : FieldForm f line) : readField line = some f := by
  cases h with
  | intro name gap token tail isList optional as hn hg ht ha =>
      set s₁ := optionalMark optional ++ tail with hs₁
      set s₂ := listMark isList ++ s₁ with hs₂
      have hname : readIdentifier (name ++ (gap ++ (token ++ s₂))) =
          some (name, gap ++ (token ++ s₂)) :=
        readIdentifier_eq_some_iff.2 ⟨hn, stops_of_gap hg, rfl⟩
      have hgap : afterBlanks? (gap ++ (token ++ s₂)) = some (token ++ s₂) :=
        afterBlanks?_eq_some_iff.2 ⟨gap, hg, stops_isBlank_of_isIdentifier ht, rfl⟩
      have htoken : readIdentifier (token ++ s₂) = some (token, s₂) :=
        readIdentifier_eq_some_iff.2 ⟨ht, stops_of_listMark ha, rfl⟩
      have hlist : readListSuffix s₂ = (isList, s₁) := readListSuffix_of_tailForm ha
      have hopt : readOptionalMark s₁ = (optional, tail) := readOptionalMark_of_tailForm ha
      have htail := readFieldAttributes_eq_some_iff.2 ha
      simp [readField, hname, hgap, htoken, hlist, hopt, htail, listMark]

theorem form_of_readField {f : Field} (h : readField line = some f) : FieldForm f line := by
  simp only [readField, Option.bind_eq_bind, Option.bind_eq_some_iff, Option.pure_def,
    Option.some.injEq, Prod.exists] at h
  obtain ⟨name, s₁, hname, s₂, hgap, token, s₃, htoken, as, hattr, rfl⟩ := h
  obtain ⟨hn, -, rfl⟩ := readIdentifier_eq_some_iff.1 hname
  obtain ⟨gap, hg, -, rfl⟩ := afterBlanks?_eq_some_iff.1 hgap
  obtain ⟨ht, -, rfl⟩ := readIdentifier_eq_some_iff.1 htoken
  have hlist := listMark_readListSuffix s₃
  have hopt := optionalMark_readOptionalMark (readListSuffix s₃).2
  have hform := FieldForm.intro name gap token (readOptionalMark (readListSuffix s₃).2).2
    (readListSuffix s₃).1 (readOptionalMark (readListSuffix s₃).2).1 as hn hg ht
    (readFieldAttributes_eq_some_iff.1 hattr)
  rw [hopt, hlist] at hform
  exact hform

theorem readField_eq_some_iff {f : Field} : readField line = some f ↔ FieldForm f line :=
  ⟨form_of_readField, readField_of_form⟩

theorem readField_eq_none_iff : readField line = none ↔ ∀ f, ¬ FieldForm f line := by
  rw [Option.eq_none_iff_forall_ne_some]
  simp only [ne_eq, readField_eq_some_iff]

instance : Decidable (HeaderForm line name rest) := decidable_of_iff _ readHeader_eq_some_iff

instance : Decidable (FirstMark id s) := decidable_of_iff _ databaseId?_eq_some_iff

instance : Decidable (HasMark s) :=
  decidable_of_iff ((databaseId? s).isSome = true) (by
    simp only [Option.isSome_iff_exists, databaseId?_eq_some_iff, hasMark_iff])

instance (f : Field) : Decidable (FieldForm f line) := decidable_of_iff _ readField_eq_some_iff

end NotionSchema.LineForm
