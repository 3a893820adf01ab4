import NotionSchema.Schema.Resolution
import Mathlib.Data.List.Nodup

namespace NotionSchema.PropertyType

variable {token : String} {attributes others : List Attribute} {s t : PropertyType}
  {verdict : Option PropertyType}

/-- No attribute names a type, and the type token is neither known nor a list nor a tag. -/
structure IsUntyped (token : String) (attributes : List Attribute) : Prop where
  override : ∀ a ∈ attributes, a.name ∉ overrides.map (·.1)
  default : token ∉ tokenDefaults.map (·.1)
  list : isListToken token = false
  tag : ∀ t : PropertyType, t.tag ≠ Text.lower token

theorem ofAttributes?_eq_none_iff :
    ofAttributes? attributes = none ↔ ∀ a ∈ attributes, a.name ∉ overrides.map (·.1) := by
  rw [ofAttributes?, Option.map_eq_none_iff, List.find?_eq_none]
  constructor
  · intro h a ha hname
    obtain ⟨o, ho, he⟩ := List.mem_map.1 hname
    exact h o ho (List.any_eq_true.2 ⟨a, ha, beq_iff_eq.2 he.symm⟩)
  · intro h o ho hany
    obtain ⟨a, ha, he⟩ := List.any_eq_true.1 hany
    exact h a ha (List.mem_map.2 ⟨o, ho, (beq_iff_eq.1 he).symm⟩)

theorem ofTagIgnoringCase?_eq_none_iff :
    ofTagIgnoringCase? token = none ↔ ∀ t : PropertyType, t.tag ≠ Text.lower token := by
  rw [ofTagIgnoringCase?, Option.eq_none_iff_forall_ne_some]
  exact forall_congr' fun t => not_congr ofTag?_eq_some_iff

theorem ofToken?_eq_none_iff : ofToken? token = none ↔
    token ∉ tokenDefaults.map (·.1) ∧ isListToken token = false ∧
      ∀ t : PropertyType, t.tag ≠ Text.lower token := by
  have hdefault : tokenDefaults.lookup token = none ↔ token ∉ tokenDefaults.map (·.1) := by
    rw [List.lookup_eq_none_iff, List.mem_map, not_exists]
    refine forall_congr' fun e => ?_
    rw [not_and, bne_iff_ne, ne_comm]
  rw [ofToken?, ← hdefault]
  cases tokenDefaults.lookup token with
  | some t => simp
  | none =>
      cases isListToken token with
      | true => simp
      | false => simp [ofTagIgnoringCase?_eq_none_iff]

theorem isUntyped_iff : IsUntyped token attributes ↔
    ofAttributes? attributes = none ∧ ofToken? token = none := by
  rw [ofAttributes?_eq_none_iff, ofToken?_eq_none_iff]
  exact ⟨fun h => ⟨h.override, h.default, h.list, h.tag⟩, fun ⟨h₁, h₂, h₃, h₄⟩ => ⟨h₁, h₂, h₃, h₄⟩⟩

instance : Decidable (IsUntyped token attributes) := decidable_of_iff _ isUntyped_iff.symm

theorem log_resolve (token : String) (attributes : List Attribute) :
    (resolve token attributes).log =
      if IsUntyped token attributes then [unknownToken token] else [] := by
  rw [resolve]
  simp only [isUntyped_iff]
  cases ofAttributes? attributes with
  | some t => simp
  | none =>
      cases ofToken? token with
      | some t => simp
      | none => rfl

def attributeName : PropertyType → String
  | title => "title"
  | richText => "richText"
  | number => "number"
  | select => "select"
  | multiSelect => "multiSelect"
  | date => "date"
  | checkbox => "checkbox"
  | url => "url"
  | email => "email"
  | phoneNumber => "phoneNumber"
  | people => "people"
  | relation => "relation"
  | formula => "formula"
  | files => "files"

/-- All types, ordered by the strength of their attributes, the strongest first. -/
def byStrength : List PropertyType :=
  [title, checkbox, date, people, select, multiSelect, relation, formula, richText, number, url,
    email, phoneNumber, files]

def rank (t : PropertyType) : Nat := byStrength.idxOf t

/-- The type is said by one of the attributes, and none says a type of lower rank. -/
structure IsStrongest (attributes : List Attribute) (t : PropertyType) : Prop where
  said : ∃ a ∈ attributes, a.name = t.attributeName
  rank_le : ∀ a ∈ attributes, ∀ s : PropertyType, a.name = s.attributeName → t.rank ≤ s.rank

def Unrecognized (attributes : List Attribute) : Prop :=
  ∀ a ∈ attributes, ∀ t : PropertyType, a.name ≠ t.attributeName

theorem mem_byStrength (t : PropertyType) : t ∈ byStrength := by cases t <;> decide

theorem rank_inj : s.rank = t.rank ↔ s = t := List.idxOf_inj (mem_byStrength s)

theorem overrides_eq : overrides = byStrength.map fun t => (t.attributeName, t) := rfl

theorem ofAttributes?_eq_find? : ofAttributes? attributes =
    byStrength.find? fun t => attributes.any (·.name == t.attributeName) := by
  rw [ofAttributes?, overrides_eq, List.find?_map, Option.map_map]
  exact congrFun Option.map_id _

theorem any_name_iff : attributes.any (·.name == t.attributeName) = true ↔
    ∃ a ∈ attributes, a.name = t.attributeName := by
  simp only [List.any_eq_true, beq_iff_eq]

theorem find?_byStrength_eq_some_iff {p : PropertyType → Bool} :
    byStrength.find? p = some t ↔ p t = true ∧ ∀ s, p s = true → t.rank ≤ s.rank := by
  have hleast {u : PropertyType} (h : byStrength.find? p = some u) :
      p u = true ∧ ∀ s, p s = true → u.rank ≤ s.rank := by
    obtain ⟨hu, stronger, weaker, he, hstronger⟩ := List.find?_eq_some_iff_append.1 h
    have hnot (s : PropertyType) (hs : p s = true) : s ∉ stronger := by
      intro hmem
      simpa [hs] using hstronger s hmem
    refine ⟨hu, ?_⟩
    intro s hs
    rw [rank, rank, he, List.idxOf_append_of_notMem (hnot u hu), List.idxOf_cons_self,
      List.idxOf_append_of_notMem (hnot s hs)]
    exact Nat.add_le_add_left (Nat.zero_le _) _
  constructor
  · exact hleast
  · rintro ⟨ht, hmin⟩
    have hfound : (byStrength.find? p).isSome := List.find?_isSome.2 ⟨t, mem_byStrength t, ht⟩
    obtain ⟨u, hu⟩ := Option.isSome_iff_exists.1 hfound
    obtain ⟨hpu, hle⟩ := hleast hu
    rw [hu, rank_inj.1 (Nat.le_antisymm (hle t ht) (hmin u hpu))]

theorem ofAttributes?_eq_some_iff : ofAttributes? attributes = some t ↔
    IsStrongest attributes t := by
  rw [ofAttributes?_eq_find?, find?_byStrength_eq_some_iff]
  simp only [any_name_iff]
  constructor
  · rintro ⟨hsaid, hle⟩
    exact ⟨hsaid, fun a ha s hs => hle s ⟨a, ha, hs⟩⟩
  · rintro ⟨hsaid, hle⟩
    exact ⟨hsaid, fun s ⟨a, ha, hs⟩ => hle a ha s hs⟩

theorem unrecognized_iff : Unrecognized attributes ↔ ofAttributes? attributes = none := by
  rw [ofAttributes?_eq_none_iff, overrides_eq, Unrecognized]
  simp [mem_byStrength, eq_comm]

theorem resolve_of_isStrongest (h : IsStrongest attributes t) (token : String) :
    resolve token attributes = ⟨t, []⟩ := by
  rw [resolve, ofAttributes?_eq_some_iff.2 h]
  rfl

/-- The tokens that have a type by default. -/
inductive IsDefault : String → PropertyType → Prop
  | string : IsDefault "String" richText
  | boolean : IsDefault "Boolean" checkbox
  | dateTime : IsDefault "DateTime" date
  | json : IsDefault "Json" people
  | strings : IsDefault "String[]" multiSelect

/-- A default comes before the list suffix, and a tag may be written in letters of either case. -/
inductive Says (token : String) : Option PropertyType → Prop
  | default (t : PropertyType) (ht : IsDefault token t) : Says token (some t)
  | list (item : String) (h : token = item ++ "[]") (hd : ∀ t, ¬ IsDefault token t) :
      Says token (some relation)
  | tag (t : PropertyType) (ht : t.tag = Text.lower token) (hd : ∀ t, ¬ IsDefault token t)
      (hl : ∀ item, token ≠ item ++ "[]") : Says token (some t)
  | nothing (ht : ∀ t : PropertyType, t.tag ≠ Text.lower token) (hd : ∀ t, ¬ IsDefault token t)
      (hl : ∀ item, token ≠ item ++ "[]") : Says token none

theorem lookup_tokenDefaults_eq_some_iff :
    tokenDefaults.lookup token = some t ↔ IsDefault token t := by
  constructor
  · intro h
    obtain ⟨before, after, he, -⟩ := List.lookup_eq_some_iff.1 h
    have hmem : (token, t) ∈ tokenDefaults := by simp [he]
    simp only [tokenDefaults, List.mem_cons, Prod.mk.injEq, List.not_mem_nil, or_false] at hmem
    rcases hmem with ⟨rfl, rfl⟩ | ⟨rfl, rfl⟩ | ⟨rfl, rfl⟩ | ⟨rfl, rfl⟩ | ⟨rfl, rfl⟩
    · exact .string
    · exact .boolean
    · exact .dateTime
    · exact .json
    · exact .strings
  · intro h
    cases h <;> decide

theorem lookup_tokenDefaults_eq_none_iff :
    tokenDefaults.lookup token = none ↔ ∀ t, ¬ IsDefault token t := by
  rw [Option.eq_none_iff_forall_ne_some]
  exact forall_congr' fun t => not_congr lookup_tokenDefaults_eq_some_iff

theorem isListToken_iff : isListToken token = true ↔ ∃ item, token = item ++ "[]" := by
  rw [isListToken, List.isSuffixOf_iff_suffix]
  constructor
  · rintro ⟨item, h⟩
    refine ⟨String.ofList item, String.toList_injective ?_⟩
    rw [String.toList_append, String.toList_ofList]
    exact h.symm
  · rintro ⟨item, rfl⟩
    rw [String.toList_append]
    exact ⟨item.toList, rfl⟩

theorem not_isListToken_iff : isListToken token = false ↔ ∀ item, token ≠ item ++ "[]" := by
  rw [← Bool.not_eq_true, isListToken_iff, not_exists]

/-- The rules for tokens leave no gap and do not overlap. -/
theorem says_iff : Says token verdict ↔ ofToken? token = verdict := by
  constructor
  · intro h
    cases h with
    | default t ht => rw [ofToken?, lookup_tokenDefaults_eq_some_iff.2 ht]
    | list item h hd =>
        rw [ofToken?, lookup_tokenDefaults_eq_none_iff.2 hd]
        exact if_pos (isListToken_iff.2 ⟨item, h⟩)
    | tag t ht hd hl =>
        rw [ofToken?, lookup_tokenDefaults_eq_none_iff.2 hd, not_isListToken_iff.2 hl]
        exact ofTag?_eq_some_iff.2 ht
    | nothing ht hd hl =>
        rw [ofToken?, lookup_tokenDefaults_eq_none_iff.2 hd, not_isListToken_iff.2 hl]
        exact ofTagIgnoringCase?_eq_none_iff.2 ht
  · rintro rfl
    rw [ofToken?]
    cases hd : tokenDefaults.lookup token with
    | some t => exact .default t (lookup_tokenDefaults_eq_some_iff.1 hd)
    | none =>
        have hd := lookup_tokenDefaults_eq_none_iff.1 hd
        cases hl : isListToken token with
        | true =>
            obtain ⟨item, h⟩ := isListToken_iff.1 hl
            exact .list item h hd
        | false =>
            have hl := not_isListToken_iff.1 hl
            cases ht : ofTagIgnoringCase? token with
            | some t => exact .tag t (ofTag?_eq_some_iff.1 ht) hd hl
            | none => exact .nothing (ofTagIgnoringCase?_eq_none_iff.1 ht) hd hl

theorem resolve_of_says (h : Unrecognized attributes) (hs : Says token (some t)) :
    resolve token attributes = ⟨t, []⟩ := by
  rw [resolve, unrecognized_iff.1 h, says_iff.1 hs]
  rfl

theorem resolve_of_says_nothing (h : Unrecognized attributes) (hs : Says token none) :
    resolve token attributes = ⟨richText, [unknownToken token]⟩ := by
  rw [resolve, unrecognized_iff.1 h, says_iff.1 hs]
  rfl

theorem ofAttributes?_congr (h : ∀ t, IsStrongest attributes t ↔ IsStrongest others t) :
    ofAttributes? attributes = ofAttributes? others := by
  refine Option.ext fun t => ?_
  rw [ofAttributes?_eq_some_iff, ofAttributes?_eq_some_iff]
  exact h t

theorem ofAttributes?_eq_of_resolve_eq (hs : Says token none)
    (h : resolve token attributes = resolve token others) :
    ofAttributes? attributes = ofAttributes? others := by
  rw [resolve, resolve, says_iff.1 hs] at h
  cases ha : ofAttributes? attributes with
  | some t =>
      cases ho : ofAttributes? others with
      | some u =>
          rw [ha, ho] at h
          exact congrArg some (congrArg Logged.value h)
      | none =>
          rw [ha, ho] at h
          cases congrArg Logged.log h
  | none =>
      cases ho : ofAttributes? others with
      | some u =>
          rw [ha, ho] at h
          cases congrArg Logged.log h
      | none => rfl

def kindAttributes : List Attribute :=
  [⟨"map", some "Kind"⟩, ⟨"files", none⟩, ⟨"multiSelect", some "title"⟩, ⟨"select", none⟩,
    ⟨"multiSelect", none⟩]

def mapAttribute : Attribute := ⟨"map", some "Kind"⟩

end NotionSchema.PropertyType
