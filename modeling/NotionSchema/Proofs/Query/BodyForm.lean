import NotionSchema.Proofs.Query.ExplicitTypes
import NotionSchema.Proofs.Query.Steps
import NotionSchema.Proofs.Query.WireForm

namespace NotionSchema

namespace Operator

def dateNames : List String :=
  ["before", "after", "onOrBefore", "on_or_before", "onOrAfter", "on_or_after"]

/-- Names of the operators that compare with a value, and the keys that these stand under. -/
def keyedNames : List (String × String) :=
  [("equals", "equals"), ("contains", "contains"), ("startsWith", "starts_with"),
    ("starts_with", "starts_with"), ("endsWith", "ends_with"), ("ends_with", "ends_with"),
    ("before", "before"), ("after", "after"), ("onOrBefore", "on_or_before"),
    ("on_or_before", "on_or_before"), ("onOrAfter", "on_or_after"), ("on_or_after", "on_or_after")]

/-- What a condition with this operator and value says below its tag. -/
inductive Asks (value : Json) (name : String) : String → Json → Prop
  | keyed (key : String) (h : (name, key) ∈ keyedNames) : Asks value name key value
  | empty (h : name ∈ ["isEmpty", "is_empty"]) : Asks value name "is_empty" (.bool true)
  | notEmpty (h : name ∈ ["isNotEmpty", "is_not_empty"]) :
      Asks value name "is_not_empty" (.bool true)
  | unknown (h : name ∉ spellings) : Asks value name "equals" value

theorem spelling_cases : ∀ name ∈ spellings,
    (name, (ofName name).recognized.key) ∈ keyedNames ∧ ofName name ∉ [isEmpty, isNotEmpty] ∨
    name ∈ ["isEmpty", "is_empty"] ∧ ofName name = isEmpty ∨
    name ∈ ["isNotEmpty", "is_not_empty"] ∧ ofName name = isNotEmpty := by
  decide

theorem asks_comparison (p name : String) (value : Json) :
    Asks value name (FilterContext.comparison p (ofName name) value).value.1
      (FilterContext.comparison p (ofName name) value).value.2 := by
  rw [FilterContext.value_comparison]
  by_cases h : name ∈ spellings
  · rcases spelling_cases name h with ⟨hkey, hplain⟩ | ⟨hname, he⟩ | ⟨hname, he⟩
    · have hvalue : ¬ (ofName name = isEmpty ∨ ofName name = isNotEmpty) := by simpa using hplain
      rw [if_neg hvalue]
      exact .keyed _ hkey
    · rw [he]
      exact .empty hname
    · rw [he]
      exact .notEmpty hname
  · rw [ofName_of_notMem h]
    exact .unknown h

theorem isDateComparison_ofName_iff (name : String) :
    (ofName name).isDateComparison = true ↔ name ∈ dateNames := by
  by_cases h : name ∈ spellings
  · have hall : ∀ name ∈ spellings, (ofName name).isDateComparison = true ↔ name ∈ dateNames := by
      decide
    exact hall name h
  · have hdates : ∀ name ∈ dateNames, name ∈ spellings := by decide
    rw [ofName_of_notMem h]
    exact iff_of_false Bool.false_ne_true fun hdate => h (hdates name hdate)

end Operator

namespace Query

variable (q : Query) (p : String)

def OnRelation : Prop :=
  q.MentionsRelation p ∨ q.propertyTypes.get? p = some .relation ∨ looksLikeRelation p = true

theorem isRelation_iff : q.filterContext.isRelation p = true ↔ q.OnRelation p := by
  rw [FilterContext.isRelation, Bool.or_eq_true, Bool.or_eq_true, contains_relations_iff,
    beq_iff_eq, or_assoc]
  rfl

inductive TagFor (operator : String) : String → Prop
  | date (h : operator ∈ Operator.dateNames) : TagFor operator "date"
  | declared (h : operator ∉ Operator.dateNames) (t : PropertyType)
      (ht : q.propertyTypes.get? p = some t) (hc : t ∉ [.formula, .people, .files]) :
      TagFor operator t.tag
  | inferred (h : operator ∉ Operator.dateNames)
      (hn : ∀ t, q.propertyTypes.get? p = some t → t ∈ [.formula, .people, .files]) :
      TagFor operator (PropertyType.infer p).tag

theorem hasNoClause_iff (t : PropertyType) :
    FilterContext.hasNoClause t = true ↔ t ∈ [.formula, .people, .files] := by
  cases t <;> decide

theorem tagFor_clauseTag (operator : String) :
    q.TagFor p operator (q.filterContext.clauseTag p (.ofName operator)) := by
  rw [FilterContext.clauseTag]
  by_cases hdate : operator ∈ Operator.dateNames
  · rw [if_pos ((Operator.isDateComparison_ofName_iff operator).2 hdate)]
    exact .date hdate
  · rw [if_neg (mt (Operator.isDateComparison_ofName_iff operator).1 hdate),
      FilterContext.clauseType]
    cases ht : q.filterContext.explicitType? p with
    | none =>
        exact .inferred hdate fun t hs => absurd (ht.symm.trans hs) (Option.some_ne_none t).symm
    | some t =>
        -- An explicit type that has no clauses leaves the tag to the name of the property.
        by_cases hc : FilterContext.hasNoClause t = true
        · dsimp only
          rw [if_pos hc]
          refine .inferred hdate fun t' hs => ?_
          cases ht.symm.trans hs
          exact (hasNoClause_iff t).1 hc
        · dsimp only
          rw [if_neg hc]
          exact .declared hdate t ht (mt (hasNoClause_iff t).2 hc)

inductive CompilesTo : Condition → FilterClause → Prop
  | related (name : String) (steps : List QueryStep) (value : Json)
      (h : QueryStep.firstValue? steps = some value) :
      CompilesTo (.relation name steps) ⟨q.remoteName name, "relation", "contains", value⟩
  | relation (name operator : String) (value : Json) (h : q.OnRelation (q.remoteName name)) :
      CompilesTo (.property name operator value)
        ⟨q.remoteName name, "relation", "contains", value⟩
  | comparison (name operator : String) (value : Json) (h : ¬ q.OnRelation (q.remoteName name))
      (tag key : String) (operand : Json) (ht : q.TagFor (q.remoteName name) operator tag)
      (hk : Operator.Asks value operator key operand) :
      CompilesTo (.property name operator value) ⟨q.remoteName name, tag, key, operand⟩

variable {q} {c : Condition}

theorem compilesTo_clause (hc : c.HasValue) :
    q.CompilesTo c (q.filterContext.clause (q.entryOf c)).value := by
  cases hc with
  | relation name steps value h =>
      rw [entryOf, h]
      exact .related name steps value h
  | property name operator value =>
      cases hr : q.filterContext.isRelation (q.remoteName name) with
      | true =>
          rw [entryOf, FilterContext.clause_of_isRelation hr]
          exact .relation name operator value ((isRelation_iff q _).1 hr)
      | false =>
          rw [entryOf, FilterContext.clause_of_not_isRelation hr]
          have hnot : ¬ q.OnRelation (q.remoteName name) := by
            rw [← isRelation_iff, hr]
            exact Bool.false_ne_true
          exact .comparison name operator value hnot _ _ _ (tagFor_clauseTag q _ operator)
            (Operator.asks_comparison _ operator value)

/-- A condition as it stands in a body. -/
def Renders (q : Query) (c : Condition) (v : Json) : Prop :=
  ∃ clause, q.CompilesTo c clause ∧ clause.IsWrittenAs v

theorem renders_clause (hc : c.HasValue) :
    q.Renders c (q.filterContext.clause (q.entryOf c)).value.toJson := by
  refine ⟨_, compilesTo_clause hc, FilterClause.isWrittenAs_toJson _ ?_⟩
  obtain ⟨t, ht⟩ := q.filterContext.exists_tag (q.entryOf c)
  rw [ht]
  exact PropertyType.tag_ne (by decide) t

end Query

namespace SortEntry

def createdNames : List String := ["createdTime", "Created At", "created_time"]

def editedNames : List String := ["lastEditedTime", "last_edited_time"]

inductive Word : SortDirection → String → Prop
  | ascending : Word .ascending "ascending"
  | descending : Word .descending "descending"

/-- A sort is by a system time if the property has a name of one, and else by the property. -/
inductive IsWrittenAs (e : SortEntry) : Json → Prop
  | created (word : String) (hw : Word e.direction word) (h : e.property ∈ createdNames) :
      IsWrittenAs e
        (.object [("direction", .string word), ("timestamp", .string "created_time")])
  | edited (word : String) (hw : Word e.direction word) (h : e.property ∈ editedNames) :
      IsWrittenAs e
        (.object [("direction", .string word), ("timestamp", .string "last_edited_time")])
  | property (word : String) (hw : Word e.direction word)
      (h : e.property ∉ createdNames ++ editedNames) :
      IsWrittenAs e (.object [("direction", .string word), ("property", .string e.property)])

theorem word_name (d : SortDirection) : Word d d.name := by
  cases d with
  | ascending => exact .ascending
  | descending => exact .descending

theorem systemTime?_of_notMem {s : String} (h : s ∉ createdNames ++ editedNames) :
    systemTime? s = none := by
  unfold systemTime?
  split <;> first | rfl | exact absurd (by decide) h

theorem isWrittenAs_toJson (e : SortEntry) : e.IsWrittenAs e.toJson := by
  have hcreated : ∀ s ∈ createdNames, systemTime? s = some "created_time" := by decide
  have hedited : ∀ s ∈ editedNames, systemTime? s = some "last_edited_time" := by decide
  have hword := word_name e.direction
  rw [toJson]
  by_cases hc : e.property ∈ createdNames
  · rw [hcreated _ hc]
    exact .created _ hword hc
  · by_cases he : e.property ∈ editedNames
    · rw [hedited _ he]
      exact .edited _ hword he
    · have hneither : e.property ∉ createdNames ++ editedNames := by simp [hc, he]
      rw [systemTime?_of_notMem hneither]
      exact .property _ hword hneither

end SortEntry

end NotionSchema
