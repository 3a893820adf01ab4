import NotionSchema.Proofs.Loading.Shape
import Mathlib.Data.List.Forall2

namespace NotionSchema

open RelationLink PropertyValue

variable {r : Record} {name : String} {link : RelationLink} {rs : List Record}
  {part : List (String × Record)} {values : List (String × PropertyValue)}

theorem Query.mem_links (q : Query) (r : Record) (names : List String) :
    (name, link) ∈ (q.links r names).value ↔
      name ∈ names ∧ (r.get? name).map PropertyValue.plan = some (.load link) := by
  induction names with
  | nil => simp [links]
  | cons n names ih =>
      rw [links]
      split
      · next l hl =>
          simp only [Logged.value_bind, Logged.value_pure, List.mem_cons, Prod.mk.injEq, ih]
          constructor
          · rintro (⟨rfl, rfl⟩ | ⟨hn, hp⟩)
            · exact ⟨.inl rfl, hl⟩
            · exact ⟨.inr hn, hp⟩
          · rintro ⟨rfl | hn, hp⟩
            · rw [hl] at hp
              cases hp
              exact .inl ⟨rfl, rfl⟩
            · exact .inr ⟨hn, hp⟩
      · next hl =>
          simp only [Logged.value_bind, ih, List.mem_cons]
          constructor
          · rintro ⟨hn, hp⟩
            exact ⟨.inr hn, hp⟩
          · rintro ⟨rfl | hn, hp⟩
            · rw [hl] at hp
              cases hp
            · exact ⟨hn, hp⟩
      · next hl _ =>
          rw [ih, List.mem_cons]
          constructor
          · rintro ⟨hn, hp⟩
            exact ⟨.inr hn, hp⟩
          · rintro ⟨rfl | hn, hp⟩
            · exact absurd hp (hl link)
            · exact ⟨hn, hp⟩

inductive PropertyValue.Resolves (P : String → Record → Prop) : PropertyValue → PropertyValue → Prop
  | one (id : String) (r : Record) (hid : id ≠ "") (h : P id r) : Resolves P (.text id) (.record r)
  | many (ids : List String) (rs : List Record) (h : List.Forall₂ P ids rs) :
      Resolves P (.references ids) (.records rs)
  | keep (v : PropertyValue) (ht : ∀ id, v = .text id → id = "") (hr : ∀ ids, v ≠ .references ids) :
      Resolves P v v

theorem PropertyValue.Fills.resolves {P : String → Record → Prop} {v w : Option PropertyValue}
    (h : Fills v part w) (hp : ∀ x ∈ part, P x.1 x.2) : Option.Rel (Resolves P) v w := by
  cases h with
  | one id r hid => exact .some (.one id r hid (hp _ (List.mem_singleton_self _)))
  | many =>
      refine .some (.many _ _ ?_)
      rw [List.forall₂_map_left_iff, List.forall₂_map_right_iff, List.forall₂_same]
      exact hp
  | keep _ ht hr =>
      cases v with
      | none => exact .none
      | some v =>
          refine .some (.keep v ?_ ?_)
          · rintro id rfl
            exact ht id rfl
          · rintro ids rfl
            exact hr ids rfl

/-- Included properties are resolved, and nothing else of the record is written. -/
structure Record.Resolved (includes : List String) (P : String → Record → Prop) (r r' : Record) :
    Prop where
  included : ∀ name ∈ includes, Option.Rel (PropertyValue.Resolves P) (r.get? name) (r'.get? name)
  others : ∀ name, name ∉ includes → r'.get? name = r.get? name
  id_eq : r'.id = r.id
  createdTime_eq : r'.createdTime = r.createdTime
  lastEditedTime_eq : r'.lastEditedTime = r.lastEditedTime

theorem Query.resolved_write {P : String → Record → Prop} (q : Query) (r : Record)
    (h : ValuesOf (q.links r q.includes).value rs values)
    (hs : List.Forall₂ P ((q.links r q.includes).value.flatMap (·.2.ids)) rs) :
    Record.Resolved q.includes P r (write r values) := by
  obtain ⟨hlength, hzip⟩ := List.forall₂_iff_zip.1 hs
  have hids := List.map_fst_zip (Nat.le_of_eq hlength)
  rw [← List.map_snd_zip (Nat.le_of_eq hlength.symm)] at h
  obtain ⟨parts, hnames, hserved, hshares⟩ := q.exists_shares r q.includes hids h
  have hpart : ∀ x ∈ parts, ∀ y ∈ x.2, P y.1 y.2 := by
    intro x hx y hy
    apply hzip
    rw [← hserved]
    exact List.mem_flatMap_of_mem hx hy
  refine ⟨?_, ?_, rfl, rfl, rfl⟩
  · intro name hname
    rw [← hnames] at hname
    obtain ⟨part, hmem, hfills⟩ := hshares.fills hname
    exact hfills.resolves (hpart _ hmem)
  · intro name hname
    rw [← hnames] at hname
    exact hshares.get?_of_not_mem hname

end NotionSchema
