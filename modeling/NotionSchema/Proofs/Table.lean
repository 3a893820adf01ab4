import NotionSchema.Json.Fields
import NotionSchema.Table

namespace NotionSchema.Table

variable {α β : Type}

theorem contains_of_mem {t : Table α} {e : String × α} (h : e ∈ t) : t.contains e.1 = true := by
  rw [contains, get?, List.lookup_isSome_iff]
  exact ⟨e, h, beq_self_eq_true _⟩

theorem get?_insert (t : Table α) (key other : String) (value : α) :
    (t.insert key value).get? other =
      (if key = other then some value else none).or (t.get? other) := by
  by_cases h : key = other
  · rw [if_pos h, h, get?_insert_self, Option.some_or]
  · rw [if_neg h, get?_insert_of_ne t (Ne.symm h), Option.none_or]

theorem get?_mapValues (f : α → β) (t : Table α) (key : String) :
    (t.mapValues f).get? key = (t.get? key).map f := by
  induction t with
  | nil => rfl
  | cons e t ih =>
      change get? ((e.1, f e.2) :: mapValues f t) key = (get? ((e.1, e.2) :: t) key).map f
      rw [get?_cons, get?_cons, ih]
      split <;> rfl

theorem keys_mapValues (f : α → β) (t : Table α) : (t.mapValues f).keys = t.keys := by
  rw [keys, mapValues, List.map_map]
  rfl

@[simp] theorem mapValues_id (t : Table α) : t.mapValues id = t := List.map_id t

theorem get?_reverse {t : Table α} (h : t.keys.Nodup) (key : String) :
    t.reverse.lookup key = t.get? key := by
  induction t with
  | nil => rfl
  | cons e t ih =>
      obtain ⟨k, v⟩ := e
      obtain ⟨hnew, hrest⟩ := List.nodup_cons.1 h
      rw [List.reverse_cons, List.lookup_append, ih hrest, get?_cons]
      change (get? t key).or (get? [(k, v)] key) = _
      rw [get?_cons]
      by_cases hkey : key = k
      · have hnone : get? t key = none := by
          refine List.lookup_eq_none_iff.2 fun e he => ?_
          have hne : key ≠ e.1 := by
            intro heq
            exact hnew (List.mem_map.2 ⟨e, he, heq.symm.trans hkey⟩)
          simpa using hne
        rw [hnone, if_pos hkey, if_pos hkey, Option.none_or]
      · rw [if_neg hkey, if_neg hkey, get?_nil, Option.or_none]

theorem get?_foldl_insert (entries : List (String × α)) (t : Table α) (key : String) :
    (entries.foldl (fun t e => t.insert e.1 e.2) t).get? key =
      (entries.reverse.lookup key).or (t.get? key) := by
  induction entries generalizing t with
  | nil => rfl
  | cons e entries ih =>
      obtain ⟨k, v⟩ := e
      rw [List.foldl_cons, ih, List.reverse_cons, List.lookup_append]
      cases entries.reverse.lookup key with
      | some w => rfl
      | none =>
          change (insert t k v).get? key = (get? [(k, v)] key).or (t.get? key)
          rw [get?_cons]
          by_cases h : key = k
          · rw [h, get?_insert_self, if_pos rfl]
            rfl
          · rw [get?_insert_of_ne t h, if_neg h]
            rfl

theorem get?_ofList (entries : List (String × α)) (key : String) :
    (ofList entries).get? key = entries.reverse.lookup key := by
  rw [ofList, get?_foldl_insert, get?_nil, Option.or_none]

theorem nodup_keys {t : Table α} (h : t.Ordered) : t.keys.Nodup := by
  refine List.pairwise_map.2 (h.imp ?_)
  intro a b hlt he
  rw [he] at hlt
  exact String.lt_irrefl _ hlt

theorem ordered_foldl_insert (entries : List (String × α)) {t : Table α} (h : t.Ordered) :
    Ordered (entries.foldl (fun t e => t.insert e.1 e.2) t) := by
  induction entries generalizing t with
  | nil => exact h
  | cons e entries ih => exact ih (ordered_insert h e.1 e.2)

theorem ordered_mapValues {t : Table α} (h : t.Ordered) (f : α → β) : (t.mapValues f).Ordered :=
  List.pairwise_map.2 h

theorem ordered_ofList (entries : List (String × α)) : (ofList entries).Ordered :=
  ordered_foldl_insert entries .nil

theorem exists_insert_eq {t : Table α} {key : String} (h : key ∉ t.keys) (value : α) :
    ∃ front back, t = front ++ back ∧ t.insert key value = front ++ (key, value) :: back := by
  induction t with
  | nil => exact ⟨[], [], rfl, rfl⟩
  | cons e t ih =>
      obtain ⟨k, v⟩ := e
      obtain ⟨hne, ht⟩ : key ≠ k ∧ key ∉ keys t := by
        simpa [keys] using h
      rw [insert]
      by_cases hlt : key < k
      · rw [if_pos hlt]
        exact ⟨[], (k, v) :: t, rfl, rfl⟩
      · obtain ⟨front, back, hsplit, hinsert⟩ := ih ht
        rw [if_neg hlt, if_neg hne, hinsert, hsplit]
        exact ⟨(k, v) :: front, back, rfl, rfl⟩

theorem insert_of_above {t : Table α} {key : String} (h : ∀ e ∈ t, e.1 < key) (value : α) :
    t.insert key value = t ++ [(key, value)] := by
  induction t with
  | nil => rfl
  | cons e t ih =>
      obtain ⟨k, v⟩ := e
      obtain ⟨hlt, hrest⟩ := List.forall_mem_cons.1 h
      have hnot : ¬ key < k := String.lt_asymm hlt
      have hne : key ≠ k := by
        rintro rfl
        exact String.lt_irrefl _ hlt
      rw [insert, if_neg hnot, if_neg hne, ih hrest, List.cons_append]

theorem foldl_insert_of_ordered {front t : Table α} (h : Ordered (front ++ t)) :
    t.foldl (fun t e => t.insert e.1 e.2) front = front ++ t := by
  induction t generalizing front with
  | nil => exact (List.append_nil front).symm
  | cons e t ih =>
      have habove : ∀ e' ∈ front, e'.1 < e.1 := fun e' he' =>
        (List.pairwise_append.1 h).2.2 e' he' e List.mem_cons_self
      rw [List.append_cons] at h ⊢
      rw [List.foldl_cons, insert_of_above habove, ih h]

theorem ofList_eq_self {t : Table α} (h : t.Ordered) : ofList t = t := by
  have hordered : Ordered ([] ++ t) := h
  exact foldl_insert_of_ordered hordered

theorem mem_foldl_insert {entries : List (String × α)} {t : Table α} {e : String × α}
    (h : e ∈ entries.foldl (fun t e => t.insert e.1 e.2) t) : e ∈ t ∨ e ∈ entries := by
  induction entries generalizing t with
  | nil => exact .inl h
  | cons e' entries ih =>
      rcases ih h with hmem | hmem
      · rcases mem_insert hmem with rfl | hmem
        · exact .inr List.mem_cons_self
        · exact .inl hmem
      · exact .inr (List.mem_cons_of_mem e' hmem)

theorem mem_ofList {entries : List (String × α)} {e : String × α} (h : e ∈ ofList entries) :
    e ∈ entries :=
  (mem_foldl_insert h).resolve_left List.not_mem_nil

theorem mem_keys_iff {t : Table α} {key : String} : key ∈ t.keys ↔ (t.get? key).isSome = true := by
  simp only [get?, List.lookup_isSome_iff, keys, List.mem_map, beq_iff_eq, eq_comm (a := key)]

theorem mem_keys_ofList {entries : List (String × α)} {key : String} :
    key ∈ (ofList entries).keys ↔ key ∈ entries.map (·.1) := by
  simp only [mem_keys_iff, get?_ofList, List.lookup_isSome_iff, List.mem_reverse, List.mem_map,
    beq_iff_eq, eq_comm (a := key)]

theorem get?_of_mem {t : Table α} (h : t.keys.Nodup) {e : String × α} (he : e ∈ t) :
    t.get? e.1 = some e.2 := by
  induction t with
  | nil => cases he
  | cons e' t ih =>
      obtain ⟨hnew, hrest⟩ := List.nodup_cons.1 h
      change get? ((e'.1, e'.2) :: t) e.1 = _
      rw [get?_cons]
      rcases List.mem_cons.1 he with rfl | he
      · rw [if_pos rfl]
      · have hne : e.1 ≠ e'.1 := fun heq => hnew (List.mem_map.2 ⟨e, he, heq⟩)
        rw [if_neg hne, ih hrest he]

theorem filter_insert {p : String × α → Bool} {key : String} (h : ∀ value, p (key, value) = false)
    (t : Table α) (value : α) : (t.insert key value).filter p = t.filter p := by
  induction t with
  | nil => simp [insert, h]
  | cons e t ih =>
      obtain ⟨k, v⟩ := e
      rw [insert]
      split
      · rw [List.filter_cons, h, if_neg Bool.false_ne_true]
      · split
        · next hkey =>
          subst hkey
          simp [h]
        · rw [List.filter_cons, List.filter_cons, ih]

theorem get?_filter {p : String → Bool} {key : String} (h : p key = true) (t : Table α) :
    get? (t.filter (p ·.1)) key = t.get? key := by
  induction t with
  | nil => rfl
  | cons e t ih =>
      obtain ⟨k, v⟩ := e
      rw [List.filter_cons, get?_cons]
      split
      · rw [get?_cons, ih]
      · next hk =>
        have hne : key ≠ k := by
          rintro rfl
          exact hk h
        rw [ih, if_neg hne]

end NotionSchema.Table

namespace NotionSchema.Json

theorem ordered_of_tableOf? {α : Type} {read : Json → Option α} {field : Option Json}
    {t : Table α} (h : withDefault [] (tableOf? read) field = some t) : t.Ordered := by
  cases field with
  | none =>
      cases h
      exact .nil
  | some v =>
      obtain ⟨members, -, h⟩ := Option.bind_eq_some_iff.1 h
      obtain ⟨entries, -, h⟩ := Option.bind_eq_some_iff.1 h
      cases h
      exact Table.ordered_ofList entries

end NotionSchema.Json
