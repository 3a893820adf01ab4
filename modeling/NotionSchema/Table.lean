namespace NotionSchema

abbrev Table (α : Type) := List (String × α)

namespace Table

variable {α β : Type}

def get? (t : Table α) (key : String) : Option α := t.lookup key

def contains (t : Table α) (key : String) : Bool := (t.get? key).isSome

def keys (t : Table α) : List String := t.map (·.1)

def insert (t : Table α) (key : String) (value : α) : Table α :=
  match t with
  | [] => [(key, value)]
  | (k, v) :: rest =>
    if key < k then (key, value) :: (k, v) :: rest
    else if key = k then (key, value) :: rest
    else (k, v) :: insert rest key value

def erase (t : Table α) (key : String) : Table α := t.filter (·.1 != key)

/-- Entries are put in one after the other, so the last one for a key stays. -/
def ofList (entries : List (String × α)) : Table α :=
  entries.foldl (fun t e => t.insert e.1 e.2) []

def mapValues (f : α → β) (t : Table α) : Table β := t.map fun e => (e.1, f e.2)

def Ordered (t : Table α) : Prop := t.Pairwise (·.1 < ·.1)

@[simp] theorem get?_nil (key : String) : get? ([] : Table α) key = none := rfl

theorem get?_cons (k : String) (v : α) (rest : Table α) (key : String) :
    get? ((k, v) :: rest) key = if key = k then some v else get? rest key := by
  by_cases h : key = k
  · simp [get?, h]
  · change (match key == k with | true => some v | false => rest.lookup key) = _
    rw [beq_false_of_ne h, if_neg h]
    rfl

@[simp] theorem get?_insert_self (t : Table α) (key : String) (value : α) :
    (t.insert key value).get? key = some value := by
  induction t with
  | nil => simp [insert, get?_cons]
  | cons e rest ih =>
    obtain ⟨k, v⟩ := e
    rw [insert]
    split
    · simp [get?_cons]
    · split <;> simp_all [get?_cons]

theorem get?_insert_of_ne (t : Table α) {key other : String} (h : other ≠ key) (value : α) :
    (t.insert key value).get? other = t.get? other := by
  induction t with
  | nil => simp [insert, get?_cons, h]
  | cons e rest ih =>
    obtain ⟨k, v⟩ := e
    rw [insert]
    split
    · simp [get?_cons, h]
    · split
      · next he => subst he; simp [get?_cons, h]
      · simp [get?_cons, ih]

theorem mem_insert {t : Table α} {key : String} {value : α} {e : String × α}
    (h : e ∈ t.insert key value) : e = (key, value) ∨ e ∈ t := by
  induction t with
  | nil => simpa [insert] using h
  | cons hd rest ih =>
    obtain ⟨k, v⟩ := hd
    rw [insert] at h
    split at h
    · simpa using h
    · split at h <;> grind

theorem ordered_insert {t : Table α} (h : Ordered t) (key : String) (value : α) :
    Ordered (t.insert key value) := by
  induction t with
  | nil => simp [insert, Ordered]
  | cons hd rest ih =>
    obtain ⟨k, v⟩ := hd
    have hrest : Ordered rest := (List.pairwise_cons.1 h).2
    have hhead : ∀ e ∈ rest, k < e.1 := (List.pairwise_cons.1 h).1
    rw [insert]
    split
    · next hlt =>
      refine List.pairwise_cons.2 ⟨?_, h⟩
      intro e he
      rcases List.mem_cons.1 he with rfl | he
      · exact hlt
      · exact String.lt_trans hlt (hhead e he)
    · split
      · next heq =>
        subst heq
        exact List.pairwise_cons.2 ⟨hhead, hrest⟩
      · next hlt hne =>
        refine List.pairwise_cons.2 ⟨?_, ih hrest⟩
        intro e he
        rcases mem_insert he with rfl | he
        · exact Std.lt_of_le_of_ne (Std.not_lt.1 hlt) (Ne.symm hne)
        · exact hhead e he

end Table

end NotionSchema
