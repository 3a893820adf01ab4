import NotionSchema.Proofs.Loading.Results
import NotionSchema.Proofs.Remote.Transcript

namespace NotionSchema

open Loading RelationLink

variable {σ α β ε : Type}

namespace RelationCache

variable {c : RelationCache} {now : Nat} {id other : String}

def Knows (c : RelationCache) (now : Nat) (id : String) : Prop := (c.fresh? now id).isSome = true

theorem knows_of_fresh? {r : Record} (h : c.fresh? now id = some r) : c.Knows now id := by
  rw [Knows, h]
  rfl

theorem not_knows_of_fresh? (h : c.fresh? now id = none) : ¬ c.Knows now id := by
  rw [Knows, h]
  exact Bool.false_ne_true

theorem not_knows_nil (now : Nat) (id : String) : ¬ Knows [] now id := not_knows_of_fresh? rfl

theorem fresh?_store_self (c : RelationCache) (now : Nat) (id : String) (r : Record) :
    (c.store now id r).fresh? now id = some r := by
  have hlt : now - now < lifetime := by
    rw [Nat.sub_self]
    decide
  rw [fresh?, store, Table.get?_insert_self]
  exact if_pos hlt

theorem fresh?_store_of_ne (c : RelationCache) (now later : Nat) (r : Record) (h : other ≠ id) :
    (c.store now id r).fresh? later other = c.fresh? later other := by
  rw [fresh?, fresh?, store, Table.get?_insert_of_ne c h]

theorem eq_of_fresh?_store {later : Nat} {r r' : Record}
    (h : (c.store now id r).fresh? later id = some r') : r' = r := by
  rw [fresh?, store, Table.get?_insert_self] at h
  dsimp only at h
  split_ifs at h
  exact (Option.some.inj h).symm

def Holds (P : String → Record → Prop) (c : RelationCache) : Prop :=
  ∀ now id r, c.fresh? now id = some r → P id r

theorem holds_nil (P : String → Record → Prop) : Holds P [] := by
  rintro now id r ⟨⟩

theorem Holds.imp {P Q : String → Record → Prop} (h : c.Holds P) (hpq : ∀ id r, P id r → Q id r) :
    c.Holds Q := fun now id r hr => hpq id r (h now id r hr)

theorem Holds.store {P : String → Record → Prop} {r : Record} (h : c.Holds P) (now : Nat)
    (hr : P id r) : (c.store now id r).Holds P := by
  intro later other r' hr'
  by_cases hid : other = id
  · subst hid
    rw [eq_of_fresh?_store hr']
    exact hr
  · rw [fresh?_store_of_ne c now later r hid] at hr'
    exact h later other r' hr'

theorem knows_store_iff (c : RelationCache) (now : Nat) (id other : String) (r : Record) :
    (c.store now id r).Knows now other ↔ other = id ∨ c.Knows now other := by
  by_cases h : other = id
  · rw [h, Knows, fresh?_store_self]
    simp
  · rw [Knows, fresh?_store_of_ne c now now r h]
    simp [Knows, h]

end RelationCache

open RelationCache

variable {now : Nat} {c c' c'' : RelationCache} {ids ids' asked asked' : List String}
  {id : String} {r : Record} {rs rs' : List Record}

/-- At one time, the pages are asked for that are not known, and all of them are known then. -/
structure Asks (c c' : RelationCache) (now : Nat) (ids asked : List String) : Prop where
  nodup : asked.Nodup
  mem_iff : ∀ id, id ∈ asked ↔ id ∈ ids ∧ ¬ c.Knows now id
  knows_iff : ∀ id, c'.Knows now id ↔ id ∈ ids ∨ c.Knows now id

namespace Asks

theorem nil (c : RelationCache) (now : Nat) : Asks c c now [] [] := ⟨.nil, by simp, by simp⟩

theorem hit (h : c.Knows now id) : Asks c c now [id] [] := by
  refine ⟨.nil, ?_, ?_⟩
  · intro other
    simp only [List.not_mem_nil, List.mem_singleton, false_iff, not_and, not_not]
    rintro rfl
    exact h
  · intro other
    simp only [List.mem_singleton, iff_or_self]
    rintro rfl
    exact h

theorem store (r : Record) (h : ¬ c.Knows now id) :
    Asks c (c.store now id r) now [id] [id] := by
  refine ⟨List.pairwise_singleton _ id, ?_, ?_⟩
  · intro other
    simp only [List.mem_singleton, iff_self_and]
    rintro rfl
    exact h
  · intro other
    rw [knows_store_iff, List.mem_singleton]

theorem append (h : Asks c c' now ids asked) (h' : Asks c' c'' now ids' asked') :
    Asks c c'' now (ids ++ ids') (asked ++ asked') := by
  refine ⟨List.nodup_append.2 ⟨h.nodup, h'.nodup, ?_⟩, ?_, ?_⟩
  · -- What was asked for first is known when the others are asked for.
    rintro id hid _ hid' rfl
    have hunknown := ((h'.mem_iff id).1 hid').2
    exact hunknown ((h.knows_iff id).2 (.inl ((h.mem_iff id).1 hid).1))
  · intro id
    rw [List.mem_append, List.mem_append, h.mem_iff, h'.mem_iff, h.knows_iff]
    tauto
  · intro id
    rw [h'.knows_iff, h.knows_iff, List.mem_append]
    tauto

end Asks

def DecodedFrom (retrieved : List (String × Page)) (id : String) (r : Record) : Prop :=
  ∃ p, (id, p) ∈ retrieved ∧ r = (Record.decode p).value

def Service.Instant (service : Service σ) : Prop :=
  ∀ id s, ((service.retrievePage id).run s).2.now = s.now

theorem RecordedWorkspace.service_instant : service.Instant := fun _ _ => rfl

theorem Service.Instant.transcribed {service : Service σ} (h : service.Instant) :
    service.transcribed.Instant := fun id s => h id s.plain

variable {service : Service σ} {seen retrieved retrieved' : List (String × Page)}
  {s s' s'' : Session (σ × List Exchange)} {q : Query} {served : List (String × Record)}

theorem DecodedFrom.append_right (h : DecodedFrom seen id r) :
    DecodedFrom (seen ++ retrieved) id r :=
  let ⟨p, hp, hr⟩ := h
  ⟨p, List.mem_append_left _ hp, hr⟩

theorem DecodedFrom.self (seen : List (String × Page)) (id : String) (p : Page) :
    DecodedFrom (seen ++ [(id, p)]) id (Record.decode p).value := ⟨p, by simp, rfl⟩

/-- A load has got the records of the ids, given what was retrieved before. -/
structure Took (service : Service σ) (seen : List (String × Page)) (c : RelationCache)
    (s : Session (σ × List Exchange)) (ids : List String) (rs : List Record) (c' : RelationCache)
    (s' : Session (σ × List Exchange)) (retrieved : List (String × Page)) : Prop where
  transcript_eq : s'.transcript = s.transcript ++ retrieved.map fun e => .page e.1 (.ok e.2)
  linked : ∀ e ∈ retrieved, e.1 ∈ ids
  served : List.Forall₂ (DecodedFrom (seen ++ retrieved)) ids rs
  held : c'.Holds (DecodedFrom (seen ++ retrieved))
  asks : service.Instant → s'.now = s.now ∧ Asks c c' s.now ids (retrieved.map (·.1))

theorem Took.nil (hc : c.Holds (DecodedFrom seen)) : Took service seen c s [] [] c s [] := by
  refine ⟨(List.append_nil _).symm, by simp, .nil, ?_, fun _ => ⟨rfl, .nil c s.now⟩⟩
  rw [List.append_nil]
  exact hc

theorem Took.append (h : Took service seen c s ids rs c' s' retrieved)
    (h' : Took service (seen ++ retrieved) c' s' ids' rs' c'' s'' retrieved') :
    Took service seen c s (ids ++ ids') (rs ++ rs') c'' s'' (retrieved ++ retrieved') := by
  refine ⟨?_, ?_, ?_, ?_, ?_⟩
  · rw [h'.transcript_eq, h.transcript_eq, List.map_append, List.append_assoc]
  · intro e he
    rcases List.mem_append.1 he with he | he
    · exact List.mem_append_left _ (h.linked e he)
    · exact List.mem_append_right _ (h'.linked e he)
  · rw [← List.append_assoc]
    exact List.rel_append (h.served.imp fun id r hr => hr.append_right) h'.served
  · rw [← List.append_assoc]
    exact h'.held
  · intro hinstant
    obtain ⟨hnow, hasks⟩ := h.asks hinstant
    obtain ⟨hnow', hasks'⟩ := h'.asks hinstant
    rw [hnow] at hasks'
    rw [List.map_append]
    exact ⟨hnow'.trans hnow, hasks.append hasks'⟩

namespace Loading

theorem exec_try {x : Loading σ (Except ε α)} {f : Except ε α → Loading σ (Except ε β)} {b : β}
    {s s' : Session σ} (h : exec (x >>= f) c s = ((.ok b, c'), s'))
    (hf : ∀ e, f (.error e) = pure (.error e)) :
    ∃ a c₁ s₁, exec x c s = ((.ok a, c₁), s₁) ∧ exec (f (.ok a)) c₁ s₁ = ((.ok b, c'), s') := by
  rw [exec_bind] at h
  generalize exec x c s = out at h
  obtain ⟨⟨result, c₁⟩, s₁⟩ := out
  cases result with
  | error e =>
      dsimp only at h
      rw [hf] at h
      cases h
  | ok a => exact ⟨a, c₁, s₁, rfl, h⟩

end Loading

theorem FetchStep.took (hc : c.Holds (DecodedFrom seen))
    (h : FetchStep q service.transcribed c s id (.ok r) c' s') :
    ∃ retrieved, Took service seen c s [id] [r] c' s' retrieved := by
  cases h with
  | cached _ hf =>
      refine ⟨[], (List.append_nil _).symm, by simp, ?_, ?_, ?_⟩
      · exact .cons (hc s.now id r hf).append_right .nil
      · rw [List.append_nil]
        exact hc
      · exact fun _ => ⟨rfl, .hit (knows_of_fresh? hf)⟩
  | retrieved p s₁ hstale hp =>
      have hnoted := service.transcript_of_retrievePage s hp
      refine ⟨[(id, p)], hnoted, by simp, .cons (.self seen id p) .nil, ?_, ?_⟩
      · exact (hc.imp fun _ _ hr => hr.append_right).store _ (.self seen id p)
      · intro hinstant
        have hnow := hinstant.transcribed id s
        rw [hp] at hnow
        refine ⟨hnow, ?_⟩
        dsimp only at hnow ⊢
        rw [hnow]
        exact .store _ (not_knows_of_fresh? hstale)

theorem Serves.took (hc : c.Holds (DecodedFrom seen))
    (h : Serves q service.transcribed c s served c' s') : ∃ retrieved,
      Took service seen c s (served.map (·.1)) (served.map (·.2)) c' s' retrieved := by
  induction h generalizing seen with
  | nil => exact ⟨[], .nil hc⟩
  | cons c s id r c₁ s₁ rest c' s' hstep _ ih =>
      obtain ⟨retrieved, htook⟩ := hstep.took hc
      obtain ⟨retrieved', htook'⟩ := ih htook.held
      exact ⟨_, htook.append htook'⟩

namespace Query

theorem loadRelations_took {r' : Record} (hc : c.Holds (DecodedFrom seen))
    (h : exec (q.loadRelations service.transcribed r) c s = ((.ok r', c'), s')) :
    ∃ rs retrieved, Took service seen c s (q.linkedIds r) rs c' s' retrieved ∧
      Record.Resolved q.includes (DecodedFrom (seen ++ retrieved)) r r' := by
  obtain ⟨result, fetched, c'', s'', he, hends, hv⟩ :=
    q.loadRelations_ends service.transcribed c s r
  rw [he] at h
  cases h
  cases hv with
  | ok rs _ hvalues =>
      obtain ⟨values, hvalues, rfl⟩ := hvalues
      cases hends with
      | served served hids hs =>
          obtain ⟨retrieved, htook⟩ := hs.took hc
          rw [hids] at htook
          refine ⟨served.map (·.2), retrieved, ?_, q.resolved_write r hvalues htook.served⟩
          exact ⟨htook.transcript_eq, htook.linked, htook.served, htook.held, htook.asks⟩

theorem loadAll_took {loaded : List Record} (hc : c.Holds (DecodedFrom seen))
    (h : exec (q.loadAll service.transcribed rs) c s = ((.ok loaded, c'), s')) :
    ∃ related retrieved, Took service seen c s (rs.flatMap q.linkedIds) related c' s' retrieved ∧
      List.Forall₂ (Record.Resolved q.includes (DecodedFrom (seen ++ retrieved))) rs loaded := by
  induction rs generalizing seen c s loaded with
  | nil =>
      cases h
      exact ⟨[], [], .nil hc, .nil⟩
  | cons r rs ih =>
      rw [loadAll] at h
      obtain ⟨r', c₁, s₁, hfirst, h⟩ := exec_try h fun _ => rfl
      obtain ⟨loaded', c₂, s₂, hrest, h⟩ := exec_try h fun _ => rfl
      cases h
      obtain ⟨related, retrieved, htook, hr⟩ := loadRelations_took hc hfirst
      obtain ⟨related', retrieved', htook', hrs⟩ := ih htook.held hrest
      refine ⟨_, _, htook.append htook', ?_⟩
      rw [← List.append_assoc]
      exact .cons (hr.imp fun id x hx => hx.append_right) hrs

end Query

end NotionSchema
