import NotionSchema.Proofs.Loading.History

namespace NotionSchema

open Loading

variable {page : String → Except RemoteError Page} {now : Nat} {c c' : RelationCache}
  {ids calls includes : List String} {id : String} {r r' : Record} {h : List Retrieval}

def RecordOf (page : String → Except RemoteError Page) (id : String) (r : Record) : Prop :=
  ∃ p, page id = .ok p ∧ r = (Record.decode p).value

theorem Served.recordOf (hs : Served (retrievals page now ids) now id r) : RecordOf page id r := by
  obtain ⟨x, hx, rfl, -, -, p, hp, hr⟩ := hs
  obtain ⟨id, -, rfl⟩ := List.mem_map.1 hx
  exact ⟨p, hp, hr⟩

theorem Fetched.page_eq_error {e : RemoteError} (hf : Fetched page now c id (.error e) c' calls) :
    page id = .error e := by
  cases hf with
  | failed e _ he => exact he

theorem FetchedAll.succeeds {result : Except RemoteError (List Record)}
    (hf : FetchedAll page now c ids result c' calls) (hp : ∀ id ∈ ids, ∃ p, page id = .ok p) :
    ∃ rs, result = .ok rs := by
  induction hf with
  | nil c => exact ⟨[], rfl⟩
  | stop c c' id rest e calls hf =>
      obtain ⟨p, hp⟩ := hp id List.mem_cons_self
      rw [hf.page_eq_error] at hp
      cases hp
  | cons c c' c'' id rest r result calls calls' _ _ ih =>
      obtain ⟨rs, rfl⟩ := ih fun other hother => hp other (List.mem_cons_of_mem id hother)
      exact ⟨r :: rs, rfl⟩

namespace Query

/-- All pages that the included properties of the record refer to are there. -/
def Reaches (q : Query) (page : String → Except RemoteError Page) (r : Record) : Prop :=
  ∀ id ∈ (q.links r q.includes).value.flatMap (·.2.ids), ∃ p, page id = .ok p

end Query

namespace PropertyValue

variable {P Q : String → Record → Prop} {v w : PropertyValue}

theorem Resolves.imp (hpq : ∀ id r, P id r → Q id r) (hv : v.Resolves P w) : v.Resolves Q w := by
  cases hv with
  | one id r hid h => exact .one id r hid (hpq id r h)
  | many ids rs h => exact .many ids rs (h.imp hpq)
  | keep _ ht hr => exact .keep v ht hr

end PropertyValue

theorem Record.Resolved.imp {P Q : String → Record → Prop} (hpq : ∀ id r, P id r → Q id r)
    (hr : r.Resolved includes P r') : r.Resolved includes Q r' := by
  refine ⟨?_, hr.others, hr.id_eq, hr.createdTime_eq, hr.lastEditedTime_eq⟩
  intro name hname
  have hrel := hr.included name hname
  generalize r.get? name = v, r'.get? name = w at hrel
  cases hrel with
  | some hv => exact .some (hv.imp hpq)
  | none => exact .none

/-- How loading ends when the cache starts with the history: the calls go on with it, the records
are resolved from the longer history, and they are there if the workspace has what they refer to. -/
structure Loaded (q : Query) (page : String → Except RemoteError Page) (now : Nat)
    (h : List Retrieval) (rs : List Record) (result : Except RemoteError (List Record))
    (c' : RelationCache) (calls : List String) : Prop where
  tracks : Tracks c' (h ++ retrievals page now calls) now
  resolved : ∀ loaded, result = .ok loaded → List.Forall₂
    (Record.Resolved q.includes (Served (h ++ retrievals page now calls) now)) rs loaded
  succeeds : (∀ r ∈ rs, q.Reaches page r) → ∃ loaded, result = .ok loaded

theorem loadRelations_loaded (q : Query) (s : Session RecordedWorkspace) (ht : Tracks c h s.now)
    (r : Record) : ∃ result c' s' calls,
      exec (q.loadRelations RecordedWorkspace.service r) c s = ((result, c'), s') ∧
      Asked s s' calls ∧
      Loaded q s.peer.workspace.page s.now h [r] (result.map fun r' => [r']) c' calls := by
  obtain ⟨result, c', s', fetched, calls, he, hf, hs, hv⟩ := loadRelations_fetched q c s r
  obtain ⟨htracks, hserved⟩ := tracks_fetchedAll ht hf
  refine ⟨result, c', s', calls, he, hs, htracks, ?_, ?_⟩
  · intro loaded hloaded
    cases hv with
    | error e => cases hloaded
    | ok rs r' hv =>
        cases hloaded
        obtain ⟨values, hvalues, rfl⟩ := hv
        exact .cons (q.resolved_write r hvalues (hserved rs rfl)) .nil
  · intro hreaches
    obtain ⟨rs, rfl⟩ := hf.succeeds (hreaches r (List.mem_singleton_self r))
    cases hv with
    | ok rs r' _ => exact ⟨[r'], rfl⟩

theorem Loaded.stop {q : Query} {rs : List Record} {e : RemoteError}
    (hl : Loaded q page now h [r] (.error e) c' calls) :
    Loaded q page now h (r :: rs) (.error e) c' calls := by
  refine ⟨hl.tracks, by rintro loaded ⟨⟩, ?_⟩
  intro hreaches
  have hr : ∀ r' ∈ [r], q.Reaches page r' := by
    simpa using hreaches r List.mem_cons_self
  obtain ⟨loaded, hloaded⟩ := hl.succeeds hr
  cases hloaded

theorem Loaded.cons {q : Query} {rs : List Record} {result : Except RemoteError (List Record)}
    {c'' : RelationCache} {calls' : List String} (hl : Loaded q page now h [r] (.ok [r']) c' calls)
    (hl' : Loaded q page now (h ++ retrievals page now calls) rs result c'' calls') :
    Loaded q page now h (r :: rs) (result.map (r' :: ·)) c'' (calls ++ calls') := by
  have hassoc : h ++ retrievals page now calls ++ retrievals page now calls' =
      h ++ retrievals page now (calls ++ calls') := by
    rw [List.append_assoc, retrievals_append]
  refine ⟨?_, ?_, ?_⟩
  · rw [← hassoc]
    exact hl'.tracks
  · intro loaded hloaded
    cases result with
    | error e => cases hloaded
    | ok rs' =>
        cases hloaded
        have hlater := hl'.resolved rs' rfl
        rw [hassoc] at hlater
        cases hl.resolved [r'] rfl with
        | cons hr' _ =>
            -- What served the first record is still in the history when the others are loaded.
            refine .cons (hr'.imp ?_) hlater
            intro id r hserved
            rw [← hassoc]
            exact hserved.append
  · intro hreaches
    obtain ⟨rs', rfl⟩ := hl'.succeeds fun r hr => hreaches r (List.mem_cons_of_mem _ hr)
    exact ⟨r' :: rs', rfl⟩

theorem loadAll_loaded (q : Query) (s : Session RecordedWorkspace) (ht : Tracks c h s.now)
    (rs : List Record) : ∃ result c' s' calls,
      exec (q.loadAll RecordedWorkspace.service rs) c s = ((result, c'), s') ∧ Asked s s' calls ∧
      Loaded q s.peer.workspace.page s.now h rs result c' calls := by
  induction rs generalizing c h s with
  | nil =>
      refine ⟨.ok [], c, s, [], rfl, .refl s, ?_, ?_, fun _ => ⟨[], rfl⟩⟩
      · rw [retrievals, List.map_nil, List.append_nil]
        exact ht
      · rintro loaded ⟨⟩
        exact .nil
  | cons r rs ih =>
      obtain ⟨result, c', s', calls, he, hs, hl⟩ := loadRelations_loaded q s ht r
      rw [Query.loadAll, exec_bind, he]
      cases result with
      | error e => exact ⟨_, _, _, calls, rfl, hs, hl.stop⟩
      | ok r' =>
          have htracks := hl.tracks
          rw [← hs.workspace_eq, ← hs.now_eq] at htracks
          obtain ⟨result', c'', s'', calls', he', hs', hl'⟩ := ih s' htracks
          rw [hs.workspace_eq, hs.now_eq] at hl'
          dsimp only
          rw [exec_bind, he']
          have hcons := hl.cons hl'
          cases result' <;> exact ⟨_, _, _, _, rfl, hs.trans hs', hcons⟩

end NotionSchema
