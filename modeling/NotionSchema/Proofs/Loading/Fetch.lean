import NotionSchema.Proofs.Loading.Serving
import NotionSchema.Remote.Workspace

namespace NotionSchema

open Loading

/-- All that has changed between the sessions is that the pages were asked for, and the log. -/
structure Asked (s s' : Session RecordedWorkspace) (ids : List String) : Prop where
  now_eq : s'.now = s.now
  workspace_eq : s'.peer.workspace = s.peer.workspace
  calls_eq : s'.peer.calls = s.peer.calls ++ ids.map .retrievePage

namespace Asked

variable {s s' s'' : Session RecordedWorkspace} {ids ids' : List String}

theorem refl (s : Session RecordedWorkspace) : Asked s s [] := ⟨rfl, rfl, by simp⟩

theorem trans (h : Asked s s' ids) (h' : Asked s' s'' ids') : Asked s s'' (ids ++ ids') := by
  refine ⟨h'.now_eq.trans h.now_eq, h'.workspace_eq.trans h.workspace_eq, ?_⟩
  rw [h'.calls_eq, h.calls_eq, List.map_append, List.append_assoc]

end Asked

section

variable (page : String → Except RemoteError Page) (now : Nat)

inductive Fetched (c : RelationCache) (id : String) :
    Except RemoteError Record → RelationCache → List String → Prop
  | hit (r : Record) (h : c.fresh? now id = some r) : Fetched c id (.ok r) c []
  | failed (e : RemoteError) (h : c.fresh? now id = none) (he : page id = .error e) :
      Fetched c id (.error e) c [id]
  | retrieved (p : Page) (h : c.fresh? now id = none) (hp : page id = .ok p) :
      Fetched c id (.ok (Record.decode p).value) (c.store now id (Record.decode p).value) [id]

inductive FetchedAll : RelationCache → List String → Except RemoteError (List Record) →
    RelationCache → List String → Prop
  | nil (c) : FetchedAll c [] (.ok []) c []
  | stop (c c' id rest e calls) (h : Fetched page now c id (.error e) c' calls) :
      FetchedAll c (id :: rest) (.error e) c' calls
  | cons (c c' c'' id rest r result calls calls') (h : Fetched page now c id (.ok r) c' calls)
      (hr : FetchedAll c' rest result c'' calls') :
      FetchedAll c (id :: rest) (result.map (r :: ·)) c'' (calls ++ calls')

end

variable {q : Query} {c c' c₁ : RelationCache} {s s' s₁ : Session RecordedWorkspace}
  {id : String} {ids : List String} {result : Except RemoteError (List Record)}
  {served : List (String × Record)}

theorem FetchStep.fetched {result : Except RemoteError Record}
    (h : FetchStep q RecordedWorkspace.service c s id result c' s') :
    ∃ calls, Fetched s.peer.workspace.page s.now c id result c' calls ∧ Asked s s' calls := by
  cases h with
  | cached r hfresh => exact ⟨[], .hit r hfresh, .refl s⟩
  | failed e s₁ hstale he =>
      obtain ⟨hpage, rfl⟩ := Prod.mk.inj he
      exact ⟨[id], .failed e hstale hpage, ⟨rfl, rfl, rfl⟩⟩
  | retrieved p s₁ hstale hp =>
      obtain ⟨hpage, rfl⟩ := Prod.mk.inj hp
      exact ⟨[id], .retrieved p hstale hpage, ⟨rfl, rfl, rfl⟩⟩

theorem Serves.fetched (h : Serves q RecordedWorkspace.service c s served c₁ s₁)
    (hrest : ∃ calls, FetchedAll s₁.peer.workspace.page s₁.now c₁ ids result c' calls ∧
      Asked s₁ s' calls) :
    ∃ calls, FetchedAll s.peer.workspace.page s.now c (served.map (·.1) ++ ids)
      (result.map (served.map (·.2) ++ ·)) c' calls ∧ Asked s s' calls := by
  induction h with
  | nil c s => cases result <;> exact hrest
  | cons c s id r c₂ s₂ rest c₁ s₁ hstep _ ih =>
      obtain ⟨calls, hf, hs⟩ := hstep.fetched
      obtain ⟨calls', hf', hs'⟩ := ih hrest
      -- The later pages are those of the same workspace at the same time.
      rw [hs.workspace_eq, hs.now_eq] at hf'
      refine ⟨calls ++ calls', ?_, hs.trans hs'⟩
      have hall := FetchedAll.cons _ _ _ id _ r _ _ _ hf hf'
      cases result <;> exact hall

theorem FetchEnds.fetched (h : FetchEnds q RecordedWorkspace.service c s ids c' s' result) :
    ∃ calls, FetchedAll s.peer.workspace.page s.now c ids result c' calls ∧ Asked s s' calls := by
  cases h with
  | served served hids hs =>
      have hall := hs.fetched ⟨[], .nil c', .refl s'⟩
      rw [List.append_nil, hids] at hall
      dsimp only [Except.map] at hall
      rwa [List.append_nil] at hall
  | stopped served id rest hids e c₁ s₁ hs hstep =>
      obtain ⟨calls, hf, hasked⟩ := hstep.fetched
      subst hids
      exact hs.fetched ⟨calls, .stop c₁ c' id rest e calls hf, hasked⟩

theorem loadRelations_fetched (q : Query) (c : RelationCache) (s : Session RecordedWorkspace)
    (r : Record) : ∃ result c' s' fetched calls,
      exec (q.loadRelations RecordedWorkspace.service r) c s = ((result, c'), s') ∧
      FetchedAll s.peer.workspace.page s.now c (q.linkedIds r) fetched c' calls ∧
      Asked s s' calls ∧ Settles (q.Writes r) fetched result := by
  obtain ⟨result, fetched, c', s', he, hends, hv⟩ :=
    q.loadRelations_ends RecordedWorkspace.service c s r
  obtain ⟨calls, hf, hs⟩ := hends.fetched
  exact ⟨result, c', s', fetched, calls, he, hf, ⟨hs.now_eq, hs.workspace_eq, hs.calls_eq⟩, hv⟩

end NotionSchema
