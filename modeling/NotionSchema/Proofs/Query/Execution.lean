import NotionSchema.Proofs.Loading.Results
import NotionSchema.Proofs.Remote.InMemory
import NotionSchema.Query.Execution

namespace NotionSchema

open Loading

namespace Query

variable (q : Query) (s : Session RecordedWorkspace) {response : QueryResponse}

theorem decodeAll_value (pages : List Page) :
    (decodeAll pages).value = pages.map fun p => (Record.decode p).value := by
  induction pages with
  | nil => rfl
  | cons p pages ih =>
      rw [decodeAll, Logged.value_bind, Logged.value_bind, ih]
      rfl

def answered (response : QueryResponse) : Session RecordedWorkspace :=
  let log := s.log ++ q.compile.log
  ⟨s.peer.note (.queryDatabase q.compile.value), s.now,
    (if q.debug then log ++ [executing q.compile.value] else log) ++
      (decodeAll response.results).log⟩

theorem executePage_answered (h : s.peer.workspace.answer q.compile.value = .ok response) :
    (q.executePage RecordedWorkspace.service).run s =
      let loaded := exec (q.loadAll RecordedWorkspace.service (decodeAll response.results).value) []
        (q.answered s response)
      (loaded.1.1.map fun rs => ⟨rs, response.nextCursor, response.hasMore⟩, loaded.2) := by
  rw [executePage, answered]
  cases q.debug with
  | false | true =>
      simp only [Task.run_bind, Task.run_ofLogged, Task.run_emit, if_true, Bool.false_eq_true,
        if_false, RecordedWorkspace.run_queryDatabase, h]
      rfl

theorem execute_resolved (h : s.peer.workspace.answer q.compile.value = .ok response) :
    ∃ (ids : List String) (result : Except RemoteError (List Record)) (s' : _),
      (q.execute RecordedWorkspace.service).run s = (result, s') ∧
      s'.peer.calls = s.peer.calls ++ .queryDatabase q.compile.value :: ids.map .retrievePage ∧
      (∀ records, result = .ok records → List.Forall₂ (fun p r => Record.Resolved q.includes
        (RecordOf s.peer.workspace.page) (Record.decode p).value r) response.results records) ∧
      ((∀ p ∈ response.results, q.Reaches s.peer.workspace.page (Record.decode p).value) →
        ∃ records, result = .ok records) := by
  obtain ⟨result, c, s', ids, he, hs, hl⟩ := loadAll_loaded q (q.answered s response)
    (.nil _) (decodeAll response.results).value
  change Loaded q s.peer.workspace.page s.now _ _ _ _ _ at hl
  rw [decodeAll_value] at hl
  refine ⟨ids, result, s', ?_, ?_, ?_, ?_⟩
  · rw [execute, StateT.run_bind, executePage_answered q s h, he]
    cases result <;> rfl
  · rw [hs.calls_eq]
    exact List.append_assoc _ _ _
  · intro records hrecords
    have hresolved := hl.resolved records hrecords
    rw [List.forall₂_map_left_iff] at hresolved
    exact hresolved.imp fun p r hr => hr.imp fun id r hserved => hserved.recordOf
  · intro hreaches
    refine hl.succeeds ?_
    intro r hr
    obtain ⟨p, hp, rfl⟩ := List.mem_map.1 hr
    exact hreaches p hp

end Query

end NotionSchema
