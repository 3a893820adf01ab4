import NotionSchema.Proofs.Validation.FirstFailure

namespace NotionSchema

variable {s : Session RecordedWorkspace}

namespace Model

variable {m : Model}

theorem validate_workspace (m : Model) (s : Session RecordedWorkspace) :
    ((m.validate RecordedWorkspace.service).run s).2.peer.workspace = s.peer.workspace := by
  rw [validate]
  cases m.localError? with
  | some e => rfl
  | none =>
      dsimp only
      rw [Task.run_bind, RecordedWorkspace.run_retrieveDatabase]
      cases s.peer.workspace.database m.databaseId <;> rfl

theorem passes_of_validate {report : ModelReport}
    (h : ((m.validate RecordedWorkspace.service).run s).1 = .ok report) :
    ∃ d, s.peer.workspace.database m.databaseId = .ok d ∧ m.Passes d := by
  rw [validate] at h
  cases hl : m.localError? with
  | some e =>
      rw [hl] at h
      cases h
  | none =>
      rw [hl] at h
      dsimp only at h
      rw [Task.run_bind, RecordedWorkspace.run_retrieveDatabase] at h
      cases hd : s.peer.workspace.database m.databaseId with
      | error cause =>
          rw [hd] at h
          cases h
      | ok d =>
          rw [hd] at h
          change (m.check d).value = .ok report at h
          have hchecked := checked_check (localError?_eq_none_iff.1 hl) d
          rw [h] at hchecked
          cases hchecked with
          | passed _ hp => exact ⟨d, rfl, hp⟩

end Model

namespace Schema

theorem passes_of_validateModels {models : List Model} {reports : List ModelReport}
    (h : ((validateModels RecordedWorkspace.service models).run s).1 = .ok reports) :
    ∀ m ∈ models, ∃ d, s.peer.workspace.database m.databaseId = .ok d ∧ m.Passes d := by
  induction models generalizing s reports with
  | nil => simp
  | cons m models ih =>
      rw [validateModels, Task.run_bind] at h
      have hworkspace := m.validate_workspace s
      cases hm : (m.validate RecordedWorkspace.service).run s with
      | mk checked s' =>
          rw [hm] at h hworkspace
          cases checked with
          | error e => cases h
          | ok report =>
              dsimp only at h hworkspace
              rw [Task.run_bind] at h
              cases hrest : (validateModels RecordedWorkspace.service models).run s' with
              | mk rest s'' =>
                  rw [hrest] at h
                  cases rest with
                  | error e => cases h
                  | ok reports' =>
                      have hlater := ih (congrArg Prod.fst hrest)
                      rw [hworkspace] at hlater
                      exact List.forall_mem_cons.2
                        ⟨Model.passes_of_validate (congrArg Prod.fst hm), hlater⟩

theorem passes_of_validate {schema : Schema} {report : SyncReport}
    (h : ((schema.validate RecordedWorkspace.service).run s).1 = .ok report) :
    ∀ m ∈ schema.models, ∃ d, s.peer.workspace.database m.databaseId = .ok d ∧ m.Passes d := by
  rw [validate, Task.run_bind] at h
  cases hv : (validateModels RecordedWorkspace.service schema.models).run s with
  | mk checked s' =>
      rw [hv] at h
      cases checked with
      | error e => cases h
      | ok reports => exact passes_of_validateModels (congrArg Prod.fst hv)

end Schema

end NotionSchema
