import NotionSchema.Proofs.Client.Backoff

namespace NotionSchema

variable {σ α : Type}

/-- Whenever it is made, the n-th attempt finds the n-th of the peers and has the n-th result. -/
def Attempts (operation : Task σ (Except RemoteError α)) (results : Nat → Except RemoteError α)
    (peers : Nat → σ) : Prop :=
  ∀ n now log, ∃ now' log',
    operation.run ⟨peers n, now, log⟩ = (results n, ⟨peers (n + 1), now', log'⟩)

namespace RetryPolicy

variable {operation : Task σ (Except RemoteError α)} {results : Nat → Except RemoteError α}
  {peers : Nat → σ}

theorem runOn_start (p : RetryPolicy) (rate : Nat) (name : String)
    (h : Attempts operation results peers) (now : Nat) (log : List LogEvent) (n : Nat) :
    p.outcome rate name operation ⟨peers 0, now, log⟩ n = results n ∧
    (operation.run (p.start rate name operation ⟨peers 0, now, log⟩ n)).2.peer =
      peers (n + 1) := by
  obtain ⟨now₁, log₁, hstart⟩ : ∃ now₁ log₁,
      p.start rate name operation ⟨peers 0, now, log⟩ n = ⟨peers n, now₁, log₁⟩ := by
    induction n with
    | zero => exact ⟨now, log, rfl⟩
    | succ n ih =>
        obtain ⟨now₁, log₁, hstart⟩ := ih
        obtain ⟨now₂, log₂, hrun⟩ := h n now₁ log₁
        rw [start, hstart, hrun]
        exact ⟨_, _, rfl⟩
  obtain ⟨now₂, log₂, hrun⟩ := h n now₁ log₁
  rw [outcome, hstart, hrun]
  exact ⟨rfl, rfl⟩

theorem runOn_decides (p : RetryPolicy) (rate : Nat) (name : String)
    (h : Attempts operation results peers)
    (hfits : spanFits rate (p.baseDelay * (p.attemptsMade (fun n => mayPass (results n)) - 1)) =
      true)
    (now : Nat) (log : List LogEvent) :
    let made := p.attemptsMade fun n => mayPass (results n)
    let out := (p.runOn rate name operation).run ⟨peers 0, now, log⟩
    out.1 = (results (made - 1)).mapError .failed ∧ out.2.peer = peers made := by
  intro made out
  have hresult := fun n => (p.runOn_start rate name h now log n).1
  have hout := p.runOn_ends rate name operation ⟨peers 0, now, log⟩
  simp only [hresult] at hout
  have hout : out = _ := hout hfits
  have hmade : 0 < made := (p.attemptsMade_spec fun n => mayPass (results n)).1
  rw [hout, (p.runOn_start rate name h now log (made - 1)).2, Nat.sub_add_cancel hmade]
  exact ⟨rfl, rfl⟩

theorem runOn_stops (p : RetryPolicy) (rate : Nat) (name : String)
    (h : Attempts operation results peers)
    (hlong : spanFits rate (p.baseDelay * (p.attemptsMade (fun n => mayPass (results n)) - 1)) =
      false)
    (now : Nat) (log : List LogEvent) :
    let out := (p.runOn rate name operation).run ⟨peers 0, now, log⟩
    ∃ n, 0 < n ∧ n < p.attemptsMade (fun n => mayPass (results n)) ∧
      spanFits rate (p.baseDelay * n) = false ∧
      (∀ m < n, spanFits rate (p.baseDelay * m) = true) ∧
      out.1 = .error .pauseOverflow ∧ out.2.peer = peers n := by
  intro out
  have hresult := fun n => (p.runOn_start rate name h now log n).1
  have hout := p.runOn_overflows rate name operation ⟨peers 0, now, log⟩
  simp only [hresult] at hout
  obtain ⟨n, hn, hpause, hshort, hout⟩ := hout hlong
  have hout : out = _ := hout
  rw [hout, (p.runOn_start rate name h now log n).2]
  exact ⟨n + 1, n.succ_pos, hn, hpause, fun m hm => hshort m (Nat.le_of_lt_succ hm), rfl, rfl⟩

end RetryPolicy

end NotionSchema
