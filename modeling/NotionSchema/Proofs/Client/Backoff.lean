import NotionSchema.Proofs.Remote.InMemory
import NotionSchema.Retry
import Mathlib.Algebra.BigOperators.Intervals
import Mathlib.Data.Nat.Find
import Mathlib.Tactic.Ring

namespace NotionSchema

theorem takeWhile_range_spec (P : Nat → Bool) (bound : Nat) :
    ((List.range bound).takeWhile P).length ≤ bound ∧
    (∀ n < ((List.range bound).takeWhile P).length, P n = true) ∧
    (((List.range bound).takeWhile P).length < bound →
      P ((List.range bound).takeWhile P).length = false) := by
  induction bound with
  | zero => simp
  | succ bound ih =>
      obtain ⟨hle, htrue, hfalse⟩ := ih
      rw [List.range_succ, List.takeWhile_append, List.length_range]
      split_ifs with hall
      · rw [hall] at htrue
        cases hP : P bound with
        | false => simp_all
        | true =>
            simp only [List.takeWhile_cons, hP, if_true, List.takeWhile_nil, List.length_append,
              List.length_range, List.length_singleton]
            refine ⟨le_rfl, ?_, fun h => absurd h (lt_irrefl _)⟩
            intro n hn
            rcases Nat.lt_succ_iff_lt_or_eq.1 hn with hn | rfl
            · exact htrue n hn
            · exact hP
      · exact ⟨by omega, htrue, fun _ => hfalse (by omega)⟩

variable {σ α : Type}

def mayPass : Except RemoteError α → Bool
  | .ok _ => false
  | .error e => e.isRetryable

namespace RetryPolicy

/-- All attempts that the policy allows, or one more than the failures at the start that may
pass. -/
def attemptsMade (p : RetryPolicy) (passing : Nat → Bool) : Nat :=
  min p.attempts (((List.range p.attempts).takeWhile passing).length + 1)

theorem attemptsMade_spec (p : RetryPolicy) (passing : Nat → Bool) :
    0 < p.attemptsMade passing ∧ p.attemptsMade passing ≤ p.attempts ∧
    (∀ n, n + 1 < p.attemptsMade passing → passing n = true) ∧
    (p.attemptsMade passing = p.attempts ∨ passing (p.attemptsMade passing - 1) = false) := by
  obtain ⟨hle, htrue, hfalse⟩ := takeWhile_range_spec passing p.attempts
  have hpos : 0 < p.attempts := lt_of_lt_of_le Nat.one_pos (le_max_left 1 p.maxAttempts)
  rw [attemptsMade]
  refine ⟨by omega, min_le_left _ _, ?_, ?_⟩
  · intro n hn
    exact htrue n (by omega)
  · rcases Nat.lt_or_ge ((List.range p.attempts).takeWhile passing).length p.attempts with hlt | hge
    · right
      rw [min_eq_right hlt, Nat.add_sub_cancel]
      exact hfalse hlt
    · left
      exact min_eq_left (by omega)

variable {rate a b : Nat}

theorem spanFits_iff : spanFits rate a = true ↔ a / rate < Nat.pow 2 64 := decide_eq_true_iff

theorem spanFits_of_le (hab : a ≤ b) (h : spanFits rate b = true) : spanFits rate a = true :=
  spanFits_iff.2 (lt_of_le_of_lt (Nat.div_le_div_right hab) (spanFits_iff.1 h))

theorem multiply?_eq (rate span factor : Nat) : multiply? rate span factor =
    if spanFits rate (span * factor) then some (span * factor) else Option.none := by
  have hspan : span * factor = rate * (span / rate * factor) + span % rate * factor := by
    conv_lhs => rw [← Nat.div_add_mod span rate]
    ring
  have hseconds : span * factor / rate = span / rate * factor + span % rate * factor / rate := by
    rcases Nat.eq_zero_or_pos rate with rfl | hrate
    · simp
    · rw [hspan, Nat.mul_add_div hrate]
  have hjoin : (span / rate * factor + span % rate * factor / rate) * rate +
      span % rate * factor % rate = span * factor := by
    rw [← hseconds, ← Nat.mul_add_mod rate (span / rate * factor), ← hspan, Nat.mul_comm]
    exact Nat.div_add_mod (span * factor) rate
  rw [multiply?, hjoin, ← hseconds]
  simp only [spanFits, decide_eq_true_eq]

variable {p : RetryPolicy} {attempt n : Nat}

theorem pauseOn?_eq_some (h : spanFits rate (p.baseDelay * attempt) = true) :
    p.pauseOn? rate attempt = some (p.baseDelay * attempt) := by
  rw [pauseOn?, multiply?_eq, if_pos h]

theorem pauseOn?_eq_none (h : spanFits rate (p.baseDelay * attempt) = false) :
    p.pauseOn? rate attempt = Option.none := by
  rw [pauseOn?, multiply?_eq, h]
  rfl

section

variable (p : RetryPolicy) (rate : Nat) (name : String)
  (operation : Task σ (Except RemoteError α)) (s : Session σ) (left attempt : Nat)

def paused (out : Except RemoteError α × Session σ) : Session σ :=
  let events := match out.1 with
    | .ok _ => []
    | .error e => [p.retrying rate name attempt (p.baseDelay * attempt) e]
  { out.2 with now := out.2.now + p.baseDelay * attempt, log := out.2.log ++ events }

/-- Where the attempts of a run start, the first of which has number zero here. -/
def start : Nat → Session σ
  | 0 => s
  | n + 1 => p.paused rate name (n + 1) (operation.run (start n))

def outcome (n : Nat) : Except RemoteError α := (operation.run (p.start rate name operation s n)).1

variable {operation s}

theorem attemptOn_ends (hend : left = 0 ∨ mayPass (operation.run s).1 = false) :
    (p.attemptOn rate name operation left attempt).run s =
      ((operation.run s).1.mapError .failed, (operation.run s).2) := by
  cases left with
  | zero =>
      rw [attemptOn, Task.run_bind]
      rfl
  | succ left =>
      have hfinal := hend.resolve_left (Nat.succ_ne_zero left)
      rw [attemptOn, Task.run_bind]
      generalize operation.run s = out at hfinal
      obtain ⟨result, s'⟩ := out
      cases result with
      | ok a => rfl
      | error e =>
          have hfinal : e.isRetryable = false := hfinal
          simp only [hfinal]
          rfl

theorem attemptOn_goesOn (hpass : mayPass (operation.run s).1 = true)
    (hfits : spanFits rate (p.baseDelay * attempt) = true) :
    (p.attemptOn rate name operation (left + 1) attempt).run s =
      (p.attemptOn rate name operation left (attempt + 1)).run
        (p.paused rate name attempt (operation.run s)) := by
  rw [attemptOn, Task.run_bind]
  generalize operation.run s = out at hpass
  obtain ⟨result, s'⟩ := out
  cases result with
  | ok a => cases hpass
  | error e =>
      have hpass : e.isRetryable = true := hpass
      simp only [hpass, pauseOn?_eq_some hfits]
      rfl

theorem attemptOn_overflows (hpass : mayPass (operation.run s).1 = true)
    (hlong : spanFits rate (p.baseDelay * attempt) = false) :
    (p.attemptOn rate name operation (left + 1) attempt).run s =
      (.error .pauseOverflow, (operation.run s).2) := by
  rw [attemptOn, Task.run_bind]
  generalize operation.run s = out at hpass
  obtain ⟨result, s'⟩ := out
  cases result with
  | ok a => cases hpass
  | error e =>
      have hpass : e.isRetryable = true := hpass
      simp only [hpass, pauseOn?_eq_none hlong]
      rfl

variable (operation s)

/-- As many attempts may be behind a run as have failed in ways that may pass. -/
theorem attemptOn_repeats (hn : n ≤ left)
    (hpass : ∀ m < n, mayPass (p.outcome rate name operation s m) = true)
    (hfits : ∀ m < n, spanFits rate (p.baseDelay * (m + 1)) = true) :
    (p.attemptOn rate name operation left 1).run s =
      (p.attemptOn rate name operation (left - n) (n + 1)).run
        (p.start rate name operation s n) := by
  induction n with
  | zero => rfl
  | succ n ih =>
      have hleft : left - n = left - (n + 1) + 1 := by omega
      rw [ih (by omega) (fun m hm => hpass m (by omega)) (fun m hm => hfits m (by omega)), hleft]
      exact p.attemptOn_goesOn rate name _ _ (hpass n n.lt_succ_self) (hfits n n.lt_succ_self)

theorem runOn_ends :
    let made := p.attemptsMade fun n => mayPass (p.outcome rate name operation s n)
    spanFits rate (p.baseDelay * (made - 1)) = true →
    (p.runOn rate name operation).run s = ((p.outcome rate name operation s (made - 1)).mapError
      .failed, (operation.run (p.start rate name operation s (made - 1))).2) := by
  intro made hfits
  obtain ⟨hpos, hle, hpass, hend⟩ :=
    p.attemptsMade_spec fun n => mayPass (p.outcome rate name operation s n)
  have hrepeats := p.attemptOn_repeats rate name operation s _ (Nat.sub_le_sub_right hle 1)
    (fun m hm => hpass m (by omega))
    (fun m hm => spanFits_of_le (Nat.mul_le_mul_left _ hm) hfits)
  rw [runOn, hrepeats]
  exact p.attemptOn_ends rate name _ _ (hend.imp_left fun hall => by rw [hall, Nat.sub_self])

theorem runOn_overflows :
    let made := p.attemptsMade fun n => mayPass (p.outcome rate name operation s n)
    spanFits rate (p.baseDelay * (made - 1)) = false →
    ∃ n, n + 1 < made ∧ spanFits rate (p.baseDelay * (n + 1)) = false ∧
      (∀ m ≤ n, spanFits rate (p.baseDelay * m) = true) ∧
      (p.runOn rate name operation).run s =
        (.error .pauseOverflow, (operation.run (p.start rate name operation s n)).2) := by
  intro made hlong
  obtain ⟨-, hle, hpass, -⟩ :=
    p.attemptsMade_spec fun n => mayPass (p.outcome rate name operation s n)
  change made ≤ p.attempts at hle
  change ∀ n, n + 1 < made → _ at hpass
  have hex : ∃ n, spanFits rate (p.baseDelay * n) = false := ⟨_, hlong⟩
  obtain ⟨hlongest, hshort⟩ := (Nat.find_eq_iff hex).1 rfl
  have hmade : Nat.find hex ≤ made - 1 := Nat.find_min' hex hlong
  -- No pause is none that is too long.
  obtain ⟨n, hn⟩ : ∃ n, Nat.find hex = n + 1 := by
    refine Nat.exists_eq_succ_of_ne_zero fun hzero => ?_
    rw [hzero, Nat.mul_zero, spanFits, Nat.zero_div] at hlongest
    cases hlongest
  rw [hn] at hlongest hshort hmade
  have hfits : ∀ m ≤ n, spanFits rate (p.baseDelay * m) = true := fun m hm =>
    Bool.not_eq_false _ ▸ hshort m (Nat.lt_succ_of_le hm)
  refine ⟨n, by omega, hlongest, hfits, ?_⟩
  have hleft : p.attempts - 1 - n = p.attempts - 1 - (n + 1) + 1 := by omega
  rw [runOn, p.attemptOn_repeats rate name operation s _ (by omega) (fun m hm => hpass m (by omega))
    (fun m hm => hfits (m + 1) hm), hleft]
  exact p.attemptOn_overflows rate name _ _ (hpass n (by omega)) hlongest

theorem now_start (takes : Nat → Nat) (htakes : ∀ m < n,
      (operation.run (p.start rate name operation s m)).2.now =
        (p.start rate name operation s m).now + takes m) :
    (p.start rate name operation s n).now =
      s.now + p.baseDelay * ((n + 1) * n / 2) + ∑ m ∈ Finset.range n, takes m := by
  induction n with
  | zero => rfl
  | succ n ih =>
      have hpause : (p.start rate name operation s (n + 1)).now =
          (operation.run (p.start rate name operation s n)).2.now + p.baseDelay * (n + 1) := rfl
      have htriangle : (n + 1 + 1) * (n + 1) / 2 = (n + 1) * n / 2 + (n + 1) :=
        Nat.triangle_succ (n + 1)
      rw [hpause, htakes n n.lt_succ_self, ih fun m hm => htakes m (Nat.lt_succ_of_lt hm),
        Finset.sum_range_succ, htriangle]
      ring

end

/-- Whatever the operation does, the first attempt starts where the run starts, and each further one
at the end of the one before and of a pause, which is one base delay longer each time. As many
attempts are made as the policy allows, or one more than there are failures at the start that may
pass, if these are fewer. If the seconds of the last pause have 64 bits, the run has the result of
the last attempt, ends with it, and has taken the time of the attempts and of the pauses. Otherwise
it ends at the first pause that is too long. -/
theorem run_keeps_to_policy (p : RetryPolicy) (rate : Nat) (name : String)
    (operation : Task σ (Except RemoteError α)) (s : Session σ) :
    let start := p.start rate name operation s
    let attempt := fun n => operation.run (start n)
    let most := max 1 p.maxAttempts
    let k := min most (((List.range most).takeWhile fun n => mayPass (attempt n).1).length + 1)
    let out := (p.runOn rate name operation).run s
    start 0 = s ∧
    (∀ n, (start (n + 1)).peer = (attempt n).2.peer ∧
      (start (n + 1)).now = (attempt n).2.now + p.baseDelay * (n + 1)) ∧
    (p.baseDelay * (k - 1) / rate < 2 ^ 64 →
      out = ((attempt (k - 1)).1.mapError .failed, (attempt (k - 1)).2) ∧
      ∀ takes : Nat → Nat, (∀ n < k, (attempt n).2.now = (start n).now + takes n) →
        out.2.now = s.now + p.baseDelay * (k * (k - 1) / 2) + ∑ n ∈ Finset.range k, takes n) ∧
    (2 ^ 64 ≤ p.baseDelay * (k - 1) / rate →
      ∃ n, n + 1 < k ∧ 2 ^ 64 ≤ p.baseDelay * (n + 1) / rate ∧
        (∀ m ≤ n, p.baseDelay * m / rate < 2 ^ 64) ∧
        out = (.error .pauseOverflow, (attempt n).2)) := by
  intro start attempt most k out
  refine ⟨rfl, fun n => ⟨rfl, rfl⟩, ?_, ?_⟩
  · intro hfits
    have hout : out = ((attempt (k - 1)).1.mapError .failed, (attempt (k - 1)).2) :=
      p.runOn_ends rate name operation s (spanFits_iff.2 hfits)
    refine ⟨hout, fun takes htakes => ?_⟩
    have hk : 0 < k := (p.attemptsMade_spec _).1
    obtain ⟨n, hn⟩ : ∃ n, k = n + 1 := ⟨k - 1, by omega⟩
    rw [hn, Nat.add_sub_cancel] at hout
    have hstart := p.now_start rate name operation s takes (n := n) fun m hm =>
      htakes m (by omega)
    rw [hout, htakes n (by omega), hn, Finset.sum_range_succ, Nat.add_sub_cancel]
    change (start n).now = _ at hstart
    rw [hstart, Nat.add_assoc]
  · intro hlong
    have hlong : spanFits rate (p.baseDelay * (k - 1)) = false :=
      Bool.eq_false_iff.2 fun h => absurd (spanFits_iff.1 h) (Nat.not_lt.2 hlong)
    obtain ⟨n, hn, hpause, hshort, hout⟩ := p.runOn_overflows rate name operation s hlong
    refine ⟨n, hn, ?_, fun m hm => spanFits_iff.1 (hshort m hm), hout⟩
    exact Nat.not_lt.1 fun h => Bool.false_ne_true (hpause.symm.trans (spanFits_iff.2 h))

def flakyOperation : Task (List (Except RemoteError String)) (Except RemoteError String) :=
  fun s => (s.peer.headD (.ok ""), ⟨s.peer.tail, s.now + 7, s.log⟩)

def flakyScript : List (Except RemoteError String) :=
  [.error (.httpStatus 503 "unknown" "busy"), .error (.httpStatus 429 "rate_limited" "slow down"),
    .ok "done", .ok "again"]

/-- The base delay is half a microsecond. -/
theorem flakyOperation_within_policy : ∃ out,
    ((RetryPolicy.mk 5 500).runOn 1000000000 "op" flakyOperation).run ⟨flakyScript, 0, []⟩ = out ∧
    out.1 = .ok "done" ∧ out.2.peer = [.ok "again"] ∧ out.2.now = 3 * 500 + 3 * 7 := by
  obtain ⟨-, -, hends, -⟩ :=
    run_keeps_to_policy ⟨5, 500⟩ 1000000000 "op" flakyOperation ⟨flakyScript, 0, []⟩
  obtain ⟨hout, htime⟩ := hends (by decide +kernel)
  refine ⟨_, rfl, ?_, ?_, htime (fun _ => 7) fun n _ => rfl⟩
  · rw [hout]
    rfl
  · rw [hout]
    rfl

example : ((RetryPolicy.mk 2 100).run "op" flakyOperation).run ⟨flakyScript, 0, []⟩ =
    (.error (.failed (.httpStatus 429 "rate_limited" "slow down")), ⟨[.ok "done", .ok "again"], 114,
      [.warn "op failed (attempt 1/2): HTTP 503 (unknown): busy; retrying in 100ms" []]⟩) := by
  rfl

end RetryPolicy

end NotionSchema
