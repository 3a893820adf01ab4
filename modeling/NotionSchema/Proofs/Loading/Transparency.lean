import NotionSchema.Proofs.Loading.Calls
import NotionSchema.Proofs.Remote.InMemory

namespace NotionSchema

open Loading

section

variable {m : Type → Type} [Monad m] (get : String → m (Except RemoteError Record))

def getAll : List String → m (Except RemoteError (List Record))
  | [] => return .ok []
  | id :: rest => do
    match ← get id with
    | .error e => return .error e
    | .ok r =>
      match ← getAll rest with
      | .error e => return .error e
      | .ok rs => return .ok (r :: rs)

def RelationLink.resolve : RelationLink → m (Except RemoteError PropertyValue)
  | .one id => do return (← get id).map .record
  | .many ids => do return (← getAll get ids).map .records

def resolveAll :
    List (String × RelationLink) → m (Except RemoteError (List (String × PropertyValue)))
  | [] => return .ok []
  | (name, link) :: rest => do
    match ← link.resolve get with
    | .error e => return .error e
    | .ok value =>
      match ← resolveAll rest with
      | .error e => return .error e
      | .ok values => return .ok ((name, value) :: values)

end

namespace Query

variable {σ : Type} (q : Query) (service : Service σ)

def retrieve (id : String) : Task σ (Except RemoteError Record) := do
  match ← service.retrievePage id with
  | .error e =>
    Task.emit (q.pageFailed id e)
    return .error e
  | .ok page => return .ok (← Task.ofLogged (Record.decode page))

def loadUncached (r : Record) : Task σ (Except RemoteError Record) := do
  let links ← Task.ofLogged (q.links r q.includes)
  return (← resolveAll (q.retrieve service) links).map (write r)

theorem run_retrieve (s : Session σ) (id : String) : (q.retrieve service id).run s =
    match (service.retrievePage id).run s with
    | (.error e, s') => (.error e, { s' with log := s'.log ++ [q.pageFailed id e] })
    | (.ok p, s') => (.ok (Record.decode p).value,
        { s' with log := s'.log ++ (Record.decode p).log }) := by
  rw [retrieve, Task.run_bind]
  generalize (service.retrievePage id).run s = out
  obtain ⟨answer, s'⟩ := out
  cases answer <;> rfl

theorem fetchAll_eq (ids : List String) :
    q.fetchAll service ids = getAll (q.fetch service) ids := by
  induction ids with
  | nil => rfl
  | cons id ids ih =>
      rw [getAll, ← ih]
      rfl

theorem follow_eq (link : RelationLink) :
    q.follow service link = link.resolve (q.fetch service) := by
  cases link with
  | one id => rfl
  | many ids =>
      rw [follow, fetchAll_eq]
      rfl

theorem followAll_eq (links : List (String × RelationLink)) :
    q.followAll service links = resolveAll (q.fetch service) links := by
  induction links with
  | nil => rfl
  | cons named links ih =>
      obtain ⟨name, link⟩ := named
      rw [resolveAll, ← ih, ← follow_eq]
      rfl

end Query

structure LoadOutcome where
  error? : Option RemoteError
  record : Record

def LoadOutcome.of (r : Record) : Except RemoteError Record → LoadOutcome
  | .ok r' => ⟨none, r'⟩
  | .error e => ⟨some e, r⟩

/-- The record to load may be one that an earlier load has left. -/
inductive CacheUse
  | load (choose : List LoadOutcome → Record)
  | advance (milliseconds : Nat)

/-- The outcomes of all loads of a sequence, after those that are there already. -/
def CacheUse.runAll {m : Type → Type} [Monad m] (load : Record → m (Except RemoteError Record))
    (wait : Nat → m Unit) : List CacheUse → List LoadOutcome → m (List LoadOutcome)
  | [], outcomes => return outcomes
  | .advance milliseconds :: uses, outcomes => do
    wait milliseconds
    runAll load wait uses outcomes
  | .load choose :: uses, outcomes => do
    let outcome := LoadOutcome.of (choose outcomes) (← load (choose outcomes))
    runAll load wait uses (outcomes ++ [outcome])

variable {α β : Type} {page : String → Except RemoteError Page}

/-- Wherever both start in a workspace with the pages, the computation with a cache gives what the
other one gives. Neither changes the pages, and the cache still holds what they hold. -/
def Simulates (page : String → Except RemoteError Page) (x : Loading RecordedWorkspace α)
    (t : Task RecordedWorkspace α) : Prop :=
  ∀ c s s₀, c.Holds (RecordOf page) → s.peer.workspace.page = page → s₀.peer.workspace.page = page →
    (exec x c s).1.1 = (t.run s₀).1 ∧ (exec x c s).1.2.Holds (RecordOf page) ∧
    (exec x c s).2.peer.workspace.page = page ∧ (t.run s₀).2.peer.workspace.page = page

namespace Simulates

theorem pure (a : α) : Simulates page (Pure.pure a) (Pure.pure a) :=
  fun _ _ _ hc hs hs₀ => ⟨rfl, hc, hs, hs₀⟩

theorem ofLogged (x : Logged α) :
    Simulates page (Loading.ofTask (Task.ofLogged x)) (Task.ofLogged x) :=
  fun _ _ _ hc hs hs₀ => ⟨rfl, hc, hs, hs₀⟩

theorem advance (milliseconds : Nat) :
    Simulates page (Loading.ofTask (Task.advance milliseconds)) (Task.advance milliseconds) :=
  fun _ _ _ hc hs hs₀ => ⟨rfl, hc, hs, hs₀⟩

theorem bind {x : Loading RecordedWorkspace α} {t : Task RecordedWorkspace α}
    {f : α → Loading RecordedWorkspace β} {g : α → Task RecordedWorkspace β}
    (h : Simulates page x t) (hf : ∀ a, Simulates page (f a) (g a)) :
    Simulates page (x >>= f) (t >>= g) := by
  intro c s s₀ hc hs hs₀
  obtain ⟨ha, hc', hs', hs₀'⟩ := h c s s₀ hc hs hs₀
  rw [exec_bind, StateT.run_bind, ha]
  exact hf _ _ _ _ hc' hs' hs₀'

end Simulates

theorem Query.fetch_simulates (q : Query) (id : String) : Simulates page
    (q.fetch RecordedWorkspace.service id) (q.retrieve RecordedWorkspace.service id) := by
  intro c s s₀ hc hs hs₀
  rw [exec_fetch_service, run_retrieve, RecordedWorkspace.run_retrievePage,
    RecordedWorkspace.run_retrievePage, hs, hs₀]
  cases hf : c.fresh? s.now id with
  | some r =>
      obtain ⟨p, hp, rfl⟩ := hc s.now id r hf
      rw [hp]
      exact ⟨rfl, hc, hs, hs₀⟩
  | none =>
      cases hp : page id with
      | error e => exact ⟨rfl, hc, hs, hs₀⟩
      | ok p => exact ⟨rfl, hc.store s.now ⟨p, hp, rfl⟩, hs, hs₀⟩

section

variable {get : String → Loading RecordedWorkspace (Except RemoteError Record)}
  {get₀ : String → Task RecordedWorkspace (Except RemoteError Record)}

theorem getAll_simulates (h : ∀ id, Simulates page (get id) (get₀ id)) (ids : List String) :
    Simulates page (getAll get ids) (getAll get₀ ids) := by
  induction ids with
  | nil => exact .pure _
  | cons id ids ih =>
      refine (h id).bind fun result => ?_
      cases result with
      | error e => exact .pure _
      | ok r =>
          refine ih.bind fun rest => ?_
          cases rest <;> exact .pure _

theorem resolve_simulates (h : ∀ id, Simulates page (get id) (get₀ id)) (link : RelationLink) :
    Simulates page (link.resolve get) (link.resolve get₀) := by
  cases link with
  | one id => exact (h id).bind fun _ => .pure _
  | many ids => exact (getAll_simulates h ids).bind fun _ => .pure _

theorem resolveAll_simulates (h : ∀ id, Simulates page (get id) (get₀ id))
    (links : List (String × RelationLink)) :
    Simulates page (resolveAll get links) (resolveAll get₀ links) := by
  induction links with
  | nil => exact .pure _
  | cons named links ih =>
      refine (resolve_simulates h named.2).bind fun result => ?_
      cases result with
      | error e => exact .pure _
      | ok v =>
          refine ih.bind fun rest => ?_
          cases rest <;> exact .pure _

end

theorem Query.loadRelations_simulates (q : Query) (r : Record) : Simulates page
    (q.loadRelations RecordedWorkspace.service r) (q.loadUncached RecordedWorkspace.service r) := by
  rw [loadRelations, loadUncached]
  refine (Simulates.ofLogged _).bind fun links => ?_
  rw [followAll_eq]
  exact (resolveAll_simulates q.fetch_simulates links).bind fun _ => .pure _

theorem CacheUse.runAll_simulates
    {load : Record → Loading RecordedWorkspace (Except RemoteError Record)}
    {load₀ : Record → Task RecordedWorkspace (Except RemoteError Record)}
    (h : ∀ r, Simulates page (load r) (load₀ r)) (uses : List CacheUse)
    (outcomes : List LoadOutcome) : Simulates page
      (runAll load (fun t => Loading.ofTask (Task.advance t)) uses outcomes)
      (runAll load₀ Task.advance uses outcomes) := by
  induction uses generalizing outcomes with
  | nil => exact .pure _
  | cons use uses ih =>
      cases use with
      | load choose => exact (h (choose outcomes)).bind fun _ => ih _
      | advance milliseconds => exact (Simulates.advance milliseconds).bind fun _ => ih _

namespace Query

/-- Over every sequence of loads and passing time, starting with an empty cache: each load has the
outcome that it has where every page is retrieved each time, be it the error or the record. -/
theorem cache_transparent (q : Query) (s : Session RecordedWorkspace) (uses : List CacheUse) :
    (exec (CacheUse.runAll (q.loadRelations RecordedWorkspace.service)
      (fun t => Loading.ofTask (Task.advance t)) uses []) [] s).1.1 =
      ((CacheUse.runAll (q.loadUncached RecordedWorkspace.service) Task.advance uses []).run
        s).1 := by
  obtain ⟨houtcomes, -⟩ :=
    CacheUse.runAll_simulates q.loadRelations_simulates uses [] [] s s
      (RelationCache.holds_nil _) rfl rfl
  exact houtcomes

end Query

end NotionSchema
