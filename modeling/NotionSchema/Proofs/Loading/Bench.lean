import NotionSchema.Proofs.Loading.Results

namespace NotionSchema

open Loading

structure Bench where
  session : Session RecordedWorkspace
  cache : RelationCache
  history : List Retrieval

inductive BenchEvent
  | load (r : Record)
  | advance (milliseconds : Nat)
  | setPage (id : String) (page : Except RemoteError Page)

namespace Bench

def start (s : Session RecordedWorkspace) : Bench := ⟨s, [], []⟩

def load (q : Query) (b : Bench) (r : Record) :
    (Except RemoteError Record × RelationCache) × Session RecordedWorkspace :=
  exec (q.loadRelations RecordedWorkspace.service r) b.cache b.session

def retrieval? (s : Session RecordedWorkspace) : Call → Option Retrieval
  | .retrievePage id => some ⟨id, s.now, s.peer.workspace.page id⟩
  | _ => none

def step (q : Query) (b : Bench) : BenchEvent → Bench
  | .load r =>
    let ((_, cache), session) := b.load q r
    let calls := session.peer.calls.drop b.session.peer.calls.length
    ⟨session, cache, b.history ++ calls.filterMap (retrieval? b.session)⟩
  | .advance milliseconds => { b with session := (Task.advance milliseconds).run b.session |>.2 }
  | .setPage id page =>
    let workspace := b.session.peer.workspace.setPage id page
    { b with session := { b.session with peer := { b.session.peer with workspace := workspace } } }

def run (q : Query) (b : Bench) (events : List BenchEvent) : Bench := events.foldl (step q) b

/-- The history is that of the cache, and no other call was made. -/
structure Sound (noted : List Call) (b : Bench) : Prop where
  tracks : Tracks b.cache b.history b.session.now
  calls_eq : b.session.peer.calls = noted ++ b.history.map fun x => .retrievePage x.id

variable {q : Query} {b : Bench} {noted : List Call} {r r' : Record}

theorem filterMap_retrieval? (s : Session RecordedWorkspace) (ids : List String) :
    (ids.map Call.retrievePage).filterMap (retrieval? s) =
      retrievals s.peer.workspace.page s.now ids := by
  rw [List.filterMap_map, retrievals, ← List.filterMap_eq_map]
  rfl

theorem map_retrievals (page : String → Except RemoteError Page) (now : Nat) (ids : List String) :
    ((retrievals page now ids).map fun x => Call.retrievePage x.id) = ids.map .retrievePage := by
  rw [retrievals, List.map_map]
  rfl

theorem Sound.load_loaded (h : b.Sound noted) (q : Query) (r : Record) :
    ∃ result c' s' calls, b.load q r = ((result, c'), s') ∧
      b.step q (.load r) =
        ⟨s', c', b.history ++ retrievals b.session.peer.workspace.page b.session.now calls⟩ ∧
      Asked b.session s' calls ∧
      Loaded q b.session.peer.workspace.page b.session.now b.history [r]
        (result.map fun r' => [r']) c' calls := by
  obtain ⟨result, c', s', calls, he, hs, hl⟩ := loadRelations_loaded q b.session h.tracks r
  refine ⟨result, c', s', calls, he, ?_, hs, hl⟩
  have hload : b.load q r = ((result, c'), s') := he
  rw [step, hload]
  dsimp only
  rw [hs.calls_eq, List.drop_left, filterMap_retrieval?]

theorem Sound.load (h : b.Sound noted) (r : Record) : (b.step q (.load r)).Sound noted := by
  obtain ⟨result, c', s', calls, -, hstep, hs, hl⟩ := h.load_loaded q r
  rw [hstep]
  refine ⟨?_, ?_⟩
  · change Tracks c' _ s'.now
    rw [hs.now_eq]
    exact hl.tracks
  · change s'.peer.calls = _
    rw [hs.calls_eq, h.calls_eq, List.map_append, map_retrievals, List.append_assoc]

theorem Sound.resolved (h : b.Sound noted) (hload : (b.load q r).1.1 = .ok r') :
    Record.Resolved q.includes (Served (b.step q (.load r)).history b.session.now) r r' := by
  obtain ⟨result, c', s', calls, he, hstep, -, hl⟩ := h.load_loaded q r
  rw [he] at hload
  change result = .ok r' at hload
  subst hload
  rw [hstep]
  cases hl.resolved [r'] rfl with
  | cons hr _ => exact hr

theorem Sound.step (h : b.Sound noted) (event : BenchEvent) : (b.step q event).Sound noted := by
  cases event with
  | load r => exact h.load r
  | advance milliseconds =>
      exact ⟨h.tracks.mono (Nat.le_add_right b.session.now milliseconds), h.calls_eq⟩
  | setPage id page => exact ⟨h.tracks, h.calls_eq⟩

theorem Sound.run (h : b.Sound noted) (events : List BenchEvent) : (b.run q events).Sound noted := by
  induction events generalizing b with
  | nil => exact h
  | cons event events ih => exact ih (h.step event)

theorem start_sound (s : Session RecordedWorkspace) : (start s).Sound s.peer.calls :=
  ⟨.nil s.now, by simp [start]⟩

/-- Whatever records are loaded, and however time passes and pages change in between: all calls to
the workspace are page retrievals, none of them asks for a page that a retrieval less than five
minutes before gave, the cache holds only pages that retrievals gave, and a load that succeeds
resolves its record from retrievals that are less than five minutes old. -/
theorem retrieved_only_when_stale (q : Query) (s : Session RecordedWorkspace)
    (events : List BenchEvent) :
    let b := (start s).run q events
    b.session.peer.calls = s.peer.calls ++ b.history.map (fun x => .retrievePage x.id) ∧
    b.history.Pairwise Retrieval.Spaced ∧
    (∀ id entry, Table.get? b.cache id = some entry → entry.KnownFrom b.history id) ∧
    ∀ r r', (b.load q r).1.1 = .ok r' →
      Record.Resolved q.includes (Served (b.step q (.load r)).history b.session.now) r r' := by
  intro b
  have hsound : b.Sound s.peer.calls := (start_sound s).run events
  refine ⟨hsound.calls_eq, hsound.tracks.spaced, ?_, ?_⟩
  · intro id entry hget
    rw [hsound.tracks.cache_eq] at hget
    exact knownFrom_of_get? hget
  · intro r r' hload
    exact hsound.resolved hload

def ownerQuery : Query := (Query.new "db" "Task").includeRelation "Owner"

def ownerSession : Session RecordedWorkspace :=
  ⟨⟨.ofTables [] [("x", .ok ⟨"x", "", "old", []⟩)] (.ok ⟨[], none, false⟩), []⟩, 0, []⟩

def task : Record := ⟨"t", "", "", [("Owner", .references ["x"])]⟩

def loadedTask : Record := ⟨"t", "", "", [("Owner", .records [⟨"x", "", "new", []⟩])]⟩

/-- Until the entry is five minutes old, the first page is served although it has changed. -/
def ownerBench : Bench :=
  (start ownerSession).run ownerQuery
    [.load task, .setPage "x" (.ok ⟨"x", "", "new", []⟩), .advance 299999, .load task, .advance 1]

theorem owner_reloaded :
    ownerBench.history.map (·.time) = [0] ∧
    (ownerBench.step ownerQuery (.load task)).history.map (·.time) = [0, 300000] ∧
    (ownerBench.load ownerQuery task).1.1 = .ok loadedTask ∧
    Record.Resolved ownerQuery.includes
      (Served (ownerBench.step ownerQuery (.load task)).history ownerBench.session.now) task
      loadedTask := by
  have hload : (ownerBench.load ownerQuery task).1.1 = .ok loadedTask := rfl
  have hrun := retrieved_only_when_stale ownerQuery ownerSession
    [.load task, .setPage "x" (.ok ⟨"x", "", "new", []⟩), .advance 299999, .load task, .advance 1]
  obtain ⟨-, -, -, hresolved⟩ := hrun
  exact ⟨by decide +kernel, by decide +kernel, hload, hresolved task loadedTask hload⟩

end Bench

end NotionSchema
