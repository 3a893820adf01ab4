import NotionSchema.Proofs.Loading.Serving
import NotionSchema.Proofs.Remote.Transcript
import NotionSchema.Proofs.Table
import NotionSchema.Remote.Workspace

namespace NotionSchema

open Loading RelationCache

variable {σ : Type} {q : Query} {service : Service σ} {c c' c₁ : RelationCache} {id : String}
  {r : Record} {served : List (String × Record)}

/-- Time does not run backwards while a page is retrieved. -/
def Service.Forward (service : Service σ) : Prop :=
  ∀ id s, s.now ≤ ((service.retrievePage id).run s).2.now

theorem Service.Forward.transcribed (h : service.Forward) : service.transcribed.Forward :=
  fun id s => h id s.plain

theorem FetchStep.now_le {s s' : Session σ} {result : Except RemoteError Record}
    (h : FetchStep q service c s id result c' s') (hf : service.Forward) : s.now ≤ s'.now := by
  cases h with
  | cached => exact Nat.le_refl _
  | failed e s₁ _ he =>
      have hle := hf id s
      rw [he] at hle
      exact hle
  | retrieved p s₁ _ hp =>
      have hle := hf id s
      rw [hp] at hle
      exact hle

theorem Serves.now_le {s s' : Session σ} (h : Serves q service c s served c' s')
    (hf : service.Forward) : s.now ≤ s'.now := by
  induction h with
  | nil => exact Nat.le_refl _
  | cons c s id r c₁ s₁ rest c' s' hstep _ ih => exact Nat.le_trans (hstep.now_le hf) ih

variable {s s' s₁ : Session (σ × List Exchange)} {retrieved later : List (String × Page)}

/-- All requests were for pages, which were retrieved. The cache has their records, with the times
of retrieval, and otherwise what it had. -/
structure Kept (service : Service σ) (c : RelationCache) (s : Session (σ × List Exchange))
    (retrieved : List (String × Page)) (c' : RelationCache)
    (s' : Session (σ × List Exchange)) : Prop where
  transcript_eq : s'.transcript = s.transcript ++ retrieved.map fun x => .page x.1 (.ok x.2)
  others : ∀ id, id ∉ retrieved.map (·.1) → Table.get? c' id = Table.get? c id
  entries : ∀ id ∈ retrieved.map (·.1), ∃ p time, (id, p) ∈ retrieved ∧
    Table.get? c' id = some ⟨time, (Record.decode p).value⟩ ∧
    (service.Forward → s.now ≤ time ∧ time ≤ s'.now)

namespace Kept

theorem nil (service : Service σ) (c : RelationCache) (s : Session (σ × List Exchange)) :
    Kept service c s [] c s := ⟨(List.append_nil _).symm, by simp, by simp⟩

theorem append (h : Kept service c s retrieved c₁ s₁) (h' : Kept service c₁ s₁ later c' s')
    (hle : service.Forward → s.now ≤ s₁.now ∧ s₁.now ≤ s'.now) :
    Kept service c s (retrieved ++ later) c' s' := by
  refine ⟨?_, ?_, ?_⟩
  · rw [h'.transcript_eq, h.transcript_eq, List.map_append, List.append_assoc]
  · intro id hid
    rw [List.map_append, List.mem_append, not_or] at hid
    rw [h'.others id hid.2, h.others id hid.1]
  · intro id hid
    -- What was retrieved later has replaced what was there.
    by_cases hlater : id ∈ later.map (·.1)
    · obtain ⟨p, time, hp, hentry, htime⟩ := h'.entries id hlater
      refine ⟨p, time, List.mem_append_right _ hp, hentry, fun hf => ?_⟩
      exact ⟨Nat.le_trans (hle hf).1 (htime hf).1, (htime hf).2⟩
    · rw [List.map_append, List.mem_append, or_iff_left hlater] at hid
      obtain ⟨p, time, hp, hentry, htime⟩ := h.entries id hid
      refine ⟨p, time, List.mem_append_left _ hp, ?_, fun hf => ?_⟩
      · rw [h'.others id hlater, hentry]
      · exact ⟨(htime hf).1, Nat.le_trans (htime hf).2 (hle hf).2⟩

end Kept

theorem FetchStep.kept (h : FetchStep q service.transcribed c s id (.ok r) c' s') :
    ∃ retrieved, Kept service c s retrieved c' s' := by
  have hforward (hf : service.Forward) : s.now ≤ s'.now := h.now_le hf.transcribed
  cases h with
  | cached => exact ⟨[], .nil service c s⟩
  | retrieved p s₁ hstale hp =>
      have hnoted := service.transcript_of_retrievePage s hp
      refine ⟨[(id, p)], hnoted, ?_, ?_⟩
      · intro other hother
        exact Table.get?_insert_of_ne c (by simpa using hother) _
      · intro other hother
        obtain rfl : other = id := by simpa using hother
        exact ⟨p, _, List.mem_singleton_self _, Table.get?_insert_self _ _ _,
          fun hf => ⟨hforward hf, Nat.le_refl _⟩⟩

theorem FetchStep.of_error {e : RemoteError}
    (h : FetchStep q service.transcribed c s id (.error e) c' s') :
    c' = c ∧ s'.transcript = s.transcript ++ [.page id (.error e)] := by
  cases h with
  | failed _ s₁ _ he =>
      have hasked := service.transcript_of_retrievePage s he
      exact ⟨rfl, hasked⟩

theorem Serves.kept (h : Serves q service.transcribed c s served c' s') :
    ∃ retrieved, Kept service c s retrieved c' s' := by
  induction h with
  | nil c s => exact ⟨[], .nil service c s⟩
  | cons c s id r c₁ s₁ rest c' s' hstep hrest ih =>
      obtain ⟨retrieved, hkept⟩ := hstep.kept
      obtain ⟨later, hlater⟩ := ih
      refine ⟨retrieved ++ later, hkept.append hlater fun hf => ?_⟩
      exact ⟨hstep.now_le hf.transcribed, hrest.now_le hf.transcribed⟩

structure Spares (entry : CachedRecord) (id : String) (s : Session (σ × List Exchange))
    (c' : RelationCache) (s' : Session (σ × List Exchange)) : Prop where
  entry_eq : Table.get? c' id = some entry
  transcript_eq : ∃ noted, s'.transcript = s.transcript ++ noted ∧
    ∀ answer, .page id answer ∉ noted

variable {entry : CachedRecord} {other : String}

theorem Spares.trans (h : Spares entry id s c₁ s₁) (h' : Spares entry id s₁ c' s') :
    Spares entry id s c' s' := by
  obtain ⟨noted, hnoted, hspared⟩ := h.transcript_eq
  obtain ⟨later, hlater, hspared'⟩ := h'.transcript_eq
  refine ⟨h'.entry_eq, noted ++ later, ?_, ?_⟩
  · rw [hlater, hnoted, List.append_assoc]
  · intro answer hmem
    rcases List.mem_append.1 hmem with hmem | hmem
    · exact hspared answer hmem
    · exact hspared' answer hmem

theorem fresh?_of_entry {now : Nat} (hentry : Table.get? c id = some entry)
    (hnow : now - entry.retrievedAt < lifetime) : c.fresh? now id = some entry.record := by
  rw [fresh?, hentry]
  exact if_pos hnow

theorem FetchStep.spares {result : Except RemoteError Record}
    (h : FetchStep q service.transcribed c s other result c' s')
    (hentry : Table.get? c id = some entry) (hnow : s.now - entry.retrievedAt < lifetime) :
    Spares entry id s c' s' := by
  have hne (hstale : c.fresh? s.now other = none) : id ≠ other := by
    rintro rfl
    rw [fresh?_of_entry hentry hnow] at hstale
    cases hstale
  have hnoted (hstale : c.fresh? s.now other = none) (x : Except RemoteError Page) :
      ∀ answer, Exchange.page id answer ∉ [Exchange.page other x] := by
    intro answer hmem
    cases List.mem_singleton.1 hmem
    exact hne hstale rfl
  cases h with
  | cached => exact ⟨hentry, [], (List.append_nil _).symm, by simp⟩
  | failed e s₁ hstale he =>
      have hasked := service.transcript_of_retrievePage s he
      exact ⟨hentry, _, hasked, hnoted hstale _⟩
  | retrieved p s₁ hstale hp =>
      have hasked := service.transcript_of_retrievePage s hp
      exact ⟨(Table.get?_insert_of_ne c (hne hstale) _).trans hentry, _, hasked, hnoted hstale _⟩

theorem Serves.spares (h : Serves q service.transcribed c s served c' s') (hf : service.Forward)
    (hentry : Table.get? c id = some entry) (hnow : s'.now - entry.retrievedAt < lifetime) :
    Spares entry id s c' s' := by
  induction h with
  | nil => exact ⟨hentry, [], (List.append_nil _).symm, by simp⟩
  | cons c s other r c₁ s₁ rest c' s' hstep hrest ih =>
      have hle : s.now ≤ s'.now :=
        Nat.le_trans (hstep.now_le hf.transcribed) (hrest.now_le hf.transcribed)
      have hspares := hstep.spares hentry
        (Nat.lt_of_le_of_lt (Nat.sub_le_sub_right hle entry.retrievedAt) hnow)
      exact hspares.trans (ih hspares.entry_eq hnow)

namespace Query

theorem loadInPlace_spares (q : Query) (hf : service.Forward)
    (hentry : Table.get? c id = some entry) (s : Session (σ × List Exchange)) (r : Record)
    (hnow : (exec ((q.loadInPlace service.transcribed).run r) c s).2.now - entry.retrievedAt <
      lifetime) :
    ∃ noted, (exec ((q.loadInPlace service.transcribed).run r) c s).2.transcript =
      s.transcript ++ noted ∧ ∀ answer, .page id answer ∉ noted := by
  obtain ⟨result, fetched, c', s', he, hends, -⟩ :=
    q.loadInPlace_ends service.transcribed c s r
  rw [he] at hnow ⊢
  cases hends with
  | served served _ hs => exact (hs.spares hf hentry hnow).transcript_eq
  | stopped served failed rest _ e c₁ s₁ hs hstep =>
      have hle := Nat.sub_le_sub_right (hstep.now_le hf.transcribed) entry.retrievedAt
      have hnow₁ := Nat.lt_of_le_of_lt hle hnow
      have hspares := hs.spares hf hentry hnow₁
      exact (hspares.trans (hstep.spares hspares.entry_eq hnow₁)).transcript_eq

/-- Let loading the relations of a record fail, from any cache and against any service. The record
is as it was. The service has answered with pages, until the error. In the cache, the entries of
these pages are new, with their records; all others are as they were. If time does not run
backwards, the times of the new entries lie within the load, and no load that ends within the life
of such an entry asks for its page again. -/
theorem failed_load_keeps_record (q : Query) (service : Service σ) (c c' : RelationCache)
    (s s' : Session (σ × List Exchange)) (r r' : Record) (e : RemoteError)
    (h : exec ((q.loadInPlace service.transcribed).run r) c s = (((.error e, r'), c'), s')) :
    r' = r ∧ ∃ (retrieved : List (String × Page)) (failed : String),
      s'.transcript = s.transcript ++ retrieved.map (fun x => .page x.1 (.ok x.2)) ++
        [.page failed (.error e)] ∧
      (∀ id, id ∉ retrieved.map (·.1) → Table.get? c' id = Table.get? c id) ∧
      ∀ id ∈ retrieved.map (·.1), ∃ p time, (id, p) ∈ retrieved ∧
        Table.get? c' id = some ⟨time, (Record.decode p).value⟩ ∧
        (service.Forward → s.now ≤ time ∧ time ≤ s'.now ∧
          ∀ (again : Session (σ × List Exchange)) (record : Record),
            let after := (exec ((q.loadInPlace service.transcribed).run record) c' again).2
            after.now - time < lifetime →
            ∃ noted, after.transcript = again.transcript ++ noted ∧
              ∀ answer, .page id answer ∉ noted) := by
  obtain ⟨result, fetched, c'', s'', he, hends, hv⟩ :=
    q.loadInPlace_ends service.transcribed c s r
  rw [he] at h
  cases hv with
  | ok rs r'' _ => cases h
  | error e =>
      cases h
      cases hends with
      | stopped served failed rest _ _ c₁ s₁ hs hstep =>
          obtain ⟨retrieved, hkept⟩ := hs.kept
          obtain ⟨rfl, hfailed⟩ := hstep.of_error
          refine ⟨rfl, retrieved, failed, ?_, hkept.others, ?_⟩
          · rw [hfailed, hkept.transcript_eq]
            rfl
          · intro id hid
            obtain ⟨p, time, hp, hentry, htime⟩ := hkept.entries id hid
            refine ⟨p, time, hp, hentry, fun hf => ⟨(htime hf).1, ?_, ?_⟩⟩
            · exact Nat.le_trans (htime hf).2 (hstep.now_le hf.transcribed)
            · intro again record
              exact q.loadInPlace_spares hf hentry again record

def crewQuery : Query := ((new "db" "Task").includeRelation "Lead").includeRelation "Crew"

def crewRecord : Record := ⟨"t", "", "", [("Crew", .references ["p2", "p3"]), ("Lead", .text "p1")]⟩

def crewSession (now : Nat) : Session (RecordedWorkspace × List Exchange) :=
  ⟨(⟨.ofTables [] [("p1", .ok ⟨"p1", "", "", []⟩), ("p2", .ok ⟨"p2", "", "", []⟩)]
    (.ok ⟨[], none, false⟩), []⟩, []), now, []⟩

theorem crewRecord_kept : ∃ (r' : Record) (c' : RelationCache) (s' : _),
    exec ((crewQuery.loadInPlace RecordedWorkspace.service.transcribed).run crewRecord) []
      (crewSession 0) = (((.error (.notFound .page "p3"), r'), c'), s') ∧ r' = crewRecord ∧
    s'.transcript = [.page "p1" (.ok ⟨"p1", "", "", []⟩), .page "p2" (.ok ⟨"p2", "", "", []⟩),
      .page "p3" (.error (.notFound .page "p3"))] ∧
    ∃ noted, (exec ((crewQuery.loadInPlace RecordedWorkspace.service.transcribed).run crewRecord) c'
      (crewSession 299999)).2.transcript = noted ∧ ∀ answer, .page "p2" answer ∉ noted := by
  have hforward : RecordedWorkspace.service.Forward := fun _ _ => Nat.le_refl _
  obtain ⟨hrecord, retrieved, failed, htranscript, -, hentries⟩ :=
    failed_load_keeps_record crewQuery RecordedWorkspace.service [] _ (crewSession 0) _ crewRecord
      _ _ rfl
  refine ⟨_, _, _, rfl, hrecord, rfl, ?_⟩
  have hpages : retrieved.map (fun x => Exchange.page x.1 (.ok x.2)) =
      [.page "p1" (.ok ⟨"p1", "", "", []⟩), .page "p2" (.ok ⟨"p2", "", "", []⟩)] :=
    List.append_inj_left' htranscript.symm rfl
  have hmem : Exchange.page "p2" (.ok ⟨"p2", "", "", []⟩) ∈
      retrieved.map fun x => .page x.1 (.ok x.2) := by
    rw [hpages]
    exact List.mem_cons_of_mem _ List.mem_cons_self
  obtain ⟨x, hx, he⟩ := List.mem_map.1 hmem
  have hid : "p2" ∈ retrieved.map (·.1) := List.mem_map.2 ⟨x, hx, (Exchange.page.inj he).1⟩
  obtain ⟨p, time, -, -, hagain⟩ := hentries "p2" hid
  obtain ⟨-, -, hspares⟩ := hagain hforward
  obtain ⟨noted, hnoted, hnone⟩ := hspares (crewSession 299999) crewRecord
    (Nat.lt_of_le_of_lt (Nat.sub_le _ _) (by decide +kernel))
  exact ⟨noted, hnoted, hnone⟩

end Query

end NotionSchema
