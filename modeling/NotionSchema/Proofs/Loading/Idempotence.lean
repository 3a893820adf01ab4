import NotionSchema.Proofs.Loading.Links
import NotionSchema.Proofs.Remote.Transcript

namespace NotionSchema

open Loading

namespace PropertyValue

variable {v w : Option PropertyValue} {part : List (String × Record)} {link : RelationLink}

theorem Fills.not_load (h : Fills v part w) : w.map plan ≠ some (.load link) := by
  cases h with
  | one | many => simp [plan, isPresent]
  | keep v ht hr =>
      intro hplan
      obtain ⟨v, rfl, hload⟩ := Option.map_eq_some_iff.1 hplan
      rcases plan_eq_load_iff.1 hload with ⟨id, hid, rfl, -⟩ | ⟨ids, rfl, -⟩
      · exact hid (ht id rfl)
      · exact hr ids rfl

theorem Fills.warn_iff (h : Fills v part w) :
    w.map plan = some .warn ↔ v.map plan = some .warn := by
  cases h with
  | one id r hid => simp [plan, isPresent, hid]
  | many => simp [plan, isPresent]
  | keep => exact Iff.rfl

end PropertyValue

namespace Query

variable {σ : Type} {q : Query} {r r' : Record} {names : List String}

theorem log_links (q : Query) (r : Record) (names : List String) : (q.links r names).log =
    (names.filter fun name => (r.get? name).map PropertyValue.plan = some .warn).map
      q.noRelation := by
  induction names with
  | nil => rfl
  | cons name names ih =>
      rw [links, List.filter_cons]
      cases (r.get? name).map PropertyValue.plan with
      | none => exact ih
      | some included =>
          cases included with
          | leave => exact ih
          | warn => exact congrArg (q.noRelation name :: ·) ih
          | load link =>
              simp only [Logged.log_bind, Logged.log_pure, List.append_nil]
              exact ih

/-- Each included property has taken its part of the records that were served. -/
def Settled (names : List String) (r r' : Record) : Prop :=
  ∀ name ∈ names, ∃ part, PropertyValue.Fills (r.get? name) part (r'.get? name)

theorem Settled.links_eq (h : Settled names r r') :
    q.links r' names = ⟨[], (q.links r names).log⟩ := by
  apply Logged.ext
  · refine List.eq_nil_iff_forall_not_mem.2 ?_
    rintro ⟨name, link⟩ hmem
    obtain ⟨hname, hload⟩ := (q.mem_links r' names).1 hmem
    obtain ⟨part, hfills⟩ := h name hname
    exact hfills.not_load hload
  · change (q.links r' names).log = (q.links r names).log
    rw [log_links, log_links]
    refine congrArg _ (List.filter_congr fun name hname => ?_)
    obtain ⟨part, hfills⟩ := h name hname
    exact decide_eq_decide.2 hfills.warn_iff

theorem settled_of_loaded (q : Query) {service : Service σ} {c c' : RelationCache}
    {s s' : Session σ}
    (h : exec ((q.loadInPlace service).run r) c s = (((.ok (), r'), c'), s')) :
    Settled q.includes r r' := by
  obtain ⟨result, fetched, c'', s'', he, hends, hv⟩ := q.loadInPlace_ends service c s r
  rw [he] at h
  cases hv with
  | error e => cases h
  | ok rs r'' hwrites =>
      obtain ⟨values, hv, rfl⟩ := hwrites
      cases h
      cases hends with
      | served served hids _ =>
          obtain ⟨parts, hnames, -, hshares⟩ := q.exists_shares r q.includes hids hv
          intro name hname
          rw [← hnames] at hname
          obtain ⟨part, -, hfills⟩ := hshares.fills hname
          exact ⟨part, hfills⟩

theorem exec_loadInPlace_of_no_links (q : Query) (service : Service σ) (c : RelationCache)
    (s : Session σ) (r : Record) (h : (q.links r q.includes).value = []) :
    exec ((q.loadInPlace service).run r) c s = (((.ok (), r), c), q.warned s r) := by
  rw [loadInPlace, exec_get_bind, exec_ofLoading_bind, exec_ofLogged, exec_ofLoading_bind, h]
  rfl

/-- Let loading the relations of a record have succeeded, from any cache and against any service.
Loading the result again, from any other cache and session and against any service, succeeds: the
record and the cache stay as they are, nothing is asked for and no time passes, and what is logged
are the warnings of the first load. -/
theorem reload_changes_nothing {σ' : Type} (q : Query) (service : Service σ)
    (c c' : RelationCache) (s s' : Session σ) (r r' : Record)
    (h : exec ((q.loadInPlace service).run r) c s = (((.ok (), r'), c'), s'))
    (later : Service σ') (cache : RelationCache) (again : Session (σ' × List Exchange)) :
    let out := exec ((q.loadInPlace later.transcribed).run r') cache again
    out.1 = ((.ok (), r'), cache) ∧ out.2.transcript = again.transcript ∧
    out.2 = { again with log := again.log ++ (q.links r q.includes).log } := by
  intro out
  have hlinks : q.links r' q.includes = ⟨[], (q.links r q.includes).log⟩ :=
    (q.settled_of_loaded h).links_eq
  have hout : out = (((.ok (), r'), cache), q.warned again r') :=
    q.exec_loadInPlace_of_no_links later.transcribed cache again r' (by rw [hlinks])
  rw [hout, warned, hlinks]
  exact ⟨rfl, rfl, rfl⟩

def emptySession : Session (RecordedWorkspace × List Exchange) :=
  ⟨(⟨.ofTables [] [] (.ok ⟨[], none, false⟩), []⟩, []), 600000, []⟩

theorem teamRecord_reloaded : ∃ (r' : Record) (c' : RelationCache) (s' : _),
    exec ((teamQuery.loadInPlace RecordedWorkspace.service).run teamRecord) [] teamSession =
      (((.ok (), r'), c'), s') ∧
    r'.get? "Lead" = some (.record ⟨"p1", "", "", []⟩) ∧
    exec ((teamQuery.loadInPlace RecordedWorkspace.service.transcribed).run r') c' emptySession =
      (((.ok (), r'), c'), { emptySession with log := [teamQuery.noRelation "Done"] }) := by
  refine ⟨_, _, _, rfl, rfl, ?_⟩
  obtain ⟨hrecord, -, hsession⟩ := reload_changes_nothing teamQuery RecordedWorkspace.service []
    _ teamSession _ teamRecord _ rfl RecordedWorkspace.service _ emptySession
  exact Prod.ext hrecord hsession

end Query

end NotionSchema
