import NotionSchema.Proofs.Remote.InMemory
import NotionSchema.Proofs.Remote.Transcript
import NotionSchema.Proofs.Text.Run
import NotionSchema.Validation
import Mathlib.Data.List.Forall2

namespace NotionSchema

namespace Field

variable (d : DatabaseDescriptor) (f : Field)

/-- The field binds to a property of its own type. -/
def Fits : Prop := ∃ p, f.property? d = some p ∧ p.kind = f.propertyType.tag

def misfit : TypeMismatch :=
  ⟨f.name, f.propertyType.tag, ((f.property? d).map (·.kind)).getD "not found"⟩

theorem mismatch?_of_fits (h : f.Fits d) : f.mismatch? d = none := by
  obtain ⟨p, hp, hkind⟩ := h
  rw [mismatch?, hp]
  exact if_pos hkind

theorem mismatch?_of_not_fits (h : ¬ f.Fits d) : f.mismatch? d = some (f.misfit d) := by
  rw [mismatch?, misfit]
  cases hp : f.property? d with
  | none => rfl
  | some p =>
      have hkind : p.kind ≠ f.expectedTag := fun hk => h ⟨p, hp, hk⟩
      exact if_neg hkind

instance : Decidable (f.Fits d) :=
  decidable_of_iff (f.mismatch? d = none) <| by
    constructor
    · intro h
      by_contra hf
      rw [f.mismatch?_of_not_fits d hf] at h
      cases h
    · exact f.mismatch?_of_fits d

theorem filterMap_mismatch? (fields : List Field) : fields.filterMap (·.mismatch? d) =
    (fields.filter (¬ ·.Fits d)).map (·.misfit d) := by
  induction fields with
  | nil => rfl
  | cons f fields ih =>
      by_cases hf : f.Fits d
      · simp [f.mismatch?_of_fits d hf, hf, ih]
      · simp [f.mismatch?_of_not_fits d hf, hf, ih]

end Field

namespace Model

/-- What the model itself must have: an id that is not blank and one title. -/
structure Ready (m : Model) : Prop where
  databaseId_visible : ∃ c ∈ m.databaseId.toList, Text.isBlank c = false
  title_unique : (m.fields.filter fun f => f.propertyType = .title).length = 1

structure Passes (m : Model) (d : DatabaseDescriptor) : Prop where
  ready : m.Ready
  fits : ∀ f ∈ m.fields, f.Fits d

def retrieval (m : Model) (d : DatabaseDescriptor) : Exchange := .database m.databaseId (.ok d)

/-- Keys of the database that are not the remote name of a field, up to case. -/
def undeclared (m : Model) (d : DatabaseDescriptor) : List String :=
  d.properties.keys.filter fun key => ∀ f ∈ m.fields, Text.lower f.remoteName ≠ Text.lower key

/-- The title of a database is all its pieces of text, put together. -/
def report (m : Model) (d : DatabaseDescriptor) : ModelReport :=
  ⟨m.name, m.databaseId, String.join (d.title.map fun piece => piece.plainText), m.undeclared d⟩

/-- How a model fails, with what its database was asked for. -/
inductive Fails (m : Model) : List Exchange → SyncError → Prop
  | missingDatabaseId (h : ∀ c ∈ m.databaseId.toList, Text.isBlank c = true) :
      Fails m [] (.missingDatabaseId m.name)
  | titleProperty (hid : ∃ c ∈ m.databaseId.toList, Text.isBlank c = false)
      (ht : (m.fields.filter fun f => f.propertyType = .title).length ≠ 1) :
      Fails m [] (.titleProperty m.name (m.fields.filter fun f => f.propertyType = .title).length)
  | databaseNotFound (hm : m.Ready) (object : ObjectKind) (id : String) :
      Fails m [.database m.databaseId (.error (.notFound object id))]
        (.databaseNotFound m.name m.databaseId)
  | remote (hm : m.Ready) (cause : RemoteError) (hc : ∀ object id, cause ≠ .notFound object id) :
      Fails m [.database m.databaseId (.error cause)] (.remote m.name m.databaseId cause)
  | typeMismatches (hm : m.Ready) (d : DatabaseDescriptor) (hd : ∃ f ∈ m.fields, ¬ f.Fits d) :
      Fails m [m.retrieval d]
        (.typeMismatches m.name ((m.fields.filter (¬ ·.Fits d)).map (·.misfit d)))

inductive Checked (m : Model) : List Exchange → Except SyncError ModelReport → Prop
  | passed (d : DatabaseDescriptor) (h : m.Passes d) : Checked m [m.retrieval d] (.ok (m.report d))
  | failed (noted : List Exchange) (e : SyncError) (h : m.Fails noted e) :
      Checked m noted (.error e)

variable {m : Model} {d : DatabaseDescriptor} {noted : List Exchange} {e : SyncError}

theorem Fails.head?_ne (h : m.Fails noted e) (hp : m.Passes d) :
    noted.head? ≠ some (m.retrieval d) := by
  intro hhead
  cases h with
  | missingDatabaseId => cases hhead
  | titleProperty => cases hhead
  | databaseNotFound => cases hhead
  | remote => cases hhead
  | typeMismatches _ d hd =>
      cases hhead
      obtain ⟨f, hf, hnot⟩ := hd
      exact hnot (hp.fits f hf)

theorem Fails.unique {e' : SyncError} (h : m.Fails noted e) (h' : m.Fails noted e') : e = e' := by
  cases h with
  | missingDatabaseId hblank =>
      cases h' with
      | missingDatabaseId => rfl
      | titleProperty hvisible => exact absurd hblank (Text.not_allBlank_iff.2 hvisible)
  | titleProperty hvisible =>
      cases h' with
      | missingDatabaseId hblank => exact absurd hblank (Text.not_allBlank_iff.2 hvisible)
      | titleProperty => rfl
  | databaseNotFound hm object id =>
      cases h' with
      | databaseNotFound => rfl
      | remote _ _ hc => exact absurd rfl (hc object id)
  | remote hm cause hc =>
      cases h' with
      | databaseNotFound _ object id => exact absurd rfl (hc object id)
      | remote => rfl
  | typeMismatches hm d hd =>
      cases h' with
      | typeMismatches => rfl

theorem localError?_eq_none_iff : m.localError? = none ↔ m.Ready := by
  rw [localError?]
  by_cases hid : Text.isBlankText m.databaseId = true
  · rw [if_pos hid]
    rw [Text.isBlankText, List.all_eq_true] at hid
    simp only [reduceCtorEq, false_iff]
    rintro ⟨⟨c, hc, hvisible⟩, -⟩
    simp [hid c hc] at hvisible
  · rw [if_neg hid]
    have hvisible : ∃ c ∈ m.databaseId.toList, Text.isBlank c = false := by
      simpa [Text.isBlankText] using hid
    by_cases ht : m.titleFields.length = 1
    · simp [ht]
      exact ⟨hvisible, ht⟩
    · simp [ht]
      intro hm
      exact ht hm.title_unique

theorem fails_of_localError? (h : m.localError? = some e) : m.Fails [] e := by
  rw [localError?] at h
  split at h
  · next hid =>
      cases h
      exact .missingDatabaseId (List.all_eq_true.1 hid)
  · next hid =>
      split at h
      · next ht =>
          cases h
          refine .titleProperty ?_ ht
          simpa [Text.isBlankText] using hid
      · cases h

theorem fails_of_retrievalError (hm : m.Ready) (cause : RemoteError) :
    m.Fails [.database m.databaseId (.error cause)] (m.retrievalError cause) := by
  cases cause with
  | notFound object id => exact .databaseNotFound hm object id
  | _ => exact .remote hm _ (by rintro object id ⟨⟩)

theorem extra_eq_undeclared (m : Model) (d : DatabaseDescriptor) :
    (ModelDiff.ofModel m d).extra = m.undeclared d := by
  apply List.filter_congr
  intro key _
  rw [Bool.eq_iff_iff]
  simp [Text.sameIgnoringCase]

theorem checked_check (hm : m.Ready) (d : DatabaseDescriptor) :
    m.Checked [m.retrieval d] (m.check d).value := by
  have hmismatches : (ModelDiff.ofModel m d).mismatches =
      (m.fields.filter (¬ ·.Fits d)).map (·.misfit d) := Field.filterMap_mismatch? d m.fields
  simp only [check, Logged.value_bind, ModelDiff.isCompatible, hmismatches, extra_eq_undeclared]
  by_cases hf : ∀ f ∈ m.fields, f.Fits d
  · have hnone : m.fields.filter (¬ ·.Fits d) = [] := by simpa using hf
    rw [hnone]
    exact .passed d ⟨hm, hf⟩
  · have hsome : ∃ f ∈ m.fields, ¬ f.Fits d := by simpa using hf
    rw [if_neg (by simpa using hsome)]
    exact .failed _ _ (.typeMismatches hm d hsome)

theorem value_check_of_passes (hp : m.Passes d) : (m.check d).value = .ok (m.report d) := by
  have hchecked := checked_check hp.ready d
  generalize (m.check d).value = outcome at hchecked
  cases hchecked with
  | passed => rfl
  | failed _ e h => exact absurd rfl (h.head?_ne hp)

variable {σ : Type} {service : Service σ} {start : Session σ}

theorem validate_of_localError? (h : m.localError? = some e) :
    ((m.validate service).run start).1 = .error e := by
  rw [validate, h]
  rfl

theorem run_validate_of_retrieved (h : m.localError? = none)
    (hd : ((service.retrieveDatabase m.databaseId).run start).1 = .ok d) :
    (m.validate service).run start = (Task.ofLogged (m.check d)).run
      ((service.retrieveDatabase m.databaseId).run start).2 := by
  rw [validate, h]
  dsimp only
  rw [Task.run_bind, hd]

theorem validate_of_retrieved (h : m.localError? = none)
    (hd : ((service.retrieveDatabase m.databaseId).run start).1 = .ok d) :
    ((m.validate service).run start).1 = (m.check d).value := by
  rw [run_validate_of_retrieved h hd]
  rfl

theorem validate_transcribes (service : Service σ) (m : Model) :
    Task.Transcribes m.Checked (m.validate service.transcribed) (m.validate service) := by
  rw [validate, validate]
  cases hl : m.localError? with
  | some e => exact Task.transcribes_pure _ (.failed _ _ (fails_of_localError? hl))
  | none =>
      have hm : m.Ready := localError?_eq_none_iff.1 hl
      have hretrieve := Task.transcribes_transcribed (Exchange.database m.databaseId)
        (service.retrieveDatabase m.databaseId)
        (P := fun noted answer => noted = [.database m.databaseId answer]) fun _ => rfl
      refine hretrieve.bind ?_
      rintro _ answer rfl
      cases answer with
      | error cause =>
          exact Task.transcribes_pure _ (.failed _ _ (fails_of_retrievalError hm cause))
      | ok d => exact Task.transcribes_ofLogged _ (checked_check hm d)

end Model

namespace Schema

variable {σ : Type}

/-- The two ways that the check of models in order can end. -/
inductive Scanned (models : List Model) :
    List Exchange → Except SyncError (List ModelReport) → Prop
  | passed (ds : List DatabaseDescriptor) (h : List.Forall₂ Model.Passes models ds) :
      Scanned models (List.zipWith Model.retrieval models ds)
        (.ok (List.zipWith Model.report models ds))
  | failed (before : List Model) (m : Model) (after : List Model) (ds : List DatabaseDescriptor)
      (noted : List Exchange) (e : SyncError) (hm : models = before ++ m :: after)
      (h : List.Forall₂ Model.Passes before ds) (he : m.Fails noted e) :
      Scanned models (List.zipWith Model.retrieval before ds ++ noted) (.error e)

theorem Scanned.cons {m : Model} {d : DatabaseDescriptor} {models : List Model}
    {noted : List Exchange} {outcome : Except SyncError (List ModelReport)} (hp : m.Passes d)
    (h : Scanned models noted outcome) :
    Scanned (m :: models) (m.retrieval d :: noted) (outcome.map (m.report d :: ·)) := by
  cases h with
  | passed ds h => exact .passed (d :: ds) (.cons hp h)
  | failed before m' after ds noted e hm h he =>
      subst hm
      exact .failed (m :: before) m' after (d :: ds) noted e rfl (.cons hp h) he

theorem validateModels_transcribes (service : Service σ) (models : List Model) :
    Task.Transcribes (Scanned models) (validateModels service.transcribed models)
      (validateModels service models) := by
  induction models with
  | nil => exact Task.transcribes_pure _ (.passed [] .nil)
  | cons m models ih =>
      refine (m.validate_transcribes service).bind ?_
      intro noted checked hchecked
      cases hchecked with
      | failed noted e he =>
          refine Task.transcribes_pure _ ?_
          rw [List.append_nil]
          exact .failed [] m models [] noted e rfl .nil he
      | passed d hp =>
          refine ih.bind ?_
          intro later outcome hscan
          have hcons := hscan.cons hp
          rw [← List.append_nil later] at hcons
          cases outcome <;> exact Task.transcribes_pure _ hcons

theorem validate_transcribes_scanned (service : Service σ) (s : Schema) :
    Task.Transcribes (fun noted outcome => Scanned s.models noted (outcome.map SyncReport.models))
      (s.validate service.transcribed) (s.validate service) := by
  refine (validateModels_transcribes service s.models).bind ?_
  intro noted outcome hscan
  rw [← List.append_nil noted] at hscan
  cases outcome with
  | error e => exact Task.transcribes_pure _ hscan
  | ok reports =>
      refine (Task.transcribes_emit (validated reports.length)
        (P := fun later _ => later = []) rfl).bind ?_
      rintro _ ⟨⟩ rfl
      exact Task.transcribes_pure _ hscan

variable {models : List Model} {noted : List Exchange}

theorem Scanned.of_ok {reports : List ModelReport} (h : Scanned models noted (.ok reports)) :
    ∃ ds, List.Forall₂ Model.Passes models ds ∧ noted = List.zipWith Model.retrieval models ds ∧
      reports = List.zipWith Model.report models ds := by
  cases h with
  | passed ds h => exact ⟨ds, h, rfl, rfl⟩

theorem Scanned.of_error {e : SyncError} (h : Scanned models noted (.error e)) :
    ∃ before m after ds last, models = before ++ m :: after ∧ List.Forall₂ Model.Passes before ds ∧
      m.Fails last e ∧ noted = List.zipWith Model.retrieval before ds ++ last := by
  cases h with
  | failed before m after ds last e hm h he => exact ⟨before, m, after, ds, last, hm, h, he, rfl⟩

theorem Scanned.cases_cons {m : Model} {outcome : Except SyncError (List ModelReport)}
    (h : Scanned (m :: models) noted outcome) :
    (∃ e, m.Fails noted e ∧ outcome = .error e) ∨
    ∃ d later rest, m.Passes d ∧ noted = m.retrieval d :: later ∧ Scanned models later rest ∧
      outcome = rest.map (m.report d :: ·) := by
  cases h with
  | passed ds h =>
      cases h with
      | cons hp h => exact .inr ⟨_, _, _, hp, rfl, .passed _ h, rfl⟩
  | failed before m' after ds last e hm h he =>
      cases before with
      | nil =>
          cases hm
          cases h
          exact .inl ⟨e, he, rfl⟩
      | cons m'' before =>
          cases hm
          cases h with
          | cons hp h => exact .inr ⟨_, _, _, hp, rfl, .failed before m' after _ last e rfl h he, rfl⟩

theorem Scanned.unique {o o' : Except SyncError (List ModelReport)} (h : Scanned models noted o)
    (h' : Scanned models noted o') : o = o' := by
  induction models generalizing noted o o' with
  | nil =>
      have hnil {o : Except SyncError (List ModelReport)} (h : Scanned [] noted o) : o = .ok [] := by
        cases h with
        | passed ds h => rfl
        | failed before m after ds last e hm h he => cases before <;> cases hm
      rw [hnil h, hnil h']
  | cons m models ih =>
      rcases h.cases_cons with ⟨e, he, rfl⟩ | ⟨d, later, rest, hp, rfl, hscan, rfl⟩
      · rcases h'.cases_cons with ⟨e', he', rfl⟩ | ⟨d, later, rest, hp, rfl, -, -⟩
        · rw [he.unique he']
        · exact absurd rfl (he.head?_ne hp)
      · rcases h'.cases_cons with ⟨e', he', rfl⟩ | ⟨d', later', rest', -, hnoted, hscan', rfl⟩
        · exact absurd rfl (he'.head?_ne hp)
        · cases hnoted
          rw [ih hscan hscan']

theorem Scanned.not_error {e : SyncError} {ds : List DatabaseDescriptor}
    (h : Scanned models (List.zipWith Model.retrieval models ds) (.error e)) :
    ¬ List.Forall₂ Model.Passes models ds := by
  intro hall
  cases h.unique (.passed ds hall)

/-- For any service, any schema and wherever the service is met: `noted` is what the service is
asked for and answers. The schema is validated exactly if every model passes with the database that
was retrieved for it, and then the report says of each model in order what its database is called
and holds besides. Otherwise some model fails after models that all pass, the error is that of this
model, and its own exchange, if it comes to one, is the last. -/
theorem validate_stops_at_first_failure (service : Service σ) (s : Schema)
    (start : Session (σ × List Exchange)) :
    ∃ outcome final noted,
      (s.validate service.transcribed).run start = (outcome, final) ∧
      (s.validate service).run start.plain = (outcome, final.plain) ∧
      final.transcript = start.transcript ++ noted ∧
      ((∃ report, outcome = .ok report) ↔ ∃ ds, List.Forall₂ Model.Passes s.models ds ∧
        noted = List.zipWith Model.retrieval s.models ds) ∧
      (∀ report, outcome = .ok report → ∃ ds, List.Forall₂ Model.Passes s.models ds ∧
        noted = List.zipWith Model.retrieval s.models ds ∧
        report.models = List.zipWith Model.report s.models ds) ∧
      ∀ e, outcome = .error e → ∃ before m after ds last, s.models = before ++ m :: after ∧
        List.Forall₂ Model.Passes before ds ∧ m.Fails last e ∧
        noted = List.zipWith Model.retrieval before ds ++ last := by
  obtain ⟨outcome, final, noted, htranscribed, hplain, hnoted, hscan⟩ :=
    validate_transcribes_scanned service s start
  have hok (report : SyncReport) (h : outcome = .ok report) : ∃ ds,
      List.Forall₂ Model.Passes s.models ds ∧ noted = List.zipWith Model.retrieval s.models ds ∧
      report.models = List.zipWith Model.report s.models ds := by
    subst h
    exact hscan.of_ok
  have herror (e : SyncError) (h : outcome = .error e) : Scanned s.models noted (.error e) := by
    subst h
    exact hscan
  refine ⟨outcome, final, noted, htranscribed, hplain, hnoted, ⟨?_, ?_⟩, hok, ?_⟩
  · rintro ⟨report, h⟩
    obtain ⟨ds, hds, hretrieved, -⟩ := hok report h
    exact ⟨ds, hds, hretrieved⟩
  · rintro ⟨ds, hds, rfl⟩
    cases ho : outcome with
    | ok report => exact ⟨report, rfl⟩
    | error e => exact absurd hds (herror e ho).not_error
  · intro e h
    exact (herror e h).of_error

def bookModel : Model := ⟨"Book", "db1", [⟨"name", "String", false, [⟨"title", none⟩]⟩]⟩

def authorModel : Model :=
  ⟨"Author", "db2", [⟨"name", "String", false, [⟨"title", none⟩]⟩, ⟨"age", "Number", false, []⟩,
    ⟨"born", "DateTime", true, []⟩]⟩

def librarySchema : Schema := ⟨[bookModel, authorModel, ⟨"Loan", " ", []⟩]⟩

def bookDatabase : DatabaseDescriptor :=
  ⟨"db1", [⟨"All "⟩, ⟨"books"⟩],
    [("NAME", ⟨"", "", "title", []⟩), ("Pages", ⟨"", "", "number", []⟩)]⟩

def authorDatabase : DatabaseDescriptor :=
  ⟨"db2", [], [("Age", ⟨"", "", "number", []⟩), ("Name", ⟨"", "", "rich_text", []⟩)]⟩

def librarySession : Session (RecordedWorkspace × List Exchange) :=
  ⟨(⟨.ofTables [("db1", .ok bookDatabase), ("db2", .ok authorDatabase)] [] (.ok ⟨[], none, false⟩),
    []⟩, []), 0, []⟩

def authorError : SyncError :=
  .typeMismatches "Author" [⟨"name", "title", "rich_text"⟩, ⟨"born", "date", "not found"⟩]

def bookReport : ModelReport := ⟨"Book", "db1", "All books", ["Pages"]⟩

theorem librarySchema_stops :
    (((validate RecordedWorkspace.service ⟨[bookModel]⟩).run librarySession.plain).1 =
      .ok ⟨[bookReport]⟩ ∧
    ∃ ds, List.Forall₂ Model.Passes [bookModel] ds ∧
      List.zipWith Model.report [bookModel] ds = [bookReport]) ∧
    ((librarySchema.validate RecordedWorkspace.service).run librarySession.plain).1 =
      .error authorError ∧
    ∃ before m after ds last, librarySchema.models = before ++ m :: after ∧
      List.Forall₂ Model.Passes before ds ∧ m.Fails last authorError := by
  refine ⟨?_, ?_⟩
  · have hrun : ((validate RecordedWorkspace.service ⟨[bookModel]⟩).run librarySession.plain).1 =
        .ok ⟨[bookReport]⟩ := by decide +kernel
    obtain ⟨outcome, final, noted, -, hplain, -, -, hok, -⟩ :=
      validate_stops_at_first_failure RecordedWorkspace.service ⟨[bookModel]⟩ librarySession
    have houtcome : outcome = .ok ⟨[bookReport]⟩ := (congrArg Prod.fst hplain).symm.trans hrun
    obtain ⟨ds, hds, -, hreports⟩ := hok _ houtcome
    exact ⟨hrun, ds, hds, hreports.symm⟩
  · have hrun : ((librarySchema.validate RecordedWorkspace.service).run librarySession.plain).1 =
        .error authorError := by decide +kernel
    obtain ⟨outcome, final, noted, -, hplain, -, -, -, herror⟩ :=
      validate_stops_at_first_failure RecordedWorkspace.service librarySchema librarySession
    have houtcome : outcome = .error authorError := (congrArg Prod.fst hplain).symm.trans hrun
    obtain ⟨before, m, after, ds, last, hm, hbefore, hfails, -⟩ := herror _ houtcome
    exact ⟨hrun, before, m, after, ds, last, hm, hbefore, hfails⟩

end Schema

end NotionSchema
