import NotionSchema.Proofs.Reconcile.Verdict
import NotionSchema.Proofs.Schema.Acceptance

namespace NotionSchema

open Text LineForm

namespace Model

variable {m : Model} {d : DatabaseDescriptor}

/-- The model is ready, and its fields do not want two types of one property. -/
structure Coherent (m : Model) : Prop where
  ready : m.Ready
  types_agree : ∀ f ∈ m.fields, ∀ g ∈ m.fields, lower f.remoteName = lower g.remoteName →
    f.propertyType = g.propertyType

def described (m : Model) : DatabaseDescriptor :=
  ⟨m.databaseId, [], .ofList (m.fields.map fun f =>
    (f.remoteName, ⟨"", f.remoteName, f.propertyType.tag, []⟩))⟩

theorem fits_described (h : m.Coherent) {f : Field} (hf : f ∈ m.fields) : f.Fits m.described := by
  have hkey : f.remoteName ∈ m.described.properties.keys := by
    rw [described, Table.mem_keys_ofList, List.map_map]
    exact List.mem_map_of_mem hf
  obtain ⟨e, he⟩ := DatabaseDescriptor.exists_entry? hkey rfl
  obtain ⟨g, hg, hentry⟩ := List.mem_map.1 (Table.mem_ofList (List.mem_of_find?_eq_some he))
  -- The search may end at the key of another field, which then wants the same type.
  have hname := DatabaseDescriptor.lower_eq_of_entry? he
  rw [← hentry] at hname he
  refine ⟨_, congrArg (Option.map Prod.snd) he, ?_⟩
  exact congrArg PropertyType.tag (h.types_agree g hg f hf hname)

theorem passes_described (h : m.Coherent) : m.Passes m.described :=
  ⟨h.ready, fun _ hf => fits_described h hf⟩

theorem Passes.coherent (h : m.Passes d) : m.Coherent := by
  refine ⟨h.ready, ?_⟩
  intro f hf g hg hname
  obtain ⟨p, hp, hkind⟩ := h.fits f hf
  obtain ⟨q, hq, hkind'⟩ := h.fits g hg
  have hsame : f.property? d = g.property? d :=
    congrArg (Option.map Prod.snd) (DatabaseDescriptor.entry?_congr hname)
  rw [hsame, hq] at hp
  cases hp
  exact PropertyType.tag_injective (hkind.symm.trans hkind')

/-- What validation takes for no id. -/
def HasBlankId (m : Model) : Prop := AllBlank m.databaseId.toList

instance (m : Model) : Decidable m.HasBlankId :=
  inferInstanceAs (Decidable (AllBlank m.databaseId.toList))

/-- A header of the text declares the model, with the id that stands in it. -/
structure HeadedIn (m : Model) (text : String) : Prop where
  databaseId_ne : m.databaseId ≠ ""
  header : ∃ line ∈ significantLines text, ∃ rest,
    HeaderForm line.text m.name.toList rest ∧ FirstMark m.databaseId.toList rest

theorem hasBlankId_of_fails {noted : List Exchange} {name : String}
    (h : m.Fails noted (.missingDatabaseId name)) : m.HasBlankId ∧ m.name = name ∧ noted = [] := by
  cases h with
  | missingDatabaseId hblank => exact ⟨hblank, rfl, rfl⟩

end Model

namespace Schema

variable {s : Schema} {models before after : List Model} {m : Model} {noted : List Exchange}

theorem headedIn_of_block {b : Block} {text : String} (h : b.Fits)
    (hb : b.header ∈ significantLines text) : b.model.HeadedIn text := by
  obtain ⟨rest, hheader, hmark⟩ := h.header
  have hname : b.model.name.toList = b.name := String.toList_ofList
  have hid : b.model.databaseId.toList = b.databaseId := String.toList_ofList
  refine ⟨?_, b.header, hb, rest, hname ▸ hheader, hid ▸ hmark⟩
  intro hempty
  obtain ⟨-, -, -, ⟨hne, -⟩, -⟩ := hmark
  rw [hempty] at hid
  exact hne hid.symm

theorem headedIn_of_parse {text : String} (h : (parse text).value = .ok s) (hm : m ∈ s.models) :
    m.HeadedIn text := by
  obtain ⟨skipped, hparsed⟩ := exists_skipped_of_parse h
  obtain ⟨b, hfits, rfl, hlines⟩ := exists_block hparsed hm
  exact headedIn_of_block hfits (hlines b.header List.mem_cons_self)

/-- Models that pass with the databases noted, then one whose id is blank. -/
def StopsAtBlankId (models : List Model) (name : String) (noted : List Exchange) : Prop :=
  ∃ before m after ds, models = before ++ m :: after ∧ m.name = name ∧ m.HasBlankId ∧
    List.Forall₂ Model.Passes before ds ∧ noted = List.zipWith Model.retrieval before ds

theorem Scanned.missing_iff {outcome : Except SyncError (List ModelReport)}
    (h : Scanned models noted outcome) (name : String) :
    outcome = .error (.missingDatabaseId name) ↔ StopsAtBlankId models name noted := by
  constructor
  · rintro rfl
    obtain ⟨before, m, after, ds, last, hm, hbefore, hfails, hnoted⟩ := h.of_error
    obtain ⟨hblank, hname, rfl⟩ := Model.hasBlankId_of_fails hfails
    rw [List.append_nil] at hnoted
    exact ⟨before, m, after, ds, hm, hname, hblank, hbefore, hnoted⟩
  · rintro ⟨before, m, after, ds, hm, rfl, hblank, hbefore, rfl⟩
    have hscan := Scanned.failed before m after ds [] _ hm hbefore (.missingDatabaseId hblank)
    rw [List.append_nil] at hscan
    exact h.unique hscan

theorem validate_missing_iff {σ : Type} (service : Service σ) (s : Schema)
    (start : Session (σ × List Exchange)) :
    ∃ outcome final noted,
      (s.validate service.transcribed).run start = (outcome, final) ∧
      (s.validate service).run start.plain = (outcome, final.plain) ∧
      final.transcript = start.transcript ++ noted ∧
      ∀ name, outcome = .error (.missingDatabaseId name) ↔ StopsAtBlankId s.models name noted := by
  obtain ⟨outcome, final, noted, htranscribed, hplain, hnoted, hscan⟩ :=
    validate_transcribes_scanned service s start
  refine ⟨outcome, final, noted, htranscribed, hplain, hnoted, ?_⟩
  intro name
  rw [← hscan.missing_iff]
  cases outcome <;> simp [Except.map]

def answering : Service (List DatabaseDescriptor) where
  retrieveDatabase _ := Task.withPeer fun ds => (ds.head?.elim (.error (.timeout 0)) .ok, ds.tail)
  queryDatabase _ := return .error (.timeout 0)
  retrievePage _ := return .error (.timeout 0)

theorem run_validate_answering {d : DatabaseDescriptor} {ds : List DatabaseDescriptor}
    {start : Session (List DatabaseDescriptor)} (hp : m.Passes d) (hs : start.peer = d :: ds) :
    ∃ final, (m.validate answering).run start = (.ok (m.report d), final) ∧ final.peer = ds := by
  have hretrieved : (answering.retrieveDatabase m.databaseId).run start =
      (.ok d, { start with peer := ds }) := by
    change (Option.elim start.peer.head? _ _, { start with peer := start.peer.tail }) = _
    rw [hs]
    rfl
  have hready : m.localError? = none := Model.localError?_eq_none_iff.2 hp.ready
  rw [Model.run_validate_of_retrieved hready (congrArg Prod.fst hretrieved), hretrieved,
    Task.run_ofLogged, Model.value_check_of_passes hp]
  exact ⟨_, rfl, rfl⟩

theorem run_validateModels_answering (h : m.HasBlankId) (hbefore : ∀ m' ∈ before, m'.Coherent)
    {start : Session (List DatabaseDescriptor)} (hs : start.peer = before.map Model.described) :
    ((validateModels answering (before ++ m :: after)).run start).1 =
      .error (.missingDatabaseId m.name) := by
  induction before generalizing start with
  | nil =>
      have hlocal : m.localError? = some (.missingDatabaseId m.name) :=
        if_pos (List.all_eq_true.2 h)
      rw [List.nil_append, validateModels, Task.run_bind, Model.validate_of_localError? hlocal]
      rfl
  | cons m' before ih =>
      obtain ⟨hm', hrest⟩ := List.forall_mem_cons.1 hbefore
      obtain ⟨final, hrun, hfinal⟩ := run_validate_answering (Model.passes_described hm') hs
      rw [List.cons_append, validateModels, Task.run_bind, hrun]
      dsimp only
      rw [Task.run_bind, ih hrest hfinal]
      rfl

theorem validate_answering (h : m.HasBlankId) (hbefore : ∀ m' ∈ before, m'.Coherent)
    (hm : s.models = before ++ m :: after) :
    ((s.validate answering).run ⟨before.map Model.described, 0, []⟩).1 =
      .error (.missingDatabaseId m.name) := by
  rw [validate, Task.run_bind, hm, run_validateModels_answering h hbefore rfl]
  rfl

/-- In an accepted text every model has the id of its header, and this id is not empty. Whatever the
service, validation of the models calls an id missing exactly if it comes to an id of blanks after
models that pass with the databases retrieved for them, and nothing more is asked for then. There is
no service with which it does so exactly if every id has a visible character, up to and including
that of the first model that no database lets pass. -/
theorem missing_id_iff_blank (text : String) (s : Schema) (hs : (parse text).value = .ok s) :
    (∀ m ∈ s.models, m.HeadedIn text) ∧
    (∀ {σ : Type} (service : Service σ) (start : Session (σ × List Exchange)),
      ∃ outcome final noted,
        (s.validate service.transcribed).run start = (outcome, final) ∧
        (s.validate service).run start.plain = (outcome, final.plain) ∧
        final.transcript = start.transcript ++ noted ∧
        ∀ name, outcome = .error (.missingDatabaseId name) ↔
          StopsAtBlankId s.models name noted) ∧
    ((∀ {σ : Type} (service : Service σ) (start : Session σ) (name : String),
        ((s.validate service).run start).1 ≠ .error (.missingDatabaseId name)) ↔
      ∀ before m after, s.models = before ++ m :: after → (∀ m' ∈ before, m'.Coherent) →
        ∃ c ∈ m.databaseId.toList, isBlank c = false) := by
  refine ⟨fun m hm => headedIn_of_parse hs hm,
    fun service start => validate_missing_iff service s start, ?_, ?_⟩
  · intro hnever before m after hm hbefore
    rw [← not_allBlank_iff]
    intro hblank
    exact hnever answering _ m.name (validate_answering hblank hbefore hm)
  · intro hvisible σ service start name hmissing
    let noting : Session (σ × List Exchange) := ⟨(start.peer, []), start.now, start.log⟩
    obtain ⟨outcome, final, noted, -, hplain, -, hiff⟩ := validate_missing_iff service s noting
    have houtcome : outcome = .error (.missingDatabaseId name) :=
      (congrArg Prod.fst hplain).symm.trans hmissing
    obtain ⟨before, m, after, ds, hm, -, hblank, hpass, -⟩ := (hiff name).1 houtcome
    have hcoherent : ∀ m' ∈ before, m'.Coherent :=
      ((List.forall₂_and_left _ _).1 (hpass.imp fun _ _ hp => ⟨hp.coherent, hp⟩)).1
    exact not_allBlank_iff.2 (hvisible before m after hm hcoherent) hblank

def memberText : String :=
  "model Club @notionDatabase( \" db1 \" )\n\x7b\n  name String @title\n\x7d\n" ++
    "model Member @notionDatabase(\"db2\") \x7b\n  name String @title\n  club Club[]\n\x7d\n"

def titleField : Field := ⟨"name", "String", false, [⟨"title", none⟩]⟩

def memberSchema : Schema :=
  ⟨[⟨"Club", " db1 ", [titleField]⟩,
    ⟨"Member", "db2", [titleField, ⟨"club", "Club[]", false, []⟩]⟩]⟩

/-- Blanks around an id do no harm. -/
theorem memberText_never_missing : (parse memberText).value = .ok memberSchema ∧
    ∀ {σ : Type} (service : Service σ) (start : Session σ) (name : String),
      ((memberSchema.validate service).run start).1 ≠ .error (.missingDatabaseId name) := by
  have hparse : (parse memberText).value = .ok memberSchema := by decide +kernel
  have hvisible : ∀ m ∈ memberSchema.models, ¬ m.HasBlankId := by decide
  refine ⟨hparse, (missing_id_iff_blank memberText memberSchema hparse).2.2.2 ?_⟩
  intro before m after hm _
  exact not_allBlank_iff.1 (hvisible m (by simp [hm]))

def spaceText : String := "model Task @notionDatabase(\" \") \x7b\n  name String @title\n\x7d\n"

def spaceModel : Model := ⟨"Task", " ", [titleField]⟩

def spaceDatabase : DatabaseDescriptor := ⟨" ", [⟨"Tasks"⟩], [("Name", ⟨"", "Name", "title", []⟩)]⟩

/-- The reader takes the blank for an id, and a workspace has a database of this id that fits. -/
theorem spaceText_missing_id : (parse spaceText).value = .ok ⟨[spaceModel]⟩ ∧
    (∀ f ∈ spaceModel.fields, f.Fits spaceDatabase) ∧
    let workspace : Workspace := .ofTables [(" ", .ok spaceDatabase)] [] (.ok ⟨[], none, false⟩)
    workspace.database " " = .ok spaceDatabase ∧
    ((Schema.validate RecordedWorkspace.service ⟨[spaceModel]⟩).run ⟨⟨workspace, []⟩, 0, []⟩).1 =
      .error (.missingDatabaseId "Task") := by
  refine ⟨by decide +kernel, by decide +kernel, rfl, ?_⟩
  rfl

end Schema

end NotionSchema
