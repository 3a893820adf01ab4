import NotionSchema.CommandLine.Program
import NotionSchema.Http.ScriptedPeer
import NotionSchema.Proofs.Client.Envelope
import NotionSchema.Proofs.Remote.InMemory

namespace NotionSchema

namespace Environment

/-- The address that counts: what is set, if it can be read, or else that of the service. -/
inductive Locates (env : Environment) : Url → Prop
  | service (h : env.get? "NOTION_BASE_URL" = none) : Locates env Configuration.serviceAddress
  | given (value : String) (c : Configuration) (hvalue : env.get? "NOTION_BASE_URL" = some value)
      (h : Configuration.default.withBaseUrl value = .ok c) : Locates env c.baseUrl

/-- The token that counts is not blank. The second variable is looked at only if the first one is
not set at all. -/
structure Authorizes (env : Environment) (token : String) : Prop where
  visible : ∃ c ∈ token.toList, Text.isBlank c = false
  found : env.get? "NOTION_TOKEN" = some token ∨
    env.get? "NOTION_TOKEN" = none ∧ env.get? "NOTION_API_KEY" = some token

def client (env : Environment) (url : Url) (token : String) : Client where
  baseUrl := url
  token := some token
  version := (env.get? "NOTION_VERSION").getD Configuration.serviceVersion
  timeout := 30000
  retry := .default
  debug := (env.get? "NORM_DEBUG").any Configuration.isOn

variable {env : Environment} {url : Url} {token : String}

theorem token?_eq_some_iff : env.token? = some token ↔ env.Authorizes token := by
  have hvisible : (!Text.isBlankText token) = true ↔
      ∃ c ∈ token.toList, Text.isBlank c = false := by
    simp [Text.isBlankText]
  have hfound : tokenVariables.findSome? env.get? = some token ↔
      env.get? "NOTION_TOKEN" = some token ∨
        env.get? "NOTION_TOKEN" = none ∧ env.get? "NOTION_API_KEY" = some token := by
    rw [tokenVariables]
    cases h : env.get? "NOTION_TOKEN" <;> simp [List.findSome?, h]
    cases env.get? "NOTION_API_KEY" <;> simp
  rw [token?, Option.filter_eq_some_iff, hfound, hvisible]
  exact ⟨fun h => ⟨h.2, h.1⟩, fun h => ⟨h.found, h.visible⟩⟩

theorem Locates.unique {url' : Url} (h : env.Locates url) (h' : env.Locates url') : url = url' := by
  cases h with
  | service hnone =>
      cases h' with
      | service => rfl
      | given _ _ hvalue => cases hnone.symm.trans hvalue
  | given value c hvalue hc =>
      cases h' with
      | service hnone => cases hnone.symm.trans hvalue
      | given value' c' hvalue' hc' =>
          cases hvalue.symm.trans hvalue'
          cases hc.symm.trans hc'
          rfl

theorem Authorizes.unique {token' : String} (h : env.Authorizes token)
    (h' : env.Authorizes token') : token = token' :=
  Option.some.inj ((token?_eq_some_iff.2 h).symm.trans (token?_eq_some_iff.2 h'))

end Environment

namespace Configuration

variable {env : Environment} {url : Url}

def located (env : Environment) (url : Url) : Configuration where
  token := env.token?
  baseUrl := url
  version := (env.get? "NOTION_VERSION").getD Configuration.serviceVersion
  locale := (localeOf (env.get? "NORM_LOCALE")).value
  debug := (env.get? "NORM_DEBUG").any isOn
  timeout := 30000
  retry := .default

theorem withBaseUrl_eq (c : Configuration) (value : String) : c.withBaseUrl value =
    (Configuration.default.withBaseUrl value).map fun d => { c with baseUrl := d.baseUrl } := by
  delta withBaseUrl
  cases Url.parse (directoryText value) <;> rfl

theorem ofEnvironment_eq_located (h : env.Locates url) :
    (ofEnvironment env).value = .ok (located env url) := by
  rw [ofEnvironment]
  cases h with
  | service hnone =>
      rw [hnone]
      rfl
  | given value c hvalue hc =>
      rw [hvalue, Option.elim_some, withBaseUrl_eq, hc]
      rfl

theorem ofEnvironment_fails (h : ∀ url, ¬ env.Locates url) :
    ∃ e, (ofEnvironment env).value = .error e := by
  rw [ofEnvironment]
  cases hvalue : env.get? "NOTION_BASE_URL" with
  | none => exact absurd (.service hvalue) (h _)
  | some value =>
      rw [Option.elim_some, withBaseUrl_eq]
      cases hc : Configuration.default.withBaseUrl value with
      | error e => exact ⟨e, rfl⟩
      | ok c => exact absurd (.given value c hvalue hc) (h _)

end Configuration

namespace Client

variable {env : Environment} {url : Url} {token : String}

def LegalHeaders (env : Environment) : Prop :=
  ∀ name ∈ "NOTION_VERSION" :: Environment.tokenVariables,
    (env.get? name).all Http.isHeaderValue = true

instance : Decidable (LegalHeaders env) := List.decidableBAll _ _

theorem isHeaderValue_version (h : LegalHeaders env) :
    Http.isHeaderValue ((env.get? "NOTION_VERSION").getD Configuration.serviceVersion) = true := by
  have hlegal := h "NOTION_VERSION" (by decide)
  cases hversion : env.get? "NOTION_VERSION" with
  | none => decide
  | some version => rwa [hversion] at hlegal

theorem isHeaderValue_bearer (h : LegalHeaders env) (htoken : env.Authorizes token) :
    Http.isHeaderValue (bearer token) = true := by
  have hlegal : Http.isHeaderValue token = true := by
    rcases htoken.found with hfirst | ⟨-, hsecond⟩
    · have hlegal := h "NOTION_TOKEN" (by decide)
      rwa [hfirst] at hlegal
    · have hlegal := h "NOTION_API_KEY" (by decide)
      rwa [hsecond] at hlegal
  rw [Http.isHeaderValue] at hlegal ⊢
  rw [bearer, String.toList_append, List.all_append, hlegal]
  decide

theorem ofConfiguration_located (h : LegalHeaders env) (htoken : env.Authorizes token) :
    ofConfiguration (.located env url) = .ok (env.client url token) := by
  have hsome : (Configuration.located env url).token = some token :=
    Environment.token?_eq_some_iff.2 htoken
  rw [ofConfiguration, Configuration.requireToken, hsome]
  change checked (env.client url token) = _
  have hversion : checkHeader "Notion-Version" (env.client url token).version = .ok () :=
    if_pos (isHeaderValue_version h)
  have hbearer : checkHeader "Authorization" (bearer token) = .ok () :=
    if_pos (isHeaderValue_bearer h htoken)
  rw [checked, hversion]
  simp only [Environment.client, hbearer]
  rfl

theorem ofConfiguration_fails (htoken : ∀ token, ¬ env.Authorizes token) :
    ofConfiguration (.located env url) = .error .missingToken := by
  have hnone : (Configuration.located env url).token = none :=
    Option.eq_none_iff_forall_ne_some.2 fun token h =>
      htoken token (Environment.token?_eq_some_iff.1 h)
  rw [ofConfiguration, Configuration.requireToken, hnone]
  rfl

end Client

namespace CommandLine

variable {σ : Type}

/-- What is needed before the service can be asked. -/
structure Prepared (env : Environment) (text : String) (url : Url) (token : String)
    (schema : Schema) : Prop where
  address : env.Locates url
  token : env.Authorizes token
  parsed : ∃ skipped, (Schema.parseWithSkipped text).value = .ok (schema, skipped)

abbrev validation (s : Surroundings σ) (url : Url) (token : String) (schema : Schema)
    (start : Session σ) : Except SyncError SyncReport × Session σ :=
  (schema.validate ((s.environment.client url token).service s.transport)).run start

section

variable {s : Surroundings σ} {arguments : List String} {path text : String} {json : Bool}
  {cause : FileError} {url : Url} {token : String} {schema : Schema}

theorem run_check (hread : readArguments arguments = .ok ⟨.check, path, json⟩)
    (hlocal : s.files ".env" = .error cause) (start : Session σ) :
    (run s arguments).run start =
      match (Configuration.ofEnvironment s.environment).value with
      | .error e => (.ok (.failure [] (.configuration e)), start)
      | .ok c =>
        let out := (runCheck s.files s.transport ⟨.check, path, json⟩ c).run start
        (.ok out.1, out.2) := by
  rw [run, hread]
  change ((fun o => Except.ok o) <$> runRequest s _).run start = _
  rw [runRequest, Surroundings.allVariables, hlocal]
  cases (Configuration.ofEnvironment s.environment).value <;> rfl

theorem loadSchema_eq (hfile : s.files.readText path = .ok text) :
    loadSchema s.files path = (Schema.parseWithSkipped text).value.mapError .malformed := by
  rw [loadSchema, hfile]
  rfl

theorem Prepared.unique {url' : Url} {token' : String} {schema' : Schema}
    {env : Environment} (h : Prepared env text url token schema)
    (h' : Prepared env text url' token' schema') :
    url = url' ∧ token = token' ∧ schema = schema' := by
  obtain ⟨skipped, hparsed⟩ := h.parsed
  obtain ⟨skipped', hparsed'⟩ := h'.parsed
  refine ⟨h.address.unique h'.address, h.token.unique h'.token, ?_⟩
  cases hparsed.symm.trans hparsed'
  rfl

theorem run_prepared (hread : readArguments arguments = .ok ⟨.check, path, json⟩)
    (hlocal : s.files ".env" = .error cause) (hfile : s.files.readText path = .ok text)
    (hheaders : Client.LegalHeaders s.environment)
    (h : Prepared s.environment text url token schema) (start : Session σ) :
    ∃ o, (run s arguments).run start = (.ok o, (validation s url token schema start).2) ∧
      (o.exitCode = 0 ↔ ∃ report, (validation s url token schema start).1 = .ok report) := by
  obtain ⟨skipped, hparsed⟩ := h.parsed
  rw [run_check hread hlocal, Configuration.ofEnvironment_eq_located h.address]
  simp only [runCheck, loadSchema_eq hfile, hparsed, Except.mapError, checkSchema,
    Client.ofConfiguration_located hheaders h.token, Task.run_bind, validation]
  generalize (schema.validate ((s.environment.client url token).service s.transport)).run start =
    out
  obtain ⟨result, final⟩ := out
  cases result with
  | error e => exact ⟨_, rfl, iff_of_false Nat.one_ne_zero fun ⟨_, h⟩ => nomatch h⟩
  | ok report => exact ⟨_, rfl, iff_of_true rfl ⟨report, rfl⟩⟩

theorem run_unprepared (hread : readArguments arguments = .ok ⟨.check, path, json⟩)
    (hlocal : s.files ".env" = .error cause) (hfile : s.files.readText path = .ok text)
    (h : ∀ url token schema, ¬ Prepared s.environment text url token schema)
    (start : Session σ) :
    ∃ o, (run s arguments).run start = (.ok o, start) ∧ o.exitCode = 1 := by
  rw [run_check hread hlocal]
  by_cases hlocated : ∃ url, s.environment.Locates url
  · obtain ⟨url, hlocated⟩ := hlocated
    rw [Configuration.ofEnvironment_eq_located hlocated]
    simp only [runCheck, loadSchema_eq hfile]
    cases hparsed : (Schema.parseWithSkipped text).value with
    | error e => exact ⟨_, rfl, rfl⟩
    | ok out =>
        have hblank : ∀ token, ¬ s.environment.Authorizes token := fun token htoken =>
          h url token out.1 ⟨hlocated, htoken, out.2, hparsed⟩
        simp only [Except.mapError, checkSchema, Client.ofConfiguration_fails hblank]
        exact ⟨_, rfl, rfl⟩
  · obtain ⟨e, he⟩ := Configuration.ofEnvironment_fails fun url hurl => hlocated ⟨url, hurl⟩
    rw [he]
    exact ⟨_, rfl, rfl⟩

end

/-- Let no file add variables, let the schema be readable, and let what goes into header fields be
legal there. Then a check ends with an exit code. It is 0 exactly if there are an address, a token
and a schema, and the client that they make finds the schema valid. Without one of the three the
session stays as it was, so that a transport that notes requests has nothing to note. -/
theorem check_succeeds_iff (s : Surroundings σ) (arguments : List String) (path text : String)
    (json : Bool) (cause : FileError)
    (hread : readArguments arguments = .ok ⟨.check, path, json⟩)
    (hlocal : s.files ".env" = .error cause) (hfile : s.files.readText path = .ok text)
    (hheaders : Client.LegalHeaders s.environment) (start : Session σ) :
    ∃ o final, (run s arguments).run start = (.ok o, final) ∧
      (o.exitCode = 0 ↔ ∃ url token schema, Prepared s.environment text url token schema ∧
        ∃ report, (validation s url token schema start).1 = .ok report) ∧
      ((∀ url token schema, ¬ Prepared s.environment text url token schema) → final = start) := by
  by_cases hprepared : ∃ url token schema, Prepared s.environment text url token schema
  · obtain ⟨url, token, schema, hprepared⟩ := hprepared
    obtain ⟨o, hrun, hcode⟩ := run_prepared hread hlocal hfile hheaders hprepared start
    refine ⟨o, _, hrun, hcode.trans ⟨fun hvalid => ?_, ?_⟩, fun h => absurd hprepared (h _ _ _)⟩
    · exact ⟨url, token, schema, hprepared, hvalid⟩
    · rintro ⟨url', token', schema', hprepared', hvalid⟩
      obtain ⟨rfl, rfl, rfl⟩ := hprepared.unique hprepared'
      exact hvalid
  · have hnot : ∀ url token schema, ¬ Prepared s.environment text url token schema :=
      fun url token schema h => hprepared ⟨url, token, schema, h⟩
    obtain ⟨o, hrun, hcode⟩ := run_unprepared hread hlocal hfile hnot start
    refine ⟨o, start, hrun, iff_of_false ?_ ?_, fun _ => rfl⟩
    · rw [hcode]
      exact Nat.one_ne_zero
    · rintro ⟨url, token, schema, h, -⟩
      exact hnot url token schema h

def booksText : String :=
  "model Book @notionDatabase(\"books\") \x7b\n  name String @title\n\x7d\n"

def booksSchema : Schema :=
  ⟨[⟨"Book", "books", [⟨"name", "String", false, [⟨"title", none⟩]⟩]⟩]⟩

def booksReply : HttpResponse where
  status := 200
  body := "\x7b\"id\": \"books\", \"title\": [\x7b\"plain_text\": \"Books\"\x7d], " ++
    "\"properties\": \x7b\"Name\": \x7b\"id\": \"title\", \"type\": \"title\"\x7d\x7d\x7d"
  transfer := .complete

def booksUrl : Url :=
  ⟨"http", some ⟨"", none, .name "localhost", some 8080⟩, .segments ["v1", ""], none, none⟩

def booksFiles : FileReader := Directory.reader ⟨[("books.norm", booksText.toUTF8.toList)]⟩

def booksSurroundings (tokens : Environment) : Surroundings (ScriptedPeer × List HttpRequest) where
  files := booksFiles
  environment := ("NOTION_BASE_URL", "http://localhost:8080/v1") :: tokens
  transport := ScriptedPeer.transport.recorded

def booksStart : Session (ScriptedPeer × List HttpRequest) :=
  ⟨(⟨.name "localhost", 8080, [.response booksReply], []⟩, []), 0, []⟩

theorem books_located (tokens : Environment) :
    (booksSurroundings tokens).environment.Locates booksUrl :=
  .given "http://localhost:8080/v1" { Configuration.default with baseUrl := booksUrl } rfl
    (by decide +kernel)

theorem booksText_parsed : (Schema.parseWithSkipped booksText).value = .ok (booksSchema, []) := by
  decide +kernel

theorem booksFiles_readable :
    booksFiles ".env" = .error .notFound ∧ booksFiles.readText "books.norm" = .ok booksText := by
  decide +kernel

theorem booksSchema_checked : ∃ o final,
    (run (booksSurroundings [("NOTION_API_KEY", "secret")]) ["check", "books.norm"]).run
      booksStart = (.ok o, final) ∧ o.exitCode = 0 := by
  obtain ⟨o, final, hrun, hcode, -⟩ := check_succeeds_iff
    (booksSurroundings [("NOTION_API_KEY", "secret")]) ["check", "books.norm"] _ _ false _
    (by decide +kernel) booksFiles_readable.1 booksFiles_readable.2 (by decide +kernel) booksStart
  have htoken : (booksSurroundings [("NOTION_API_KEY", "secret")]).environment.Authorizes
      "secret" := Environment.token?_eq_some_iff.1 (by decide +kernel)
  refine ⟨o, final, hrun, hcode.2 ⟨booksUrl, "secret", booksSchema, ?_, ?_⟩⟩
  · exact ⟨books_located _, htoken, [], booksText_parsed⟩
  · exact ⟨⟨[⟨"Book", "books", "Books", []⟩]⟩, by decide +kernel⟩

/-- There is an address and a schema, and a token that is not blank, by which the schema is valid;
but the other token variable is set, too, and blank. -/
theorem blankToken_hides_key :
    let s := booksSurroundings [("NOTION_TOKEN", ""), ("NOTION_API_KEY", "secret")]
    s.files ".env" = .error .notFound ∧ s.files.readText "books.norm" = .ok booksText ∧
    Client.LegalHeaders s.environment ∧ s.environment.Locates booksUrl ∧
    (Schema.parseWithSkipped booksText).value = .ok (booksSchema, []) ∧
    s.environment.get? "NOTION_API_KEY" = some "secret" ∧
    (∃ report, (validation s booksUrl "secret" booksSchema booksStart).1 = .ok report) ∧
    ∃ o, ((run s ["check", "books.norm"]).run booksStart).1 = .ok o ∧ o.exitCode = 1 := by
  refine ⟨booksFiles_readable.1, booksFiles_readable.2, by decide +kernel, books_located _,
    booksText_parsed, rfl, ?_, ?_⟩
  · exact ⟨⟨[⟨"Book", "books", "Books", []⟩]⟩, by decide +kernel⟩
  · exact ⟨.failure [] (.configuration .missingToken), by decide +kernel, rfl⟩

end CommandLine

end NotionSchema
