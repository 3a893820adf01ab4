import NotionSchema.Client
import NotionSchema.Http.ScriptedPeer
import NotionSchema.Proofs.Client.Attempts
import Mathlib.Tactic.Tauto

namespace NotionSchema

variable {σ α : Type}

/-- The operations of a client. A query names its database. -/
inductive RemoteCall : Type → Type
  | retrieveDatabase (id : String) : RemoteCall DatabaseDescriptor
  | queryDatabase (query : Json) (id : String) (h : query.getString? "database_id" = some id) :
      RemoteCall QueryResponse
  | retrievePage (id : String) : RemoteCall Page

namespace RemoteCall

def name : RemoteCall α → String
  | retrieveDatabase _ => "retrieve_database"
  | queryDatabase _ _ _ => "query_database"
  | retrievePage _ => "retrieve_page"

def method : RemoteCall α → HttpMethod
  | retrieveDatabase _ => .get
  | queryDatabase _ _ _ => .post
  | retrievePage _ => .get

def path : RemoteCall α → String
  | retrieveDatabase id => "databases/" ++ id
  | queryDatabase _ id _ => "databases/" ++ id ++ "/query"
  | retrievePage id => "pages/" ++ id

/-- The members of the query but the name of its database. -/
def body : RemoteCall α → Option Json
  | retrieveDatabase _ => none
  | queryDatabase query _ _ =>
    some (.object ((query.object?.getD []).filter fun e => e.1 != "database_id"))
  | retrievePage _ => none

def object : RemoteCall α → ObjectKind
  | retrieveDatabase _ => .database
  | queryDatabase _ _ _ => .database
  | retrievePage _ => .page

def id : RemoteCall α → String
  | retrieveDatabase id => id
  | queryDatabase _ id _ => id
  | retrievePage id => id

def read : RemoteCall α → String → Option α
  | retrieveDatabase _ => Client.readDatabase
  | queryDatabase _ _ _ => Client.readResponse
  | retrievePage _ => Client.readPage

def perform (c : Client) (t : Transport σ) : RemoteCall α → Task σ (Except RetryError α)
  | retrieveDatabase id => c.retrieveDatabase t id
  | queryDatabase query _ _ => c.queryDatabase t query
  | retrievePage id => c.retrievePage t id

theorem withoutKey_eq {query : Json} {id : String} (h : query.getString? "database_id" = some id) :
    Client.withoutKey "database_id" query =
      .object ((query.object?.getD []).filter fun e => e.1 != "database_id") := by
  cases query with
  | object members => rfl
  | _ => cases h

theorem perform_eq (c : Client) (t : Transport σ) (call : RemoteCall α) :
    call.perform c t = c.retry.runOn t.rate call.name
      (c.send t call.method call.path call.body call.object call.id call.read) := by
  cases call with
  | retrieveDatabase id => rfl
  | queryDatabase query id h =>
      rw [perform, Client.queryDatabase, h]
      dsimp only
      rw [withoutKey_eq h]
      rfl
  | retrievePage id => rfl

end RemoteCall

namespace HttpResponse

/-- The code that a body carries. A body that is no readable error object carries none. -/
def code? (x : HttpResponse) : Option String :=
  match ErrorBody.read? x.body with
  | some e => e.code
  | none => none

def detail (x : HttpResponse) : String :=
  match ErrorBody.read? x.body with
  | some ⟨_, some message⟩ => message
  | _ => x.body

/-- A failure that may pass by its status, unless the code says otherwise. -/
def Retryable (x : HttpResponse) : Prop :=
  (x.status = 429 ∨ 500 ≤ x.status) ∧
    x.code? ∉ [some "object_not_found", some "unauthorized", some "validation_error"]

instance : DecidablePred Retryable := fun _ => inferInstanceAs (Decidable (_ ∧ _))

end HttpResponse

namespace RemoteCall

/-- What a call comes to if a complete response is the last one. -/
inductive Yields (call : RemoteCall α) (x : HttpResponse) : Except RemoteError α → Prop
  | value (a : α) (hs : 200 ≤ x.status ∧ x.status < 300) (h : call.read x.body = some a) :
      Yields call x (.ok a)
  | unreadable (hs : 200 ≤ x.status ∧ x.status < 300) (h : call.read x.body = none) :
      Yields call x (.error Client.unexpectedForm)
  | notFound (hs : ¬ (200 ≤ x.status ∧ x.status < 300))
      (h : x.status = 404 ∨ x.code? = some "object_not_found") :
      Yields call x (.error (.notFound call.object call.id))
  | unauthorized (hs : ¬ (200 ≤ x.status ∧ x.status < 300))
      (hn : ¬ (x.status = 404 ∨ x.code? = some "object_not_found"))
      (h : x.status = 401 ∨ x.code? = some "unauthorized") :
      Yields call x (.error (.unauthorized x.detail))
  | validation (hs : ¬ (200 ≤ x.status ∧ x.status < 300))
      (hn : ¬ (x.status = 404 ∨ x.code? = some "object_not_found"))
      (hu : ¬ (x.status = 401 ∨ x.code? = some "unauthorized"))
      (h : x.code? = some "validation_error") :
      Yields call x (.error (.validation "validation_error" x.detail))
  | httpStatus (hs : ¬ (200 ≤ x.status ∧ x.status < 300))
      (hn : ¬ (x.status = 404 ∨ x.code? = some "object_not_found"))
      (hu : ¬ (x.status = 401 ∨ x.code? = some "unauthorized"))
      (hv : x.code? ≠ some "validation_error") :
      Yields call x (.error (.httpStatus x.status (x.code?.getD "unknown") x.detail))

def answer (call : RemoteCall α) (x : HttpResponse) : Except RemoteError α :=
  if Http.isSuccess x.status then (call.read x.body).elim (.error Client.unexpectedForm) .ok
  else .error (RemoteError.ofResponse x.status x.body call.object call.id)

theorem isSuccess_eq_true_iff {status : Nat} :
    Http.isSuccess status = true ↔ 200 ≤ status ∧ status < 300 := by
  simp [Http.isSuccess]

theorem ofResponse_eq (x : HttpResponse) (object : ObjectKind) (id : String) :
    RemoteError.ofResponse x.status x.body object id =
      if x.status = 404 ∨ x.code? = some "object_not_found" then .notFound object id
      else if x.status = 401 ∨ x.code? = some "unauthorized" then .unauthorized x.detail
      else if x.code? = some "validation_error" then .validation "validation_error" x.detail
      else .httpStatus x.status (x.code?.getD "unknown") x.detail := by
  have hcode : (ErrorBody.read? x.body).bind (·.code) = x.code? := by
    rw [HttpResponse.code?]
    cases ErrorBody.read? x.body <;> rfl
  have hdetail : ((ErrorBody.read? x.body).bind (·.message)).getD x.body = x.detail := by
    rw [HttpResponse.detail]
    rcases ErrorBody.read? x.body with _ | ⟨code, _ | message⟩ <;> rfl
  simp only [RemoteError.ofResponse, hcode, hdetail, Bool.or_eq_true, decide_eq_true_eq]

theorem yields_answer (call : RemoteCall α) (x : HttpResponse) :
    call.Yields x (call.answer x) := by
  rw [answer]
  split_ifs with hs
  · have hs := isSuccess_eq_true_iff.1 hs
    cases h : call.read x.body with
    | none => exact .unreadable hs h
    | some a => exact .value a hs h
  · have hs := mt isSuccess_eq_true_iff.2 hs
    rw [ofResponse_eq]
    split_ifs with hn hu hv
    · exact .notFound hs hn
    · exact .unauthorized hs hn hu
    · exact .validation hs hn hu hv
    · exact .httpStatus hs hn hu hv

theorem Yields.eq_ok {call : RemoteCall α} {x : HttpResponse} {result : Except RemoteError α}
    {a : α} (h : call.Yields x result) (hs : 200 ≤ x.status ∧ x.status < 300)
    (hread : call.read x.body = some a) : result = .ok a := by
  cases h with
  | value b _ h => rw [Option.some.inj (h.symm.trans hread)]
  | unreadable _ h => exact absurd (h.symm.trans hread) (Option.some_ne_none a).symm
  | notFound hn | unauthorized hn | validation hn | httpStatus hn => exact absurd hs hn

theorem Yields.eq_notFound {call : RemoteCall α} {x : HttpResponse}
    {result : Except RemoteError α} (h : call.Yields x result)
    (hs : ¬ (200 ≤ x.status ∧ x.status < 300))
    (hcode : x.status = 404 ∨ x.code? = some "object_not_found") :
    result = .error (.notFound call.object call.id) := by
  cases h with
  | value _ h | unreadable h => exact absurd h hs
  | notFound => rfl
  | unauthorized _ hn | validation _ hn | httpStatus _ hn => exact absurd hcode hn

theorem Yields.mayPass_iff {call : RemoteCall α} {x : HttpResponse}
    {result : Except RemoteError α} (h : call.Yields x result) :
    mayPass result = true ↔ x.Retryable := by
  cases h with
  | value a hs | unreadable hs =>
      -- Neither an answer nor one that cannot be read is a failure that may pass.
      have hstatus : ¬ (x.status = 429 ∨ 500 ≤ x.status) := by omega
      exact iff_of_false Bool.false_ne_true fun hr => hstatus hr.1
  | notFound hs h =>
      refine iff_of_false Bool.false_ne_true fun hr => ?_
      rcases h with h | h
      · have hstatus := hr.1
        omega
      · exact hr.2 (by simp [h])
  | unauthorized hs hn h =>
      refine iff_of_false Bool.false_ne_true fun hr => ?_
      rcases h with h | h
      · have hstatus := hr.1
        omega
      · exact hr.2 (by simp [h])
  | validation hs hn hu h =>
      exact iff_of_false Bool.false_ne_true fun hr => hr.2 (by simp [h])
  | httpStatus hs hn hu hv =>
      have hcode : x.code? ∉
          [some "object_not_found", some "unauthorized", some "validation_error"] := by
        simp only [List.mem_cons, List.not_mem_nil, or_false]
        tauto
      simp only [mayPass, RemoteError.isRetryable, HttpResponse.Retryable, hcode,
        Bool.or_eq_true, decide_eq_true_eq, beq_iff_eq]
      tauto

end RemoteCall

namespace Transport

/-- The peer answers the request by the responses in order, whenever it is sent. -/
def Serves (t : Transport σ) (r : HttpRequest) (responses : Nat → HttpResponse)
    (peers : Nat → σ) : Prop :=
  ∀ n now log, ∃ now' log', (t.exchange r).run ⟨peers n, now, log⟩ =
    (.response (responses n), ⟨peers (n + 1), now', log'⟩)

def recorded (t : Transport σ) : Transport (σ × List HttpRequest) where
  rate := t.rate
  exchange r := fun s =>
    let out := (t.exchange r).run ⟨s.peer.1, s.now, s.log⟩
    (out.1, ⟨(out.2.peer, s.peer.2 ++ [r]), out.2.now, out.2.log⟩)

variable {t : Transport σ} {r : HttpRequest} {responses : Nat → HttpResponse} {peers : Nat → σ}

theorem Serves.recorded (h : t.Serves r responses peers) :
    t.recorded.Serves r responses fun n => (peers n, List.replicate n r) := by
  intro n now log
  obtain ⟨now', log', hrun⟩ := h n now log
  refine ⟨now', log', ?_⟩
  dsimp only
  rw [List.replicate_succ']
  change (((t.exchange r).run ⟨peers n, now, log⟩).1, _) = _
  rw [hrun]

end Transport

namespace ScriptedPeer

variable {p : ScriptedPeer} {r : HttpRequest} {script : List HttpResponse}

def received (script : List HttpResponse) (n : Nat) : HttpResponse :=
  let x := script.getD n ⟨400, "script exhausted", .complete⟩
  if Http.hasNoBody x.status then ⟨x.status, "", .complete⟩ else x

theorem received_complete (h : ∀ x ∈ script, x.transfer = .complete) (n : Nat) :
    (received script n).transfer = .complete := by
  rw [received]
  split_ifs
  · rfl
  · rw [List.getD_eq_getElem?_getD]
    cases hx : script[n]? with
    | none => rfl
    | some x => exact h x (List.mem_of_getElem? hx)

theorem delivery_drop (hfinal : ∀ x ∈ script, Http.isFinal x.status = true) (n : Nat) :
    (((script.map ScriptedReply.response).drop n).headD .exhausted).delivery =
      .response (received script n) := by
  rw [List.headD_eq_head?_getD, List.head?_drop, List.getElem?_map, received,
    List.getD_eq_getElem?_getD]
  cases hx : script[n]? with
  | none => rfl
  | some x =>
      have hx := hfinal x (List.mem_of_getElem? hx)
      change x.received = _
      rw [HttpResponse.received, if_pos hx]
      rfl

/-- The peer when it has got the request that often. -/
def after (p : ScriptedPeer) (r : HttpRequest) (n : Nat) : ScriptedPeer :=
  { p with script := p.script.drop n, requests := p.requests ++ List.replicate n (asReceived r) }

theorem serves (hp : p.script = script.map .response) (hl : p.listensAt r.url = true)
    (hfinal : ∀ x ∈ script, Http.isFinal x.status = true) :
    transport.Serves r (received script) (p.after r) := by
  intro n now log
  have hstep : (p.after r n).step r = (.response (received script n), p.after r (n + 1)) := by
    have hlistens : (p.after r n).listensAt r.url = true := hl
    rw [step, if_pos hlistens, after, hp, delivery_drop hfinal, List.tail_drop, List.append_assoc,
      ← List.replicate_succ', after, hp]
  refine ⟨now, log, ?_⟩
  change (((p.after r n).step r).1, (⟨((p.after r n).step r).2, now, log⟩ : Session _)) = _
  rw [hstep]

end ScriptedPeer

namespace Client

variable {t : Transport σ} {responses : Nat → HttpResponse} {peers : Nat → σ} {url : Url}

theorem canSend_request (c : Client) (method : HttpMethod) (url : Url) (body : Option Json) :
    canSend (c.request method url body).url = canSend url := by
  rw [request]
  cases credentials? url <;> rfl

theorem method_request (c : Client) (method : HttpMethod) (url : Url) (body : Option Json) :
    (c.request method url body).method = method := by
  rw [request]
  cases credentials? url <;> rfl

theorem body_request (c : Client) (method : HttpMethod) (url : Url) (body : Option Json) :
    (c.request method url body).body = body.map Json.compact := by
  rw [request]
  cases credentials? url <;> rfl

theorem url_request (c : Client) (method : HttpMethod) (url : Url) (body : Option Json) :
    (c.request method url body).url = url ∨ (c.request method url body).url = url.withoutUser := by
  rw [request]
  cases credentials? url with
  | none => exact .inl rfl
  | some credentials => exact .inr rfl

theorem run_receive (c : Client) (rate : Nat) (call : RemoteCall α) {x : HttpResponse}
    (hx : x.transfer = .complete) (s : Session σ) :
    ∃ log, (c.receive rate x call.object call.id call.read).run s =
      (call.answer x, { s with log := log }) := by
  rw [receive, wait, decoded, bodyText, hx, RemoteCall.answer]
  cases Http.isSuccess x.status with
  | false => exact ⟨_, rfl⟩
  | true => exact ⟨s.log, rfl⟩

theorem run_deliver (c : Client) (call : RemoteCall α) {r : HttpRequest} {x : HttpResponse}
    {s s' : Session σ} (hsend : canSend r.url = true)
    (h : (t.exchange r).run s = (.response x, s')) :
    (c.deliver t r call.object call.id call.read).run s =
      (c.receive t.rate x call.object call.id call.read).run s' := by
  rw [deliver, if_pos hsend, Task.run_bind, h]

theorem send_attempts (c : Client) (call : RemoteCall α) (hurl : c.url call.path = .ok url)
    (hsend : canSend url = true)
    (hserves : t.Serves (c.request call.method url call.body) responses peers)
    (hcomplete : ∀ n, (responses n).transfer = .complete) :
    Attempts (c.send t call.method call.path call.body call.object call.id call.read)
      (fun n => call.answer (responses n)) peers := by
  intro n now log
  obtain ⟨now', log', hrun⟩ := hserves n now (log ++ c.bodyEvents call.body)
  obtain ⟨log'', hreceive⟩ :=
    c.run_receive t.rate call (hcomplete n) ⟨peers (n + 1), now', log'⟩
  have hsend' := (c.canSend_request call.method url call.body).trans hsend
  refine ⟨now', log'', ?_⟩
  rw [send, hurl]
  exact (c.run_deliver call hsend' hrun).trans hreceive

theorem attemptsMade_answers (c : Client) (call : RemoteCall α) (responses : Nat → HttpResponse) :
    c.retry.attemptsMade (fun n => mayPass (call.answer (responses n))) =
      c.retry.attemptsMade fun n => (responses n).Retryable := by
  congr
  funext n
  exact Bool.eq_iff_iff.2 ((call.yields_answer (responses n)).mayPass_iff.trans
    decide_eq_true_iff.symm)

section

variable (c : Client) (call : RemoteCall α) (hurl : c.url call.path = .ok url)
  (hsend : canSend url = true)
  (hserves : t.Serves (c.request call.method url call.body) responses peers)
  (hcomplete : ∀ n, (responses n).transfer = .complete) (now : Nat) (log : List LogEvent)

include hurl hsend hserves hcomplete

theorem run_perform_of_fits :
    let k := c.retry.attemptsMade fun n => (responses n).Retryable
    let out := (call.perform c t.recorded).run ⟨(peers 0, []), now, log⟩
    RetryPolicy.spanFits t.rate (c.retry.baseDelay * (k - 1)) = true →
    out.1 = (call.answer (responses (k - 1))).mapError .failed ∧
      out.2.peer.2 = List.replicate k (c.request call.method url call.body) := by
  intro k out hfits
  have hattempts := c.send_attempts call hurl hsend hserves.recorded hcomplete
  have hk : c.retry.attemptsMade (fun n => mayPass (call.answer (responses n))) = k :=
    c.attemptsMade_answers call responses
  obtain ⟨hresult, hpeer⟩ :=
    c.retry.runOn_decides t.rate call.name hattempts (hk.symm ▸ hfits) now log
  have hout : out = _ :=
    congrArg (fun task => task.run ⟨(peers 0, []), now, log⟩) (call.perform_eq c t.recorded)
  rw [hk] at hresult hpeer
  rw [hout]
  exact ⟨hresult, congrArg Prod.snd hpeer⟩

theorem run_perform_of_not_fits :
    let k := c.retry.attemptsMade fun n => (responses n).Retryable
    let out := (call.perform c t.recorded).run ⟨(peers 0, []), now, log⟩
    RetryPolicy.spanFits t.rate (c.retry.baseDelay * (k - 1)) = false →
    ∃ n, 0 < n ∧ n < k ∧ 2 ^ 64 ≤ c.retry.baseDelay * n / t.rate ∧
      (∀ m < n, c.retry.baseDelay * m / t.rate < 2 ^ 64) ∧ out.1 = .error .pauseOverflow ∧
      out.2.peer.2 = List.replicate n (c.request call.method url call.body) := by
  intro k out hlong
  have hattempts := c.send_attempts call hurl hsend hserves.recorded hcomplete
  have hk : c.retry.attemptsMade (fun n => mayPass (call.answer (responses n))) = k :=
    c.attemptsMade_answers call responses
  obtain ⟨n, hpos, hlt, hpause, hshort, hresult, hpeer⟩ :=
    c.retry.runOn_stops t.rate call.name hattempts (hk.symm ▸ hlong) now log
  have hout : out = _ :=
    congrArg (fun task => task.run ⟨(peers 0, []), now, log⟩) (call.perform_eq c t.recorded)
  rw [hout]
  refine ⟨n, hpos, hk ▸ hlt, ?_, fun m hm => RetryPolicy.spanFits_iff.1 (hshort m hm), hresult,
    congrArg Prod.snd hpeer⟩
  exact Nat.not_lt.1 fun h => Bool.false_ne_true (hpause.symm.trans (RetryPolicy.spanFits_iff.2 h))

end

def localClient : Client :=
  ⟨⟨"http", some ⟨"", none, .name "localhost", some 8080⟩, .segments ["v1", ""], none, none⟩,
    some "secret", "2022-06-28", 5000, ⟨3, 100⟩, false⟩

def localAddress (segments : List String) : Url :=
  ⟨"http", some ⟨"", none, .name "localhost", some 8080⟩, .segments segments, none, none⟩

def localRequest (method : HttpMethod) (segments : List String) (body : Option String) :
    HttpRequest :=
  ⟨method, localAddress segments, some "Bearer secret", "2022-06-28", body⟩

def localPeer (script : List HttpResponse) : ScriptedPeer :=
  ⟨.name "localhost", 8080, script.map .response, []⟩

def localRun (c : Client) (script : List HttpResponse) (call : RemoteCall α) :
    Except RetryError α × Session (ScriptedPeer × List HttpRequest) :=
  (call.perform c ScriptedPeer.transport.recorded).run ⟨(localPeer script, []), 0, []⟩

def pagedQuery : Json := .object [("database_id", .string "db1"), ("page_size", .nat 5)]

/-- The last body can be read as a database, as a page and as an answer to a query. -/
def busyScript : List HttpResponse :=
  [⟨502, "bad gateway", .complete⟩, ⟨429, "\x7b\"code\": \"rate_limited\"\x7d", .complete⟩,
    ⟨200, "\x7b\"id\": \"x1\", \"results\": [\x7b\"id\": \"p1\"\x7d], \"has_more\": true\x7d",
      .complete⟩]

/-- The second failure is one that may pass by its status, but not by its code. -/
def failingScript : List HttpResponse :=
  [⟨502, "bad gateway", .complete⟩,
    ⟨503, "\x7b\"code\": \"object_not_found\", \"message\": \"gone\"\x7d", .complete⟩,
    ⟨200, "\x7b\"id\": \"p1\"\x7d", .complete⟩]

theorem request_localAddress {c : Client} (ht : c.token = some "secret")
    (hv : c.version = "2022-06-28") (method : HttpMethod) (segments : List String)
    (body : Option Json) : c.request method (localAddress segments) body =
      localRequest method segments (body.map Json.compact) := by
  -- Only the authority of an address has credentials.
  have hnone : credentials? (localAddress segments) = none := by
    change credentials? (localAddress []) = none
    decide +kernel
  rw [request, hnone]
  dsimp only
  rw [ht, hv]
  rfl

theorem url_page {c : Client} (h : c.baseUrl = localClient.baseUrl) :
    c.url "pages/p1" = .ok (localAddress ["v1", "pages", "p1"]) := by
  have hlocal : localClient.url "pages/p1" = .ok (localAddress ["v1", "pages", "p1"]) := by
    decide +kernel
  rw [url, h]
  exact hlocal

theorem localPeer_serves (script : List HttpResponse)
    (hfinal : ∀ x ∈ script, Http.isFinal x.status = true) (method : HttpMethod)
    (segments : List String) (body : Option String) :
    ScriptedPeer.transport.Serves (localRequest method segments body)
      (ScriptedPeer.received script)
      ((localPeer script).after (localRequest method segments body)) := by
  refine ScriptedPeer.serves rfl ?_ hfinal
  change (localPeer []).listensAt (localAddress []) = true
  decide +kernel

theorem localPeer_after_zero (script : List HttpResponse) (r : HttpRequest) :
    (localPeer script).after r 0 = localPeer script := rfl

/-- The base delay is the longest that 64 bits count in milliseconds. -/
def patientClient : Client := { localClient with retry := ⟨1002, 18446744073709551615⟩ }

def patientScript : List HttpResponse := List.replicate 1002 ⟨503, "busy", .complete⟩

theorem retryable_patientScript {n : Nat} (hn : n < 1002) :
    (ScriptedPeer.received patientScript n).Retryable := by
  have hget : patientScript.getD n ⟨400, "script exhausted", .complete⟩ =
      ⟨503, "busy", .complete⟩ := by
    rw [patientScript, List.getD_eq_getElem?_getD, List.getElem?_replicate_of_lt hn]
    rfl
  rw [ScriptedPeer.received, hget]
  decide +kernel

theorem attemptsMade_patientClient : patientClient.retry.attemptsMade (fun n =>
    (ScriptedPeer.received patientScript n).Retryable) = 1002 := by
  obtain ⟨hpos, hle, -, hend⟩ := patientClient.retry.attemptsMade_spec fun n =>
    (ScriptedPeer.received patientScript n).Retryable
  have hall : patientClient.retry.attempts = 1002 := by decide
  refine hend.elim (·.trans hall) fun hfinal => ?_
  exact absurd (retryable_patientScript (by omega)) (of_decide_eq_false hfinal)

end Client

end NotionSchema
