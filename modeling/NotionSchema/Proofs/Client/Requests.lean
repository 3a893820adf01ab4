import NotionSchema.Proofs.Client.Envelope

namespace NotionSchema

variable {σ α β : Type}

namespace Task

/-- Wherever the task starts, it sends nothing but this request, and that so many times or more. -/
def Sends (r : HttpRequest) (least : Nat) (t : Task (σ × List HttpRequest) α) : Prop :=
  ∀ s, ∃ k, least ≤ k ∧ (t.run s).2.peer.2 = s.peer.2 ++ List.replicate k r

variable {r : HttpRequest} {n m : Nat} {t : Task (σ × List HttpRequest) α}

theorem sends_of_peer (h : ∀ s, (t.run s).2.peer.2 = s.peer.2) : Sends r 0 t :=
  fun s => ⟨0, le_rfl, by rw [h s, List.replicate_zero, List.append_nil]⟩

theorem Sends.bind {f : α → Task (σ × List HttpRequest) β} (h : Sends r n t)
    (hf : ∀ a, Sends r m (f a)) : Sends r (n + m) (t >>= f) := by
  intro s
  obtain ⟨k, hk, hrun⟩ := h s
  obtain ⟨l, hl, hnext⟩ := hf (t.run s).1 (t.run s).2
  refine ⟨k + l, Nat.add_le_add hk hl, ?_⟩
  rw [run_bind, hnext, hrun, List.append_assoc, List.replicate_append_replicate]

theorem Sends.of_zero {f : α → Task (σ × List HttpRequest) β}
    (h : ∀ s, (t.run s).2.peer.2 = s.peer.2) (hf : ∀ a, Sends r m (f a)) :
    Sends r m (t >>= f) := by
  have hbind := (sends_of_peer h).bind hf
  rwa [Nat.zero_add] at hbind

theorem Sends.weaken (h : Sends r n t) : Sends r 0 t := by
  intro s
  obtain ⟨k, -, hrun⟩ := h s
  exact ⟨k, k.zero_le, hrun⟩

end Task

theorem RetryPolicy.sends_attemptOn (p : RetryPolicy) (rate : Nat) (name : String)
    {r : HttpRequest} {n : Nat} {operation : Task (σ × List HttpRequest) (Except RemoteError α)}
    (h : Task.Sends r n operation) (left attempt : Nat) :
    Task.Sends r n (p.attemptOn rate name operation left attempt) := by
  induction left generalizing attempt with
  | zero => exact h.bind fun _ => Task.sends_of_peer fun _ => rfl
  | succ left ih =>
      refine h.bind (m := 0) fun result => ?_
      cases result with
      | ok a => exact Task.sends_of_peer fun _ => rfl
      | error e =>
          dsimp only
          split_ifs
          · cases p.pauseOn? rate attempt with
            | none => exact Task.sends_of_peer fun _ => rfl
            | some pause =>
                refine Task.Sends.of_zero (fun _ => rfl) fun _ => ?_
                exact Task.Sends.of_zero (fun _ => rfl) fun _ => (ih (attempt + 1)).weaken
          · exact Task.sends_of_peer fun _ => rfl

namespace Client

theorem sends_receive (c : Client) (rate : Nat) (x : HttpResponse) (object : ObjectKind)
    (id : String) (read : String → Option α) (r : HttpRequest) :
    Task.Sends r 0 (c.receive rate x object id read : Task (σ × List HttpRequest) _) := by
  rw [receive]
  refine Task.Sends.of_zero (fun s => ?_) fun _ => ?_
  · rw [wait]
    split_ifs <;> rfl
  · split_ifs
    · exact Task.sends_of_peer fun _ => rfl
    · exact Task.sends_of_peer fun _ => rfl

theorem sends_deliver (c : Client) (t : Transport σ) (r : HttpRequest) (object : ObjectKind)
    (id : String) (read : String → Option α) :
    Task.Sends r (if canSend r.url then 1 else 0) (c.deliver t.recorded r object id read) := by
  rw [deliver]
  split_ifs
  · refine Task.Sends.bind (n := 1) (m := 0) (fun _ => ⟨1, le_rfl, rfl⟩) fun delivery => ?_
    cases delivery with
    | response x => exact c.sends_receive t.rate x object id read r
    | refused => exact Task.sends_of_peer fun _ => rfl
    | closed => exact Task.sends_of_peer fun _ => rfl
    | silent => exact Task.sends_of_peer fun _ => rfl
  · exact Task.sends_of_peer fun _ => rfl

theorem path_request (c : Client) (method : HttpMethod) (url : Url) (body : Option Json) :
    (c.request method url body).url.path = url.path := by
  rw [request]
  cases credentials? url <;> rfl

end Client

namespace RemoteCall

def requests (call : RemoteCall α) (c : Client) (t : Transport σ) (start : Session σ) :
    List HttpRequest :=
  ((call.perform c t.recorded).run ⟨(start.peer, []), start.now, start.log⟩).2.peer.2

theorem requests_eq (call : RemoteCall α) {c : Client} {url : Url}
    (hurl : c.url call.path = .ok url) (t : Transport σ) (start : Session σ) :
    ∃ k, call.requests c t start = List.replicate k (c.request call.method url call.body) ∧
      (Client.canSend url = true → 0 < k) := by
  have hsends : Task.Sends (c.request call.method url call.body)
      (if Client.canSend url then 1 else 0) (call.perform c t.recorded) := by
    rw [call.perform_eq, RetryPolicy.runOn]
    refine c.retry.sends_attemptOn t.rate call.name ?_ _ _
    rw [Client.send, hurl, ← c.canSend_request call.method url call.body]
    exact Task.Sends.of_zero (fun _ => rfl) fun _ => c.sends_deliver t _ _ _ _
  obtain ⟨k, hk, hrun⟩ := hsends ⟨(start.peer, []), start.now, start.log⟩
  refine ⟨k, hrun, fun hsend => ?_⟩
  rw [if_pos hsend] at hk
  exact hk

end RemoteCall

end NotionSchema
