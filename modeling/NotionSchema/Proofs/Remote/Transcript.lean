import NotionSchema.Remote.Service

namespace NotionSchema

inductive Exchange where
  | database (id : String) (answer : Except RemoteError DatabaseDescriptor)
  | query (body : Json) (answer : Except RemoteError QueryResponse)
  | page (id : String) (answer : Except RemoteError Page)

variable {σ α β : Type}

namespace Session

def plain (s : Session (σ × List Exchange)) : Session σ := ⟨s.peer.1, s.now, s.log⟩

def transcript (s : Session (σ × List Exchange)) : List Exchange := s.peer.2

def note (s : Session (σ × List Exchange)) (after : Session σ) (x : Exchange) :
    Session (σ × List Exchange) :=
  ⟨(after.peer, s.transcript ++ [x]), after.now, after.log⟩

end Session

namespace Task

/-- Carries a request out and notes it with its answer. -/
def transcribed (exchange : α → Exchange) (t : Task σ α) : Task (σ × List Exchange) α :=
  fun s => ((t.run s.plain).1, s.note (t.run s.plain).2 (exchange (t.run s.plain).1))

end Task

def Service.transcribed (service : Service σ) : Service (σ × List Exchange) where
  retrieveDatabase id := Task.transcribed (.database id) (service.retrieveDatabase id)
  queryDatabase body := Task.transcribed (.query body) (service.queryDatabase body)
  retrievePage id := Task.transcribed (.page id) (service.retrievePage id)

namespace Service

variable (service : Service σ) (s : Session (σ × List Exchange))

theorem run_transcribed_queryDatabase (body : Json) :
    (service.transcribed.queryDatabase body).run s =
      let out := (service.queryDatabase body).run s.plain
      (out.1, s.note out.2 (.query body out.1)) := rfl

theorem run_transcribed_retrievePage (id : String) :
    (service.transcribed.retrievePage id).run s =
      let out := (service.retrievePage id).run s.plain
      (out.1, s.note out.2 (.page id out.1)) := rfl

theorem transcript_of_retrievePage {s' : Session (σ × List Exchange)} {id : String}
    {answer : Except RemoteError Page}
    (h : (service.transcribed.retrievePage id).run s = (answer, s')) :
    s'.transcript = s.transcript ++ [.page id answer] := by
  rw [run_transcribed_retrievePage] at h
  obtain ⟨rfl, rfl⟩ := Prod.mk.inj h
  rfl

end Service

namespace Task

/-- Wherever it starts, `t'` does what `t` does, and what it adds to the transcript fits its result
by `P`. -/
def Transcribes (P : List Exchange → α → Prop) (t' : Task (σ × List Exchange) α) (t : Task σ α) :
    Prop :=
  ∀ s, ∃ a s' noted, t'.run s = (a, s') ∧ t.run s.plain = (a, s'.plain) ∧
    s'.transcript = s.transcript ++ noted ∧ P noted a

variable {P : List Exchange → α → Prop} {Q : List Exchange → β → Prop}
  {t : Task σ α} {t' : Task (σ × List Exchange) α}

theorem transcribes_pure (a : α) (h : P [] a) :
    Transcribes P (pure a : Task (σ × List Exchange) α) (pure a) :=
  fun s => ⟨a, s, [], rfl, rfl, (List.append_nil _).symm, h⟩

theorem transcribes_ofLogged (x : Logged α) (h : P [] x.value) :
    Transcribes P (ofLogged x : Task (σ × List Exchange) α) (ofLogged x) :=
  fun _ => ⟨x.value, _, [], rfl, rfl, (List.append_nil _).symm, h⟩

theorem transcribes_emit (event : LogEvent) {P : List Exchange → Unit → Prop} (h : P [] ()) :
    Transcribes P (emit event : Task (σ × List Exchange) Unit) (emit event) :=
  fun _ => ⟨(), _, [], rfl, rfl, (List.append_nil _).symm, h⟩

theorem transcribes_transcribed (exchange : α → Exchange) (t : Task σ α)
    (h : ∀ a, P [exchange a] a) : Transcribes P (transcribed exchange t) t :=
  fun _ => ⟨_, _, [_], rfl, rfl, rfl, h _⟩

theorem Transcribes.bind {f : α → Task σ β} {f' : α → Task (σ × List Exchange) β}
    (h : Transcribes P t' t)
    (hf : ∀ noted a, P noted a → Transcribes (fun later b => Q (noted ++ later) b) (f' a) (f a)) :
    Transcribes Q (t' >>= f') (t >>= f) := by
  intro s
  obtain ⟨a, s₁, noted, hrun', hrun, hnoted, ha⟩ := h s
  obtain ⟨b, s₂, later, hnext', hnext, hlater, hb⟩ := hf noted a ha s₁
  refine ⟨b, s₂, noted ++ later, ?_, ?_, ?_, hb⟩
  · rw [StateT.run_bind, hrun']
    exact hnext'
  · rw [StateT.run_bind, hrun]
    exact hnext
  · rw [hlater, hnoted, List.append_assoc]

end Task

end NotionSchema
