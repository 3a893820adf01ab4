import NotionSchema.Remote.Workspace

namespace NotionSchema

namespace Task

variable {σ α β : Type} (s : Session σ)

theorem run_bind (t : Task σ α) (f : α → Task σ β) :
    (t >>= f).run s = (f (t.run s).1).run (t.run s).2 := rfl

theorem run_ofLogged (x : Logged α) :
    (ofLogged x).run s = (x.value, { s with log := s.log ++ x.log }) := rfl

theorem run_emit (event : LogEvent) :
    (emit event).run s = ((), { s with log := s.log ++ [event] }) := rfl

end Task

namespace RecordedWorkspace

variable (s : Session RecordedWorkspace)

theorem run_retrieveDatabase (id : String) : (service.retrieveDatabase id).run s =
    (s.peer.workspace.database id, { s with peer := s.peer.note (.retrieveDatabase id) }) := rfl

theorem run_queryDatabase (body : Json) : (service.queryDatabase body).run s =
    (s.peer.workspace.answer body, { s with peer := s.peer.note (.queryDatabase body) }) := rfl

theorem run_retrievePage (id : String) : (service.retrievePage id).run s =
    (s.peer.workspace.page id, { s with peer := s.peer.note (.retrievePage id) }) := rfl

end RecordedWorkspace

end NotionSchema
