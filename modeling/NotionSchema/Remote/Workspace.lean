import NotionSchema.Remote.Service

namespace NotionSchema

structure Workspace where
  database : String → Except RemoteError DatabaseDescriptor
  page : String → Except RemoteError Page
  answer : Json → Except RemoteError QueryResponse

inductive Call where
  | retrieveDatabase (id : String)
  | queryDatabase (query : Json)
  | retrievePage (id : String)

structure RecordedWorkspace where
  workspace : Workspace
  calls : List Call

namespace Workspace

variable {α : Type}

/-- What a table lists under an id. An id that is not listed is not found. -/
def lookup (kind : ObjectKind) (t : Table (Except RemoteError α)) (id : String) :
    Except RemoteError α :=
  (t.get? id).getD (.error (.notFound kind id))

def ofTables (databases : Table (Except RemoteError DatabaseDescriptor))
    (pages : Table (Except RemoteError Page)) (answer : Except RemoteError QueryResponse) :
    Workspace :=
  ⟨lookup .database databases, lookup .page pages, fun _ => answer⟩

def setPage (w : Workspace) (id : String) (page : Except RemoteError Page) : Workspace :=
  { w with page := fun other => if other = id then page else w.page other }

end Workspace

namespace RecordedWorkspace

def note (w : RecordedWorkspace) (c : Call) : RecordedWorkspace :=
  { w with calls := w.calls ++ [c] }

def service : Service RecordedWorkspace where
  retrieveDatabase id :=
    Task.withPeer fun w => (w.workspace.database id, w.note (.retrieveDatabase id))
  queryDatabase query :=
    Task.withPeer fun w => (w.workspace.answer query, w.note (.queryDatabase query))
  retrievePage id := Task.withPeer fun w => (w.workspace.page id, w.note (.retrievePage id))

end RecordedWorkspace

end NotionSchema
