import NotionSchema.Json.Basic
import NotionSchema.Log
import NotionSchema.Remote.Database
import NotionSchema.Remote.Error
import NotionSchema.Remote.Page

namespace NotionSchema

/-- Tasks count time in units of a clock. Where nothing else is said, these are milliseconds. -/
def taskClock : Nat := 1000

structure Session (σ : Type) where
  peer : σ
  now : Nat
  log : List LogEvent

abbrev Task (σ : Type) := StateM (Session σ)

namespace Task

variable {σ α : Type}

def emit (event : LogEvent) : Task σ Unit := fun s => ((), { s with log := s.log ++ [event] })

def emitAll (events : List LogEvent) : Task σ Unit :=
  fun s => ((), { s with log := s.log ++ events })

def ofLogged (x : Logged α) : Task σ α := fun s => (x.value, { s with log := s.log ++ x.log })

def now : Task σ Nat := fun s => (s.now, s)

def advance (span : Nat) : Task σ Unit := fun s => ((), { s with now := s.now + span })

def withPeer (f : σ → α × σ) : Task σ α :=
  fun s => ((f s.peer).1, { s with peer := (f s.peer).2 })

end Task

structure Service (σ : Type) where
  retrieveDatabase : String → Task σ (Except RemoteError DatabaseDescriptor)
  queryDatabase : Json → Task σ (Except RemoteError QueryResponse)
  retrievePage : String → Task σ (Except RemoteError Page)

end NotionSchema
