import NotionSchema.Record.Basic

namespace NotionSchema

structure CachedRecord where
  retrievedAt : Nat
  record : Record

abbrev RelationCache := Table CachedRecord

namespace RelationCache

/-- The life of an entry, in milliseconds. -/
def lifetime : Nat := 5 * 60 * 1000

def fresh? (c : RelationCache) (now : Nat) (id : String) : Option Record :=
  match Table.get? c id with
  | some entry => if now - entry.retrievedAt < lifetime then some entry.record else none
  | none => none

def store (c : RelationCache) (now : Nat) (id : String) (record : Record) : RelationCache :=
  Table.insert c id ⟨now, record⟩

end RelationCache

end NotionSchema
