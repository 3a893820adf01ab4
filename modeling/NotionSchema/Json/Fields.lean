import NotionSchema.Json.Basic

namespace NotionSchema.Json

def fields? (names : List String) : Json → Option (List (Option Json))
  | .object members => some (names.map (Table.get? members))
  | .array items =>
    if items.length ≤ names.length then
      some (items.map some ++ List.replicate (names.length - items.length) none)
    else none
  | _ => none

variable {α : Type}

def required (read : Json → Option α) (field : Option Json) : Option α := field.bind read

def withDefault (default : α) (read : Json → Option α) : Option Json → Option α
  | none => some default
  | some v => read v

/-- Null stands for no value. -/
def nullable (read : Json → Option α) : Json → Option (Option α)
  | .null => some none
  | v => (read v).map some

def listOf? (read : Json → Option α) (v : Json) : Option (List α) := v.array?.bind (·.mapM read)

def tableOf? (read : Json → Option α) (v : Json) : Option (Table α) := do
  let members ← v.object?
  let entries ← members.mapM fun (key, w) => (read w).map fun a => (key, a)
  return Table.ofList entries

end NotionSchema.Json
