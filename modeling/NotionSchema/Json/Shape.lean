import NotionSchema.Json.Written

namespace NotionSchema

inductive Shape where
  | whole
  | items (item : Shape)
  | values (value : Shape)
  /-- An object with known fields, or an array that holds them by position. Other fields are passed
  over, and a known one may not be repeated. -/
  | fields (known : List (String × Shape))
  /-- An object that is kept whole, with some keys that may not be repeated. -/
  | entries (once : List String)

namespace WrittenJson

mutual

def toJson? (depth : Nat) : WrittenJson → Option Json
  | .null => some .null
  | .bool b => some (.bool b)
  | .number n => n.map .number
  | .string s => s.map .string
  | .array items =>
    match depth with
    | 0 => none
    | depth + 1 => (toJsonItems? depth items).map .array
  | .object members =>
    match depth with
    | 0 => none
    | depth + 1 => (toJsonMembers? depth members).map .ofMembers

def toJsonItems? (depth : Nat) : List WrittenJson → Option (List Json)
  | [] => some []
  | v :: rest => do
    let v ← v.toJson? depth
    return v :: (← toJsonItems? depth rest)

def toJsonMembers? (depth : Nat) :
    List (Option String × WrittenJson) → Option (List (String × Json))
  | [] => some []
  | (key, v) :: rest => do
    let key ← key
    let v ← v.toJson? depth
    return (key, v) :: (← toJsonMembers? depth rest)

end

def keyCount (key : String) (members : List (Option String × WrittenJson)) : Nat :=
  members.countP (·.1 == some key)

mutual

def select (depth : Nat) (shape : Shape) : WrittenJson → Option Json
  | .array items =>
    match depth, shape with
    | 0, _ => none
    | depth + 1, .items item => (selectItems depth item items).map .array
    | depth + 1, .fields known => (selectPositions depth known items).map .array
    | depth + 1, _ => (toJsonItems? depth items).map .array
  | .object members =>
    match depth, shape with
    | 0, _ => none
    | depth + 1, .values value => (selectValues depth value members).map .object
    | depth + 1, .fields known =>
      if known.any fun f => 1 < keyCount f.1 members then none
      else (selectFields depth known members).map .object
    | depth + 1, .entries once =>
      if once.any fun key => 1 < keyCount key members then none
      else (toJsonMembers? depth members).map .ofMembers
    | depth + 1, _ => (toJsonMembers? depth members).map .ofMembers
  | v => v.toJson? depth

def selectItems (depth : Nat) (item : Shape) : List WrittenJson → Option (List Json)
  | [] => some []
  | v :: rest => do
    let v ← v.select depth item
    return v :: (← selectItems depth item rest)

/-- Positions after the last known field are kept as empty values, so that they are noticed. -/
def selectPositions (depth : Nat) :
    List (String × Shape) → List WrittenJson → Option (List Json)
  | _, [] => some []
  | [], _ :: rest => do return .null :: (← selectPositions depth [] rest)
  | (_, shape) :: known, v :: rest => do
    let v ← v.select depth shape
    return v :: (← selectPositions depth known rest)

def selectValues (depth : Nat) (value : Shape) :
    List (Option String × WrittenJson) → Option (List (String × Json))
  | [] => some []
  | (key, v) :: rest => do
    let key ← key
    let v ← v.select depth value
    return (key, v) :: (← selectValues depth value rest)

def selectFields (depth : Nat) (known : List (String × Shape)) :
    List (Option String × WrittenJson) → Option (List (String × Json))
  | [] => some []
  | (key, v) :: rest => do
    let key ← key
    match known.lookup key with
    | none => selectFields depth known rest
    | some shape =>
      let v ← v.select depth shape
      return (key, v) :: (← selectFields depth known rest)

end

end WrittenJson

/-- Containers that may stand inside one another, the outermost included. -/
def Json.depthLimit : Nat := 127

def Json.read? (text : String) : Option Json := do
  (← WrittenJson.read? text).toJson? Json.depthLimit

def Json.readShape? (shape : Shape) (text : String) : Option Json := do
  (← WrittenJson.read? text).select Json.depthLimit shape

end NotionSchema
