import NotionSchema.Validation

namespace NotionSchema

def ModelReport.toJson (r : ModelReport) : Json :=
  .object
    [("model", .string r.model), ("database_id", .string r.databaseId),
      ("title", .string r.title), ("extra", .strings r.extra)]

def SyncReport.toJson (r : SyncReport) : Json :=
  .object [("models", .array (r.models.map ModelReport.toJson))]

end NotionSchema
