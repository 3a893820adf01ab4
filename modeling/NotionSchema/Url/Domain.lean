import NotionSchema.Url.Domain.Label
import NotionSchema.Url.Percent

namespace NotionSchema.Domain

def isForbidden (c : Char) : Bool :=
  c.toNat ≤ 0x20 || c.toNat == 0x7F ||
    ['%', '#', '/', ':', '<', '>', '?', '@', '[', '\\', ']', '^', '|'].contains c

def labels? (name : List Char) : Option (List (List Char)) := do
  let labels ← ((Text.canonical (← map? name)).splitOn '.').mapM readLabel?
  if allFit labels then some labels else none

/-- Labels in ASCII that are not encoded need no examination. -/
def needsReading (name : List Char) : Bool :=
  !name.all isAscii ||
    ((name.map Char.toLower).splitOn '.').any fun label => encodedMark.isPrefixOf label

def written? (name : List Char) : Option (List Char) :=
  if needsReading name then
    (labels? name).map fun labels => ['.'].intercalate (labels.map writeLabel)
  else some (name.map Char.toLower)

def toAscii? (name : List Char) : Option (List Char) :=
  (written? name).filter fun domain => !domain.any isForbidden

end NotionSchema.Domain
