namespace NotionSchema.Http

def isHeaderChar (c : Char) : Bool := (0x20 ≤ c.toNat && c.toNat ≠ 0x7F) || c == '\t'

def isHeaderValue (s : String) : Bool := s.toList.all isHeaderChar

end NotionSchema.Http
