namespace NotionSchema.Text

def decodeUtf8? (bytes : List UInt8) : Option String := String.fromUTF8? ⟨bytes.toArray⟩

def encodeUtf8 (s : String) : List UInt8 := s.toList.flatMap String.utf8EncodeChar

end NotionSchema.Text
