namespace NotionSchema

inductive ObjectKind where
  | database
  | page
deriving DecidableEq, Repr

def ObjectKind.name : ObjectKind → String
  | .database => "database"
  | .page => "page"

/-- Failures of the connection itself, with the address that was asked. -/
inductive TransportError where
  | refused (url : String)
  | closed (url : String)
  | unsupportedScheme (url : String)
  | brokenBody
deriving DecidableEq, Repr

def TransportError.message : TransportError → String
  | .refused url => "error sending request for url (" ++ url ++ ")"
  | .closed url => "error sending request for url (" ++ url ++ ")"
  | .unsupportedScheme url => "builder error for url (" ++ url ++ ")"
  | .brokenBody => "error decoding response body"

inductive RemoteError where
  | notFound (object : ObjectKind) (id : String)
  | unauthorized (detail : String)
  | validation (code detail : String)
  | httpStatus (status : Nat) (code detail : String)
  | request (cause : TransportError)
  | timeout (milliseconds : Nat)
  | decode (detail : String)
deriving DecidableEq, Repr

namespace RemoteError

def message : RemoteError → String
  | notFound object id =>
    object.name ++ " '" ++ id ++ "' not found (is it shared with the integration?)"
  | unauthorized detail =>
    "Unauthorized: " ++ detail ++ ". Check that NOTION_TOKEN holds a valid integration token"
  | validation code detail => "Notion rejected the request (" ++ code ++ "): " ++ detail
  | httpStatus status code detail =>
    "HTTP " ++ toString status ++ " (" ++ code ++ "): " ++ detail
  | request cause => "HTTP request failed: " ++ cause.message
  | timeout milliseconds => "Request timeout after " ++ toString milliseconds ++ "ms"
  | decode detail => "Failed to decode Notion response: " ++ detail

def isRetryable : RemoteError → Bool
  | httpStatus status _ _ => 500 ≤ status || status == 429
  | request (.refused _) => true
  | _ => false

def isNotFound : RemoteError → Bool
  | notFound _ _ => true
  | _ => false

def code? : RemoteError → Option String
  | notFound _ _ => some "object_not_found"
  | unauthorized _ => some "unauthorized"
  | validation code _ => some code
  | httpStatus _ code _ => some code
  | _ => none

end RemoteError

end NotionSchema
