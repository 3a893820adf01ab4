import NotionSchema.Http.Status
import NotionSchema.Remote.Service
import NotionSchema.Url.Basic

namespace NotionSchema

inductive HttpMethod where
  | get
  | post
deriving DecidableEq, Repr

def HttpMethod.name : HttpMethod → String
  | get => "GET"
  | post => "POST"

structure HttpRequest where
  method : HttpMethod
  url : Url
  authorization : Option String
  version : String
  body : Option String
deriving DecidableEq, Repr

def HttpRequest.contentType? (r : HttpRequest) : Option String :=
  r.body.map fun _ => "application/json"

inductive Transfer where
  | complete
  | broken
  | stalled
deriving DecidableEq, Repr

structure HttpResponse where
  status : Nat
  body : String
  transfer : Transfer
deriving DecidableEq, Repr

inductive Delivery where
  | response (r : HttpResponse)
  | refused
  | closed
  | silent
deriving DecidableEq, Repr

def HttpResponse.received (r : HttpResponse) : Delivery :=
  if Http.isFinal r.status then
    .response (if Http.hasNoBody r.status then ⟨r.status, "", .complete⟩ else r)
  else .closed

/-- Carries out single exchanges, by a clock of which `rate` units make a second. -/
structure Transport (σ : Type) where
  rate : Nat
  exchange : HttpRequest → Task σ Delivery

def Transport.offline {σ : Type} : Transport σ := ⟨taskClock, fun _ => return .refused⟩

end NotionSchema
