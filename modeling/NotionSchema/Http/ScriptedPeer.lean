import NotionSchema.Http.Message
import NotionSchema.Text.Blank

namespace NotionSchema

inductive ScriptedReply where
  | response (r : HttpResponse)
  | drop
  | hang
deriving DecidableEq, Repr

structure ScriptedPeer where
  host : Host
  port : Nat
  script : List ScriptedReply
  requests : List HttpRequest
deriving DecidableEq, Repr

namespace ScriptedReply

def delivery : ScriptedReply → Delivery
  | response r => r.received
  | drop => .closed
  | hang => .silent

/-- The reply when the script has ended. -/
def exhausted : ScriptedReply := .response ⟨400, "script exhausted", .complete⟩

end ScriptedReply

namespace ScriptedPeer

def listensAt (p : ScriptedPeer) (url : Url) : Bool :=
  url.scheme == "http" && url.authority.any (·.host == p.host) && url.port? == some p.port

def fieldValue (s : String) : String := String.ofList (Text.trim s.toList)

def asReceived (r : HttpRequest) : HttpRequest :=
  { r with authorization := r.authorization.map fieldValue, version := fieldValue r.version }

def step (p : ScriptedPeer) (r : HttpRequest) : Delivery × ScriptedPeer :=
  if p.listensAt r.url then
    ((p.script.headD .exhausted).delivery,
      { p with script := p.script.tail, requests := p.requests ++ [asReceived r] })
  else (.refused, p)

def transport : Transport ScriptedPeer where
  rate := taskClock
  exchange r := Task.withPeer (·.step r)

end ScriptedPeer

end NotionSchema
