import NotionSchema.Url.Domain
import NotionSchema.Url.Error
import NotionSchema.Url.Ipv6

namespace NotionSchema

inductive Host where
  /-- An empty name stands for the machine itself. -/
  | name (text : String)
  | ipv4 (address : Nat)
  | ipv6 (pieces : List Nat)
deriving DecidableEq, Repr

namespace Host

def text : Host → String
  | name s => s
  | ipv4 address => Ipv4.text address
  | ipv6 pieces => "[" ++ Ipv6.text pieces ++ "]"

def isEmpty : Host → Bool
  | name s => s.isEmpty
  | _ => false

def bracketed? : List Char → Option (Except UrlError (List Char))
  | '[' :: rest =>
    if rest.getLast? = some ']' then some (.ok rest.dropLast) else some (.error .invalidIpv6)
  | _ => none

def ofBracketed (inner : Except UrlError (List Char)) : Except UrlError Host := do
  match Ipv6.parse? (← inner) with
  | some pieces => return .ipv6 pieces
  | none => throw .invalidIpv6

def ofDomain (domain : List Char) : Except UrlError Host :=
  if domain.isEmpty then .error .emptyHost
  else if Ipv4.endsInNumber domain then
    match Ipv4.parse? domain with
    | some address => .ok (.ipv4 address)
    | none => .error .invalidIpv4
  else .ok (.name (String.ofList domain))

def parseDomain (s : List Char) : Except UrlError Host :=
  match bracketed? s with
  | some inner => ofBracketed inner
  | none =>
    match (Url.decodeText? s).bind fun decoded => Domain.toAscii? decoded.toList with
    | some domain => ofDomain domain
    | none => .error .invalidDomainName

def isForbiddenInName (c : Char) : Bool :=
  ['\x00', '\t', '\n', '\r', ' ', '#', '/', ':', '<', '>', '?', '@', '[', '\\', ']', '^',
    '|'].contains c

/-- Hosts of other schemes are kept as they are. -/
def parsePlain (s : List Char) : Except UrlError Host :=
  match bracketed? s with
  | some inner => ofBracketed inner
  | none =>
    if s.any isForbiddenInName then .error .invalidHostCharacter
    else .ok (.name (String.ofList (Url.encode Url.isControl s)))

def localhost : Host := .name "localhost"

end Host

end NotionSchema
