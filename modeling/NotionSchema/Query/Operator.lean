namespace NotionSchema

inductive Operator where
  | equals
  | contains
  | startsWith
  | endsWith
  | before
  | after
  | onOrBefore
  | onOrAfter
  | isEmpty
  | isNotEmpty
  | other (name : String)
deriving DecidableEq, Repr

namespace Operator

def known : List Operator :=
  [equals, contains, startsWith, endsWith, before, after, onOrBefore, onOrAfter, isEmpty,
    isNotEmpty]

def ofName (name : String) : Operator :=
  match name with
  | "equals" => equals
  | "contains" => contains
  | "startsWith" | "starts_with" => startsWith
  | "endsWith" | "ends_with" => endsWith
  | "before" => before
  | "after" => after
  | "onOrBefore" | "on_or_before" => onOrBefore
  | "onOrAfter" | "on_or_after" => onOrAfter
  | "isEmpty" | "is_empty" => isEmpty
  | "isNotEmpty" | "is_not_empty" => isNotEmpty
  | _ => other name

def key : Operator → String
  | equals => "equals"
  | contains => "contains"
  | startsWith => "starts_with"
  | endsWith => "ends_with"
  | before => "before"
  | after => "after"
  | onOrBefore => "on_or_before"
  | onOrAfter => "on_or_after"
  | isEmpty => "is_empty"
  | isNotEmpty => "is_not_empty"
  | other name => name

def isDateComparison : Operator → Bool
  | before | after | onOrBefore | onOrAfter => true
  | _ => false

end Operator

end NotionSchema
