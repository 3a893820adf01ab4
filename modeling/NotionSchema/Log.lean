namespace NotionSchema

inductive LogLevel where
  | error
  | warn
  | info
deriving DecidableEq, Repr

def LogLevel.name : LogLevel → String
  | .error => "ERROR"
  | .warn => "WARN"
  | .info => "INFO"

inductive LogValue where
  | text (s : String)
  | count (n : Nat)
deriving DecidableEq, Repr

structure LogEvent where
  level : LogLevel
  message : String
  fields : List (String × LogValue)
deriving DecidableEq, Repr

namespace LogEvent

def error (message : String) (fields : List (String × LogValue)) : LogEvent :=
  ⟨.error, message, fields⟩

def warn (message : String) (fields : List (String × LogValue)) : LogEvent :=
  ⟨.warn, message, fields⟩

def info (message : String) (fields : List (String × LogValue)) : LogEvent :=
  ⟨.info, message, fields⟩

end LogEvent

structure Logged (α : Type) where
  value : α
  log : List LogEvent
deriving DecidableEq, Repr

namespace Logged

variable {α β : Type}

instance : Monad Logged where
  pure a := ⟨a, []⟩
  bind x f := ⟨(f x.value).value, x.log ++ (f x.value).log⟩

def emit (event : LogEvent) : Logged Unit := ⟨(), [event]⟩

def emitAll (events : List LogEvent) : Logged Unit := ⟨(), events⟩

@[ext] theorem ext {x y : Logged α} (hv : x.value = y.value) (hl : x.log = y.log) : x = y := by
  cases x; cases y; simp_all

@[simp] theorem value_pure (a : α) : (pure a : Logged α).value = a := rfl

@[simp] theorem log_pure (a : α) : (pure a : Logged α).log = [] := rfl

@[simp] theorem value_bind (x : Logged α) (f : α → Logged β) :
    (x >>= f).value = (f x.value).value := rfl

@[simp] theorem log_bind (x : Logged α) (f : α → Logged β) :
    (x >>= f).log = x.log ++ (f x.value).log := rfl

@[simp] theorem value_map (f : α → β) (x : Logged α) : (f <$> x).value = f x.value := rfl

@[simp] theorem log_map (f : α → β) (x : Logged α) : (f <$> x).log = x.log :=
  List.append_nil x.log

instance : LawfulMonad Logged :=
  LawfulMonad.mk' Logged
    (fun x => by ext <;> simp [Functor.map])
    (fun a f => by ext <;> simp)
    (fun x f g => by ext <;> simp)

end Logged

end NotionSchema
