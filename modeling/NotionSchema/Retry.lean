import NotionSchema.Remote.Service

namespace NotionSchema

structure RetryPolicy where
  maxAttempts : Nat
  /-- In units of the clock. -/
  baseDelay : Nat
deriving DecidableEq, Repr

namespace RetryPolicy

def none : RetryPolicy := ⟨1, 0⟩

def default : RetryPolicy := ⟨3, 1000⟩

/-- Spans are kept as whole seconds of 64 bits and a fraction. -/
def spanFits (rate span : Nat) : Bool := span / rate < Nat.pow 2 64

/-- Seconds and fraction are multiplied apart; then the seconds in the fraction are carried. -/
def multiply? (rate span factor : Nat) : Option Nat :=
  let fraction := span % rate * factor
  let seconds := span / rate * factor + fraction / rate
  if seconds < Nat.pow 2 64 then some (seconds * rate + fraction % rate) else Option.none

def pauseOn? (p : RetryPolicy) (rate attempt : Nat) : Option Nat :=
  multiply? rate p.baseDelay attempt

def pause? (p : RetryPolicy) (attempt : Nat) : Option Nat := p.pauseOn? taskClock attempt

def attempts (p : RetryPolicy) : Nat := max 1 p.maxAttempts

end RetryPolicy

inductive RetryError where
  | failed (e : RemoteError)
  | pauseOverflow
deriving DecidableEq, Repr

def RetryError.message : RetryError → String
  | .failed e => e.message
  | .pauseOverflow => "overflow when multiplying duration by scalar"

/-- A span in the largest unit that it fills, with the digits of the fraction that count. -/
def spanText (rate span : Nat) : String :=
  let nanoseconds := span * 1000000000 / rate
  let (size, unit) :=
    if 1000000000 ≤ nanoseconds then (1000000000, "s")
    else if 1000000 ≤ nanoseconds then (1000000, "ms")
    else if 1000 ≤ nanoseconds then (1000, "µs")
    else (1, "ns")
  let digits := Nat.toDigits 10 (size + nanoseconds % size) |>.drop 1
  let fraction := (digits.reverse.dropWhile (· == '0')).reverse
  toString (nanoseconds / size) ++
    String.ofList (if fraction.isEmpty then [] else '.' :: fraction) ++ unit

namespace RetryPolicy

variable {σ α : Type}

def retrying (p : RetryPolicy) (rate : Nat) (name : String) (attempt pause : Nat)
    (e : RemoteError) : LogEvent :=
  .warn
    (name ++ " failed (attempt " ++ toString attempt ++ "/" ++ toString p.attempts ++ "): " ++
      e.message ++ "; retrying in " ++ spanText rate pause)
    []

/-- Makes an attempt, and up to `left` more. -/
def attemptOn (p : RetryPolicy) (rate : Nat) (name : String)
    (operation : Task σ (Except RemoteError α)) : Nat → Nat → Task σ (Except RetryError α)
  | 0, _ => do return (← operation).mapError .failed
  | left + 1, attempt => do
    match ← operation with
    | .ok a => return .ok a
    | .error e =>
      if e.isRetryable then
        match p.pauseOn? rate attempt with
        | Option.none => return .error .pauseOverflow
        | some pause =>
          Task.emit (p.retrying rate name attempt pause e)
          Task.advance pause
          attemptOn p rate name operation left (attempt + 1)
      else return .error (.failed e)

def runOn (p : RetryPolicy) (rate : Nat) (name : String)
    (operation : Task σ (Except RemoteError α)) : Task σ (Except RetryError α) :=
  p.attemptOn rate name operation (p.attempts - 1) 1

def run (p : RetryPolicy) (name : String) (operation : Task σ (Except RemoteError α)) :
    Task σ (Except RetryError α) :=
  p.runOn taskClock name operation

end RetryPolicy

end NotionSchema
