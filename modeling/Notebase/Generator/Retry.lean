import Notebase.Text.Basic

/-!
Trying again. A call that fails for a passing reason is repeated, each time after a wait twice as
long as the last one, until it ends in another way or no try is left. How the calls end, what a wait
is measured in and whether the clock keeps it are left open (`Policy`); the chat service is one case.
-/

namespace Notebase.Retry

/-! ### Any call -/

/-- How a call is repeated: which of its outcomes may pass, and what becomes of a wait. A wait that
the clock refuses raises an outcome of its own. -/
structure Policy (ω δ : Type) where
  isTransient : ω → Bool
  sleep : δ → Option ω

/-- The course of a call: how it ended, if it was made at all, how often it was made, and the waits
that the clock was asked for. -/
structure Course (ω δ : Type) where
  outcome : Option ω
  calls : Nat
  waits : List δ
deriving DecidableEq, Repr

section Calls

variable {ω δ : Type} [Mul δ] [IntCast δ]

def wait (delay : δ) (n : Nat) : δ := delay * ((Int.pow 2 n : Int) : δ)

/-- Makes the call numbered `n` and, while it is worth it, up to `retries` more. A wait that is
refused ends the whole call. -/
def Policy.callFrom (policy : Policy ω δ) (attempt : Nat → ω) (delay : δ) (n : Nat) :
    (retries : Nat) → Course ω δ
  | 0 => ⟨some (attempt n), 1, []⟩
  | retries + 1 =>
      if policy.isTransient (attempt n) then
        match policy.sleep (wait delay n) with
        | some raised => ⟨some raised, 1, [wait delay n]⟩
        | none =>
            let c := policy.callFrom attempt delay (n + 1) retries
            ⟨c.outcome, c.calls + 1, wait delay n :: c.waits⟩
      else ⟨some (attempt n), 1, []⟩

/-- Makes a call and repeats it at most `maxRetries` times. With less than no retries the call
is not made. -/
def Policy.run (policy : Policy ω δ) (attempt : Nat → ω) (maxRetries : Int) (delay : δ) :
    Course ω δ :=
  if maxRetries < 0 then ⟨none, 0, []⟩ else policy.callFrom attempt delay 0 maxRetries.toNat

end Calls

/-! ### Calls of the chat service -/

/-- The ways in which a call to the chat service fails; any other way has a name of its own. -/
inductive Failure where
  | rateLimit
  | timeout
  | connection
  | server
  | badRequest
  | authentication
  | other (name : Text)
deriving DecidableEq, Repr

def Failure.isTransient : Failure → Bool
  | .rateLimit | .timeout | .connection | .server => true
  | .badRequest | .authentication | .other _ => false

/-- How a call ends: with a text or nothing, or with a failure and its message. -/
inductive Attempt where
  | value (t : Option Text)
  | failure (kind : Failure) (message : Text)
deriving DecidableEq, Repr

def Attempt.isTransient : Attempt → Bool
  | .value _ => false
  | .failure kind _ => kind.isTransient

/-- The course of a call to the chat service, whose waits are whole seconds. -/
abbrev Report := Course Attempt Int

/-- The chat service with a clock that keeps every wait. -/
def patient : Policy Attempt Int where
  isTransient := Attempt.isTransient
  sleep _ := none

def run (attempt : Nat → Attempt) (maxRetries delay : Int) : Report :=
  patient.run attempt maxRetries delay

end Notebase.Retry
