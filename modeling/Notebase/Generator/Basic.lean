import Notebase.Text.Basic

/-!
Generators write documents for a session that does not work locally. A generator is called with
an instruction and the current document, and whatever happens inside it ends in a reply.
-/

namespace Notebase

/-- Who writes the documents, by name: a generator in the mode named "remote", the session itself
in every other one. -/
structure Mode where
  label : Text
deriving DecidableEq, Repr

def Mode.local : Mode := ⟨"local".toList⟩

def Mode.remote : Mode := ⟨"remote".toList⟩

/-- What a generator does when it is called: it returns a text or nothing, it refuses with a
message of its own, or it breaks down. -/
inductive Reply where
  | text (t : Option Text)
  | refusal (message : Text)
  | breakdown (message : Text)
deriving DecidableEq, Repr

/-- A generator with a state of its own: called with an instruction and the current document, it
replies and goes on to its next state. -/
abbrev Generator (σ : Type) := σ → (instruction : Text) → (document : Option Text) → Reply × σ

end Notebase
