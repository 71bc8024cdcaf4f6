import Mathlib.Data.List.Induction
import Mathlib.Data.List.Nodup
import Notebase.Dict

/-!
Values of a dictionary. A dictionary made of pairs is read as the pairs are from their end
(`get?_ofList`), and pairs with different keys are a dictionary as they are (`ofList_eq_self`).
-/

namespace Notebase.Dict

variable {α β : Type} [DecidableEq α]

/-- What is found under a key stands in the dictionary. -/
theorem mem_of_get? {d : Dict α β} {k : α} {v : β} (h : d.get? k = some v) : (k, v) ∈ d := by
  induction d with
  | nil => cases h
  | cons pair d ih =>
      obtain ⟨k', v'⟩ := pair
      rw [get?] at h
      split at h
      · next same =>
          subst same
          cases h
          exact List.mem_cons_self
      · exact List.mem_cons_of_mem _ (ih h)

/-- Nothing is found under a key exactly if no entry has it. -/
theorem get?_eq_none_iff {d : Dict α β} {k : α} : d.get? k = none ↔ k ∉ d.map Prod.fst := by
  induction d with
  | nil => simp [get?]
  | cons pair d ih =>
      obtain ⟨k', v⟩ := pair
      rw [get?, List.map_cons, List.mem_cons, not_or]
      by_cases same : k' = k
      · simp [same]
      · rw [if_neg same, ih]
        exact ⟨fun out => ⟨Ne.symm same, out⟩, And.right⟩

theorem get?_append_cons {d : Dict α β} {k : α} (out : k ∉ d.map Prod.fst) (v : β)
    (rest : Dict α β) : get? k (d ++ (k, v) :: rest) = some v := by
  induction d with
  | nil => exact if_pos rfl
  | cons pair d ih =>
      rw [List.map_cons, List.mem_cons, not_or] at out
      exact (if_neg (Ne.symm out.1)).trans (ih out.2)

/-! ### Dictionaries made of pairs -/

/-- Of the pairs with a key the last one is found. -/
theorem get?_ofList (pairs : List (α × β)) (k : α) : (ofList pairs).get? k = get? k pairs.reverse := by
  induction pairs using List.reverseRecOn with
  | nil => rfl
  | append_singleton pairs pair ih =>
      rw [List.reverse_append, List.reverse_singleton, List.singleton_append, get?, ← ih, ofList,
        List.foldl_append]
      exact get?_insert pair.1 k pair.2 (ofList pairs)

/-- A value in a dictionary was written under its key. -/
theorem mem_of_get?_ofList {pairs : List (α × β)} {k : α} {v : β}
    (h : (ofList pairs).get? k = some v) : (k, v) ∈ pairs := by
  rw [get?_ofList] at h
  exact List.mem_reverse.mp (mem_of_get? h)

theorem get?_ofList_of_last {l r : List (α × β)} {k : α} (v : β) (last : k ∉ r.map Prod.fst) :
    (ofList (l ++ (k, v) :: r)).get? k = some v := by
  have out : k ∉ r.reverse.map Prod.fst := by rwa [List.map_reverse, List.mem_reverse]
  rw [get?_ofList, List.reverse_append, List.reverse_cons, List.append_assoc, List.singleton_append]
  exact get?_append_cons out v l.reverse

/-- Under distinct keys every value is found. -/
theorem get?_ofList_of_mem {pairs : List (α × β)} {k : α} {v : β}
    (distinct : (pairs.map Prod.fst).Nodup) (mem : (k, v) ∈ pairs) :
    (ofList pairs).get? k = some v := by
  obtain ⟨l, r, rfl⟩ := List.append_of_mem mem
  rw [List.map_append, List.map_cons] at distinct
  exact get?_ofList_of_last v (List.nodup_cons.mp distinct.of_append_right).1

/-! ### Pairs with different keys -/

theorem insert_of_not_mem {d : Dict α β} {k : α} (new : k ∉ d.map Prod.fst) (v : β) :
    d.insert k v = d ++ [(k, v)] := by
  induction d with
  | nil => rfl
  | cons pair d ih =>
      obtain ⟨k', v'⟩ := pair
      rw [List.map_cons, List.mem_cons, not_or] at new
      rw [insert, if_neg (Ne.symm new.1), ih new.2, List.cons_append]

/-- Pairs with different keys are a dictionary as they are. -/
theorem ofList_eq_self {pairs : List (α × β)} (distinct : (pairs.map Prod.fst).Nodup) :
    ofList pairs = pairs := by
  induction pairs using List.reverseRecOn with
  | nil => rfl
  | append_singleton pairs pair ih =>
      rw [List.map_append] at distinct
      have new : pair.1 ∉ pairs.map Prod.fst := fun mem =>
        List.disjoint_of_nodup_append distinct mem List.mem_cons_self
      have whole : ofList (pairs ++ [pair]) = (ofList pairs).insert pair.1 pair.2 := by
        rw [ofList, List.foldl_append]
        rfl
      rw [whole, ih distinct.of_append_left, insert_of_not_mem new]

end Notebase.Dict
