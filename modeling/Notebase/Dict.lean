/-!
Dictionaries that remember the order of their keys: a key stands where it was first written and
holds the value that was written last.
-/

namespace Notebase

/-- Pairs of a key and its value, in the order in which the keys were first written. -/
abbrev Dict (α β : Type) := List (α × β)

namespace Dict

variable {α β : Type} [DecidableEq α]

/-- Writes a value under a key. -/
def insert (k : α) (v : β) : Dict α β → Dict α β
  | [] => [(k, v)]
  | (k', v') :: rest => if k' = k then (k, v) :: rest else (k', v') :: insert k v rest

def get? (k : α) : Dict α β → Option β
  | [] => none
  | (k', v) :: rest => if k' = k then some v else get? k rest

def ofList (pairs : List (α × β)) : Dict α β :=
  pairs.foldl (fun d (k, v) => d.insert k v) []

/-- Reading after a write. -/
theorem get?_insert (k k' : α) (v : β) (d : Dict α β) :
    (d.insert k v).get? k' = if k = k' then some v else d.get? k' := by
  induction d with
  | nil => rfl
  | cons pair rest ih =>
      obtain ⟨a, w⟩ := pair
      by_cases ha : a = k
      · subst ha
        by_cases hk : a = k' <;> simp [insert, get?, hk]
      · by_cases hk : k = k'
        · subst hk
          simp [insert, get?, ha, ih]
        · simp [insert, get?, ha, ih, hk]

end Dict

end Notebase
