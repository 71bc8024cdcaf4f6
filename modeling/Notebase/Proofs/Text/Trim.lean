import Notebase.Proofs.Document.View

/-!
Trimmed texts. A text is trimmed exactly if trimming leaves it as it is (`trim_eq_self_iff`), and
whatever blanks are written around a trimmed text, trimming gives it back (`trim_around`). The same
holds of any elements that are dropped from both ends of a list.
-/

namespace Notebase

/-! ### Elements dropped from both ends -/

section Lists

variable {α : Type} {p : α → Bool}

/-- What stands around a list that neither starts nor ends with such elements is dropped. -/
theorem dropEnds_around {l before after : List α} (first : ∀ a ∈ l.head?, p a = false)
    (last : ∀ a ∈ l.getLast?, p a = false) (dropped : ∀ a ∈ before, p a = true)
    (dropped' : ∀ a ∈ after, p a = true) :
    dropEndWhile p ((before ++ l ++ after).dropWhile p) = l := by
  rw [List.append_assoc, List.dropWhile_append_of_pos dropped]
  cases l with
  | nil =>
      have none : after.dropWhile p = [] := List.dropWhile_eq_nil_iff.mpr dropped'
      rw [List.nil_append, none]
      rfl
  | cons a l =>
      have kept : p a = false := first a rfl
      rw [List.cons_append, List.dropWhile_cons_of_neg (by simp [kept]), ← List.cons_append]
      exact dropEndWhile_append_of_all dropped' last

/-- Behind what is dropped stands something that is not. -/
theorem head?_dropEnds {l : List α} : ∀ a ∈ (dropEndWhile p (l.dropWhile p)).head?, p a = false := by
  intro a ha
  have front : dropEndWhile p (l.dropWhile p) <+: l.dropWhile p := by
    rw [Text.dropEndWhile_eq_rdropWhile]
    exact List.rdropWhile_prefix _ _
  obtain ⟨rest, eq⟩ := front
  have mem : a ∈ (l.dropWhile p).head? := by
    rw [← eq, List.head?_append_of_ne_nil _ fun none => by simp [none] at ha]
    exact ha
  exact head?_dropWhile a mem

/-- So it does at the end. -/
theorem getLast?_dropEnds {l : List α} :
    ∀ a ∈ (dropEndWhile p (l.dropWhile p)).getLast?, p a = false := by
  intro a ha
  rw [Text.dropEndWhile_eq_rdropWhile] at ha
  have ne : (l.dropWhile p).rdropWhile p ≠ [] := fun none => by simp [none] at ha
  have last := List.rdropWhile_last_not p (l.dropWhile p) ne
  rw [List.getLast?_eq_some_getLast ne, Option.mem_some_iff] at ha
  rw [← ha]
  simpa using last

/-- Nothing is dropped from the ends of a list exactly if it neither starts nor ends with such an
element. -/
theorem dropEnds_eq_self_iff {l : List α} : dropEndWhile p (l.dropWhile p) = l ↔
    (∀ a ∈ l.head?, p a = false) ∧ ∀ a ∈ l.getLast?, p a = false := by
  constructor
  · intro same
    exact ⟨same ▸ head?_dropEnds, same ▸ getLast?_dropEnds⟩
  · rintro ⟨first, last⟩
    have same := dropEnds_around first last (List.forall_mem_nil _) (List.forall_mem_nil _)
    rwa [List.nil_append, List.append_nil] at same

end Lists

namespace Text

theorem trimBy_eq_self_iff {p : Char → Bool} {t : Text} : t.trimBy p = t ↔
    (∀ c ∈ t.head?, p c = false) ∧ ∀ c ∈ t.getLast?, p c = false := dropEnds_eq_self_iff

/-! ### Blanks -/

/-- A text without a blank at either end. -/
structure Trimmed (t : Text) : Prop where
  first : ∀ c ∈ t.head?, isBlank c = false
  last : ∀ c ∈ t.getLast?, isBlank c = false

/-- **Blanks around a trimmed text** are trimmed. -/
theorem Trimmed.trim_around {t before after : Text} (h : t.Trimmed)
    (blank : ∀ c ∈ before, isBlank c = true) (blank' : ∀ c ∈ after, isBlank c = true) :
    (before ++ t ++ after).trim = t :=
  dropEnds_around h.first h.last blank blank'

theorem trim_eq_self_iff {t : Text} : t.trim = t ↔ t.Trimmed :=
  trimBy_eq_self_iff.trans ⟨fun ends => ⟨ends.1, ends.2⟩, fun h => ⟨h.first, h.last⟩⟩

theorem Trimmed.trim_eq {t : Text} (h : t.Trimmed) : t.trim = t := trim_eq_self_iff.mpr h

theorem trimmed_trim (t : Text) : t.trim.Trimmed := ⟨head?_dropEnds, getLast?_dropEnds⟩

/-- What trimming takes away is blank. -/
theorem exists_around (t : Text) : ∃ before after, t = before ++ (t.trim ++ after) ∧
    (∀ c ∈ before, isBlank c = true) ∧ ∀ c ∈ after, isBlank c = true := by
  refine ⟨t.takeWhile isBlank, _, ?_, fun c hc => List.mem_takeWhile_imp hc,
    forall_mem_drop_dropEndWhile isBlank (t.dropWhile isBlank)⟩
  rw [trim, trimBy, dropEndWhile_append_drop, List.takeWhile_append_dropWhile]

/-- Blanks after a text are trimmed. -/
theorem trim_append_of_blank {t after : Text} (blank : ∀ c ∈ after, isBlank c = true) :
    (t ++ after).trim = t.trim := by
  obtain ⟨front, back, text, blank', blank''⟩ := exists_around t
  have all : ∀ c ∈ back ++ after, isBlank c = true := by
    simp only [List.mem_append]
    rintro c (hc | hc)
    · exact blank'' c hc
    · exact blank c hc
  calc (t ++ after).trim = (front ++ t.trim ++ (back ++ after)).trim := by
        rw [← List.append_assoc, List.append_assoc front, ← text]
    _ = t.trim := (trimmed_trim t).trim_around blank' all

end Text

end Notebase
