import Notebase.Text.Case
import Notebase.Text.WordChar

/-!
Classes of characters and letter case. The case tables lead from a letter to letters, so a change of
case puts no blank, line end, underscore or full stop in the place of another character
(`not_mem_upperChar`, `count_lower`).
-/

namespace Notebase

/-! ### Classes of characters -/

/-- A range of code points has this one. -/
def Ranges.Holds (range : Nat × Nat) (n : Nat) : Prop := range.1 ≤ n ∧ n ≤ range.2

instance (range : Nat × Nat) (n : Nat) : Decidable (Ranges.Holds range n) :=
  inferInstanceAs (Decidable (_ ∧ _))

/-- A number in a table of ranges is in one of them. -/
theorem exists_of_has {rs : Ranges} {n : Nat} (h : Ranges.has n rs = true) :
    ∃ r ∈ rs, Ranges.Holds r n := by
  induction rs with
  | nil => cases h
  | cons r rs ih =>
      rw [Ranges.has] at h
      split at h
      · cases h
      · next above =>
          rcases Bool.or_eq_true_iff.mp h with passes | rest
          · exact ⟨r, List.mem_cons_self, Nat.le_of_not_lt above, of_decide_eq_true passes⟩
          · obtain ⟨r', mem, bounds⟩ := ih rest
            exact ⟨r', List.mem_cons_of_mem _ mem, bounds⟩

/-- No blank is held by a range that word characters are held by. -/
theorem not_holds_of_isWordChar {c : Char} (word : isWordChar c = true) :
    ∀ range ∈ blankRanges, ¬ Ranges.Holds range c.toNat := by
  have apart : ∀ r ∈ blankRanges, ∀ w ∈ wordRanges, r.2 < w.1 ∨ w.2 < r.1 := by decide +kernel
  obtain ⟨w, memW, lowW, highW⟩ := exists_of_has word
  rintro r memR ⟨lowR, highR⟩
  rcases apart r memR w memW with below | above <;> omega

/-- No blank belongs to a word. -/
theorem not_isBlank_of_isWordChar {c : Char} (word : isWordChar c = true) : isBlank c = false := by
  rw [Bool.eq_false_iff]
  intro blank
  obtain ⟨r, mem, held⟩ := exists_of_has blank
  exact not_holds_of_isWordChar word r mem held

/-! ### The case tables -/

namespace CaseRun

/-- The run leads to no code point of the range. -/
def Misses (range : Nat × Nat) (r : CaseRun) : Prop :=
  (r.last + r.offset).toNat < range.1 ∨ range.2 < (r.first + r.offset).toNat

instance (range : Nat × Nat) (r : CaseRun) : Decidable (r.Misses range) :=
  inferInstanceAs (Decidable (_ ∨ _))

/-- A code point that is led into a range that no run leads to was in it before. -/
theorem holds_of_image {runs : List CaseRun} {range : Nat × Nat} {n : Nat}
    (misses : ∀ r ∈ runs, r.Misses range) (held : Ranges.Holds range (image n runs)) :
    Ranges.Holds range n := by
  induction runs with
  | nil => exact held
  | cons r runs ih =>
      have missed := misses r List.mem_cons_self
      rw [image] at held
      split at held
      · exact held
      · split at held
        · next within =>
            obtain ⟨low, high⟩ := held
            rcases missed with below | above <;> omega
        · exact ih (fun r' hr => misses r' (List.mem_cons_of_mem _ hr)) held

def origins (runs : List CaseRun) (n : Nat) : List Nat :=
  n :: runs.filterMap fun r =>
    let origin := ((n : Int) - r.offset).toNat
    if r.first ≤ origin ∧ origin ≤ r.last then some origin else none

/-- Every number is among the origins of its image. -/
theorem mem_origins {runs : List CaseRun} (sound : ∀ r ∈ runs, 0 ≤ (r.first : Int) + r.offset)
    (n : Nat) : n ∈ origins runs (image n runs) := by
  induction runs with
  | nil => exact List.mem_cons_self
  | cons r runs ih =>
      have bound := sound r List.mem_cons_self
      rw [image]
      split
      · exact List.mem_cons_self
      · split
        · next within =>
            have origin : (((n + r.offset).toNat : Int) - r.offset).toNat = n := by omega
            refine List.mem_cons.mpr (.inr (List.mem_filterMap.mpr ⟨r, List.mem_cons_self, ?_⟩))
            dsimp only
            rw [origin, if_pos ⟨by omega, within.1⟩]
        · refine List.mem_cons.mpr ((List.mem_cons.mp (ih fun r' hr =>
            sound r' (List.mem_cons_of_mem r hr))).imp_right fun mem => ?_)
          obtain ⟨r', hr, eq⟩ := List.mem_filterMap.mp mem
          exact List.mem_filterMap.mpr ⟨r', List.mem_cons_of_mem r hr, eq⟩

end CaseRun

/-- The code point of a character that a number stands for is the number, or zero. -/
theorem holds_of_ofNat {range : Nat × Nat} {n : Nat} (pos : 0 < range.1)
    (held : Ranges.Holds range (Char.ofNat n).toNat) : Ranges.Holds range n := by
  by_cases valid : n.isValidChar
  · rwa [Char.ofNat, dif_pos valid] at held
  · rw [Char.ofNat, dif_neg valid] at held
    exact absurd held.1 (Nat.not_le_of_lt pos)

theorem mem_of_lookup {table : List (Nat × List Nat)} {n : Nat} {capital : List Nat}
    (found : table.lookup n = some capital) : (n, capital) ∈ table := by
  obtain ⟨front, back, eq, -⟩ := List.lookup_eq_some_iff.mp found
  rw [eq]
  exact List.mem_append_right _ List.mem_cons_self

/-- A range of code points that no capital is in unless its letter is. -/
structure NoCapitals (range : Nat × Nat) : Prop where
  pos : 0 < range.1
  runs : ∀ r ∈ upperRuns, r.Misses range
  long : ∀ p ∈ longCapitals, ∀ n ∈ p.2, ¬ Ranges.Holds range n

instance (range : Nat × Nat) : Decidable (NoCapitals range) :=
  decidable_of_iff (0 < range.1 ∧ (∀ r ∈ upperRuns, r.Misses range) ∧
      ∀ p ∈ longCapitals, ∀ n ∈ p.2, ¬ Ranges.Holds range n)
    ⟨fun ⟨pos, runs, long⟩ => ⟨pos, runs, long⟩, fun h => ⟨h.pos, h.runs, h.long⟩⟩

/-- A range without capitals holds a letter if it holds its capital. -/
theorem NoCapitals.holds_of_mem_upperChar {range : Nat × Nat} (h : NoCapitals range) {c d : Char}
    (mem : d ∈ upperChar c) (held : Ranges.Holds range d.toNat) : Ranges.Holds range c.toNat := by
  rw [upperChar] at mem
  split at mem
  · next capital found =>
      obtain ⟨n, hn, rfl⟩ := List.mem_map.mp mem
      exact absurd (holds_of_ofNat h.pos held) (h.long _ (mem_of_lookup found) n hn)
  · rw [List.mem_singleton] at mem
    subst mem
    exact CaseRun.holds_of_image h.runs (holds_of_ofNat h.pos held)

theorem NoCapitals.not_mem_upperChar {c d : Char} (h : NoCapitals (d.toNat, d.toNat)) (ne : d ≠ c) :
    d ∉ upperChar c := by
  intro mem
  obtain ⟨low, high⟩ := h.holds_of_mem_upperChar mem ⟨Nat.le_refl _, Nat.le_refl _⟩
  exact ne (Char.toNat_inj.mp (Nat.le_antisymm low high))

/-- A line feed, a dot and an underscore are the capitals of nothing. -/
theorem noCapitals_mark : ∀ d ∈ ['\n', '.', '_'], NoCapitals (d.toNat, d.toNat) := by
  decide +kernel

theorem upperChar_ne_nil (c : Char) : upperChar c ≠ [] := by
  have written : ∀ p ∈ longCapitals, p.2 ≠ [] := by decide
  rw [upperChar]
  split
  · next capital found =>
      rw [ne_eq, List.map_eq_nil_iff]
      exact written _ (mem_of_lookup found)
  · exact List.cons_ne_nil _ _

/-! ### Lowered texts -/

/-- A character that lower case leads to from no other one. -/
structure Caseless (c : Char) : Prop where
  pos : 0 < c.toNat
  runs : ∀ r ∈ lowerRuns, r.Misses (c.toNat, c.toNat)
  fixed : lowerChar c = c
  apart : c ∉ ['σ', 'ς', 'i', '\u0307']

instance (c : Char) : Decidable (Caseless c) :=
  decidable_of_iff (0 < c.toNat ∧ (∀ r ∈ lowerRuns, r.Misses (c.toNat, c.toNat)) ∧
      lowerChar c = c ∧ c ∉ ['σ', 'ς', 'i', '\u0307'])
    ⟨fun ⟨pos, runs, lowerChar_eq, apart⟩ => ⟨pos, runs, lowerChar_eq, apart⟩,
      fun h => ⟨h.pos, h.runs, h.fixed, h.apart⟩⟩

/-- The separators of words have no case. -/
theorem caseless_separator : ∀ c ∈ [' ', '_'], Caseless c := by decide +kernel

/-- A character without letter case is the small letter of itself alone. -/
theorem Caseless.lowerChar_eq_iff {c d : Char} (h : Caseless d) : lowerChar c = d ↔ c = d := by
  constructor
  · intro eq
    have held : Ranges.Holds (d.toNat, d.toNat) (lowerChar c).toNat := by
      rw [eq]
      exact ⟨Nat.le_refl _, Nat.le_refl _⟩
    obtain ⟨low, high⟩ := CaseRun.holds_of_image h.runs (holds_of_ofNat h.pos held)
    exact Char.toNat_inj.mp (Nat.le_antisymm high low)
  · rintro rfl
    exact h.fixed

/-- What is lowered to a letter is one of its origins. -/
theorem mem_origins_lowerChar {c : Char} (pos : 0 < (lowerChar c).toNat) :
    c.toNat ∈ CaseRun.origins lowerRuns (lowerChar c).toNat := by
  have sound : ∀ r ∈ lowerRuns, 0 ≤ (r.first : Int) + r.offset := by decide +kernel
  have held : Ranges.Holds ((lowerChar c).toNat, (lowerChar c).toNat)
      (Char.ofNat (CaseRun.image c.toNat lowerRuns)).toNat := ⟨Nat.le_refl _, Nat.le_refl _⟩
  obtain ⟨low, high⟩ := holds_of_ofNat pos held
  have image : (lowerChar c).toNat = CaseRun.image c.toNat lowerRuns := Nat.le_antisymm low high
  rw [image]
  exact CaseRun.mem_origins sound c.toNat

/-- A character without case stands in a lowered text as often as in the text. -/
theorem Caseless.count_lower {d : Char} (h : Caseless d) (t : Text) :
    t.lower.count d = t.count d := by
  obtain ⟨sigma, final, i, dot⟩ : d ≠ 'σ' ∧ d ≠ 'ς' ∧ d ≠ 'i' ∧ d ≠ '\u0307' := by
    simpa using h.apart
  have cased : lowerChar 'Σ' = 'σ' ∧ lowerChar 'İ' = 'i' := by decide
  have capital : 'Σ' ≠ d := by
    rintro rfl
    exact sigma (h.fixed.symm.trans cased.1)
  have dotted : 'İ' ≠ d := by
    rintro rfl
    exact i (h.fixed.symm.trans cased.2)
  rw [Text.lower]
  -- What a sigma becomes depends on what is before it, so the induction is over any of that.
  generalize ([] : Text) = backwards
  induction t generalizing backwards with
  | nil => rfl
  | cons c t ih =>
      rw [Text.lowerAfter, List.count_append, ih, List.count_cons, Nat.add_comm]
      refine congrArg (t.count d + ·) ?_
      split
      · next isSigma =>
          have other : ¬ (c == d) = true := by simpa [isSigma] using capital
          rw [if_neg other, List.count_eq_zero, List.mem_singleton]
          split
          · exact final
          · exact sigma
      · split
        · next isDotted =>
            have other : ¬ (c == d) = true := by simpa [isDotted] using dotted
            rw [if_neg other, List.count_eq_zero]
            simpa using And.intro i dot
        · simp only [List.count_singleton, beq_iff_eq, h.lowerChar_eq_iff]

end Notebase
