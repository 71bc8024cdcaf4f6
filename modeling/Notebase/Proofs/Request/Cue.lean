import Mathlib.Data.List.Forall2
import Notebase.Proofs.Text.Reading
import Notebase.Request.Phrase

/-!
Cues in a sentence. A sentence mentions a cue where the word stands in it by itself, in any letter
case. The search for cues finds every mention (`occursIn_of_mentions`), whatever the rest of the
sentence says.
-/

namespace Notebase

/-! ### Letters in any case -/

theorem toNat_lt_of_toLower {c : Char} (h : c.toLower.isLower = true) : c.toNat < 128 := by
  by_cases capital : c.val ≥ 'A'.val ∧ c.val ≤ 'Z'.val
  · exact Nat.lt_of_le_of_lt (UInt32.le_iff_toNat_le.mp capital.2) (by decide)
  · have same : c.toLower = c := dif_neg capital
    rw [same] at h
    have small : c.val ≤ 'z'.val := of_decide_eq_true (Bool.and_eq_true_iff.mp h).2
    exact Nat.lt_of_le_of_lt (UInt32.le_iff_toNat_le.mp small) (by decide)

/-- What the tables of letters say about a plain letter and its capital. -/
theorem letter_of_toLower {c : Char} (lower : c.toLower.isLower = true) :
    isWordChar c = true ∧ isCased c.toLower = true ∧
      (caseForms c.toLower).contains (lowerChar c) = true := by
  have ascii : ∀ n < 128, (Char.ofNat n).toLower.isLower = true →
      isWordChar (Char.ofNat n) = true ∧ isCased (Char.ofNat n).toLower = true ∧
        (caseForms (Char.ofNat n).toLower).contains (lowerChar (Char.ofNat n)) = true := by
    decide
  have both := ascii c.toNat (toNat_lt_of_toLower lower)
  rw [Char.ofNat_toNat] at both
  exact both lower

/-- A text that spells a word, letter by letter and in any case. -/
def Request.Spells (word t : Text) : Prop :=
  List.Forall₂ (fun x c => lowerChar x ∈ caseForms c) t word

open Request in
/-- What is read as a word spells it. -/
theorem spells_of_mem_readings {word : Text} (cased : ∀ c ∈ word, isCased c = true)
    {s s' : Reading} (mem : s' ∈ (Pattern.letters word).readings s) :
    ∃ u, Spells word u ∧ s.rest = u ++ s'.rest ∧ s'.prev = u.getLast?.or s.prev := by
  induction word generalizing s with
  | nil =>
      rw [List.mem_singleton.mp mem]
      exact ⟨[], .nil, rfl, rfl⟩
  | cons c word ih =>
      rw [Pattern.letters, List.map_cons, Pattern.readings_inOrder_cons, Pattern.letter,
        if_pos (cased c List.mem_cons_self)] at mem
      obtain ⟨mid, first, mem⟩ := List.mem_flatMap.mp mem
      obtain ⟨x, rest, text, passes, rfl⟩ := Pattern.exists_cons_of_mem_readings_char first
      obtain ⟨u, spells, text', prev⟩ := ih (fun d hd => cased d (List.mem_cons_of_mem c hd)) mem
      refine ⟨x :: u, .cons (List.contains_iff_mem.mp passes) spells, ?_, ?_⟩
      · rw [text, List.cons_append, ← text']
        rfl
      · rw [prev, List.getLast?_cons]
        cases u.getLast? <;> rfl

open Request in
/-- A word is read where it is spelled. -/
theorem exists_reading_of_spells {word u rest : Text} (cased : ∀ c ∈ word, isCased c = true)
    (spells : Spells word u) {s : Reading} (text : s.rest = u ++ rest) :
    ∃ s' ∈ (Pattern.letters word).readings s,
      s'.rest = rest ∧ s'.prev = u.getLast?.or s.prev := by
  induction spells generalizing s with
  | nil => exact ⟨s, List.mem_singleton_self s, text, rfl⟩
  | @cons x c u word mem spells ih =>
      have first : (Pattern.letter c).readings s = [s.advance x (u ++ rest)] := by
        rw [Pattern.letter, if_pos (cased c List.mem_cons_self), Pattern.readings, text]
        exact if_pos (List.contains_iff_mem.mpr mem)
      obtain ⟨s', reads, rest', prev⟩ := ih (s := s.advance x (u ++ rest))
        (fun d hd => cased d (List.mem_cons_of_mem c hd)) rfl
      refine ⟨s', ?_, rest', ?_⟩
      · rw [Pattern.letters, List.map_cons, Pattern.readings_inOrder_cons, first,
          List.flatMap_singleton]
        exact reads
      · rw [prev, List.getLast?_cons]
        cases u.getLast? <;> rfl

/-- A word is read in any letter case. -/
theorem exists_reading_letters {word rest : Text}
    (lower : ∀ c ∈ word, c.toLower.isLower = true) {s : Reading} (text : s.rest = word ++ rest) :
    ∃ s' ∈ (Pattern.letters (word.map Char.toLower)).readings s,
      s'.rest = rest ∧ s'.prev = word.getLast?.or s.prev := by
  refine exists_reading_of_spells ?_ ?_ text
  · intro c hc
    obtain ⟨d, hd, rfl⟩ := List.mem_map.mp hc
    exact (letter_of_toLower (lower d hd)).2.1
  · rw [Request.Spells, List.forall₂_map_right_iff, List.forall₂_same]
    exact fun c hc => List.contains_iff_mem.mp (letter_of_toLower (lower c hc)).2.2

/-! ### Mentions -/

/-- A sentence in which one of the words stands by itself, in any letter case. -/
def Request.Mentions (words : List String) (t : Text) : Prop :=
  ∃ before word after, t = before ++ word ++ after ∧
    word.map Char.toLower ∈ words.map String.toList ∧
    (∀ c ∈ before.getLast?, isWordChar c = false) ∧ ∀ c ∈ after.head?, isWordChar c = false

/-- Words of plain letters. -/
def Request.Plainly (words : List String) : Prop :=
  ∀ w ∈ words.map String.toList, w ≠ [] ∧ ∀ c ∈ w, c.isLower = true

instance (words : List String) : Decidable (Request.Plainly words) :=
  inferInstanceAs (Decidable (∀ w ∈ words.map String.toList, w ≠ [] ∧ ∀ c ∈ w, c.isLower = true))

theorem any_eq_false {o : Option Char} {p : Char → Bool} (h : ∀ c ∈ o, p c = false) :
    o.any p = false := by
  cases o with
  | none => rfl
  | some c => exact h c rfl

/-- **Every mention of a cue is found.** -/
theorem Request.occursIn_of_mentions {cues : List String} (letters : Plainly cues) {t : Text}
    (h : Mentions cues t) : (Phrase.cueWord cues).occursIn t = true := by
  obtain ⟨before, word, after, rfl, isCue, noBefore, noAfter⟩ := h
  obtain ⟨written, lowers⟩ := letters _ isCue
  have lower : ∀ c ∈ word, c.toLower.isLower = true := fun c hc =>
    lowers _ (List.mem_map_of_mem hc)
  obtain ⟨cue, mem, eq⟩ := List.mem_map.mp isCue
  have ne : word ≠ [] := by simpa using written
  let s : Reading := ⟨before.getLast?.or none, word ++ after, 0, none⟩
  -- No word goes on across either end of the cue.
  have opens : s.atBoundary = true := by
    obtain ⟨c, rest, rfl⟩ := List.exists_cons_of_ne_nil ne
    have first := (letter_of_toLower (lower c List.mem_cons_self)).1
    simp [s, Reading.atBoundary, any_eq_false noBefore, first]
  obtain ⟨s', reads, rest, prev⟩ := exists_reading_letters (s := s) lower rfl
  have closes : s'.atBoundary = true := by
    have last := (letter_of_toLower (lower _ (List.getLast_mem ne))).1
    rw [List.getLast?_eq_some_getLast ne, Option.some_or] at prev
    rw [Reading.atBoundary, rest, prev, any_eq_false noAfter, Option.any_some, last]
    rfl
  rw [← eq] at reads
  have found : s' ∈ (Phrase.cueWord cues).readings s := by
    rw [Phrase.cueWord, Pattern.readings_inOrder_cons, Pattern.readings, if_pos opens,
      List.flatMap_singleton, Pattern.readings_inOrder_cons]
    refine List.mem_flatMap.mpr ⟨s', Pattern.mem_readings_oneOf (List.mem_map_of_mem mem) reads, ?_⟩
    rw [Pattern.inOrder, Pattern.readings, if_pos closes]
    exact List.mem_singleton_self s'
  rw [Pattern.occursIn, Pattern.find?, List.append_assoc]
  exact Pattern.isSome_findFrom? (List.ne_nil_of_mem found)

end Notebase
