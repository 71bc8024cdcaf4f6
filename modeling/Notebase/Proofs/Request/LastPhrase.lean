import Notebase.Proofs.Request.Cue
import Notebase.Proofs.Request.Name
import Notebase.Proofs.Text.Tail

/-!
The last wish to sort or to group. A name that "by" announces goes on to the next word only if that
word does not end names, and the words that open such a wish do. So a wish in a sentence of its own
at the end of a text is read as it is written, whatever stands before it, and it is the one that
counts (`last_phrase_wins`).
-/

namespace Notebase.Request

open Pattern

/-! ### Names end before a new wish -/

/-- A word that ends names is read as one. -/
theorem ends_name {w : String} (mem : w ∈ nameStopWords) {u : Text}
    (apart : ∀ c ∈ u.head?, isWordChar c = false) {s : Reading} (text : s.rest = w.toList ++ u) :
    (Pattern.seq (words nameStopWords) .boundary).readings s ≠ [] := by
  have plain : ∀ w ∈ nameStopWords, w.toList.map Char.toLower = w.toList ∧ w.toList ≠ [] ∧
      ∀ c ∈ w.toList, c.toLower.isLower = true := by decide
  obtain ⟨same, ne, lower⟩ := plain w mem
  obtain ⟨s', reads, rest, prev⟩ := exists_reading_letters lower text
  have closes : s'.atBoundary = true := by
    have last := (letter_of_toLower (lower _ (List.getLast_mem ne))).1
    rw [List.getLast?_eq_some_getLast ne, Option.some_or] at prev
    rw [Reading.atBoundary, rest, prev, any_eq_false apart, Option.any_some, last]
    rfl
  rw [same] at reads
  refine List.ne_nil_of_mem (a := s') (List.mem_flatMap.mpr ⟨s', ?_, ?_⟩)
  · exact mem_readings_oneOf (List.mem_map_of_mem mem) reads
  · rw [readings, if_pos closes]
    exact List.mem_singleton_self s'

section Tail

variable {rest : Text} (starts : ∀ c ∈ rest.head?, isBlank c = false)
  (stops : ∀ s : Reading, s.rest = rest →
    (Pattern.seq (words nameStopWords) .boundary).readings s ≠ [])
include starts stops

/-- A name does not go on to a word that ends names. -/
theorem leaves_nextWord : Leaves (' ' :: rest) (' ' :: rest) (inOrder [
    blanks, .notAhead (.seq (words nameStopWords) .boundary), run1 Phrase.isNameChar]) := by
  intro s s' mem tail
  obtain ⟨mid, first, mem⟩ := List.mem_flatMap.mp mem
  obtain ⟨mid', second, third⟩ := List.mem_flatMap.mp mem
  have goesOn : (Pattern.seq (words nameStopWords) .boundary).readings mid = [] ∧ mid' = mid := by
    rw [readings] at second
    split at second
    · next none => exact ⟨List.isEmpty_iff.mp none, List.mem_singleton.mp second⟩
    · cases second
  obtain ⟨none, rfl⟩ := goesOn
  have only : Only isBlank blanks := (only_char fun _ known => known).seq (only_run fun _ known =>
    known)
  obtain ⟨b, text, -, all⟩ := only s mid' first
  refine leaves_of_avoids (by decide) mid' s' third ?_
  -- The blanks in front of the next word are not those in front of the word that ends the name.
  rw [text] at tail
  rcases List.suffix_or_suffix_of_suffix tail (List.suffix_append b mid'.rest) with before | after
  · exact before
  · rcases List.suffix_cons_iff.mp after with eq | after
    · rw [eq]
    · obtain ⟨v, eq⟩ := after
      obtain ⟨w, eq'⟩ := tail
      have blanks : b = w ++ ' ' :: v := by
        have same : w ++ ' ' :: v ++ mid'.rest = b ++ mid'.rest := by
          rw [← eq', ← eq]
          simp
        exact (List.append_cancel_right same).symm
      cases v with
      | nil => exact absurd none (stops mid' eq)
      | cons d v =>
          have blank := all d (by rw [blanks]; simp)
          rw [starts d (by rw [← eq]; rfl)] at blank
          cases blank

/-- A name behind "by" ends at the full stop of its sentence. -/
theorem leaves_byName (plain : ∀ c ∈ rest, c ≠ '"' ∧ c ≠ '\'') :
    Leaves ('.' :: ' ' :: rest) (' ' :: rest) Phrase.byName := by
  have quote : ∀ mark ∈ ['"', '\''], mark ∉ '.' :: ' ' :: rest := by
    intro mark hm inside
    rcases List.mem_cons.mp inside with rfl | inside
    · exact absurd hm (by decide)
    · rcases List.mem_cons.mp inside with rfl | inside
      · exact absurd hm (by decide)
      · have other := plain mark inside
        simp only [List.mem_cons, List.not_mem_nil, or_false] at hm
        exact hm.elim other.1 other.2
  have later := List.suffix_cons '.' (' ' :: rest)
  refine .capture (.alt ?_ (.alt ?_ ?_))
  · exact (leaves_of_mark (quote '"' (by decide)) _).mono (List.suffix_refl _) later
  · exact (leaves_of_mark (quote '\'' (by decide)) _).mono (List.suffix_refl _) later
  · refine Leaves.mono (.seq (leaves_of_avoids ?_) (leaves_nextWord starts stops).star) later
      (List.suffix_refl _)
    decide

/-- A wish with a name in it ends before a new wish. -/
theorem leaves_phrase (plain : ∀ c ∈ rest, c ≠ '"' ∧ c ≠ '\'') {cue : Pattern}
    (cueOk : cue.avoids '.' = true) :
    Leaves ('.' :: ' ' :: rest) (' ' :: rest) (inOrder [.boundary, cue, Phrase.arrangedBy]) := by
  have avoid : ∀ p : Pattern, p.avoids '.' = true →
      Leaves ('.' :: ' ' :: rest) ('.' :: ' ' :: rest) p := fun p passes => leaves_of_avoids passes
  refine (avoid _ rfl).seq ((avoid _ cueOk).seq ?_)
  refine (avoid _ ?_).seq ((avoid _ ?_).seq ((avoid _ ?_).seq ((avoid _ ?_).seq
    ((avoid _ ?_).seq ((avoid _ ?_).seq (leaves_byName starts stops plain))))))
  all_goals decide

end Tail

/-! ### A name that is a word -/

section Word

variable {p : Text} (ne : p ≠ []) (word : ∀ c ∈ p, isWordChar c = true)

theorem head?_flatMap_of_head? {α β : Type} {l : List α} {f : α → List β} {a : α} {b : β}
    (first : l.head? = some a) (found : (f a).head? = some b) : (l.flatMap f).head? = some b := by
  rw [List.head?_flatMap]
  cases l with
  | nil => cases first
  | cons a' l =>
      cases first
      rw [List.findSome?_cons, found]

include ne word

/-- The name after "by" is first read as the whole word. -/
theorem head?_byName {s : Reading} (text : s.rest = p) :
    ∃ s', (Phrase.byName.readings s).head? = some s' ∧ s'.rest = [] ∧
      s'.captured = some (p, p.length) := by
  obtain ⟨c, rest, rfl⟩ := List.exists_cons_of_ne_nil ne
  have name : ∀ d ∈ c :: rest, Phrase.isNameChar d = true := fun d hd => by
    rw [Phrase.isNameChar, word d hd]
    rfl
  have unquoted : ∀ mark ∈ ['"', '\''], ∀ ps, (inOrder (exactly mark :: ps)).readings s = [] := by
    have marks : ∀ mark ∈ ['"', '\''], isWordChar mark = false := by decide
    intro mark hm ps
    have other : (c == mark) = false := by
      rw [beq_eq_false_iff_ne]
      rintro rfl
      exact absurd (word c List.mem_cons_self) (by simp [marks c hm])
    rw [readings_inOrder_cons, exactly, readings, text]
    dsimp only
    rw [other]
    rfl
  have run : ∀ d ∈ rest, Phrase.isNameChar d = true := fun d hd =>
    name d (List.mem_cons_of_mem c hd)
  obtain ⟨last, whole, done, count, -⟩ :=
    exists_head?_readingsRun Phrase.isNameChar rest (s.advance c rest)
  rw [List.dropWhile_eq_nil_iff.mpr run] at done
  rw [List.takeWhile_eq_self_iff.mpr run] at count
  have first : ((run1 Phrase.isNameChar).readings s).head? = some last := by
    rw [run1, readings, readings, text]
    dsimp only
    rw [if_pos (name c List.mem_cons_self), List.flatMap_singleton, readings]
    exact whole
  -- Nothing is left behind the first word, so no other word of the name can follow.
  have stop : ∀ a : Pattern, ((Pattern.star a).readings last).head? = some last := by
    intro a
    rw [readings, done rfl]
    rfl
  have reads := head?_flatMap_of_head? first (stop (inOrder [
    blanks, .notAhead (.seq (words nameStopWords) .boundary), run1 Phrase.isNameChar]))
  refine ⟨{ last with captured := some (s.rest, last.count - s.count) }, ?_, done rfl, ?_⟩
  · rw [Phrase.byName, readings, oneOf, oneOf, oneOf, readings, readings, unquoted _ (by simp),
      unquoted _ (by simp), List.nil_append, List.nil_append, List.head?_map, readings, reads]
    rfl
  · have length : last.count - s.count = (c :: rest).length := by
      rw [count, List.length_cons, Reading.advance]
      dsimp only
      omega
    rw [length, text]

/-- What is arranged by a word is first read up to the end of the word. -/
theorem head?_arrangedBy {s : Reading} (text : s.rest = " by ".toList ++ p) :
    ∃ s', (Phrase.arrangedBy.readings s).head? = some s' ∧ s'.rest = [] ∧
      s'.captured = some (p, p.length) := by
  obtain ⟨prev, _, count, captured⟩ := s
  dsimp only at text
  subst text
  obtain ⟨s', first, done, captured_eq⟩ :=
    head?_byName ne word (s := ⟨some ' ', p, count + 4, captured⟩) rfl
  have filled : ∀ c, isWordChar c = true → isBlank c = false := fun _ => not_isBlank_of_isWordChar
  have ed : (opt (Pattern.word "ed")).readings ⟨prev, " by ".toList ++ p, count, captured⟩ =
      [⟨prev, " by ".toList ++ p, count, captured⟩] := rfl
  have gap : blanks.readings ⟨prev, " by ".toList ++ p, count, captured⟩ =
      [⟨some ' ', "by ".toList ++ p, count + 1, captured⟩] := rfl
  have things : (opt (Phrase.wordsThen ["it", "them", "notes", "results", "everything"])).readings
      ⟨some ' ', "by ".toList ++ p, count + 1, captured⟩ =
        [⟨some ' ', "by ".toList ++ p, count + 1, captured⟩] := rfl
  have by_ : (Pattern.word "by").readings ⟨some ' ', "by ".toList ++ p, count + 1, captured⟩ =
      [⟨some 'y', ' ' :: p, count + 3, captured⟩] := rfl
  have gap' : blanks.readings ⟨some 'y', ' ' :: p, count + 3, captured⟩ =
      [⟨some ' ', p, count + 4, captured⟩] := by
    obtain ⟨c, rest, rfl⟩ := List.exists_cons_of_ne_nil ne
    have stop : readingsRun isBlank (c :: rest) ⟨some ' ', c :: rest, count + 4, captured⟩ =
        [⟨some ' ', c :: rest, count + 4, captured⟩] := by
      rw [readingsRun, filled c (word c List.mem_cons_self), if_neg Bool.false_ne_true]
    exact (List.append_nil _).trans stop
  -- The name is not read as the article, for a blank would have to follow it.
  have the : (opt (Phrase.wordsThen ["the"])).readings ⟨some ' ', p, count + 4, captured⟩ =
      [⟨some ' ', p, count + 4, captured⟩] := by
    have none : Fails isWordChar (Phrase.wordsThen ["the"]) :=
      .seq_right _ (.seq_left (fails_char filled) _)
    rw [opt, readings, none _ word]
    rfl
  refine ⟨s', ?_, done, captured_eq⟩
  rw [Phrase.arrangedBy, readings_inOrder_cons, ed, List.flatMap_singleton, readings_inOrder_cons,
    gap, List.flatMap_singleton, readings_inOrder_cons, things, List.flatMap_singleton,
    readings_inOrder_cons, by_, List.flatMap_singleton, readings_inOrder_cons, gap',
    List.flatMap_singleton, readings_inOrder_cons, the, List.flatMap_singleton]
  exact first

/-! ### The last name -/

/-- A word that is the name of something is taken as it is. -/
theorem nameOfFragment_of_word (name : isNoise p = false) : nameOfFragment p = some p := by
  have filled : ∀ c ∈ p, isBlank c = false := fun c hc => not_isBlank_of_isWordChar (word c hc)
  have plain : ∀ c ∈ p, isMark c = false := fun c hc => not_isMark_of_isWordChar (word c hc)
  have pieces : Text.words p = [p] := Text.words_of_word ne filled
  have worded : Worded p := by
    refine ⟨?_, ?_, ?_, ?_⟩
    all_goals rw [pieces]
    · exact List.cons_ne_nil _ _
    · rw [Text.unwords, Text.join, List.intercalate_singleton]
    · simpa using name
    · simpa using name
  have bare : Bare p := ⟨fun c hc => plain c (List.mem_of_mem_head? hc),
    fun c hc => plain c (List.mem_of_getLast? hc)⟩
  have first : p.head?.all isOpeningQuote = false := by
    obtain ⟨c, rest, rfl⟩ := List.exists_cons_of_ne_nil ne
    have notMark := plain c List.mem_cons_self
    rw [isMark, isQuote, Bool.or_eq_false_iff, Bool.or_eq_false_iff] at notMark
    exact notMark.1.1
  rw [nameOfFragment, worded.trimmed.trim_eq, first, if_neg Bool.false_ne_true]
  exact worded.cleanName_eq bare

section Wish

variable {cue : Pattern} {w : String} (mem : w ∈ nameStopWords)
  (reads : ∀ u, cue.readings ⟨some ' ', w.toList ++ u, 0, none⟩ =
    [⟨w.toList.getLast?, u, w.toList.length, none⟩])

omit ne word in
/-- The words that end names are written in word characters. -/
theorem isWord_of_mem_nameStopWords : ∀ w ∈ nameStopWords,
    w.toList ≠ [] ∧ ∀ c ∈ w.toList, isWordChar c = true := by decide

include mem reads

/-- A wish is the one match in a sentence of its own. -/
theorem findAllFrom_phrase :
    ∃ n, (inOrder [.boundary, cue, Phrase.arrangedBy]).findAllFrom 0 (some '.')
      (' ' :: (w.toList ++ " by ".toList ++ p)) = [⟨n, p, []⟩] := by
  let phrase := inOrder [.boundary, cue, Phrase.arrangedBy]
  obtain ⟨written, letters⟩ := isWord_of_mem_nameStopWords w mem
  obtain ⟨c, w', cons⟩ := List.exists_cons_of_ne_nil written
  have isWord : isWordChar c = true := letters c (by rw [cons]; exact List.mem_cons_self)
  have needs : phrase.needsText = true := by
    have passes : Phrase.arrangedBy.needsText = true := by decide
    simp [phrase, inOrder, needsText, passes]
  obtain ⟨s', first, done, captured⟩ := head?_arrangedBy ne word
    (s := ⟨w.toList.getLast?, " by ".toList ++ p, w.toList.length, none⟩) rfl
  have opens : Reading.atBoundary ⟨some ' ', w.toList ++ " by ".toList ++ p, 0, none⟩ = true := by
    have blank : isWordChar ' ' = false := by decide
    simp [Reading.atBoundary, cons, isWord, blank]
  have reading : (phrase.readings ⟨some ' ', w.toList ++ " by ".toList ++ p, 0, none⟩).head? =
      some s' := by
    rw [readings_inOrder_cons, readings, if_pos opens, List.flatMap_singleton,
      readings_inOrder_cons, List.append_assoc, reads, List.flatMap_singleton]
    exact first
  have found : phrase.matchAt? (some ' ') (w.toList ++ " by ".toList ++ p) =
      some ⟨s'.count, p, []⟩ := by
    rw [matchAt?_eq_head?, reading, Option.map_some, matchOf, captured, done, Option.map_some,
      Option.getD_some]
    dsimp only
    rw [List.take_length]
  have whole : s'.count = (w.toList ++ " by ".toList ++ p).length := by
    have count := (leads_of_mem_readings (List.mem_of_head? reading)).count
    rw [done] at count
    simpa using count
  -- Between the full stop and the blank no word starts.
  have before : phrase.matchAt? (some '.') (' ' :: (w.toList ++ " by ".toList ++ p)) = none := by
    have stays : Reading.atBoundary ⟨some '.', ' ' :: (w.toList ++ " by ".toList ++ p), 0, none⟩ =
        false := rfl
    rw [matchAt?_eq_head?, readings_inOrder_cons, readings, if_neg (by rw [stays]; simp)]
    rfl
  refine ⟨s'.count, ?_⟩
  rw [findAllFrom, before]
  dsimp only
  rw [cons, List.cons_append, List.cons_append] at found whole ⊢
  rw [findAllFrom, found]
  dsimp only
  rw [findAllFrom_of_length_le needs (by rw [whole]; exact Nat.le_refl _)]

/-- **The name that counts is that of the last wish.** -/
theorem lastName_append (cueOk : cue.avoids '.' = true) (name : isNoise p = false) (a : Text) :
    lastName (inOrder [.boundary, cue, Phrase.arrangedBy])
      (a ++ '.' :: ' ' :: (w.toList ++ " by ".toList ++ p)) = some p := by
  obtain ⟨written, letters⟩ := isWord_of_mem_nameStopWords w mem
  have starts : ∀ d ∈ (w.toList ++ " by ".toList ++ p).head?, isBlank d = false := by
    intro d hd
    rw [List.append_assoc, List.head?_append_of_ne_nil _ written] at hd
    exact not_isBlank_of_isWordChar (letters d (List.mem_of_mem_head? hd))
  have stops : ∀ s : Reading, s.rest = w.toList ++ " by ".toList ++ p →
      (Pattern.seq (words nameStopWords) .boundary).readings s ≠ [] := by
    intro s text
    rw [List.append_assoc] at text
    exact ends_name mem (by rintro d ⟨⟩; decide) text
  have unquoted : ∀ d ∈ w.toList ++ " by ".toList ++ p, d ≠ '"' ∧ d ≠ '\'' := by
    have marks : isWordChar '"' = false ∧ isWordChar '\'' = false := by decide
    have apart : ∀ d, isWordChar d = true → d ≠ '"' ∧ d ≠ '\'' := by
      intro d wordChar
      constructor
      · rintro rfl
        rw [marks.1] at wordChar
        cases wordChar
      · rintro rfl
        rw [marks.2] at wordChar
        cases wordChar
    have fixed : ∀ d ∈ " by ".toList, d ≠ '"' ∧ d ≠ '\'' := by decide
    intro d hd
    rw [List.mem_append, List.mem_append] at hd
    rcases hd with (hd | hd) | hd
    · exact apart d (letters d hd)
    · exact fixed d hd
    · exact apart d (word d hd)
  obtain ⟨ms, all⟩ := @Leaves.exists_findAllFrom _ _ _
    (leaves_phrase starts stops unquoted cueOk) 0 none a (Nat.zero_le _)
  obtain ⟨n, last⟩ := findAllFrom_phrase ne word mem reads
  rw [lastName, findAll, all, last, List.map_append, List.filterMap_append, List.map_singleton,
    List.filterMap_cons_some (nameOfFragment_of_word ne word name), List.filterMap_nil,
    List.getLast?_concat]

end Wish

end Word

/-! ### Downwards -/

/-- A text in which "desc" or "descending" stands by itself, in any letter case. -/
def SaysDescending (t : Text) : Prop :=
  ∃ before word after, t = before ++ word ++ after ∧
    (Spells "desc".toList word ∨ Spells "descending".toList word) ∧
    (∀ c ∈ before.getLast?, isWordChar c = false) ∧ ∀ c ∈ after.head?, isWordChar c = false

/-- What spells "descending" or a part of it is written in letters of words. -/
theorem isWord_of_spells {word u : Text} (sub : word ⊆ "descending".toList)
    (spells : Spells word u) : ∀ x ∈ u, isWordChar x = true := by
  have table : ∀ c ∈ "descending".toList, ∀ low ∈ caseForms c, 0 < low.toNat ∧
      ∀ n ∈ CaseRun.origins lowerRuns low.toNat, isWordChar (Char.ofNat n) = true := by
    decide
  induction spells with
  | nil => exact List.forall_mem_nil _
  | @cons x c u word mem spells ih =>
      obtain ⟨pos, letters⟩ := table c (sub List.mem_cons_self) _ mem
      refine List.forall_mem_cons.mpr ⟨?_, ih fun d hd => sub (List.mem_cons_of_mem c hd)⟩
      rw [← Char.ofNat_toNat (c := x)]
      exact letters _ (mem_origins_lowerChar pos)

/-- A place in front of a word is a boundary if no word ends there. -/
theorem atBoundary_iff_prev {s : Reading} {c : Char} {rest : Text} (text : s.rest = c :: rest)
    (word : isWordChar c = true) : s.atBoundary = true ↔ ∀ d ∈ s.prev, isWordChar d = false := by
  rw [Reading.atBoundary, text, List.head?_cons, Option.any_some, word]
  cases s.prev <;> simp

/-- A place behind a word is a boundary if no word starts there. -/
theorem atBoundary_iff_rest {s : Reading} {c : Char} (prev : s.prev = some c)
    (word : isWordChar c = true) :
    s.atBoundary = true ↔ ∀ d ∈ s.rest.head?, isWordChar d = false := by
  rw [Reading.atBoundary, prev, Option.any_some, word]
  cases s.rest.head? <;> simp

/-- What is read as "desc" or "descending" spells it. -/
theorem spells_of_mem_readings_descending {s s' : Reading}
    (mem : s' ∈ (Pattern.seq (.word "desc") (opt (.word "ending"))).readings s) :
    ∃ u, (Spells "desc".toList u ∨ Spells "descending".toList u) ∧ s.rest = u ++ s'.rest ∧
      s'.prev = u.getLast?.or s.prev := by
  obtain ⟨mid, first, second⟩ := List.mem_flatMap.mp mem
  obtain ⟨u, spells, text, prev⟩ := spells_of_mem_readings (by decide) first
  rcases List.mem_append.mp second with more | none
  · obtain ⟨v, spells', text', prev'⟩ := spells_of_mem_readings (by decide) more
    refine ⟨u ++ v, .inr (List.rel_append spells spells'), ?_, ?_⟩
    · rw [text, text', List.append_assoc]
    · rw [prev', prev, List.getLast?_append, Option.or_assoc]
  · obtain rfl : s' = mid := List.mem_singleton.mp none
    exact ⟨u, .inl spells, text, prev⟩

/-- What spells "desc" or "descending" is read as it. -/
theorem exists_reading_descending {s : Reading} {u rest : Text}
    (spells : Spells "desc".toList u ∨ Spells "descending".toList u) (text : s.rest = u ++ rest) :
    ∃ s' ∈ (Pattern.seq (.word "desc") (opt (.word "ending"))).readings s,
      s'.rest = rest ∧ s'.prev = u.getLast?.or s.prev := by
  rcases spells with spells | spells
  · obtain ⟨s', reads, rest', prev⟩ := exists_reading_of_spells (by decide) spells text
    refine ⟨s', List.mem_flatMap.mpr ⟨s', reads, ?_⟩, rest', prev⟩
    exact List.mem_append_right _ (List.mem_singleton_self s')
  · have parts : "descending".toList = "desc".toList ++ "ending".toList := by decide
    rw [parts] at spells
    have first : Spells "desc".toList (u.take 4) := List.forall₂_take_append u _ _ spells
    have second : Spells "ending".toList (u.drop 4) := List.forall₂_drop_append u _ _ spells
    have text' : s.rest = u.take 4 ++ (u.drop 4 ++ rest) := by
      rw [text, ← List.append_assoc, List.take_append_drop]
    obtain ⟨mid, reads, rest', prev⟩ := exists_reading_of_spells (by decide) first text'
    obtain ⟨s', reads', rest'', prev'⟩ := exists_reading_of_spells (by decide) second rest'
    refine ⟨s', List.mem_flatMap.mpr ⟨mid, reads, List.mem_append_left _ reads'⟩, rest'', ?_⟩
    rw [prev', prev, ← Option.or_assoc, ← List.getLast?_append, List.take_append_drop]

theorem atBoundary_of_mem_readings {s s' : Reading} (mem : s' ∈ Pattern.boundary.readings s) :
    s.atBoundary = true ∧ s' = s := by
  rw [readings] at mem
  split at mem
  · next passes => exact ⟨passes, List.mem_singleton.mp mem⟩
  · cases mem

/-- **The search for "descending" finds what says it.** -/
theorem occursIn_descending_iff {t : Text} :
    Phrase.descending.occursIn t = true ↔ SaysDescending t := by
  -- What spells the word starts and ends with a letter of a word.
  have ends : ∀ u : Text, Spells "desc".toList u ∨ Spells "descending".toList u →
      ∃ c rest d, u = c :: rest ∧ isWordChar c = true ∧ u.getLast? = some d ∧
        isWordChar d = true := by
    intro u spells
    have letters : ∀ x ∈ u, isWordChar x = true :=
      spells.elim (isWord_of_spells (by decide)) (isWord_of_spells (List.Subset.refl _))
    have ne : u ≠ [] := by
      rintro rfl
      rcases spells with spells | spells <;> cases spells
    obtain ⟨c, rest, rfl⟩ := List.exists_cons_of_ne_nil ne
    exact ⟨c, rest, _, rfl, letters c List.mem_cons_self, List.getLast?_eq_some_getLast ne,
      letters _ (List.getLast_mem ne)⟩
  rw [occursIn_iff_exists_reading]
  constructor
  · rintro ⟨before, rest, rfl, reads⟩
    obtain ⟨last, mem⟩ := List.exists_mem_of_ne_nil _ reads
    obtain ⟨start, starts, mem⟩ := List.mem_flatMap.mp mem
    obtain ⟨mid, first, mem⟩ := List.mem_flatMap.mp mem
    obtain ⟨stop, second, stops⟩ := List.mem_flatMap.mp mem
    obtain ⟨opens, rfl⟩ := atBoundary_of_mem_readings starts
    obtain ⟨closes, -⟩ := atBoundary_of_mem_readings stops
    obtain ⟨u, spells, text, prev⟩ :=
      spells_of_mem_readings_descending (List.mem_flatMap.mpr ⟨mid, first, second⟩)
    obtain ⟨c, u', d, cons, wordChar, lastChar, final⟩ := ends u spells
    dsimp only at text prev
    refine ⟨before, u, stop.rest, by rw [text, List.append_assoc], spells, ?_, ?_⟩
    · refine (@atBoundary_iff_prev _ _ (u' ++ stop.rest) ?_ wordChar).mp opens
      rw [text, cons, List.cons_append]
    · rw [lastChar, Option.some_or] at prev
      exact (atBoundary_iff_rest prev final).mp closes
  · rintro ⟨before, word, after, rfl, spells, noBefore, noAfter⟩
    obtain ⟨c, rest, d, cons, first, last, final⟩ := ends word spells
    let start : Reading := ⟨before.getLast?, word ++ after, 0, none⟩
    obtain ⟨stop, reads, rest', prev⟩ := exists_reading_descending (s := start) spells rfl
    have opens : start.atBoundary = true :=
      (@atBoundary_iff_prev _ _ (rest ++ after) (by simp [start, cons]) first).mpr noBefore
    have closes : stop.atBoundary = true := by
      rw [last, Option.some_or] at prev
      rw [atBoundary_iff_rest prev final, rest']
      exact noAfter
    refine ⟨before, word ++ after, List.append_assoc _ _ _, List.ne_nil_of_mem (a := stop) ?_⟩
    obtain ⟨mid, first, second⟩ := List.mem_flatMap.mp reads
    have here : ∀ s : Reading, s.atBoundary = true → s ∈ Pattern.boundary.readings s := by
      intro s passes
      rw [readings, if_pos passes]
      exact List.mem_singleton_self s
    exact List.mem_flatMap.mpr ⟨start, here start opens, List.mem_flatMap.mpr ⟨mid, first,
      List.mem_flatMap.mpr ⟨stop, second, here stop closes⟩⟩⟩

/-! ### Sentences at the end -/

/-- **The last wish to sort or to group counts.** Whatever stands before it, a wish in a sentence of
its own at the end of a text is read as it is written: what is arranged by is the word that it
names, and a sorting goes downwards exactly if the text says so anywhere. -/
theorem last_phrase_wins (a : Text) {p : Text} (ne : p ≠ []) (word : ∀ c ∈ p, isWordChar c = true)
    (name : isNoise p = false) :
    let sorted := a ++ ". sort by ".toList ++ p
    (SaysDescending sorted → sortingOf sorted = some ⟨p, "DESC".toList⟩) ∧
      (¬ SaysDescending sorted → sortingOf sorted = some ⟨p, "ASC".toList⟩) ∧
      groupByOf (a ++ ". group by ".toList ++ p) = some p := by
  intro sorted
  have sort := @lastName_append p ne word (words ["sort", "order"]) "sort" (by decide)
    (fun _ => rfl) (by decide) name a
  have group := @lastName_append p ne word (Pattern.word "group") "group" (by decide)
    (fun _ => rfl) (by decide) name a
  have sortText : a ++ '.' :: ' ' :: ("sort".toList ++ " by ".toList ++ p) = sorted := by
    simp [sorted]
  have groupText : a ++ '.' :: ' ' :: ("group".toList ++ " by ".toList ++ p) =
      a ++ ". group by ".toList ++ p := by simp
  rw [sortText] at sort
  rw [groupText] at group
  rw [← occursIn_descending_iff, sortingOf, Phrase.sortPhrase, sort, Option.map_some]
  refine ⟨fun downwards => ?_, fun upwards => ?_, group⟩
  · rw [if_pos downwards]
  · rw [if_neg upwards]

/-- An open quotation, an earlier wish to sort and the start of another one do not count, and
"described" does not say "desc". -/
theorem wish_to_sort_by_due_date_wins :
    sortingOf "order by \"size, DESC. sort by due_date".toList =
        some ⟨"due_date".toList, "DESC".toList⟩ ∧
      sortingOf "described, sort by 'size and sort. sort by due_date".toList =
        some ⟨"due_date".toList, "ASC".toList⟩ ∧
      groupByOf "described, sort by 'size and sort. group by due_date".toList =
        some "due_date".toList := by
  have downwards := (last_phrase_wins "order by \"size, DESC".toList
    (p := "due_date".toList) (by decide) (by decide) (by decide)).1
  have upwards := (last_phrase_wins "described, sort by 'size and sort".toList
    (p := "due_date".toList) (by decide) (by decide) (by decide)).2
  refine ⟨downwards (occursIn_descending_iff.mp (by decide)), upwards.1 ?_, upwards.2⟩
  rw [← occursIn_descending_iff]
  decide

end Notebase.Request
