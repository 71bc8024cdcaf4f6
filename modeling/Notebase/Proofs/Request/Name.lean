import Notebase.Proofs.Request.Neat

/-!
Names that are cleaned again. Cleaning puts the words of a name one space apart and drops the noise
around them, but what stands at the ends of a cleaned name need not have stood at the ends before,
and so a quotation mark or a punctuation mark may be left there. A cleaned name stays as it is
exactly if there is none, and otherwise gets shorter (`cleaning_settles_iff`).
-/

namespace Notebase.Request

open Text

/-! ### The words of a name -/

/-- The name that words make which cleaning has kept has just these words. -/
theorem words_unwords_nameWords (raw : Text) : words (unwords (nameWords raw)) = nameWords raw :=
  words_unwords fun _ hw => mem_words ((nameWords_sublist raw).subset hw)

/-! ### Clean names -/

/-- A name whose words stand one space apart, neither the first nor the last of them noise. -/
structure Worded (name : Text) : Prop where
  ne_nil : words name ≠ []
  spaced : unwords (words name) = name
  first : ∀ w ∈ (words name).head?, isNoise w = false
  last : ∀ w ∈ (words name).getLast?, isNoise w = false

/-- A quotation mark, or punctuation other than a space. -/
def isMark (c : Char) : Bool := isQuote c || isNamePunctuation c && c != ' '

/-- A name with no mark at either end. -/
structure Bare (name : Text) : Prop where
  first : ∀ c ∈ name.head?, isMark c = false
  last : ∀ c ∈ name.getLast?, isMark c = false

theorem isMark_eq_false_iff {c : Char} (written : isBlank c = false) :
    isMark c = false ↔ isQuote c = false ∧ isNamePunctuation c = false := by
  have other : c ≠ ' ' := by
    rintro rfl
    cases written
  simp [isMark, other]

/-- Words are written without marks. -/
theorem not_isMark_of_isWordChar {c : Char} (word : isWordChar c = true) : isMark c = false := by
  have absent : ∀ marks : List Char, (∀ d ∈ marks, isWordChar d = false) →
      marks.contains c = false := by
    intro marks none
    by_contra mem
    rw [Bool.not_eq_false, List.contains_iff_mem] at mem
    rw [none c mem] at word
    cases word
  rw [isMark, isQuote, isOpeningQuote, isClosingQuote, isNamePunctuation,
    absent _ (by decide +kernel), absent _ (by decide +kernel), absent _ (by decide)]
  rfl

/-- Where no blank stands at either end, a bare name is one with nothing to trim. -/
theorem bare_iff {name : Text} (trimmed : name.Trimmed) : Bare name ↔
    name.trimBy isQuote = name ∧ name.trimBy isNamePunctuation = name := by
  have firstMark := fun c hc => isMark_eq_false_iff (trimmed.first c hc)
  have lastMark := fun c hc => isMark_eq_false_iff (trimmed.last c hc)
  rw [trimBy_eq_self_iff, trimBy_eq_self_iff]
  constructor
  · intro bare
    have first := fun c hc => (firstMark c hc).mp (bare.first c hc)
    have last := fun c hc => (lastMark c hc).mp (bare.last c hc)
    exact ⟨⟨fun c hc => (first c hc).1, fun c hc => (last c hc).1⟩,
      fun c hc => (first c hc).2, fun c hc => (last c hc).2⟩
  · rintro ⟨⟨first, last⟩, first', last'⟩
    exact ⟨fun c hc => (firstMark c hc).mpr ⟨first c hc, first' c hc⟩,
      fun c hc => (lastMark c hc).mpr ⟨last c hc, last' c hc⟩⟩

theorem Worded.trimmed {name : Text} (worded : Worded name) : name.Trimmed := by
  rw [← worded.spaced]
  exact (written_unwords worded.ne_nil fun w hw => mem_words hw).trimmed

/-- **A cleaned name** is worded. -/
theorem worded_of_cleanName {raw name : Text} (h : cleanName raw = some name) : Worded name := by
  obtain ⟨ne, rfl⟩ := cleanName_eq_some_iff.mp h
  have words_eq := words_unwords_nameWords raw
  refine ⟨?_, ?_, ?_, ?_⟩
  all_goals rw [words_eq]
  · exact ne
  · exact head?_dropEnds
  · exact getLast?_dropEnds

/-- **A worded name that is bare** is left as it is. -/
theorem Worded.cleanName_eq {name : Text} (worded : Worded name) (bare : Bare name) :
    cleanName name = some name := by
  obtain ⟨quotes, punctuation⟩ := (bare_iff worded.trimmed).mp bare
  have unquoted : withoutQuotes name = name := by
    rw [withoutQuotes, worded.trimmed.trim_eq, quotes, worded.trimmed.trim_eq]
  have kept : nameWords name = words name := by
    rw [nameWords, core, unquoted, punctuation]
    exact dropEnds_eq_self_iff.mpr ⟨worded.first, worded.last⟩
  exact cleanName_eq_some_iff.mpr ⟨kept ▸ worded.ne_nil, by rw [kept, worded.spaced]⟩

/-- Cleaning makes a name shorter that is not bare. -/
theorem length_lt_of_not_bare {name name' : Text} (marked : ¬ Bare name)
    (h : cleanName name = some name') : name'.length < name.length := by
  obtain ⟨-, rfl⟩ := cleanName_eq_some_iff.mp h
  have kept := length_unwords_le (nameWords_sublist name)
  have inner : (core name).Sublist (withoutQuotes name) := dropEnds_sublist isNamePunctuation _
  have around : (withoutQuotes name).Sublist (name.trim.trimBy isQuote) := dropEnds_sublist isBlank _
  have quotes : (name.trim.trimBy isQuote).Sublist name.trim := dropEnds_sublist isQuote _
  have blanks : name.trim.Sublist name := dropEnds_sublist isBlank _
  have lengths := And.intro inner.length_le
    (And.intro around.length_le (And.intro quotes.length_le blanks.length_le))
  -- a name that does not get shorter loses nothing at any step
  by_contra long
  have trimmed : name.trim = name := blanks.eq_of_length_le (by omega)
  have unquoted : name.trim.trimBy isQuote = name.trim := quotes.eq_of_length_le (by omega)
  have whole : withoutQuotes name = name :=
    (around.eq_of_length_le (by omega)).trans (unquoted.trans trimmed)
  have unmarked := inner.eq_of_length_le (by omega)
  rw [core, whole] at unmarked
  rw [trimmed] at unquoted
  exact marked ((bare_iff (trim_eq_self_iff.mp trimmed)).mpr ⟨unquoted, unmarked⟩)

/-- A name that is cleaned out of something without marks in it is bare. -/
theorem bare_of_core {raw name : Text} (h : cleanName raw = some name)
    (unmarked : ∀ c ∈ core raw, isMark c = false) : Bare name := by
  obtain ⟨-, rfl⟩ := cleanName_eq_some_iff.mp h
  have all : ∀ c ∈ unwords (nameWords raw), isMark c = false := by
    intro c mem
    rcases mem_of_mem_unwords (nameWords_sublist raw).subset mem with rfl | listed
    · decide
    · exact unmarked c listed
  exact ⟨fun c hc => all c (List.mem_of_mem_head? hc), fun c hc => all c (List.mem_of_getLast? hc)⟩

/-- **The names that cleaning leaves as they are.** -/
theorem cleanName_eq_self_iff {name : Text} :
    cleanName name = some name ↔ Worded name ∧ Bare name := by
  refine ⟨fun h => ⟨worded_of_cleanName h, ?_⟩, fun clean => clean.1.cleanName_eq clean.2⟩
  by_contra marked
  exact absurd (length_lt_of_not_bare marked h) (Nat.lt_irrefl _)

/-- **A cleaned name stays as it is** exactly if no mark stands at either end of it, and so it does
where no mark stood inside. In any case its words are one space apart with no noise around them, and
cleaning it again changes nothing, leaves nothing or makes it shorter. -/
theorem cleaning_settles_iff {raw name : Text} (h : cleanName raw = some name) :
    Worded name ∧ (cleanName name = some name ↔ Bare name) ∧
      ((∀ c ∈ core raw, isMark c = false) → Bare name) ∧
      ∀ name' ∈ cleanName name, name' = name ∨ name'.length < name.length := by
  have worded := worded_of_cleanName h
  refine ⟨worded, by simp [cleanName_eq_self_iff, worded], bare_of_core h, fun name' mem => ?_⟩
  by_cases bare : Bare name
  · rw [worded.cleanName_eq bare, Option.mem_some_iff] at mem
    exact .inl mem.symm
  · exact .inr (length_lt_of_not_bare bare mem)

/-- Quotation marks, a full stop, noise and wide gaps are all dropped at once. -/
theorem due_date_settles :
    cleanName "\"the due  date.\"".toList = some "due date".toList ∧
      cleanName "due date".toList = some "due date".toList := by
  have found : cleanName "\"the due  date.\"".toList = some "due date".toList := by decide
  obtain ⟨-, stays, bare, -⟩ := cleaning_settles_iff found
  exact ⟨found, stays.mpr (bare (by decide))⟩

/-- A comma before a word that is dropped last is left over. -/
theorem covered_comma_is_left :
    ¬ ∀ raw name : Text, cleanName raw = some name → cleanName name = some name := by
  intro settles
  have again : cleanName "size,".toList = some "size,".toList :=
    settles "size, and".toList _ (by decide)
  exact absurd again (by decide)

end Notebase.Request
