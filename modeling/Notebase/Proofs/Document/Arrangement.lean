import Notebase.Proofs.Document.Summary

/-!
How an arrangement is read. The property of a sorting or a grouping is written on a row as it is,
and the readers take what stands there up to the first blank (`sorting_sortEntry_onRow`,
`grouping?_groupEntry_onRow`). A property without blanks is read back as it was written.
-/

namespace Notebase

namespace Text

/-! ### Values on a row -/

def leadWord (t : Text) : Text := t.takeWhile (!isBlank ·)

theorem leadWord_eq_self {t : Text} : t.leadWord = t ↔ ∀ c ∈ t, isBlank c = false := by
  rw [leadWord, List.takeWhile_eq_self_iff]
  simp only [Bool.not_eq_true']

/-- A value that can stand on a row: it does not open with a blank, and no line breaks in it. -/
structure OnRow (t : Text) : Prop where
  ne_nil : t ≠ []
  first : ∀ c ∈ t.head?, isBlank c = false
  whole : ∀ c ∈ t, isLineBreak c = false

theorem OnRow.plain {t : Text} (value : t.OnRow) : '\n' ∉ t := by
  intro mem
  exact absurd (value.whole _ mem) (by decide)

/-- Something is written, with no blank in it. -/
structure Unbroken (t : Text) : Prop where
  written : t ≠ []
  noBlank : ∀ c ∈ t, isBlank c = false

theorem Unbroken.plain {t : Text} (word : Unbroken t) : '\n' ∉ t := by
  intro mem
  exact absurd (word.noBlank _ mem) (by decide)

theorem Unbroken.leadWord_eq {t : Text} (word : Unbroken t) : t.leadWord = t :=
  leadWord_eq_self.mpr word.noBlank

end Text

theorem isBlank_of_isLineBreak {c : Char} (brk : Text.isLineBreak c = true) : isBlank c = true := by
  simp only [Text.isLineBreak, isBlank, Ranges.has, blankRanges] at brk ⊢
  simp at brk ⊢
  omega

theorem not_isLineBreak_of_not_isBlank {c : Char} (filled : isBlank c = false) :
    Text.isLineBreak c = false := by
  by_contra brk
  rw [Bool.not_eq_false] at brk
  rw [isBlank_of_isLineBreak brk] at filled
  cases filled

theorem Text.Unbroken.onRow {t : Text} (word : Text.Unbroken t) : t.OnRow where
  ne_nil := word.written
  first c hc := word.noBlank c (List.mem_of_mem_head? hc)
  whole c hc := not_isLineBreak_of_not_isBlank (word.noBlank c hc)

namespace Document

/-! ### Rows of an arrangement -/

/-- What is read of a value after its colon is its first word. -/
theorem firstWord?_onRow {w : Text} (value : w.OnRow) : firstWord? (' ' :: w) = some w.leadWord := by
  obtain ⟨c, t, rfl⟩ := List.exists_cons_of_ne_nil value.ne_nil
  have filled : isBlank c = false := value.first c rfl
  have lead : Text.leadWord (c :: t) = c :: Text.leadWord t := by
    rw [Text.leadWord, List.takeWhile_cons_of_pos (by simp [filled])]
    rfl
  rw [firstWord?, List.dropWhile_cons_of_pos (by decide),
    List.dropWhile_cons_of_neg (by simp [filled]), ← Text.leadWord, lead]

/-- A row of an arrangement is one piece. -/
theorem brokenLines_arrangementRow (n : Nat) {front w : Text}
    (clear : ∀ c ∈ front, Text.isLineBreak c = false) (value : w.OnRow) :
    Text.brokenLines (Text.spaces n ++ front ++ w) = [Text.spaces n ++ front ++ w] := by
  refine Text.brokenLines_eq_singleton (by simp [value.ne_nil]) fun c hc => ?_
  rcases List.mem_append.mp hc with hc | hc
  · rcases List.mem_append.mp hc with hc | hc
    · rw [List.eq_of_mem_replicate hc]
      decide
    · exact clear c hc
  · exact value.whole c hc

theorem arrangement?_row (word value : Text) (mem : word ∈ arrangementWords) :
    arrangement? (word ++ ": ".toList ++ value) = some (word, ' ' :: value) := by
  simp only [arrangementWords, List.map_cons, List.map_nil, List.mem_cons, List.not_mem_nil,
    or_false] at mem
  rcases mem with rfl | rfl
  · rfl
  · rfl

/-- The row of a property is read up to its first blank. -/
theorem sortLine?_property {property : Text} (value : property.OnRow) (n : Nat) :
    sortLine? (Text.spaces n ++ "  - property: ".toList ++ property) =
      some (true, "property".toList, property.leadWord) := by
  have start : (Text.spaces n ++ "  - property: ".toList ++ property).dropWhile isBlank =
      "- property: ".toList ++ property := by
    rw [List.append_assoc, dropWhile_isBlank_spaces]
    rfl
  rw [sortLine?, start]
  show (arrangement? ("property".toList ++ ": ".toList ++ property)).bind _ = _
  rw [arrangement?_row _ _ (by decide), Option.bind_some]
  dsimp only
  rw [firstWord?_onRow value, Option.map_some]
  rfl

/-- The row of a direction is read up to its first blank. -/
theorem sortLine?_direction {direction : Text} (value : direction.OnRow) (n : Nat) :
    sortLine? (Text.spaces n ++ "    direction: ".toList ++ direction) =
      some (false, "direction".toList, direction.leadWord) := by
  have start : (Text.spaces n ++ "    direction: ".toList ++ direction).dropWhile isBlank =
      "direction: ".toList ++ direction := by
    rw [List.append_assoc, dropWhile_isBlank_spaces]
    rfl
  rw [sortLine?, start]
  show (arrangement? ("direction".toList ++ ": ".toList ++ direction)).bind _ = _
  rw [arrangement?_row _ _ (by decide), Option.bind_some]
  dsimp only
  rw [firstWord?_onRow value, Option.map_some]
  rfl

/-! ### Arrangements -/

section Reading

variable {property direction : Text}

/-- **A sorting is read up to the first blanks of its values.** -/
theorem sorting_sortEntry_onRow (isProperty : property.OnRow) (isDirection : direction.OnRow)
    (dash : Nat) :
    (sortEntry property direction dash).sorting =
      [[("property".toList, property.leadWord), ("direction".toList, direction.leadWord)]] := by
  have clear : ∀ c ∈ "  - property: ".toList, Text.isLineBreak c = false := by decide
  have clear' : ∀ c ∈ "    direction: ".toList, Text.isLineBreak c = false := by decide
  have pieces := brokenLines_arrangementRow (dash + 2) clear isProperty
  have pieces' := brokenLines_arrangementRow (dash + 2) clear' isDirection
  rw [Entry.sorting, sortEntry, List.flatMap_cons, List.flatMap_singleton, pieces, pieces',
    List.singleton_append, List.filterMap_cons_some (sortLine?_property isProperty _),
    List.filterMap_cons_some (sortLine?_direction isDirection _)]
  rfl

/-- A sorting is read back as it was written. -/
theorem sorting_sortEntry (isProperty : Text.Unbroken property)
    (isDirection : Text.Unbroken direction) (dash : Nat) :
    (sortEntry property direction dash).sorting =
      [[("property".toList, property), ("direction".toList, direction)]] := by
  rw [sorting_sortEntry_onRow isProperty.onRow isDirection.onRow dash, isProperty.leadWord_eq,
    isDirection.leadWord_eq]

/-- **A grouping is read up to the first blanks of its values.** -/
theorem grouping?_groupEntry_onRow (isProperty : property.OnRow) (isDirection : direction.OnRow)
    (dash : Nat) :
    (groupEntry property direction dash).grouping? =
      some [("property".toList, property.leadWord), ("direction".toList, direction.leadWord)] := by
  have start : (Text.spaces (dash + 2) ++ "  property: ".toList ++ property).dropWhile isBlank =
      "property".toList ++ ": ".toList ++ property := by
    rw [List.append_assoc, dropWhile_isBlank_spaces]
    rfl
  have start' : (Text.spaces (dash + 2) ++ "  direction: ".toList ++ direction).dropWhile isBlank =
      "direction".toList ++ ": ".toList ++ direction := by
    rw [List.append_assoc, dropWhile_isBlank_spaces]
    rfl
  have found := arrangement?_row "property".toList property (by decide)
  have found' := arrangement?_row "direction".toList direction (by decide)
  have pairs : groupPairsFrom 0 (groupEntry property direction dash).children =
      [("property".toList, property.leadWord), ("direction".toList, direction.leadWord)] := by
    simp only [groupEntry, groupPairsFrom, start, start', found, found',
      firstWord?_onRow isProperty, firstWord?_onRow isDirection]
  rw [Entry.grouping?, pairs]
  rfl

/-- A grouping is read back as it was written. -/
theorem grouping?_groupEntry (isProperty : Text.Unbroken property)
    (isDirection : Text.Unbroken direction) (dash : Nat) :
    (groupEntry property direction dash).grouping? =
      some [("property".toList, property), ("direction".toList, direction)] := by
  rw [grouping?_groupEntry_onRow isProperty.onRow isDirection.onRow dash, isProperty.leadWord_eq,
    isDirection.leadWord_eq]

end Reading

end Document

end Notebase
