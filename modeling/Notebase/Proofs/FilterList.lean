import Notebase.Proofs.Document.Predicate
import Notebase.Proofs.ReadBack

/-!
The list of predicates in the filters, and the edit of one. The first predicate of a test gets the
value, or a new one goes in front of the list, and the document is the one that is written for that
list (`filter_edit_sets_first_test`). No value can look like a call of another test: a quotation
mark in it has a backslash before it, so the mark that would open the argument is the one that
closes the value, and then the item ends before another mark comes (`Clear.append_item`).
-/

namespace Notebase

open Document

/-! ### Tests of the file -/

structure FileTest where
  name : Text
  value : Text
deriving DecidableEq, Repr

namespace FileTest

def predicate (p : FileTest) : Text := filePredicate p.name p.value

/-- A test that is named by a word, with a value on one line that does not open with a closing
parenthesis. -/
structure Ok (p : FileTest) : Prop where
  word : p.name.all isWordChar = true
  plain : '\n' ∉ p.value
  opens : p.value.head? ≠ some ')'

/-- The line of the predicate in a list, after the end of the line above it. -/
def item (p : FileTest) : Text :=
  '\n' :: (Text.spaces 4 ++ "- ".toList ++ quotePredicate p.predicate)

def set (name value : Text) (ps : List FileTest) : List FileTest :=
  match splitFirst? (fun p => p.name == name) ps with
  | some (before, _, after) => before ++ ⟨name, value⟩ :: after
  | none => ⟨name, value⟩ :: ps

end FileTest

/-! ### Calls in a list of predicates -/

namespace Document

/-- Where a quotation mark after an argument follows a parenthesis and another mark comes after it,
another one comes after the argument. -/
theorem Argument.quote_after {a t u y : Text} (h : Argument a)
    (eq : a ++ '"' :: t = u ++ '(' :: '"' :: y) (quote : '"' ∈ y) : '"' ∈ t := by
  rcases List.append_eq_append_iff.mp eq with ⟨c, rfl, meet⟩ | ⟨c, rfl, meet⟩
  · cases c with
    | nil => cases meet
    | cons d c =>
        obtain ⟨rfl, rfl⟩ := List.cons.inj meet
        simp
  · cases c with
    | nil => cases meet
    | cons d c =>
        obtain ⟨rfl, tail⟩ := List.cons.inj meet
        cases c with
        | nil =>
            obtain ⟨-, rfl⟩ := List.cons.inj tail
            exact quote
        | cons e c =>
            obtain ⟨rfl, -⟩ := List.cons.inj tail
            obtain ⟨u', paren⟩ := h.backslash (u := u ++ ['(']) (w := c) (by simp)
            exact absurd (List.append_inj' paren rfl).2 (by decide)

/-- **A predicate of another test completes no call.** -/
theorem Clear.append_item {test t : Text} {p : FileTest} (word : test.all isWordChar = true)
    (ok : p.Ok) (ne : p.name ≠ test) (clear : Clear test t) : Clear test (t ++ p.item) := by
  intro b a w argument eq
  let before := t ++ '\n' :: (Text.spaces 4 ++ "- '".toList)
  have isArgument : Argument (argumentAfter before p.value) := argument_argumentAfter _ _
  have text : t ++ p.item = before ++ callFront p.name ++
      (argumentAfter before p.value ++ '"' :: ')' :: ['\'']) := by
    rw [argumentAfter, opensQuoted_item, if_pos rfl, FileTest.item, FileTest.predicate,
      quotePredicate_filePredicate ok.word]
    simp [before]
  have fronts : b ++ callFront test ++ (a ++ '"' :: ')' :: w) = before ++ callFront p.name ++
      (argumentAfter before p.value ++ '"' :: ')' :: ['\'']) := by
    rw [← text, eq]
    simp
  rcases front_trichotomy word ok.word fronts with ⟨m, front, meet⟩ | ⟨-, same, -⟩ | ⟨m, -, meet⟩
  · have head := head?_argumentAfter before (')' :: ['\'']) ok.opens
    obtain ⟨w', rfl⟩ := argument.complete ok.word meet (.inl head)
    have clear' : Clear test before := clear.append (by simp [Text.spaces])
    exact clear' b a w' argument (by simpa using front)
  · exact ne same.symm
  · rw [append_callFront_append] at meet
    have quote := isArgument.quote_after meet (by simp)
    simp at quote

/-- A list of predicates of other tests has no call of the test. -/
theorem Clear.append_items {test t : Text} {ps : List FileTest} (word : test.all isWordChar = true)
    (ok : ∀ p ∈ ps, p.Ok) (ne : ∀ p ∈ ps, p.name ≠ test) (clear : Clear test t) :
    Clear test (t ++ ps.flatMap FileTest.item) := by
  induction ps generalizing t with
  | nil => simpa using clear
  | cons p ps ih =>
      have first := clear.append_item word (ok p List.mem_cons_self) (ne p List.mem_cons_self)
      have rest := ih (fun q hq => ok q (List.mem_cons_of_mem _ hq))
        (fun q hq => ne q (List.mem_cons_of_mem _ hq)) first
      rwa [List.append_assoc] at rest

theorem Clear.splitCall?_eq_none {test t : Text} (clear : Clear test t) :
    splitCall? test t = none := by
  rw [splitCall?_eq_none_iff]
  intro before a rest call
  obtain ⟨r, rfl⟩ := call.closed
  exact clear before a r call.argument call.text

end Document

/-! ### The lines of a list -/

/-- The lines of the filters with these tests, and the empty one after them. -/
def testLines (ps : List FileTest) (conjunction : Text) : List Text :=
  sectionLines (filterRows (ps.map FileTest.predicate) conjunction)

theorem joinLines_eq_flatMap (r : Text) (rs : List Text) :
    joinLines (r :: rs) = r ++ rs.flatMap ('\n' :: ·) := by
  induction rs generalizing r with
  | nil => simp [joinLines, Text.join]
  | cons r' rs ih => rw [Text.joinLines_cons r (by simp), ih, List.flatMap_cons, List.cons_append]

/-- The filters are the list with an item for each test. -/
theorem renderFilters_eq (ps : List FileTest) (conjunction : Text) :
    renderFilters (ps.map FileTest.predicate) conjunction =
      "filters:\n  ".toList ++ conjunction ++ ":".toList ++ ps.flatMap FileTest.item := by
  have rows : renderFilters (ps.map FileTest.predicate) conjunction =
      joinLines ("filters:".toList :: ("  ".toList ++ conjunction ++ ":".toList) ::
        (ps.map FileTest.predicate).map fun p => "    - ".toList ++ quotePredicate p) := rfl
  rw [rows, joinLines_eq_flatMap, List.flatMap_cons, List.flatMap_map, List.flatMap_map]
  simp
  rfl

theorem flatten_testLines_eq_unlines (ps : List FileTest) (conjunction : Text) :
    (testLines ps conjunction).flatten =
      Document.unlines (filterRows (ps.map FileTest.predicate) conjunction ++ [[]]) := by
  rw [testLines, sectionLines, ← List.flatMap_def]
  rfl

theorem complete_testLines (ps : List FileTest) (conjunction : Text) :
    Text.Complete (testLines ps conjunction).flatten := by
  rw [flatten_testLines_eq_unlines]
  exact Text.complete_unlines _

theorem flatten_testLines (ps : List FileTest) (conjunction : Text) :
    (testLines ps conjunction).flatten =
      renderFilters (ps.map FileTest.predicate) conjunction ++ "\n\n".toList := by
  have rows : renderFilters (ps.map FileTest.predicate) conjunction =
      joinLines (filterRows (ps.map FileTest.predicate) conjunction) := rfl
  rw [flatten_testLines_eq_unlines, Text.unlines_append,
    Text.unlines_eq_joinLines (by simp [filterRows]), rows]
  simp

/-- Whether a text opens a block is seen on its first line. -/
theorem isTopKey_firstLine {t : Text} (top : isTopKey t = true) :
    ∀ l ∈ (Text.lines t).head?, isTopKey l = true := by
  intro l hl
  cases lines : Text.lines t with
  | nil =>
      rw [lines] at hl
      cases hl
  | cons line rest =>
      rw [lines, List.head?_cons, Option.mem_some_iff] at hl
      obtain ⟨-, r, -, shape⟩ := Text.lines_eq_cons lines
      have whole : line ++ rest.flatten = t := by
        rw [← List.flatten_cons, ← lines, Text.flatten_lines]
      rcases shape with rfl | ⟨rfl, -, rfl⟩
      · rw [← hl, isTopKey_append_newline]
        rw [← whole, List.append_assoc, List.singleton_append,
          isTopKey_mark (by decide) (by decide) (by decide)] at top
        exact top
      · rw [← hl, ← top, ← whole, List.flatten_nil, List.append_nil]

section List

variable {ps : List FileTest} {conjunction : Text} (known : conjunction ∈ Form.logics)
  (ok : ∀ p ∈ ps, '\n' ∉ p.name ∧ '\n' ∉ p.value)

include known in
/-- The line that joins the predicates comes second, and stands two spaces deep. -/
theorem splitFirst?_testLines (ps : List FileTest) :
    ∃ after, testLines ps conjunction =
        ["filters:\n".toList] ++ ("  ".toList ++ conjunction ++ ":\n".toList) :: after ∧
      splitFirst? (fun line => (conjunctionDepth? line).isSome) (testLines ps conjunction) =
        some (["filters:\n".toList], "  ".toList ++ conjunction ++ ":\n".toList, after) := by
  have joins : ∀ conjunction ∈ Form.logics,
      (conjunctionDepth? ("  ".toList ++ conjunction ++ ":\n".toList)).isSome = true := by decide
  refine ⟨((ps.map FileTest.predicate).map (fun p => "    - ".toList ++ quotePredicate p) ++
    [[]]).map (· ++ ['\n']), ?_⟩
  have lines : testLines ps conjunction =
      ["filters:\n".toList] ++ ("  ".toList ++ conjunction ++ ":\n".toList) ::
        ((ps.map FileTest.predicate).map (fun p => "    - ".toList ++ quotePredicate p) ++
          [[]]).map (· ++ ['\n']) := by
    rw [testLines, sectionLines, filterRows, List.cons_append, List.cons_append, List.map_cons,
      List.map_cons, List.append_assoc ("  ".toList ++ conjunction)]
    rfl
  refine ⟨lines, ?_⟩
  rw [lines]
  exact splitFirst?_of_split (by decide) (joins _ known)

include known ok

theorem isSection_tests : IsSection "filters".toList
    (filterRows (ps.map FileTest.predicate) conjunction) := by
  have plain : ∀ conjunction ∈ Form.logics, '\n' ∉ conjunction := by decide
  refine isSection_filterRows (fun p hp => ?_) (plain _ known)
  obtain ⟨p, mem, rfl⟩ := List.mem_map.mp hp
  exact plain_filePredicate (ok p mem).1 (ok p mem).2

theorem lines_testLines :
    Text.lines (testLines ps conjunction).flatten = testLines ps conjunction := by
  have plain : Text.Plain (filterRows (ps.map FileTest.predicate) conjunction ++ [[]]) := by
    refine (isSection_tests known ok).plain.append fun r hr => ?_
    rw [List.mem_singleton.mp hr]
    exact List.not_mem_nil
  rw [flatten_testLines_eq_unlines, Text.lines_unlines plain]
  rfl

/-- The lines of the list are the block of the filters, and what follows is left. -/
theorem exists_block?_tests {rest : Text} (top : isTopKey rest = true) :
    ∃ b, block? "filters".toList (renderFilters (ps.map FileTest.predicate) conjunction ++
        "\n\n".toList ++ rest) = some b ∧
      b.before = [] ∧ b.lines = testLines ps conjunction ∧ b.after = Text.lines rest := by
  have lines : Text.lines (renderFilters (ps.map FileTest.predicate) conjunction ++
      "\n\n".toList ++ rest) = testLines ps conjunction ++ Text.lines rest := by
    rw [← flatten_testLines, Text.lines_append _ (complete_testLines ps conjunction),
      lines_testLines known ok]
  exact (isSection_tests known ok).isBlock.exists_block? (a := []) lines (List.forall_mem_nil _)
    (isTopKey_firstLine top)

/-- A list of predicates is read back. -/
theorem filterEntries_tests {rest : Text} (top : isTopKey rest = true) :
    filterEntries (renderFilters (ps.map FileTest.predicate) conjunction ++ "\n\n".toList ++ rest) =
      ps.map FileTest.predicate := by
  obtain ⟨b, found, -, lines, -⟩ := exists_block?_tests known ok top
  have isSection := isSection_tests known ok
  rw [filterEntries, found]
  dsimp only
  rw [lines, testLines, filterMap_sectionLines (by decide)
    (fun r plain => listItem?_append_newline plain) isSection.plain]
  refine read_filterRows known (fun p hp => ?_) fun p hp => ?_
  · obtain ⟨p, -, rfl⟩ := List.mem_map.mp hp
    exact quote_mem_filePredicate _ _
  · obtain ⟨p, mem, rfl⟩ := List.mem_map.mp hp
    exact plain_filePredicate (ok p mem).1 (ok p mem).2

end List

/-! ### The edit of a list -/

section Edit

variable {ps : List FileTest} {conjunction name : Text} (known : conjunction ∈ Form.logics)
  (ok : ∀ p ∈ ps, p.Ok) (word : name.all isWordChar = true)
include known ok word

/-- **The edit of the lines is the edit of the list.** -/
theorem setPredicate_testLines (value : Text) :
    setPredicate name value (testLines ps conjunction) =
      (testLines (FileTest.set name value ps) conjunction).flatten := by
  have flatten_eq : ∀ ps : List FileTest, (testLines ps conjunction).flatten =
      "filters:\n  ".toList ++ conjunction ++ ":".toList ++ ps.flatMap FileTest.item ++
        "\n\n".toList := fun ps => by rw [flatten_testLines, renderFilters_eq]
  have clear : Clear name ("filters:\n  ".toList ++ conjunction ++ ":".toList) := by
    have closed : ∀ conjunction ∈ Form.logics,
        ')' ∉ "filters:\n  ".toList ++ conjunction ++ ":".toList := by decide
    exact clear_of_not_mem (closed _ known)
  rw [FileTest.set]
  cases split : splitFirst? (fun p : FileTest => p.name == name) ps with
  | some found =>
      obtain ⟨before, p, after⟩ := found
      obtain ⟨rfl, isTest, others⟩ := splitFirst?_eq_some split
      have clear' := clear.append_items word (fun q hq => ok q (List.mem_append_left _ hq))
        fun q hq => by simpa using others q hq
      -- The value of the first test has its place after the items before it.
      have slot := slot_item word clear' 4 (after.flatMap FileTest.item ++ "\n\n".toList)
      have again := slot.setPredicate word (ok p (by simp)).opens value
      dsimp only at again ⊢
      have text : ∀ value : Text, (testLines (before ++ ⟨name, value⟩ :: after) conjunction).flatten =
          "filters:\n  ".toList ++ conjunction ++ ":".toList ++ before.flatMap FileTest.item ++
            '\n' :: (Text.spaces 4 ++ "- ".toList ++ quotePredicate (filePredicate name value) ++
              (after.flatMap FileTest.item ++ "\n\n".toList)) := by
        intro value
        rw [flatten_eq]
        simp [FileTest.item, FileTest.predicate]
      have whole : before ++ p :: after = before ++ ⟨name, p.value⟩ :: after := by
        rw [← beq_iff_eq.mp isTest]
      rw [← text, ← text, ← whole, lines_testLines known fun q hq =>
        ⟨not_mem_of_word (ok q hq).word (by decide), (ok q hq).plain⟩] at again
      exact again
  | none =>
      have others := splitFirst?_eq_none.mp split
      have clear' := (clear.append_items word ok fun q hq => by simpa using others q hq).append
        (v := "\n\n".toList) (by decide)
      obtain ⟨after, lines, joint⟩ := splitFirst?_testLines known ps
      have depth : ∀ conjunction ∈ Form.logics,
          Text.indentation ("  ".toList ++ conjunction ++ ":\n".toList) = 2 := by decide
      have rest : '\n' :: after.flatten = ps.flatMap FileTest.item ++ ['\n', '\n'] := by
        have whole := flatten_eq ps
        rw [lines] at whole
        simpa using whole
      rw [setPredicate, flatten_eq ps, clear'.splitCall?_eq_none, joint]
      dsimp only
      rw [predicateLine, depth _ known, flatten_eq, List.flatMap_cons]
      simp [FileTest.item, FileTest.predicate, rest]

end Edit

/-- After a test is set, every test is the new one or an old one. -/
theorem FileTest.mem_set {name value : Text} {ps : List FileTest} {q : FileTest}
    (mem : q ∈ FileTest.set name value ps) : q = ⟨name, value⟩ ∨ q ∈ ps := by
  rw [FileTest.set] at mem
  split at mem
  · next before p after split =>
      rw [(splitFirst?_eq_some split).1]
      simp only [List.mem_append, List.mem_cons] at mem ⊢
      rcases mem with h | h | h
      · exact .inr (.inl h)
      · exact .inl h
      · exact .inr (.inr (.inr h))
  · exact List.mem_cons.mp mem

/-- **The edit of a filter does to the list what it says.** The first predicate of the test has the
value, or such a predicate comes first, and every character after the list stays. -/
theorem filter_edit_sets_first_test {ps : List FileTest} {conjunction rest name value : Text}
    (known : conjunction ∈ Form.logics) (ok : ∀ p ∈ ps, p.Ok) (top : isTopKey rest = true)
    (word : name.all isWordChar = true) (plain : '\n' ∉ value) :
    ∃ t', Edit.perform (renderFilters (ps.map FileTest.predicate) conjunction ++ "\n\n".toList ++
          rest) (.filter name value) = .ok t' ∧
      filterEntries t' = (FileTest.set name value ps).map FileTest.predicate ∧
      t' = renderFilters ((FileTest.set name value ps).map FileTest.predicate) conjunction ++
        "\n\n".toList ++ rest := by
  have old : ∀ p ∈ ps, '\n' ∉ p.name ∧ '\n' ∉ p.value := fun p hp =>
    ⟨not_mem_of_word (ok p hp).word (by decide), (ok p hp).plain⟩
  have new : ∀ p ∈ FileTest.set name value ps, '\n' ∉ p.name ∧ '\n' ∉ p.value := by
    intro p hp
    rcases FileTest.mem_set hp with rfl | hp
    · exact ⟨not_mem_of_word word (by decide), plain⟩
    · exact old p hp
  obtain ⟨b, found, before, lines, after⟩ := exists_block?_tests known old top
  have written : setFilterPredicate name value (renderFilters (ps.map FileTest.predicate)
      conjunction ++ "\n\n".toList ++ rest) =
      renderFilters ((FileTest.set name value ps).map FileTest.predicate) conjunction ++
        "\n\n".toList ++ rest := by
    rw [setFilterPredicate_of_block? found, lines, setPredicate_testLines known ok word,
      flatten_testLines, Block.replace, before, after, Text.flatten_lines]
    simp
  refine ⟨_, ?_, filterEntries_tests known new top, rfl⟩
  rw [← written, Edit.perform, setFilterMatching_word value _ word]

/-- A call inside another argument is not taken for a test. -/
theorem folder_set_among_quotes :
    ∃ t', Edit.perform (renderFilters
          ([⟨"hasTag".toList, "it's file.inFolder(".toList⟩,
            ⟨"inFolder".toList, "C:\\".toList⟩].map FileTest.predicate) "or".toList ++
          "\n\n".toList ++ "views:".toList) (.filter "inFolder".toList ")\"".toList) = .ok t' ∧
      filterEntries t' =
        ["file.hasTag(\"it's file.inFolder(\")".toList, "file.inFolder(\")\\\"\")".toList] := by
  have ok : ∀ p ∈ [(⟨"hasTag".toList, "it's file.inFolder(".toList⟩ : FileTest),
      ⟨"inFolder".toList, "C:\\".toList⟩], p.Ok := by
    intro p hp
    simp only [List.mem_cons, List.not_mem_nil, or_false] at hp
    rcases hp with rfl | rfl
    · exact ⟨by decide, by decide, by decide⟩
    · exact ⟨by decide, by decide, by decide⟩
  obtain ⟨t', performed, read, -⟩ := filter_edit_sets_first_test
    (show "or".toList ∈ Form.logics by decide) ok (show isTopKey "views:".toList = true by decide)
    (show "inFolder".toList.all isWordChar = true by decide) (show '\n' ∉ ")\"".toList by decide)
  exact ⟨t', performed, read⟩

end Notebase
