import Notebase.Document.Matching
import Notebase.Proofs.Document.Filters
import Notebase.Proofs.Regex.Locality
import Notebase.Proofs.Regex.Parse

/-!
Tests that are named by a pattern. As long as the name has no groups of its own, the argument of
the call is the first group of the whole pattern, and the value is written there and nowhere else
(`setFilterMatching_of_block?`): the lines of the filters change, and the rest of the outline
stays (`outline_setFilterMatching`). If the name looks behind nowhere either, the new filters do
not depend on the view (`exists_filters`). A name without special characters, dots apart, is of
both kinds (`isForwardName_of_plain`).
-/

namespace Notebase.Document

open Text

/-! ### Names of tests -/

/-- The inside of a double-quoted string as an expression. -/
def argumentRegex : Regex :=
  .repeated .greedy 0 none
    (.alt (.char (Regex.classHas {} true [.code '"'.toNat, .code '\\'.toNat]))
      (.seq (Regex.literal {} '\\'.toNat) (.char fun c => ({} : Regex.Flags).dotAll || c != '\n')))

/-- The expression for a call of a test with these expressions for its name. -/
def callRegex (name : List Regex) : Regex :=
  .ofList (Regex.literals "file.".toList ++ name ++ Regex.literals "(\"".toList ++
    .group 1 argumentRegex :: Regex.literals "\")".toList)

/-- A name that is an expression without groups: in the pattern of a call it stands for some
expressions between those that the pattern starts and ends with. -/
def IsTestName (test : Text) : Prop :=
  ∃ name : List Regex, (∀ a ∈ name, a.groupless = true) ∧
    Regex.parse (callPattern test) = .ok (callRegex name)

/-- A name of a test that looks behind nowhere, so that it sees nothing of what stands above the
filters. -/
def IsForwardName (test : Text) : Prop :=
  ∃ name : List Regex, (∀ a ∈ name, a.groupless = true ∧ a.behinds = []) ∧
    Regex.parse (callPattern test) = .ok (callRegex name)

theorem IsForwardName.isTestName {test : Text} (h : IsForwardName test) : IsTestName test := by
  obtain ⟨name, forward, parsed⟩ := h
  exact ⟨name, fun a ha => (forward a ha).1, parsed⟩

/-! ### Names that stand for themselves -/

section Pattern

open Regex

variable {fuel n : Nat} {t : Text} {widths : List (Option (Nat × Nat))}

/-- The characters that stand for themselves in an argument. -/
theorem argumentClass_read (ends : t ≠ ['\\']) :
    characterClass {} (reached n ('^' :: '"' :: '\\' :: '\\' :: ']' :: t) widths) =
      .ok (.char (classHas {} true [.code '"'.toNat, .code '\\'.toNat]),
        reached (n + 5) t widths) := by
  refine characterClass_negated (by simp) ?_
  simp only [List.length_cons]
  rw [classItems_char (by decide) (by simp) (by simp [token?]),
    classItems_escape (.code '\\'.toNat) (by simp) (by simp [token?]) (fun p => rfl),
    classItems_close (by simp) ends]
  rfl

/-- One of them, or a character after a backslash. -/
theorem argumentChar_read :
    alternatives (fuel + 5) {} (reached n ('[' :: '^' :: '"' :: '\\' :: '\\' :: ']' :: '|' ::
        '\\' :: '\\' :: '.' :: ')' :: t) widths) =
      .ok (.alt (.char (classHas {} true [.code '"'.toNat, .code '\\'.toNat]))
        (.seq (literal {} '\\'.toNat) (.char fun c => ({} : Flags).dotAll || c != '\n')),
        reached (n + 10) (')' :: t) widths) := by
  have first : sequence (fuel + 4) {} [] (reached n ('[' :: '^' :: '"' :: '\\' :: '\\' :: ']' ::
      '|' :: '\\' :: '\\' :: '.' :: ')' :: t) widths) =
        .ok (.char (classHas {} true [.code '"'.toNat, .code '\\'.toNat]),
          reached (n + 6) ('|' :: '\\' :: '\\' :: '.' :: ')' :: t) widths) :=
    (sequence_class (by simp) (argumentClass_read (by simp))).trans
      (sequence_stop (by simp [token?]))
  have second : sequence (fuel + 3) {} []
      (reached (n + 7) ('\\' :: '\\' :: '.' :: ')' :: t) widths) =
      .ok (.seq (literal {} '\\'.toNat) (.char fun c => ({} : Flags).dotAll || c != '\n'),
        reached (n + 10) (')' :: t) widths) := by
    rw [sequence_escape (.of (literal {} '\\'.toNat)) (by simp) (fun p => rfl),
      sequence_any (by simp), sequence_stop (by simp [token?])]
    rfl
  exact alternatives_two first (by simp) (alternatives_one second (by simp [token?]))

/-- The argument of a call is the first group. -/
theorem argument_read {items : List Item} (ends : t ≠ ['\\']) :
    sequence (fuel + 10) {} items (reached n ('(' :: '(' :: '?' :: ':' :: '[' :: '^' :: '"' ::
        '\\' :: '\\' :: ']' :: '|' :: '\\' :: '\\' :: '.' :: ')' :: '*' :: ')' :: t) []) =
      sequence (fuel + 9) {} (.of (.group 1 argumentRegex) :: items)
        (reached (n + 17) t [some argumentRegex.width]) := by
  have inside : alternatives (fuel + 9) {} (reached (n + 1) ('(' :: '?' :: ':' :: '[' :: '^' ::
      '"' :: '\\' :: '\\' :: ']' :: '|' :: '\\' :: '\\' :: '.' :: ')' :: '*' :: ')' :: t) ([] ++ [none])) =
        .ok (argumentRegex, reached (n + 16) (')' :: t) ([] ++ [none])) := by
    refine alternatives_one ?_ (by simp [token?])
    rw [sequence_plain (by simp) (by simp) argumentChar_read,
      sequence_star rfl (by decide) (by decide) (by simp), sequence_stop (by simp [token?])]
    rfl
  exact sequence_capture (by simp) ends (by simp [token?]) inside

/-- A character of a name: a dot is any character, and another one stands for itself. -/
def nameRegex (c : Char) : Regex :=
  if c = '.' then .char fun c => ({} : Flags).dotAll || c != '\n' else literal {} c.toNat

theorem nameRegex_simple (c : Char) :
    (nameRegex c).groupless = true ∧ (nameRegex c).behinds = [] := by
  rw [nameRegex]
  split <;> exact ⟨rfl, rfl⟩

theorem append_ne_escape (test : Text) (more : 1 < t.length) : test ++ t ≠ ['\\'] := fun eq => by
  have := congrArg List.length eq
  simp at this
  omega

/-- A name without special characters is read as one item for each of them. -/
theorem sequence_name {test : Text} (plain : ∀ c ∈ test, c = '.' ∨ c ∉ special)
    (more : 1 < t.length) (items : List Item) :
    sequence (fuel + test.length) {} items (reached n (test ++ t) widths) =
      sequence fuel {} ((test.map fun c => .of (nameRegex c)).reverse ++ items)
        (reached (n + test.length) t widths) := by
  induction test generalizing n items with
  | nil => rfl
  | cons c test ih =>
      have ends := append_ne_escape test more
      have step : sequence (fuel + test.length + 1) {} items (reached n (c :: (test ++ t)) widths) =
          sequence (fuel + test.length) {} (.of (nameRegex c) :: items)
            (reached (n + 1) (test ++ t) widths) := by
        by_cases dot : c = '.'
        · rw [nameRegex, if_pos dot, dot, sequence_any ends]
        · rw [nameRegex, if_neg dot,
            sequence_literal ((plain c List.mem_cons_self).resolve_left dot) ends]
      rw [List.cons_append, List.length_cons, ← Nat.add_assoc, step,
        ih (fun d hd => plain d (List.mem_cons_of_mem _ hd))]
      simp [Nat.add_comm, Nat.add_left_comm]

theorem escapeItem_mark {c : Char} (mark : c ∈ ['.', '(', ')']) (p : Progress) :
    escapeItem {} c p = .ok (.of (literal {} c.toNat), p) := by
  simp only [List.mem_cons, List.not_mem_nil, or_false] at mark
  rcases mark with rfl | rfl | rfl <;> rfl

/-- The pattern of a call, character by character. -/
theorem callPattern_eq (test : Text) : callPattern test =
    'f' :: 'i' :: 'l' :: 'e' :: '\\' :: '.' :: (test ++ '\\' :: '(' :: '"' :: '(' :: '(' :: '?' ::
      ':' :: '[' :: '^' :: '"' :: '\\' :: '\\' :: ']' :: '|' :: '\\' :: '\\' :: '.' :: ')' :: '*' :: ')' ::
      ['"', '\\', ')']) := by
  have front : "file\\.".toList = ['f', 'i', 'l', 'e', '\\', '.'] := String.toList_ofList
  have back : "\\(\"((?:[^\"\\\\]|\\\\.)*)\"\\)".toList =
      '\\' :: '(' :: '"' :: '(' :: '(' :: '?' :: ':' :: '[' :: '^' :: '"' :: '\\' :: '\\' :: ']' ::
        '|' :: '\\' :: '\\' :: '.' :: ')' :: '*' :: ')' :: ['"', '\\', ')'] := String.toList_ofList
  unfold callPattern
  rw [front, back, List.append_assoc]
  rfl

/-- The pattern of a call is read item by item. -/
theorem callPattern_read {test : Text} (plain : ∀ c ∈ test, c = '.' ∨ c ∉ special) :
    sequence (2 * test.length + 59) {} [] (reached 0 (callPattern test) []) =
      .ok (callRegex (test.map nameRegex),
        reached (6 + test.length + 23) [] [some argumentRegex.width]) := by
  -- Every item is one step, so the name takes `test.length` of them.
  rw [callPattern_eq, sequence_literal (by decide) (by simp), sequence_literal (by decide) (by simp),
    sequence_literal (by decide) (by simp), sequence_literal (by decide) (by simp),
    sequence_escape _ (append_ne_escape test (by simp)) (escapeItem_mark (by decide)),
    show 2 * test.length + 54 = test.length + 54 + test.length by omega,
    sequence_name plain (by simp), sequence_escape _ (by simp) (escapeItem_mark (by decide)),
    sequence_literal (by decide) (by simp), argument_read (by simp),
    sequence_literal (by decide) (by simp),
    sequence_escape _ (by simp) (escapeItem_mark (by decide)), sequence_stop (by simp [token?])]
  have position :
      0 + 1 + 1 + 1 + 1 + 2 + test.length + 2 + 1 + 17 + 1 + 2 = 6 + test.length + 23 := by omega
  rw [position]
  refine congrArg (fun as => Except.ok (ofList as, _)) ?_
  simp [literals, Item.of]

/-- **A name without special characters** other than a dot has no groups and looks behind
nowhere. -/
theorem isForwardName_of_plain {test : Text} (plain : ∀ c ∈ test, c = '.' ∨ c ∉ special) :
    IsForwardName test := by
  refine ⟨test.map nameRegex, ?_, ?_⟩
  · intro a ha
    obtain ⟨c, -, rfl⟩ := List.mem_map.mp ha
    exact nameRegex_simple c
  · have length : 2 * (callPattern test).length + 2 = 2 * test.length + 59 + 1 := by
      simp [callPattern_eq]
      omega
    refine parse_eq (by simp [callPattern_eq]) ?_
      (length ▸ alternatives_one (callPattern_read plain) (by simp [token?]))
    rw [callRegex, behinds_ofList]
    simp [literals, Regex.literal, argumentRegex, behinds, (nameRegex_simple _).2]

theorem isTestName_of_plain {test : Text} (plain : ∀ c ∈ test, c = '.' ∨ c ∉ special) :
    IsTestName test :=
  (isForwardName_of_plain plain).isTestName

theorem isForwardName_of_word {test : Text} (word : test.all isWordChar = true) :
    IsForwardName test := by
  refine isForwardName_of_plain fun c hc => .inr fun mark => ?_
  have noWord : ∀ d ∈ special, isWordChar d = false := by decide
  exact not_mem_of_word word (noWord c mark) hc

theorem isTestName_of_word {test : Text} (word : test.all isWordChar = true) : IsTestName test :=
  (isForwardName_of_word word).isTestName

end Pattern

/-! ### The call that is found -/

/-- The text of a block with another argument in one of its calls. -/
def Argued (t new t' : Text) : Prop :=
  ∃ before old rest, t = before ++ "(\"".toList ++ old ++ '"' :: rest ∧
    t' = before ++ "(\"".toList ++ new ++ '"' :: rest

theorem groupless_front {name : List Regex} (groupless : ∀ a ∈ name, a.groupless = true) :
    ∀ a ∈ Regex.literals "file.".toList ++ name, a.groupless = true := by
  intro a ha
  rcases List.mem_append.mp ha with ha | ha
  · exact Regex.groupless_literals a ha
  · exact groupless a ha

/-- What is found by a pattern without groups of its own is replaced in the argument. -/
theorem replaceGroup_of_search? {name : List Regex} (groupless : ∀ a ∈ name, a.groupless = true)
    {key t new : Text} {b : Block} (found : block? key t = some b) {start stop : Regex.State}
    (searched : (callRegex name).search? b.before.flatten b.lines.flatten = some (start, stop)) :
    ∃ block, Argued b.lines.flatten new block ∧ replaceGroup stop new t = b.replace block := by
  obtain ⟨u, old, rest, text, group⟩ := Regex.of_search? (groupless_front groupless) rfl searched
  generalize front_eq : u ++ "(\"".toList = front at text group
  -- The document around the argument, taken apart where it starts and where it ends.
  have whole : t = b.before.flatten ++ front ++
      (old ++ "\")".toList ++ rest ++ b.after.flatten) := by
    rw [← replace_lines_of_block? found, Block.replace, text]
    simp
  have whole' : t = b.before.flatten ++ (front ++ old) ++
      ("\")".toList ++ rest ++ b.after.flatten) := by
    rw [whole]
    simp
  refine ⟨front ++ new ++ '"' :: ')' :: rest, ⟨u, old, ')' :: rest, ?_, by rw [front_eq]⟩, ?_⟩
  · rw [text, front_eq]
    simp
  · have upTo : t.take (b.before.flatten.length + front.length) = b.before.flatten ++ front := by
      rw [whole]
      exact List.take_left' (by simp)
    have after : t.drop (b.before.flatten.length + (front ++ old).length) =
        "\")".toList ++ rest ++ b.after.flatten := by
      rw [whole']
      exact List.drop_left' (by simp)
    rw [replaceGroup, group]
    dsimp only
    rw [upTo, after, Block.replace]
    simp

/-- **A test that is named by an expression without groups** gets its value in the argument of a
call in the filters, or a predicate of its own. -/
theorem setFilterMatching_of_block? {test t : Text} (name : IsTestName test) (value : Text)
    {b : Block} (found : block? "filters".toList t = some b) :
    (∃ before block, Argued b.lines.flatten (argumentAfter before value) block ∧
      setFilterMatching test value t = .ok (b.replace block)) ∨
    setFilterMatching test value t = .ok (insertPredicate (filePredicate test value) b t) := by
  by_cases word : test.all isWordChar = true
  · rw [setFilterMatching_word value t word, setFilterPredicate, found]
    dsimp only
    split
    · next before rest call =>
        obtain ⟨a, call, -⟩ := splitCall?_eq_some_iff.mp call
        obtain ⟨r, rfl⟩ := call.closed
        exact .inl ⟨before, _, ⟨before ++ "file.".toList ++ test, a, ')' :: r,
          by simp [call.text, callFront_def], rfl⟩, by simp [callFront_def]⟩
    · exact .inr rfl
  · obtain ⟨name, groupless, parsed⟩ := name
    rw [setFilterMatching, found]
    dsimp only
    rw [if_neg word, parsed]
    simp only [bind, Except.bind]
    split
    · next start stop searched =>
        obtain ⟨block, argued, eq⟩ := replaceGroup_of_search? groupless found searched
        exact .inl ⟨_, block, argued, congrArg Except.ok eq⟩
    · exact .inr rfl

/-! ### The block after the edit -/

/-- **Setting a predicate exchanges the text of the block** of the filters, also where its test is
named by a pattern. Without line ends in the arguments the new text is such a block again. -/
theorem setFilterMatching_in_block {test t : Text} (name : IsTestName test) (value : Text)
    {b : Block} (found : block? "filters".toList t = some b) :
    ∃ new, setFilterMatching test value t = .ok (b.replace new) ∧
      ('\n' ∉ test → '\n' ∉ value → IsBlock "filters".toList (Text.lines new) ∧
        terminated new = terminated b.lines.flatten) := by
  rcases setFilterMatching_of_block? name value found with ⟨before, new, argued, eq⟩ | eq
  · refine ⟨new, eq, fun _ plain => ?_⟩
    obtain ⟨u, old, rest, text, rfl⟩ := argued
    exact isBlock_exchange (lines_flatten_block found) (isBlock_of_block? found) text
      (plain_argumentAfter before plain) (List.cons_ne_nil _ _)
  · rw [eq, insertPredicate_of_block? found]
    exact ⟨_, rfl, isBlock_withPredicate (lines_flatten_block found) (isBlock_of_block? found)⟩

/-- Setting a predicate changes the lines of the filters alone. -/
theorem outline_setFilterMatching {test value t : Text} (name : IsTestName test)
    (noEnd : '\n' ∉ test) (plain : '\n' ∉ value) {b : Block}
    (found : block? "filters".toList t = some b) : ∃ t' ls,
      setFilterMatching test value t = .ok t' ∧
        outline t' = { outline t with filters := some ls } := by
  obtain ⟨new, eq, block⟩ := setFilterMatching_in_block name value found
  obtain ⟨isBlock, ends⟩ := block noEnd plain
  exact ⟨_, _, eq, outline_replace found isBlock ends⟩

/-! ### Names that look behind nowhere -/

section Forward

open Regex (State)

theorem take_behind {t : Text} {i : Nat} (inside : i ≤ t.length) (before after : Text) :
    (before ++ t ++ after).take (i + before.length) = before ++ t.take i := by
  rw [List.append_assoc, Nat.add_comm, List.take_length_add_append,
    List.take_append_of_le_length inside]

theorem drop_behind {t : Text} {i : Nat} (inside : i ≤ t.length) (before after : Text) :
    (before ++ t ++ after).drop (i + before.length) = t.drop i ++ after := by
  rw [List.append_assoc, Nat.add_comm, List.drop_length_add_append,
    List.drop_append_of_le_length inside]

/-- The group of a match is replaced behind other text as it is in the text by itself. -/
theorem replaceGroup_shift {stop : State} {t : Text} {i j : Nat}
    (group : stop.group? 1 = some (i, j)) (starts : i ≤ t.length) (stops : j ≤ t.length)
    (new before after : Text) :
    replaceGroup (stop.shift before) new (before ++ t ++ after) =
      before ++ replaceGroup stop new t ++ after := by
  rw [replaceGroup, replaceGroup, State.group?_shift, group]
  dsimp only [Option.map_some]
  rw [take_behind starts, drop_behind stops]
  simp

theorem complete_before_block {key t : Text} {b : Block} (found : block? key t = some b) :
    Complete b.before.flatten := by
  have lines := lines_of_block? found
  rw [List.append_assoc] at lines
  exact (lines_eq_append lines).2.2 (by simp [Block.lines])

/-- Only the last line above a value decides on its quotes. -/
theorem argumentAfter_behind {front : Text} (complete : Complete front) (before value : Text) :
    argumentAfter (front ++ before) value = argumentAfter before value := by
  have ends : ∀ c ∈ front.reverse.head?, (c != '\n') = false := by
    intro c hc
    rw [List.head?_reverse, Option.mem_def] at hc
    rcases complete with rfl | ends
    · cases hc
    · rw [terminated, hc] at ends
      simpa using ends
  rw [argumentAfter, argumentAfter, opensQuoted, opensQuoted, lastLine, lastLine,
    List.reverse_append, takeWhile_append_stop ends]

/-- The text of a filters block after a predicate is set whose test is named by an expression. -/
def setMatching (call : Regex) (test value : Text) (ls : List Text) : Text :=
  match call.search? [] ls.flatten with
  | some (start, stop) =>
      replaceGroup stop (argumentAfter (ls.flatten.take start.position) value) ls.flatten
  | none => withPredicate (filePredicate test value) ls

variable {name : List Regex} (forward : ∀ a ∈ name, a.groupless = true ∧ a.behinds = [])
include forward

/-- The call of such a test is found as if nothing stood above the filters. -/
theorem search?_callRegex (before t : Text) : (callRegex name).search? before t =
    ((callRegex name).search? [] t).map (Prod.map (State.shift before) (State.shift before)) := by
  have literal : ∀ {t : Text}, ∀ a ∈ Regex.literals t, Regex.Shifts before a.read := by
    intro t a ha
    refine Regex.shifts_read (Regex.groupless_literals a ha) ?_ before
    obtain ⟨c, -, rfl⟩ := List.mem_map.mp ha
    rfl
  have parts : ∀ a ∈ Regex.literals "ile.".toList ++ name ++ Regex.literals "(\"".toList ++
      .group 1 argumentRegex :: Regex.literals "\")".toList, Regex.Shifts before a.read := by
    intro a ha
    simp only [List.mem_append, List.mem_cons] at ha
    rcases ha with ((ha | ha) | ha) | rfl | ha
    · exact literal a ha
    · exact Regex.shifts_read (forward a ha).1 (forward a ha).2 before
    · exact literal a ha
    · exact (Regex.shifts_read rfl rfl before).group 1
    · exact literal a ha
  exact Regex.search?_eq_map (Regex.shifts_ofList parts) t

/-- What stands around the filters decides on nothing in the call that is found, and in what is
written there. -/
theorem setFilterMatching_of_forward {test : Text}
    (parsed : Regex.parse (callPattern test) = .ok (callRegex name))
    (noWord : ¬ test.all isWordChar = true) (value : Text) {t : Text} {b : Block}
    (found : block? "filters".toList t = some b) : setFilterMatching test value t =
      .ok (b.replace (setMatching (callRegex name) test value b.lines)) := by
  have whole : t = b.before.flatten ++ b.lines.flatten ++ b.after.flatten :=
    (replace_lines_of_block? found).symm
  rw [setFilterMatching, found]
  dsimp only
  rw [if_neg noWord, parsed]
  simp only [bind, Except.bind]
  rw [search?_callRegex forward, setMatching]
  -- A pattern that looks forward only is found in the block as in the whole document.
  cases searched : (callRegex name).search? [] b.lines.flatten with
  | none => exact congrArg Except.ok (insertPredicate_of_block? found _)
  | some places =>
      obtain ⟨start, stop⟩ := places
      obtain ⟨skipped, text, starts⟩ := Regex.start_of_search? searched
      obtain ⟨u, part, rest, text', group⟩ :=
        Regex.of_search? (groupless_front fun a ha => (forward a ha).1) rfl searched
      have inside : start.position ≤ b.lines.flatten.length := by
        rw [text, starts]
        simp
      have argument : argumentAfter (t.take (start.shift b.before.flatten).position) value =
          argumentAfter (b.lines.flatten.take start.position) value := by
        rw [whole, State.shift, take_behind inside,
          argumentAfter_behind (complete_before_block found)]
      have replaced := replaceGroup_shift (t := b.lines.flatten) group (by rw [text']; simp)
        (by rw [text']; simp) (argumentAfter (b.lines.flatten.take start.position) value)
        b.before.flatten b.after.flatten
      rw [← whole] at replaced
      dsimp only [Option.map_some, Prod.map]
      rw [argument, replaced]
      rfl

end Forward

/-- **The new lines of the filters depend on the old ones alone** if the test is named by an
expression that looks behind nowhere. -/
theorem exists_setFilterMatching {test : Text} (name : IsForwardName test) (value : Text) :
    ∃ set : List Text → Text, ∀ {t : Text} {b : Block}, block? "filters".toList t = some b →
      setFilterMatching test value t = .ok (b.replace (set b.lines)) := by
  by_cases word : test.all isWordChar = true
  · refine ⟨setPredicate test value, fun {t b} found => ?_⟩
    rw [setFilterMatching_word value t word, setFilterPredicate_of_block? found]
  · obtain ⟨parts, forward, parsed⟩ := name
    exact ⟨setMatching (callRegex parts) test value, fun found =>
      setFilterMatching_of_forward forward parsed word value found⟩

/-- **What a predicate makes of the filters** depends on them and on what stands above the first
key alone, and no other part of the outline changes. -/
theorem exists_filters {test value t : Text}
    (name : block? "filters".toList t = none ∨ IsForwardName test) (noEnd : '\n' ∉ test)
    (plain : '\n' ∉ value) : ∃ leading filters, ∀ t' : Text,
      (outline t').leading = (outline t).leading → (outline t').filters = (outline t).filters →
        ∃ t'', setFilterMatching test value t' = .ok t'' ∧
          outline t'' = { outline t' with leading, filters } := by
  have block : ∀ t : Text, (outline t).filters = (block? "filters".toList t).map Block.lines :=
    fun t => (map_lines_block? _ t).symm
  cases found : block? "filters".toList t with
  | none =>
      have bare : (outline t).filters = none := by rw [block, found, Option.map_none]
      refine ⟨[], ((outline t).setFilter test value).filters, fun t' leading filters => ?_⟩
      have bare' : (outline t').filters = none := filters.trans bare
      have found' : block? "filters".toList t' = none := by simpa [block] using bare'
      refine ⟨setFilterPredicate test value t', by rw [setFilterMatching, found'], ?_⟩
      rw [outline_setFilter_new noEnd plain found', Outline.setFilter, Outline.setFilter, bare, bare',
        leading]
  | some b =>
      have name := name.resolve_left (found ▸ Option.some_ne_none b)
      obtain ⟨set, sets⟩ := exists_setFilterMatching name value
      refine ⟨(outline t).leading, some (Text.lines (set b.lines)), fun t' leading filters => ?_⟩
      rw [block, block, found, Option.map_some, Option.map_eq_some_iff] at filters
      obtain ⟨b', found', same⟩ := filters
      obtain ⟨new, eq, written⟩ := setFilterMatching_in_block name.isTestName value found'
      obtain ⟨isBlock, ends⟩ := written noEnd plain
      have new_eq : new = set b.lines := by
        have twice := (sets found').symm.trans eq
        simpa [Block.replace, same] using twice.symm
      refine ⟨_, eq, ?_⟩
      rw [outline_replace found' isBlock ends, new_eq, ← leading]

end Notebase.Document
