import Notebase.Proofs.Document.Filters

/-!
A predicate that is set again. Once the first call of a test has the value, setting it changes
nothing (`setPredicate_setPredicate`), and a value that reads the same inside and outside single
quotes stays when a predicate with another test is set (`Passes.setPredicate`).
-/

namespace Notebase.Document

open Text

/-! ### Values as arguments -/

theorem escape_cons (c : Char) (value : Text) :
    escape (c :: value) = (if c = '\\' || c = '"' then ['\\', c] else [c]) ++ escape value := rfl

theorem escape_special {c : Char} (special : c = '\\' ∨ c = '"') (value : Text) :
    escape (c :: value) = '\\' :: c :: escape value := by
  rw [escape_cons, if_pos (by simpa using special)]
  rfl

theorem escape_other {c : Char} (notEscape : c ≠ '\\') (notQuote : c ≠ '"') (value : Text) :
    escape (c :: value) = c :: escape value := by
  rw [escape_cons, if_neg (by simp [notEscape, notQuote])]
  rfl

theorem escape_eq_self {value : Text} (noEscape : '\\' ∉ value) (noQuote : '"' ∉ value) :
    escape value = value := by
  induction value with
  | nil => rfl
  | cons c value ih =>
      rw [List.mem_cons, not_or] at noEscape noQuote
      rw [escape_other (Ne.symm noEscape.1) (Ne.symm noQuote.1), ih noEscape.2 noQuote.2]

/-- Escaping does not make a text shorter. -/
theorem length_le_escape (value : Text) : value.length ≤ (escape value).length := by
  induction value with
  | nil => exact Nat.le_refl 0
  | cons c value ih =>
      rw [escape_cons, List.length_append, List.length_cons]
      split
      · rw [List.length_cons, List.length_singleton]
        omega
      · rw [List.length_singleton]
        omega

/-- The escape of a backslash takes room. -/
theorem length_lt_escape {value : Text} (mem : '\\' ∈ value) :
    value.length < (escape value).length := by
  obtain ⟨before, after, rfl⟩ := List.append_of_mem mem
  have split : escape (before ++ '\\' :: after) =
      escape before ++ '\\' :: '\\' :: escape after := by
    rw [escape, List.flatMap_append]
    rfl
  have first := length_le_escape before
  have last := length_le_escape after
  rw [split, List.length_append, List.length_append]
  simp only [List.length_cons]
  omega

/-- An escaped text is an argument: no mark in it closes it. -/
theorem argument_escape (value : Text) : Argument (escape value) := by
  induction value with
  | nil => exact .nil
  | cons c value ih =>
      by_cases special : c = '\\' ∨ c = '"'
      · rw [escape_special special]
        refine .escaped ?_ ih
        rintro rfl
        rcases special with h | h <;> cases h
      · rw [not_or] at special
        rw [escape_other special.1 special.2]
        exact .char special.2 special.1 ih

theorem doubleQuotes_mark (t : Text) :
    doubleQuotes ('\'' :: t) = '\'' :: '\'' :: doubleQuotes t := rfl

theorem doubleQuotes_cons {c : Char} (ne : c ≠ '\'') (t : Text) :
    doubleQuotes (c :: t) = c :: doubleQuotes t := by
  rw [doubleQuotes, replaceChar, List.flatMap_cons, if_neg ne]
  rfl

/-- An argument stays one when its single quotation marks are doubled. -/
theorem Argument.doubleQuotes {a : Text} (h : Argument a) : Argument (doubleQuotes a) := by
  induction h with
  | nil => exact .nil
  | @char c a notQuote notEscape _ ih =>
      by_cases mark : c = '\''
      · rw [mark, doubleQuotes_mark]
        exact .char (by decide) (by decide) (.char (by decide) (by decide) ih)
      · rw [doubleQuotes_cons mark]
        exact .char notQuote notEscape ih
  | @escaped c a noEnd _ ih =>
      rw [doubleQuotes_cons (by decide)]
      by_cases mark : c = '\''
      · rw [mark, doubleQuotes_mark]
        exact .escaped (by decide) (.char (by decide) (by decide) ih)
      · rw [doubleQuotes_cons mark]
        exact .escaped noEnd ih

theorem argument_argumentAfter (before value : Text) : Argument (argumentAfter before value) := by
  rw [argumentAfter]
  split
  · exact (argument_escape value).doubleQuotes
  · exact argument_escape value

/-- A character that needs no mark before it is in an argument only if it is in the value. -/
theorem not_mem_argumentAfter (before : Text) {value : Text} {c : Char} (out : c ∉ value)
    (escape_ : c ≠ '\\') (quote : c ≠ '\'') : c ∉ argumentAfter before value := by
  have inside : c ∉ escape value := by
    rw [escape, List.mem_flatMap]
    rintro ⟨d, hd, h⟩
    have ne : c ≠ d := fun eq => out (eq ▸ hd)
    split at h <;> simp [escape_, ne] at h
  rw [argumentAfter]
  split
  · rw [doubleQuotes, replaceChar, List.mem_flatMap]
    rintro ⟨d, hd, h⟩
    have ne : c ≠ d := fun eq => inside (eq ▸ hd)
    split at h <;> simp [quote, ne] at h
  · exact inside

/-- Doubling the quotation marks keeps the first character. -/
theorem head?_doubleQuotes (t : Text) : (doubleQuotes t).head? = t.head? := by
  cases t with
  | nil => rfl
  | cons c t =>
      by_cases mark : c = '\''
      · rw [mark, doubleQuotes_mark]
        rfl
      · rw [doubleQuotes_cons mark]
        rfl

/-- An argument starts as its value does, or with a backslash. -/
theorem head?_argumentAfter (before r : Text) {value : Text} (open? : value.head? ≠ some ')') :
    (argumentAfter before value ++ '"' :: r).head? ≠ some ')' := by
  have start : (escape value ++ '"' :: r).head? ≠ some ')' := by
    cases value with
    | nil => simp [escape]
    | cons c value =>
        rw [escape, List.flatMap_cons]
        split
        · simp
        · simpa using open?
  rw [argumentAfter]
  split
  · rwa [List.head?_append, head?_doubleQuotes, ← List.head?_append]
  · exact start

/-- A value without marks is its own argument. -/
theorem argumentAfter_of_not_mem (before : Text) {value : Text} (noEscape : '\\' ∉ value)
    (noQuote : '"' ∉ value) (noMark : '\'' ∉ value) : argumentAfter before value = value := by
  have doubled : doubleQuotes value = value := replaceChar_of_not_mem noMark
  rw [argumentAfter, escape_eq_self noEscape noQuote, doubled, ite_self]

/-! ### The line of a predicate -/

/-- The last line starts behind the last line end. -/
theorem lastLine_append (t : Text) {u : Text} (plain : '\n' ∉ u) : lastLine (t ++ '\n' :: u) = u := by
  have stop : ∀ c ∈ u.reverse, (c != '\n') = true := by
    intro c hc
    rw [bne_iff_ne]
    rintro rfl
    exact plain (List.mem_reverse.mp hc)
  rw [lastLine, List.reverse_append, List.reverse_cons, List.append_assoc,
    List.takeWhile_append_of_pos stop]
  simp

/-- The line of a list item that opens with a single quote. -/
theorem opensQuoted_item (t : Text) (depth : Nat) :
    opensQuoted (t ++ '\n' :: (spaces depth ++ "- '".toList)) = true := by
  have plain : '\n' ∉ spaces depth ++ "- '".toList := by simp [spaces]
  have front : ∀ c ∈ spaces depth, (c == ' ' || c == '-') = true := by simp [spaces]
  rw [opensQuoted, lastLine_append t plain, List.dropWhile_append_of_pos front]
  decide

/-- A predicate inside the single quotes of a list item. -/
theorem quotePredicate_filePredicate {test : Text} (word : test.all isWordChar = true)
    (value : Text) : quotePredicate (filePredicate test value) =
      ['\''] ++ callFront test ++ doubleQuotes (escape value) ++ "\")'".toList := by
  have mark : '\'' ∉ callFront test := by
    simp [callFront_def, not_mem_of_word word (c := '\'') (by decide)]
  have doubleQuotes_eq : doubleQuotes (callFront test) = callFront test :=
    replaceChar_of_not_mem mark
  have quoted : (filePredicate test value).contains '"' = true := by simp [filePredicate]
  have parts : doubleQuotes (filePredicate test value) =
      doubleQuotes (callFront test) ++ doubleQuotes (escape value) ++ doubleQuotes "\")".toList := by
    simp [doubleQuotes, replaceChar, filePredicate]
  rw [quotePredicate, if_pos quoted, singleQuoted, parts, doubleQuotes_eq]
  simp [doubleQuotes, replaceChar]

/-! ### A predicate with its value -/

def Passes (test value t : Text) : Prop :=
  ∃ before rest, IsFirstCall test t before (argumentAfter before value) rest

/-- Lines without a call of the test and without a line that joins predicates. -/
def NoPlace (test : Text) (ls : List Text) : Prop :=
  splitCall? test ls.flatten = none ∧ ∀ l ∈ ls, (conjunctionDepth? l).isSome = false

theorem setPredicate_of_passes {test value : Text} {ls : List Text}
    (h : Passes test value ls.flatten) : setPredicate test value ls = ls.flatten := by
  obtain ⟨before, rest, first⟩ := h
  rw [setPredicate, splitCall?_eq_some_iff.mpr ⟨_, first⟩]
  exact first.1.text.symm

theorem setPredicate_of_noPlace {test : Text} (value : Text) {ls : List Text}
    (h : NoPlace test ls) : setPredicate test value ls = ls.flatten := by
  rw [setPredicate, h.1, splitFirst?_eq_none.mpr h.2]

/-- Lines that setting a predicate leaves alone have it, or have no place for it. -/
theorem passes_of_setPredicate {test value : Text} {ls : List Text}
    (same : setPredicate test value ls = ls.flatten) :
    Passes test value ls.flatten ∨ NoPlace test ls := by
  cases found : splitCall? test ls.flatten with
  | some pair =>
      obtain ⟨before, rest⟩ := pair
      obtain ⟨a, first⟩ := splitCall?_eq_some_iff.mp found
      rw [setPredicate, found, first.1.text] at same
      have argumentAfter_eq : argumentAfter before value = a := by simpa using same
      exact .inl ⟨before, rest, argumentAfter_eq ▸ first⟩
  | none =>
      cases split : splitFirst? (fun line => (conjunctionDepth? line).isSome) ls with
      | none => exact .inr ⟨found, splitFirst?_eq_none.mp split⟩
      | some parts =>
          obtain ⟨before, line, after⟩ := parts
          have whole := (splitFirst?_eq_some split).1
          rw [setPredicate, found, split, whole] at same
          have lengths := congrArg List.length same
          simp only [predicateLine, List.flatten_append, List.flatten_cons, List.length_append,
            List.length_singleton] at lengths
          omega

/-- A text with a place for the value of a predicate: whatever the value, it is the argument of
the first call of the test, between the same texts. -/
def Slot (test : Text) (text : Text → Text) : Prop :=
  ∃ before rest, Clear test before ∧ (∃ r, rest = '"' :: ')' :: r) ∧
    ∀ value, text value = before ++ callFront test ++ argumentAfter before value ++ rest

section Again

variable {test : Text} (word : test.all isWordChar = true)
include word

/-- A predicate on a line of its own after a text without a complete call. -/
theorem slot_item {t : Text} (clear : Clear test t) (depth : Nat) (rest : Text) :
    Slot test fun value => t ++ '\n' :: (spaces depth ++ "- ".toList ++
      quotePredicate (filePredicate test value) ++ rest) := by
  refine ⟨t ++ '\n' :: (spaces depth ++ "- '".toList), '"' :: ')' :: '\'' :: rest,
    clear.append (by simp [spaces]), ⟨_, rfl⟩, fun value => ?_⟩
  dsimp only
  rw [argumentAfter, opensQuoted_item, if_pos rfl, quotePredicate_filePredicate word]
  simp

/-- Setting a predicate finds a place for the value that does not depend on it, or none. -/
theorem slot_setPredicate (ls : List Text) :
    Slot test (setPredicate test · ls) ∨ NoPlace test ls := by
  -- A value goes into the first call, or else into a new item below the first conjunction.
  cases found : splitCall? test ls.flatten with
  | some pair =>
      obtain ⟨before, rest⟩ := pair
      obtain ⟨a, first⟩ := splitCall?_eq_some_iff.mp found
      refine .inl ⟨before, rest, first.clear, first.1.closed, fun value => ?_⟩
      dsimp only
      rw [setPredicate, found]
  | none =>
      cases split : splitFirst? (fun line => (conjunctionDepth? line).isSome) ls with
      | none => exact .inr ⟨found, splitFirst?_eq_none.mp split⟩
      | some parts =>
          obtain ⟨before, line, after⟩ := parts
          obtain ⟨whole, join, -⟩ := splitFirst?_eq_some split
          obtain ⟨r, rfl, -⟩ := conjunction_shape join
          have clear : Clear test (before.flatten ++ r) := by
            refine clear_of_splitCall?_eq_none (q := '\n' :: after.flatten) ?_
            rw [← found, whole]
            simp
          obtain ⟨b, q, clear', closed, text⟩ := slot_item word clear
            (indentation (r ++ ['\n']) + 2) ('\n' :: after.flatten)
          refine .inl ⟨b, q, clear', closed, fun value => ?_⟩
          rw [← text value]
          dsimp only
          rw [setPredicate, found, split]
          simp [predicateLine]

/-- New filters have a place for the value of their predicate. -/
theorem slot_filterLines (ls : List Text) :
    Slot test fun value => (filterLines (filePredicate test value) ++ ls).flatten := by
  have clear : Clear test "filters:\n  and:".toList := clear_of_not_mem (by decide)
  obtain ⟨b, q, clear', closed, text⟩ := slot_item word clear 4 ("\n\n".toList ++ ls.flatten)
  refine ⟨b, q, clear', closed, fun value => ?_⟩
  rw [← text value]
  simp [filterLines, filterRows, spaces]

/-- **The value that is set last stays**: setting another one finds the place of the first. -/
theorem Slot.setPredicate {text : Text → Text} (slot : Slot test text) {old : Text}
    (open? : old.head? ≠ some ')') (value : Text) :
    setPredicate test value (Text.lines (text old)) = text value := by
  obtain ⟨before, rest, clear, closed, eq⟩ := slot
  have call : IsCall test (text old) before (argumentAfter before old) rest :=
    ⟨eq old, argument_argumentAfter before old, closed⟩
  have apart : (argumentAfter before old ++ rest).head? ≠ some ')' := by
    obtain ⟨r, rfl⟩ := closed
    exact head?_argumentAfter before _ open?
  rw [Document.setPredicate, flatten_lines,
    splitCall?_eq_some_iff.mpr ⟨_, call.isFirstCall word apart clear⟩, eq value]

/-- **Setting a predicate again** is setting it to the last value. -/
theorem setPredicate_setPredicate {ls : List Text} (lines_eq : Text.lines ls.flatten = ls) {old :
    Text}
    (open? : old.head? ≠ some ')') (value : Text) :
    setPredicate test value (Text.lines (setPredicate test old ls)) =
      setPredicate test value ls := by
  rcases slot_setPredicate word ls with slot | none
  · exact slot.setPredicate word open? value
  · rw [setPredicate_of_noPlace old none, lines_eq]

end Again

/-! ### Predicates of two tests -/

/-- A value without quotation marks, backslashes, parentheses and line ends. -/
def Simple (value : Text) : Prop := ∀ c ∈ value, c ∉ "\\\"'()\n".toList

theorem Simple.not_mem {value : Text} (h : Simple value) {c : Char}
    (mark : c ∈ "\\\"'()\n".toList) : c ∉ value := fun mem => h c mem mark

theorem Simple.argumentAfter {value : Text} (h : Simple value) (before : Text) :
    argumentAfter before value = value :=
  argumentAfter_of_not_mem before (h.not_mem (by decide)) (h.not_mem (by decide))
    (h.not_mem (by decide))

/-- A call of one test is outside the argument of another. -/
theorem IsCall.outside {test test' before arg rest b a r : Text}
    (word : test.all isWordChar = true) (word' : test'.all isWordChar = true) (ne : test ≠ test')
    (argument : Argument arg) (closed : ∃ r', rest = '"' :: ')' :: r')
    (call : IsCall test (before ++ callFront test' ++ arg ++ rest) b a r)
    (apart : (arg ++ rest).head? ≠ some ')' ∨ '(' ∉ a)
    (apart' : (a ++ r).head? ≠ some ')' ∨ '(' ∉ arg) :
    Outside test (before ++ callFront test') arg rest b a r := by
  rcases IsCall.place word word' ne ⟨rfl, argument, closed⟩ call apart apart' with
    ⟨w, eq⟩ | ⟨m, eq, eq'⟩
  · exact .inl ⟨w ++ callFront test', by simp [eq]⟩
  · exact .inr ⟨m, eq, eq'⟩

section Two

variable {test test' value value' : Text} {ls : List Text} (word : test.all isWordChar = true)
  (word' : test'.all isWordChar = true) (ne : test ≠ test')
  (noParen : '(' ∉ value' ∧ ')' ∉ value')
include word word' ne noParen

/-- Every call is outside the argument that another test gets. -/
theorem outside_of_replace {before rest b a r : Text} (closed : ∃ r', rest = '"' :: ')' :: r')
    (call : IsCall test (before ++ callFront test' ++ argumentAfter before value' ++ rest) b a r) :
    Outside test (before ++ callFront test') (argumentAfter before value') rest b a r := by
  refine call.outside word word' ne (argument_argumentAfter before value') closed (.inl ?_)
    (.inr (not_mem_argumentAfter before noParen.1 (by decide) (by decide)))
  obtain ⟨r', rfl⟩ := closed
  exact head?_argumentAfter before (')' :: r') fun h => noParen.2 (List.mem_of_head? h)

/-- Every call is outside a line with a predicate of another test. -/
theorem outside_of_item {t q b a r : Text} {depth : Nat}
    (call : IsCall test ((t ++ ['\n']) ++ (spaces depth ++ "- ".toList ++
      quotePredicate (filePredicate test' value') ++ ['\n']) ++ q) b a r) :
    Outside test (t ++ ['\n']) (spaces depth ++ "- ".toList ++
      quotePredicate (filePredicate test' value') ++ ['\n']) q b a r := by
  -- The item is a call whose argument stands between single marks: a replacement.
  generalize open_eq : t ++ '\n' :: (spaces depth ++ "- '".toList) = opening
  have quoted : argumentAfter opening value' = doubleQuotes (escape value') := by
    rw [argumentAfter, ← open_eq, opensQuoted_item, if_pos rfl]
  have parts : (t ++ ['\n']) ++ (spaces depth ++ "- ".toList ++
      quotePredicate (filePredicate test' value') ++ ['\n']) ++ q =
        opening ++ callFront test' ++ argumentAfter opening value' ++
          '"' :: ')' :: '\'' :: '\n' :: q := by
    rw [quotePredicate_filePredicate word', quoted, ← open_eq]
    simp
  rw [parts] at call
  rcases outside_of_replace word word' ne noParen ⟨_, rfl⟩ call with ⟨w, eq⟩ | ⟨m, eq, eq'⟩
  · have start : (t ++ ['\n']) ++ (spaces depth ++ "- '".toList ++ callFront test') =
        (b ++ callFront test ++ a ++ ['"']) ++ ')' :: w := by
      rw [← open_eq] at eq
      simpa using eq
    -- Nothing in front of the argument closes a call.
    have out : ')' ∉ spaces depth ++ "- '".toList ++ callFront test' := by
      simp [spaces, callFront_def, not_mem_of_word word' (c := ')') (by decide)]
    obtain ⟨w', same⟩ := append_eq_of_not_mem start out
    exact .inl ⟨w', by simpa using same⟩
  · have start : "\")'\n".toList ++ q = m ++ 'f' :: ("ile.".toList ++ test ++ "(\"".toList ++ a ++ r) := by
      simpa [callFront_def] using eq'
    obtain ⟨m', rfl, joined⟩ := append_eq_of_not_mem_front start (by decide)
    refine .inr ⟨m', ?_, by simpa [callFront_def] using joined⟩
    rw [eq, quotePredicate_filePredicate word', quoted, ← open_eq]
    simp

/-- **A simple value stays** when a predicate with another test is set. -/
theorem Passes.setPredicate (simple : Simple value) (h : Passes test value ls.flatten) :
    Passes test value (setPredicate test' value' ls) := by
  obtain ⟨b, r, first⟩ := h
  rw [simple.argumentAfter] at first
  -- A simple value neither opens a call nor is closed by its first character.
  have noEnd : (value ++ r).head? ≠ some ')' := by
    obtain ⟨r', rfl⟩ := first.1.closed
    have start := head?_argumentAfter b (')' :: r') fun h =>
      simple.not_mem (c := ')') (by decide) (List.mem_of_head? h)
    rwa [simple.argumentAfter] at start
  have noOpen : '(' ∉ value := simple.not_mem (by decide)
  rw [Document.setPredicate]
  split
  · next before rest found =>
      obtain ⟨arg, call', -⟩ := splitCall?_eq_some_iff.mp found
      have flatten_eq := call'.text
      rw [flatten_eq] at first
      obtain ⟨b', r', first'⟩ := first.exchange
        (first.1.outside word word' ne call'.argument call'.closed (.inr noOpen) (.inl noEnd))
        fun _ _ _ call => outside_of_replace word word' ne noParen call'.closed call
      exact ⟨b', r', by rwa [simple.argumentAfter]⟩
  · next none =>
      split
      · exact ⟨b, r, by rwa [simple.argumentAfter]⟩
      · next before line after split =>
          obtain ⟨whole, join, -⟩ := splitFirst?_eq_some split
          obtain ⟨joint, rfl, -⟩ := conjunction_shape join
          have text : ls.flatten = (before.flatten ++ joint ++ ['\n']) ++ [] ++ after.flatten := by
            simp [whole]
          obtain ⟨r', rfl⟩ := first.1.closed
          -- The call stands on one line, and the new item on another.
          have plain : '\n' ∉ callFront test ++ value ++ "\")".toList := by
            have noEnd := simple.not_mem (c := '\n') (by decide)
            simp [plain_callFront (not_mem_of_word word (c := '\n') (by decide)), noEnd]
          have cut : b ++ (callFront test ++ value ++ "\")".toList) ++ r' =
              (before.flatten ++ joint) ++ '\n' :: after.flatten := by
            have whole := first.1.text.symm.trans text
            simpa using whole
          have outside : Outside test (before.flatten ++ joint ++ ['\n']) [] after.flatten b value
              ('"' :: ')' :: r') := by
            rcases append_eq_of_mark plain cut with ⟨w, eq⟩ | ⟨m, eq, eq'⟩
            · exact .inl ⟨w ++ ['\n'], by simp [eq]⟩
            · exact .inr ⟨m, by simp [eq], by simpa using eq'⟩
          rw [text] at first
          obtain ⟨b', r', first'⟩ := first.exchange outside
            fun _ _ _ call => outside_of_item word word' ne noParen call
          refine ⟨b', r', ?_⟩
          rw [simple.argumentAfter]
          simpa [predicateLine] using first'

/-- Lines without a place for a predicate get none when a predicate with another test is set. -/
theorem NoPlace.setPredicate (plain : '\n' ∉ value') (lines_eq : Text.lines ls.flatten = ls)
    (h : NoPlace test ls) : NoPlace test (Text.lines (setPredicate test' value' ls)) := by
  obtain ⟨none, noJoint⟩ := h
  rw [Document.setPredicate]
  split
  · next before rest found =>
      obtain ⟨arg, call', -⟩ := splitCall?_eq_some_iff.mp found
      have text := call'.text
      refine ⟨?_, ?_⟩
      · rw [text] at none
        rw [flatten_lines]
        exact splitCall?_eq_none_of_outside none
          fun _ _ _ call => outside_of_replace word word' ne noParen call'.closed call
      · have written : rest ≠ [] := by
          obtain ⟨r, rfl⟩ := call'.closed
          simp
        have plain' := plain_callFront (not_mem_of_word word' (c := '\n') (by decide))
        obtain ⟨front, mid, after, w, x, x', old, new⟩ := lines_exchange before arg plain'
          (by simp [callFront_def]) (plain_argumentAfter before plain) written
        rw [← text, lines_eq] at old
        intro l hl
        rw [new] at hl
        rw [old] at noJoint
        rcases List.mem_append.mp hl with hl | hl
        · exact noJoint l (List.mem_append_left _ hl)
        · rcases List.mem_cons.mp hl with rfl | hl
          · -- The front of the call stands on the line, so the line joins nothing.
            by_contra joint
            rw [Bool.not_eq_false] at joint
            obtain ⟨r, eq, noDot⟩ := conjunction_shape joint
            have dot : '.' ∈ r ++ ['\n'] := by
              rw [← eq]
              simp [callFront_def]
            simp [noDot] at dot
          · exact noJoint l (by simp [hl])
  · rw [splitFirst?_eq_none.mpr noJoint]
    rw [lines_eq]
    exact ⟨none, noJoint⟩

end Two

/-- A simple value that is set already is set after a predicate with another test is. -/
theorem setPredicate_stays {test test' value value' : Text} {ls : List Text}
    (word : test.all isWordChar = true) (word' : test'.all isWordChar = true) (ne : test ≠ test')
    (noParen : '(' ∉ value' ∧ ')' ∉ value') (plain : '\n' ∉ value') (simple : Simple value)
    (lines_eq : Text.lines ls.flatten = ls) (same : setPredicate test value ls = ls.flatten) :
    setPredicate test value (Text.lines (setPredicate test' value' ls)) =
      setPredicate test' value' ls := by
  rcases passes_of_setPredicate same with passes | none
  · have passes' := passes.setPredicate word word' ne noParen simple
    rw [setPredicate_of_passes (by rwa [flatten_lines]), flatten_lines]
  · rw [setPredicate_of_noPlace value (none.setPredicate word word' ne noParen plain lines_eq),
      flatten_lines]

end Notebase.Document
