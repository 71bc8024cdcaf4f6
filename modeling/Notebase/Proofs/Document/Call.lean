import Notebase.Document.Edit
import Notebase.Proofs.Document.Block

/-!
Calls of a test in a text. `splitCall?` finds the first one (`splitCall?_eq_some_iff`). The
quotation mark that opens the argument of a call is never inside the argument of another, so an
edit of one call leaves the calls before it and after it as they were.
-/

namespace Notebase.Document

open Text

/-! ### Arguments -/

/-- The inside of a double-quoted string. A backslash takes the character after it. -/
inductive Argument : Text → Prop where
  | nil : Argument []
  | char {c : Char} {a : Text} : c ≠ '"' → c ≠ '\\' → Argument a → Argument (c :: a)
  | escaped {c : Char} {a : Text} : c ≠ '\n' → Argument a → Argument ('\\' :: c :: a)

/-- An argument ends at the first closing mark that is not escaped. -/
theorem splitArgument?_append {a : Text} (h : Argument a) (rest : Text) :
    splitArgument? (a ++ '"' :: ')' :: rest) = some (a, '"' :: ')' :: rest) := by
  induction h with
  | nil => rfl
  | char notQuote notEscape _ ih =>
      rw [List.cons_append, splitArgument?.eq_6 _ _ (by simp [notQuote]) (by simp [notQuote])
        (by simp [notEscape]) (by simp [notEscape]), ih]
      rfl
  | escaped noEnd _ ih =>
      rw [List.cons_append, List.cons_append, splitArgument?, if_neg noEnd, ih]
      rfl

/-- An argument is split off exactly where it is closed. -/
theorem splitArgument?_eq_some_iff {t a rest : Text} : splitArgument? t = some (a, rest) ↔
    t = a ++ rest ∧ Argument a ∧ ∃ r, rest = '"' :: ')' :: r := by
  constructor
  · intro h
    induction t using splitArgument?.induct generalizing a with
    | case1 => cases h
    | case2 r =>
        cases h
        exact ⟨rfl, .nil, r, rfl⟩
    | case3 t open? =>
        rw [splitArgument?] at h
        · cases h
        · exact open?
    | case4 t => simp [splitArgument?] at h
    | case5 c t noEnd ih =>
        rw [splitArgument?, if_neg noEnd, Option.map_eq_some_iff] at h
        obtain ⟨⟨a', rest'⟩, split, eq⟩ := h
        cases eq
        obtain ⟨rfl, argument, closed⟩ := ih split
        exact ⟨rfl, .escaped noEnd argument, closed⟩
    | case6 => cases h
    | case7 c t notClosed notQuote notPair notLast ih =>
        rw [splitArgument?, Option.map_eq_some_iff] at h
        · obtain ⟨⟨a', rest'⟩, split, eq⟩ := h
          cases eq
          obtain ⟨rfl, argument, closed⟩ := ih split
          -- A backslash here would have been read as the start of a pair.
          have notEscape : c ≠ '\\' := by
            rintro rfl
            obtain ⟨r, rfl⟩ := closed
            cases a' with
            | nil => exact notPair _ _ rfl rfl
            | cons d a' => exact notPair _ _ rfl rfl
          exact ⟨rfl, .char notQuote notEscape argument, closed⟩
        all_goals assumption
  · rintro ⟨rfl, argument, r, rfl⟩
    exact splitArgument?_append argument r

/-- A quotation mark inside an argument has a backslash before it. -/
theorem Argument.backslash {a u w : Text} (h : Argument a) (eq : a = u ++ '"' :: w) :
    ∃ u', u = u' ++ ['\\'] := by
  induction h generalizing u with
  | nil => simp at eq
  | char notQuote _ _ ih =>
      cases u with
      | nil =>
          cases eq
          exact absurd rfl notQuote
      | cons d u =>
          obtain ⟨u', rfl⟩ := ih (List.cons.inj eq).2
          exact ⟨d :: u', rfl⟩
  | escaped _ _ ih =>
      cases u with
      | nil => cases eq
      | cons d u =>
          obtain ⟨rfl, tail⟩ := List.cons.inj eq
          cases u with
          | nil => exact ⟨[], rfl⟩
          | cons e u =>
              obtain ⟨u', rfl⟩ := ih (List.cons.inj tail).2
              exact ⟨_ :: e :: u', rfl⟩

/-- An argument that starts before the mark that opens another one is closed before it, unless
that mark closes it with a parenthesis after it. -/
theorem Argument.closed_before {a r u y : Text} (h : Argument a)
    (eq : a ++ '"' :: ')' :: r = u ++ '(' :: '"' :: y) (apart : y.head? ≠ some ')' ∨ '(' ∉ a) :
    ∃ w, u = a ++ '"' :: ')' :: w := by
  -- The two ways to take the text apart meet at the closing mark, or one reaches into the other.
  rcases List.append_eq_append_iff.mp eq with ⟨c, rfl, meet⟩ | ⟨c, rfl, meet⟩
  · cases c with
    | nil => cases meet
    | cons d c =>
        obtain ⟨rfl, tail⟩ := List.cons.inj meet
        cases c with
        | nil => cases tail
        | cons e c =>
            obtain ⟨rfl, -⟩ := List.cons.inj tail
            exact ⟨c, rfl⟩
  · cases c with
    | nil => cases meet
    | cons d c =>
        obtain ⟨rfl, tail⟩ := List.cons.inj meet
        cases c with
        | nil =>
            obtain ⟨-, rfl⟩ := List.cons.inj tail
            rcases apart with noParen | noParen
            · exact absurd rfl noParen
            · exact absurd (List.mem_append_right _ List.mem_cons_self) noParen
        | cons e c =>
            obtain ⟨rfl, -⟩ := List.cons.inj tail
            obtain ⟨u', paren⟩ := h.backslash (u := u ++ ['(']) (w := c) (by simp)
            exact absurd (List.append_inj' paren rfl).2 (by decide)

/-! ### Calls -/

/-- A call of a test in a text: the text before it, its argument and the text after that. -/
structure IsCall (test t before a rest : Text) : Prop where
  text : t = before ++ callFront test ++ a ++ rest
  argument : Argument a
  closed : ∃ r, rest = '"' :: ')' :: r

/-- A call at the start of a text is the one that is split off there. -/
theorem isCall_nil_iff {test t a rest : Text} : IsCall test t [] a rest ↔
    (after? (callFront test) t).bind splitArgument? = some (a, rest) := by
  rw [Option.bind_eq_some_iff]
  constructor
  · rintro ⟨rfl, argument, closed⟩
    refine ⟨a ++ rest, after?_eq_some_iff.mpr (by simp), ?_⟩
    exact splitArgument?_eq_some_iff.mpr ⟨rfl, argument, closed⟩
  · rintro ⟨u, isFront, split⟩
    obtain ⟨rfl, argument, closed⟩ := splitArgument?_eq_some_iff.mp split
    exact ⟨by simpa using after?_eq_some_iff.mp isFront, argument, closed⟩

theorem isCall_cons_iff {test t before a rest : Text} {c d : Char} :
    IsCall test (c :: t) (d :: before) a rest ↔ c = d ∧ IsCall test t before a rest := by
  constructor
  · rintro ⟨text, argument, closed⟩
    simp only [List.cons_append, List.cons.injEq] at text
    exact ⟨text.1, text.2, argument, closed⟩
  · rintro ⟨rfl, text, argument, closed⟩
    exact ⟨by simp [text], argument, closed⟩

/-- No call is found where there is none. -/
theorem splitCall?_eq_none_iff {test t : Text} :
    splitCall? test t = none ↔ ∀ before a rest, ¬ IsCall test t before a rest := by
  induction t with
  | nil =>
      refine ⟨fun _ before a rest call => ?_, fun _ => rfl⟩
      simpa [callFront_def] using call.text
  | cons c t ih =>
      rw [splitCall?]
      constructor
      · intro h before a rest call
        cases before with
        | nil =>
            rw [isCall_nil_iff.mp call] at h
            cases h
        | cons d before =>
            obtain ⟨rfl, inner⟩ := isCall_cons_iff.mp call
            split at h
            · cases h
            · rw [Option.map_eq_none_iff] at h
              exact ih.mp h _ _ _ inner
      · intro h
        split
        · next found => exact absurd (isCall_nil_iff.mpr found) (h _ _ _)
        · rw [Option.map_eq_none_iff, ih]
          exact fun before a rest call => h _ _ _ (isCall_cons_iff.mpr ⟨rfl, call⟩)

/-- A call of a test that no other call of it stands before. -/
def IsFirstCall (test t before a rest : Text) : Prop :=
  IsCall test t before a rest ∧
    ∀ before' a' rest', IsCall test t before' a' rest' → before.length ≤ before'.length

/-- The call that is found is the first one. -/
theorem splitCall?_eq_some_iff {test t before rest : Text} :
    splitCall? test t = some (before, rest) ↔ ∃ a, IsFirstCall test t before a rest := by
  induction t generalizing before with
  | nil =>
      constructor
      · intro h
        cases h
      · rintro ⟨a, call, -⟩
        simpa [callFront_def] using call.text
  | cons c t ih =>
      rw [splitCall?]
      split
      · next a rest' found =>
          have call := isCall_nil_iff.mpr found
          constructor
          · intro h
            cases h
            exact ⟨a, call, fun _ _ _ _ => Nat.zero_le _⟩
          · rintro ⟨a', call', first⟩
            -- A call right at the start is the first one, so the other call is it.
            have none := List.length_eq_zero_iff.mp (Nat.le_zero.mp (first _ _ _ call))
            subst none
            have same := (isCall_nil_iff.mp call).symm.trans (isCall_nil_iff.mp call')
            cases same
            rfl
      · next none =>
          -- The first call stands behind `c`, and the induction says where.
          have notHere : ∀ a rest, ¬ IsCall test (c :: t) [] a rest := by
            intro a rest call
            rw [isCall_nil_iff.mp call] at none
            cases none
          rw [Option.map_eq_some_iff]
          constructor
          · rintro ⟨⟨before', rest'⟩, found, eq⟩
            cases eq
            obtain ⟨a, call, first⟩ := ih.mp found
            refine ⟨a, isCall_cons_iff.mpr ⟨rfl, call⟩, fun other a' rest' call' => ?_⟩
            cases other with
            | nil => exact absurd call' (notHere _ _)
            | cons d other =>
                exact Nat.succ_le_succ (first _ _ _ (isCall_cons_iff.mp call').2)
          · rintro ⟨a, call, first⟩
            cases before with
            | nil => exact absurd call (notHere _ _)
            | cons d before =>
                obtain ⟨rfl, inner⟩ := isCall_cons_iff.mp call
                refine ⟨(before, rest), ih.mpr ⟨a, inner, fun other a' rest' call' => ?_⟩, rfl⟩
                exact Nat.le_of_succ_le_succ (first _ _ _ (isCall_cons_iff.mpr ⟨rfl, call'⟩))

/-! ### Calls of tests that are named by words -/

/-- A call up to the mark that opens its argument. -/
theorem callFront_eq (test : Text) :
    callFront test = ("file".toList ++ '.' :: (test ++ ['('])) ++ ['"'] := by
  simp [callFront_def]

theorem not_mem_of_word {test : Text} (word : test.all isWordChar = true) {c : Char}
    (mark : isWordChar c = false) : c ∉ test := by
  intro h
  rw [List.all_eq_true.mp word c h] at mark
  cases mark

theorem quote_not_mem {test : Text} (word : test.all isWordChar = true) :
    '"' ∉ "file".toList ++ '.' :: (test ++ ['(']) := by
  simp [not_mem_of_word word (c := '"') (by decide)]

/-- No call starts inside the front of another one. -/
theorem callFront_suffix {test test' c : Text} (word : test.all isWordChar = true)
    (word' : test'.all isWordChar = true) (eq : callFront test = c ++ callFront test') :
    c = [] ∧ test = test' := by
  have noDot := not_mem_of_word word (c := '.') (by decide)
  have noDot' := not_mem_of_word word' (c := '.') (by decide)
  rw [callFront_eq, callFront_eq, ← List.append_assoc, ← List.append_assoc] at eq
  have front := (List.append_inj' eq rfl).1
  have counts := congrArg (List.count '.') front
  have outside : '.' ∉ c ++ "file".toList := by
    simp only [List.count_append, List.count_cons, List.count_eq_zero_of_not_mem noDot,
      List.count_eq_zero_of_not_mem noDot'] at counts
    rw [List.mem_append, not_or]
    refine ⟨List.count_eq_zero.mp ?_, by decide⟩
    simp at counts
    omega
  have start := eq_of_append_mark (by decide) outside front
  obtain rfl : c = [] := by simpa using start
  simpa using front

/-- Two fronts of calls in one text overlap only if they are the same one. -/
theorem front_overlap {test test' c z y : Text} (word : test.all isWordChar = true)
    (word' : test'.all isWordChar = true)
    (eq : callFront test ++ z = c ++ (callFront test' ++ y)) :
    (∃ m, c = callFront test ++ m ∧ z = m ++ callFront test' ++ y) ∨
      c = [] ∧ test = test' ∧ z = y := by
  rcases List.append_eq_append_iff.mp eq with ⟨m, rfl, rfl⟩ | ⟨d, front, meet⟩
  · exact .inl ⟨m, rfl, by simp⟩
  · rcases List.eq_nil_or_concat d with rfl | ⟨d, q, rfl⟩
    · exact .inl ⟨[], by simpa using front.symm, by simpa using meet.symm⟩
    · rw [List.concat_eq_append] at front meet
      have ends := front
      rw [callFront_eq, ← List.append_assoc] at ends
      obtain ⟨start, quote⟩ := List.append_inj' ends rfl
      obtain rfl : '"' = q := by simpa using quote
      have inside := quote_not_mem word
      rw [start, List.mem_append, not_or] at inside
      have marks : ("file".toList ++ '.' :: (test' ++ ['('])) ++ '"' :: y = d ++ '"' :: z := by
        simpa [callFront_def] using meet
      have same := eq_of_append_mark (quote_not_mem word') inside.2 marks
      rw [← same, ← callFront_eq] at front
      rw [← same, ← callFront_eq] at meet
      obtain ⟨none, sameTest⟩ := callFront_suffix word word' front
      exact .inr ⟨none, sameTest, (List.append_cancel_left meet).symm⟩

/-- Two fronts of calls in a text are one and the same, or stand apart. -/
theorem front_trichotomy {test test' b z before y : Text} (word : test.all isWordChar = true)
    (word' : test'.all isWordChar = true)
    (eq : b ++ callFront test ++ z = before ++ callFront test' ++ y) :
    (∃ m, before = b ++ callFront test ++ m ∧ z = m ++ callFront test' ++ y) ∨
      (b = before ∧ test = test' ∧ z = y) ∨
        ∃ m, b = before ++ callFront test' ++ m ∧ y = m ++ callFront test ++ z := by
  rw [List.append_assoc, List.append_assoc] at eq
  rcases List.append_eq_append_iff.mp eq with ⟨c, rfl, meet⟩ | ⟨c, rfl, meet⟩
  · rcases front_overlap word word' meet with ⟨m, rfl, rfl⟩ | ⟨rfl, rfl, rfl⟩
    · exact .inl ⟨m, by simp, rfl⟩
    · exact .inr (.inl ⟨by simp, rfl, rfl⟩)
  · rcases front_overlap word' word meet with ⟨m, rfl, rfl⟩ | ⟨rfl, rfl, rfl⟩
    · exact .inr (.inr ⟨m, by simp, rfl⟩)
    · exact .inr (.inl ⟨by simp, rfl, rfl⟩)

/-! ### Calls around an edited one -/

/-- What ends before a part without its last character ends before that part. -/
theorem append_eq_of_not_mem {p v x w : Text} {c : Char} (eq : p ++ v = x ++ c :: w)
    (out : c ∉ v) : ∃ w', p = x ++ c :: w' := by
  rcases List.append_eq_append_iff.mp eq with ⟨d, rfl, rfl⟩ | ⟨d, rfl, meet⟩
  · exact absurd (List.mem_append_right _ List.mem_cons_self) out
  · cases d with
    | nil =>
        rw [List.nil_append] at meet
        exact absurd (meet ▸ List.mem_cons_self) out
    | cons e d =>
        obtain ⟨rfl, -⟩ := List.cons.inj meet
        exact ⟨d, rfl⟩

/-- A text in which no call of the test is complete. -/
def Clear (test t : Text) : Prop :=
  ∀ b a w, Argument a → t ≠ b ++ callFront test ++ a ++ '"' :: ')' :: w

theorem clear_of_not_mem {test t : Text} (h : ')' ∉ t) : Clear test t := by
  rintro b a w - rfl
  simp at h

theorem Clear.append {test t v : Text} (clear : Clear test t) (h : ')' ∉ v) :
    Clear test (t ++ v) := by
  intro b a w argument eq
  obtain ⟨w', rfl⟩ := append_eq_of_not_mem (x := b ++ callFront test ++ a ++ ['"']) (c := ')')
    (by simpa using eq) h
  exact clear b a w' argument (by simp)

theorem IsFirstCall.clear {test t before a rest : Text} (first : IsFirstCall test t before a rest) :
    Clear test before := by
  rintro b a' w argument rfl
  have call : IsCall test t b a' ('"' :: ')' :: w ++ callFront test ++ a ++ rest) :=
    ⟨by simp [first.1.text], argument, _, rfl⟩
  have le := first.2 _ _ _ call
  simp only [List.length_append, List.length_cons] at le
  omega

theorem clear_of_splitCall?_eq_none {test p q : Text} (none : splitCall? test (p ++ q) = none) :
    Clear test p := by
  rintro b a w argument rfl
  exact splitCall?_eq_none_iff.mp none b a ('"' :: ')' :: w ++ q) ⟨by simp, argument, _, rfl⟩

/-- What stands before an argument up to its mark. -/
theorem append_callFront_append (u test y : Text) :
    u ++ callFront test ++ y = (u ++ "file.".toList ++ test) ++ '(' :: '"' :: y := by
  simp [callFront_def]

/-- A call before the front of another one is complete before it. -/
theorem Argument.complete {test a r m y : Text} (word : test.all isWordChar = true)
    (argument : Argument a) (eq : a ++ '"' :: ')' :: r = m ++ callFront test ++ y)
    (apart : y.head? ≠ some ')' ∨ '(' ∉ a) : ∃ w, m = a ++ '"' :: ')' :: w := by
  rw [append_callFront_append] at eq
  obtain ⟨w, same⟩ := argument.closed_before eq apart
  have out : ')' ∉ "file.".toList ++ test := by
    simp [not_mem_of_word word (c := ')') (by decide)]
  obtain ⟨w', rfl⟩ := append_eq_of_not_mem (x := a ++ ['"']) (c := ')') (by simpa using same) out
  exact ⟨w', by simp⟩

/-- The call that nothing complete stands before is the first. -/
theorem IsCall.isFirstCall {test t before a rest : Text} (word : test.all isWordChar = true)
    (call : IsCall test t before a rest) (open? : (a ++ rest).head? ≠ some ')')
    (clear : Clear test before) : IsFirstCall test t before a rest := by
  refine ⟨call, fun b a' r' other => ?_⟩
  have eq : b ++ callFront test ++ (a' ++ r') = before ++ callFront test ++ (a ++ rest) := by
    simpa using other.text.symm.trans call.text
  rcases front_trichotomy word word eq with ⟨m, rfl, meet⟩ | ⟨rfl, -, -⟩ | ⟨m, rfl, -⟩
  · obtain ⟨r, rfl⟩ := other.closed
    obtain ⟨w, rfl⟩ := other.argument.complete word meet (.inl open?)
    exact absurd (by simp) (clear b a' w other.argument)
  · exact Nat.le_refl _
  · simp only [List.length_append]
    omega

/-- Where a call of one test stands around a call of another: complete before it, or after its
argument. -/
theorem IsCall.place {test test' t before arg rest b a r : Text} (word : test.all isWordChar = true)
    (word' : test'.all isWordChar = true) (ne : test ≠ test')
    (call' : IsCall test' t before arg rest) (call : IsCall test t b a r)
    (apart : (arg ++ rest).head? ≠ some ')' ∨ '(' ∉ a)
    (apart' : (a ++ r).head? ≠ some ')' ∨ '(' ∉ arg) :
    (∃ w, before = b ++ callFront test ++ a ++ '"' :: ')' :: w) ∨
      ∃ m, b = before ++ callFront test' ++ arg ++ m ∧ rest = m ++ callFront test ++ a ++ r := by
  have eq : b ++ callFront test ++ (a ++ r) = before ++ callFront test' ++ (arg ++ rest) := by
    simpa using call.text.symm.trans call'.text
  rcases front_trichotomy word word' eq with ⟨m, rfl, meet⟩ | ⟨-, same, -⟩ | ⟨m, rfl, meet⟩
  · obtain ⟨r', rfl⟩ := call.closed
    obtain ⟨w, rfl⟩ := call.argument.complete word' meet apart
    exact .inl ⟨w, by simp⟩
  · exact absurd same ne
  · obtain ⟨r', rfl⟩ := call'.closed
    obtain ⟨w, rfl⟩ := call'.argument.complete word meet apart'
    refine .inr ⟨'"' :: ')' :: w, by simp, ?_⟩
    simpa using meet

/-! ### Calls outside a part that is exchanged -/

/-- A call that is complete before the part `o` of the text `p ++ o ++ q`, or stands after it. -/
def Outside (test p o q b a r : Text) : Prop :=
  (∃ w, p = b ++ callFront test ++ a ++ '"' :: ')' :: w) ∨
    ∃ m, b = p ++ o ++ m ∧ q = m ++ callFront test ++ a ++ r

theorem isCall_before {test p b a w : Text} (argument : Argument a)
    (eq : p = b ++ callFront test ++ a ++ '"' :: ')' :: w) (z : Text) :
    IsCall test (p ++ z) b a ('"' :: ')' :: w ++ z) :=
  ⟨by simp [eq], argument, _, rfl⟩

theorem isCall_after {test q m a r : Text} (argument : Argument a)
    (closed : ∃ r', r = '"' :: ')' :: r') (eq : q = m ++ callFront test ++ a ++ r) (z : Text) :
    IsCall test (z ++ q) (z ++ m) a r :=
  ⟨by simp [eq], argument, closed⟩

/-- A text has no call if all its calls would be outside a part that is exchanged. -/
theorem splitCall?_eq_none_of_outside {test p o o' q : Text}
    (none : splitCall? test (p ++ o ++ q) = none)
    (out : ∀ b a r, IsCall test (p ++ o' ++ q) b a r → Outside test p o' q b a r) :
    splitCall? test (p ++ o' ++ q) = Option.none := by
  rw [splitCall?_eq_none_iff] at none ⊢
  intro b a r call
  rcases out b a r call with ⟨w, eq⟩ | ⟨m, -, eq⟩
  · have old := isCall_before call.argument eq (o ++ q)
    exact none _ _ _ (List.append_assoc p o q ▸ old)
  · exact none _ _ _ (isCall_after call.argument call.closed eq (p ++ o))

/-- The first call keeps its argument if it and all calls after the exchange are outside the part
that is exchanged. -/
theorem IsFirstCall.exchange {test p o o' q b a r : Text}
    (first : IsFirstCall test (p ++ o ++ q) b a r) (outside : Outside test p o q b a r)
    (out : ∀ b a r, IsCall test (p ++ o' ++ q) b a r → Outside test p o' q b a r) :
    ∃ b' r', IsFirstCall test (p ++ o' ++ q) b' a r' := by
  have old : ∀ {b' a' w}, Argument a' → p = b' ++ callFront test ++ a' ++ '"' :: ')' :: w →
      b.length ≤ b'.length := by
    intro b' a' w argument eq
    have call := isCall_before argument eq (o ++ q)
    exact first.2 _ _ _ (List.append_assoc p o q ▸ call)
  -- The first call ends in front of the exchanged part, or starts behind it.
  rcases outside with ⟨w, eq⟩ | ⟨m, rfl, eq⟩
  · have call := isCall_before first.1.argument eq (o' ++ q)
    rw [← List.append_assoc] at call
    refine ⟨b, _, call, fun b' a' r' other => ?_⟩
    rcases out b' a' r' other with ⟨w', eq'⟩ | ⟨m', rfl, -⟩
    · exact old other.argument eq'
    · simp only [eq, List.length_append]
      omega
  · refine ⟨p ++ o' ++ m, r, isCall_after first.1.argument first.1.closed eq _,
      fun b' a' r' other => ?_⟩
    rcases out b' a' r' other with ⟨w', eq'⟩ | ⟨m', rfl, eq'⟩
    · have le := old other.argument eq'
      have short := congrArg List.length eq'
      simp only [List.length_append, List.length_cons] at le short
      omega
    · have le := first.2 _ _ _ (isCall_after other.argument other.closed eq' (p ++ o))
      simp only [List.length_append] at le ⊢
      omega

/-- What starts with a character that a part does not have starts after that part. -/
theorem append_eq_of_not_mem_front {v q m z : Text} {c : Char} (eq : v ++ q = m ++ c :: z)
    (out : c ∉ v) : ∃ m', m = v ++ m' ∧ q = m' ++ c :: z := by
  rcases List.append_eq_append_iff.mp eq with ⟨d, rfl, meet⟩ | ⟨d, rfl, meet⟩
  · exact ⟨d, rfl, meet⟩
  · cases d with
    | nil => exact ⟨[], by simp, by simpa using meet.symm⟩
    | cons e d =>
        obtain ⟨rfl, -⟩ := List.cons.inj meet
        exact absurd (List.mem_append_right _ List.mem_cons_self) out

/-- A stretch without a mark stands before the mark or after it. -/
theorem append_eq_of_mark {b x r p q : Text} {c : Char} (out : c ∉ x)
    (eq : b ++ x ++ r = p ++ c :: q) :
    (∃ w, p = b ++ x ++ w) ∨ ∃ m, b = p ++ c :: m ∧ q = m ++ x ++ r := by
  rcases List.append_eq_append_iff.mp eq with ⟨d, rfl, -⟩ | ⟨d, same, meet⟩
  · exact .inl ⟨d, rfl⟩
  · cases d with
    | nil => exact .inl ⟨[], by simpa using same.symm⟩
    | cons e d =>
        obtain ⟨rfl, rfl⟩ := List.cons.inj meet
        rcases List.append_eq_append_iff.mp same with ⟨m, rfl, inside⟩ | ⟨m, rfl, inside⟩
        · exact absurd (inside ▸ List.mem_append_right _ List.mem_cons_self) out
        · cases m with
          | nil =>
              rw [List.nil_append] at inside
              exact absurd (inside ▸ List.mem_cons_self) out
          | cons e m =>
              obtain ⟨rfl, rfl⟩ := List.cons.inj inside
              exact .inr ⟨m, by simp, by simp⟩

end Notebase.Document
