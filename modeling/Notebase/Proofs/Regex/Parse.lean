import Notebase.Proofs.Regex.Advance

/-!
How regular expressions are read from a text, token by token. A character without a meaning of its
own stands for itself (`sequence_literal`).
-/

namespace Notebase.Regex

variable {α β : Type}

/-! ### Steps -/

/-- A reading that has come to a position, with some text left and these groups so far. -/
def reached (n : Nat) (t : Text) (widths : List (Option (Nat × Nat))) : Progress :=
  { position := n, rest := t, widths }

theorem bind_run {m : Parse α} {f : α → Parse β} {p p' : Progress} {a : α}
    (first : m p = .ok (a, p')) : (m >>= f) p = f a p' := by
  show (StateT.bind m f) p = f a p'
  rw [StateT.bind, first]
  rfl

theorem get_run (p : Progress) : (get : Parse Progress) p = .ok (p, p) := rfl

theorem set_run (p q : Progress) : (set q : Parse PUnit) p = .ok (⟨⟩, q) := rfl

section Tokens

variable {n : Nat} {c : Char} {t : Text} {widths : List (Option (Nat × Nat))}

/-- A character that is no backslash is a token by itself. -/
theorem token?_char (differs : c ≠ '\\') : token? (c :: t) = some [c] := by
  unfold token?
  split
  · next eq => cases eq
  · next eq =>
      cases eq
      exact absurd rfl differs
  · next eq =>
      cases eq
      rfl

theorem peek_run : peek (reached n t widths) = .ok (token? t, reached n t widths) := rfl

theorem position_run : position (reached n t widths) = .ok (n, reached n t widths) := rfl

theorem checkEnd_run (ends : t ≠ ['\\']) :
    checkEnd (reached n t widths) = .ok (⟨⟩, reached n t widths) := by
  rw [checkEnd, bind_run (get_run _), if_neg (show (reached n t widths).rest ≠ ['\\'] from ends)]
  rfl

theorem next_run {token rest : Text} (found : token? t = some token)
    (rest_eq : t.drop token.length = rest) (ends : rest ≠ ['\\']) :
    next (reached n t widths) = .ok (some token, reached (n + token.length) rest widths) := by
  subst rest_eq
  rw [next, bind_run (get_run _), show token? (reached n t widths).rest = some token from found]
  dsimp only
  rw [bind_run (set_run _ _)]
  exact bind_run (checkEnd_run ends)

theorem next_char (differs : c ≠ '\\') (ends : t ≠ ['\\']) :
    next (reached n (c :: t) widths) = .ok (some [c], reached (n + 1) t widths) :=
  next_run (token?_char differs) rfl ends

theorem next_escape (ends : t ≠ ['\\']) :
    next (reached n ('\\' :: c :: t) widths) = .ok (some ['\\', c], reached (n + 2) t widths) :=
  next_run rfl rfl ends

theorem accept_true (differs : c ≠ '\\') (ends : t ≠ ['\\']) :
    accept c (reached n (c :: t) widths) = .ok (true, reached (n + 1) t widths) := by
  rw [accept, bind_run peek_run, token?_char differs, if_pos rfl, bind_run (next_char differs ends)]
  rfl

theorem accept_false (other : token? t ≠ some [c]) :
    accept c (reached n t widths) = .ok (false, reached n t widths) := by
  rw [accept, bind_run peek_run, if_neg other]
  rfl

end Tokens

/-! ### Items -/

section Items

variable {fuel n : Nat} {c : Char} {t : Text} {widths : List (Option (Nat × Nat))}
  {items : List Item}

/-- One step of a sequence: what comes next is read, and then the rest of the sequence. -/
theorem sequence_succ (f : Flags) :
    sequence (fuel + 1) f items = sequenceStep f items (alternatives fuel) (sequence fuel) := rfl

def special : List Char := ['\\', '|', ')', '[', '?', '*', '+', '\x7b', '.', '(', '^', '$']

/-- A character that is not special is read as itself. -/
theorem sequence_literal (plain : c ∉ special) (ends : t ≠ ['\\']) :
    sequence (fuel + 1) {} items (reached n (c :: t) widths) =
      sequence fuel {} (.of (literal {} c.toNat) :: items) (reached (n + 1) t widths) := by
  simp only [special, List.mem_cons, List.not_mem_nil, or_false, not_or] at plain
  obtain ⟨escape, bar, closing, bracket, optional, star, plus, brace, dot, opening, caret,
    dollar⟩ := plain
  rw [sequence_succ, sequenceStep]
  dsimp only
  rw [bind_run peek_run, token?_char escape]
  dsimp only
  rw [if_neg (by simp [bar, closing]), bind_run (next_char escape ends), bind_run position_run]
  rw [if_neg bracket, if_neg optional, if_neg star, if_neg plus, if_neg brace, if_neg dot,
    if_neg opening, if_neg caret, if_neg dollar]
  rfl

/-- A dot is read as any character but a line end. -/
theorem sequence_any (ends : t ≠ ['\\']) :
    sequence (fuel + 1) {} items (reached n ('.' :: t) widths) =
      sequence fuel {} (.of (.char fun c => ({} : Flags).dotAll || c != '\n') :: items)
        (reached (n + 1) t widths) := by
  rw [sequence_succ, sequenceStep]
  dsimp only
  rw [bind_run peek_run, token?_char (by decide)]
  dsimp only
  rw [if_neg (by decide), bind_run (next_char (by decide) ends), bind_run position_run]
  rfl

/-- An escape is read as its item. -/
theorem sequence_escape (item : Item) (ends : t ≠ ['\\'])
    (parsed : ∀ p, escapeItem {} c p = .ok (item, p)) :
    sequence (fuel + 1) {} items (reached n ('\\' :: c :: t) widths) =
      sequence fuel {} (item :: items) (reached (n + 2) t widths) := by
  rw [sequence_succ, sequenceStep]
  dsimp only
  rw [bind_run peek_run, show token? ('\\' :: c :: t) = some ['\\', c] from rfl]
  dsimp only
  rw [if_neg (by simp), bind_run (next_escape ends), bind_run position_run]
  exact bind_run (parsed _)

/-- A sequence ends in front of a bar, a parenthesis or the end. -/
theorem sequence_stop (stop : token? t ∈ [none, some ['|'], some [')']]) :
    sequence (fuel + 1) {} items (reached n t widths) =
      .ok (ofList (items.reverse.map Item.regex), reached n t widths) := by
  rw [sequence_succ, sequenceStep]
  dsimp only
  rw [bind_run peek_run]
  simp only [List.mem_cons, List.not_mem_nil, or_false] at stop
  rcases stop with eq | eq | eq <;> rw [eq]
  · rfl
  · rfl
  · rfl

/-- A star after an item that may be repeated, where nothing tells how the repetition goes on. -/
theorem sequence_star {a : Regex} (after : token? t = some [c]) (lazy : c ≠ '?')
    (possessive : c ≠ '+') (ends : t ≠ ['\\']) :
    sequence (fuel + 1) {} (.of a :: items) (reached n ('*' :: t) widths) =
      sequence fuel {} (⟨.repetition, .repeated .greedy 0 none a⟩ :: items)
        (reached (n + 1) t widths) := by
  have greedy : greed (reached (n + 1) t widths) = .ok (.greedy, reached (n + 1) t widths) := by
    rw [greed, bind_run peek_run, after]
    simp only [Option.some.injEq, List.cons.injEq, and_true, lazy, possessive, imp_self]
    rfl
  rw [sequence_succ, sequenceStep]
  dsimp only
  rw [bind_run peek_run, token?_char (by decide)]
  dsimp only
  rw [if_neg (by decide), bind_run (next_char (by decide) ends), bind_run position_run]
  refine bind_run (m := repetition 0 none n (.of a :: items)) ?_
  rw [repetition]
  exact bind_run greedy

/-- A parenthesis opens a group, and what is inside is read as such. -/
theorem sequence_group {o : Opening} {p p' : Progress} (item : Option Item) (ends : t ≠ ['\\'])
    (opens : opening {} n (reached (n + 1) t widths) = .ok (o, p))
    (parsed : groupItem {} n (alternatives fuel) (sequence fuel · []) o p = .ok (item, p')) :
    sequence (fuel + 1) {} items (reached n ('(' :: t) widths) =
      sequence fuel {} (item.toList ++ items) p' := by
  rw [sequence_succ, sequenceStep]
  dsimp only
  rw [bind_run peek_run, token?_char (by decide)]
  dsimp only
  rw [if_neg (by decide), bind_run (next_char (by decide) ends), bind_run position_run]
  exact (bind_run opens).trans (bind_run parsed)

/-- A class of characters is read as one item. -/
theorem sequence_class {a : Regex} {p : Progress} (ends : t ≠ ['\\'])
    (parsed : characterClass {} (reached (n + 1) t widths) = .ok (a, p)) :
    sequence (fuel + 1) {} items (reached n ('[' :: t) widths) =
      sequence fuel {} (.of a :: items) p := by
  rw [sequence_succ, sequenceStep]
  dsimp only
  rw [bind_run peek_run, token?_char (by decide)]
  dsimp only
  rw [if_neg (by decide), bind_run (next_char (by decide) ends), bind_run position_run]
  exact bind_run parsed

/-! ### Alternatives and groups -/

variable {m : Nat} {t' : Text} {widths' : List (Option (Nat × Nat))} {f : Flags} {a b : Regex}
  {p p' : Progress}

theorem alternatives_one (parsed : sequence fuel f [] p = .ok (a, reached n t widths))
    (other : token? t ≠ some ['|']) :
    alternatives (fuel + 1) f p = .ok (a, reached n t widths) := by
  rw [alternatives, bind_run parsed, bind_run (accept_false other)]
  rfl

theorem alternatives_two (parsed : sequence fuel f [] p = .ok (a, reached n ('|' :: t) widths))
    (ends : t ≠ ['\\']) (second : alternatives fuel f (reached (n + 1) t widths) = .ok (b, p')) :
    alternatives (fuel + 1) f p = .ok (.alt a b, p') := by
  rw [alternatives, bind_run parsed, bind_run (accept_true (by decide) ends)]
  exact bind_run second

theorem close_run {start : Nat} (ends : t ≠ ['\\']) :
    close start (reached n (')' :: t) widths) = .ok (⟨⟩, reached (n + 1) t widths) := by
  rw [close, bind_run (accept_true (by decide) ends)]
  rfl

theorem opening_plain {start : Nat} (ends : t ≠ ['\\']) :
    opening f start (reached n ('?' :: ':' :: t) widths) =
      .ok (.plain f, reached (n + 2) t widths) := by
  rw [opening, bind_run (accept_true (by decide) (by simp)), if_pos rfl, specialOpening,
    bind_run (next_char (by decide) ends)]
  rfl

theorem opening_capture {start : Nat} (other : token? t ≠ some ['?']) :
    opening f start (reached n t widths) = .ok (.capture none, reached n t widths) := by
  rw [opening, bind_run (accept_false other)]
  rfl

/-- A group that is not remembered. -/
theorem sequence_plain (ends : t ≠ ['\\']) (ends' : t' ≠ ['\\'])
    (parsed : alternatives fuel {} (reached (n + 3) t widths) =
      .ok (a, reached m (')' :: t') widths')) :
    sequence (fuel + 1) {} items (reached n ('(' :: '?' :: ':' :: t) widths) =
      sequence fuel {} (.of a :: items) (reached (m + 1) t' widths') := by
  refine sequence_group (some (.of a)) (by simp) (opening_plain ends) ?_
  rw [groupItem, bind_run parsed, bind_run (close_run ends')]
  rfl

/-- A group that is remembered takes the next number, and its width is kept. -/
theorem sequence_capture (ends : t ≠ ['\\']) (ends' : t' ≠ ['\\']) (other : token? t ≠ some ['?'])
    (parsed : alternatives fuel {} (reached (n + 1) t (widths ++ [none])) =
      .ok (a, reached m (')' :: t') widths')) :
    sequence (fuel + 1) {} items (reached n ('(' :: t) widths) =
      sequence fuel {} (.of (.group (widths.length + 1) a) :: items)
        (reached (m + 1) t' (widths'.set widths.length (some a.width))) := by
  refine sequence_group (some (.of (.group (widths.length + 1) a))) ends (opening_capture other) ?_
  have opened : openGroup none (reached (n + 1) t widths) =
      .ok (widths.length + 1, reached (n + 1) t (widths ++ [none])) := rfl
  rw [groupItem, bind_run opened, bind_run parsed, bind_run (close_run ends')]
  rfl

end Items

/-! ### Classes -/

section Classes

variable {start fuel n : Nat} {c : Char} {t : Text} {widths : List (Option (Nat × Nat))}
  {items : List ClassItem}

/-- A character of a class is read as itself, unless a range starts with it. -/
theorem classItems_char (notMem : c ∉ ['\\', ']']) (ends : t ≠ ['\\'])
    (other : token? t ≠ some ['-']) :
    classItems start (fuel + 1) items (reached n (c :: t) widths) =
      classItems start fuel (.code c.toNat :: items) (reached (n + 1) t widths) := by
  simp only [List.mem_cons, List.not_mem_nil, or_false, not_or] at notMem
  have item : classItem [c] (reached (n + 1) t widths) =
      .ok (.code c.toNat, reached (n + 1) t widths) := by
    rw [classItem]
    · rfl
    · simp
  rw [classItems, bind_run (next_char notMem.1 ends)]
  dsimp only
  rw [if_neg (by simp [notMem.2]), bind_run item, bind_run (accept_false other)]
  rfl

theorem classItems_escape (item : ClassItem) (ends : t ≠ ['\\']) (other : token? t ≠ some ['-'])
    (parsed : ∀ p, classEscape c p = .ok (item, p)) :
    classItems start (fuel + 1) items (reached n ('\\' :: c :: t) widths) =
      classItems start fuel (item :: items) (reached (n + 2) t widths) := by
  rw [classItems, bind_run (next_escape ends)]
  dsimp only
  rw [if_neg (by simp), bind_run (m := classItem ['\\', c]) (parsed _), bind_run
    (accept_false other)]
  rfl

theorem classItems_close (written : items ≠ []) (ends : t ≠ ['\\']) :
    classItems start (fuel + 1) items (reached n (']' :: t) widths) =
      .ok (items.reverse, reached (n + 1) t widths) := by
  rw [classItems, bind_run (next_char (by decide) ends)]
  dsimp only
  rw [if_pos (by simp [written])]
  rfl

/-- A class opens with a sign that negates it. -/
theorem characterClass_negated {items : List ClassItem} {p : Progress} (ends : t ≠ ['\\'])
    (read : classItems (n - 1) (t.length + 1) [] (reached (n + 1) t widths) = .ok (items, p)) :
    characterClass {} (reached n ('^' :: t) widths) = .ok (.char (classHas {} true items), p) := by
  rw [characterClass, bind_run position_run, bind_run (accept_true (by decide) ends),
    bind_run (get_run _)]
  exact bind_run read

end Classes

/-! ### Whole expressions -/

theorem behinds_ofList (as : List Regex) : (ofList as).behinds = as.flatMap behinds := by
  induction as with
  | nil => rfl
  | cons a as ih =>
      cases as with
      | nil => exact (List.append_nil _).symm
      | cons b as => rw [ofList, behinds, ih, ← List.flatMap_cons]

/-- An expression is read when its alternatives are, up to its end. -/
theorem parse_eq {t : Text} {a : Regex} {n : Nat} {widths : List (Option (Nat × Nat))}
    (ends : t ≠ ['\\']) (flat : a.behinds = [])
    (parsed : alternatives (2 * t.length + 2) {} (reached 0 t []) = .ok (a, reached n [] widths)) :
    parse t = .ok a := by
  have whole_run : whole (reached 0 t []) = .ok (a, reached n [] widths) := by
    rw [whole, bind_run (checkEnd_run ends), bind_run (get_run _)]
    exact bind_run parsed
  rw [parse, show StateT.run' whole { rest := t } = .ok a from congrArg (_ <$> ·) whole_run]
  dsimp only
  rw [flat]
  rfl

end Notebase.Regex
