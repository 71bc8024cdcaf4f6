import Notebase.Text.Lines

/-!
Line breaks of every kind. A text is its pieces, each with the break that ends it, and so a line can
be deleted with its break. What says nothing of an empty piece then sees exactly the lines that stay
(`filterMap_brokenLines_dropLines`).
-/

namespace Notebase.Text

/-! ### Pieces one by one -/

/-- The first character of a text decides where its first piece ends, unless it is a carriage return
with a line feed after it. -/
theorem brokenLines_cons {c : Char} {t : Text} (apart : c = '\r' → t.head? ≠ some '\n') :
    brokenLines (c :: t) =
      if isLineBreak c then [] :: brokenLines t
      else
        match brokenLines t with
        | [] => [[c]]
        | piece :: rest => (c :: piece) :: rest := by
  refine brokenLines.eq_3 c t ?_
  rintro t' rfl rfl
  exact apart rfl rfl

/-- A character that breaks no line may stand before any text. -/
theorem apart_of_unbroken {c : Char} {t : Text} (unbroken : isLineBreak c = false) :
    c = '\r' → t.head? ≠ some '\n' := by
  rintro rfl
  exact absurd unbroken (by decide)

theorem brokenLines_break {c : Char} {t : Text} (brk : isLineBreak c = true)
    (apart : c = '\r' → t.head? ≠ some '\n') : brokenLines (c :: t) = [] :: brokenLines t := by
  rw [brokenLines_cons apart, if_pos brk]

theorem brokenLines_other {c : Char} {t piece : Text} {rest : List Text}
    (brk : isLineBreak c = false) (h : brokenLines t = piece :: rest) :
    brokenLines (c :: t) = (c :: piece) :: rest := by
  rw [brokenLines_cons (apart_of_unbroken brk), if_neg (by simp [brk]), h]

/-- A text with a character in it has a line. -/
theorem brokenLines_ne_nil {t : Text} (ne : t ≠ []) : brokenLines t ≠ [] := by
  cases t with
  | nil => exact absurd rfl ne
  | cons c t =>
      by_cases pair : c = '\r' ∧ t.head? = some '\n'
      · obtain ⟨rfl, first⟩ := pair
        obtain ⟨t', rfl⟩ := List.head?_eq_some_iff.mp first
        exact List.cons_ne_nil [] (brokenLines t')
      · rw [brokenLines_cons fun isReturn first => pair ⟨isReturn, first⟩]
        split
        · simp
        · split <;> simp

/-- A text without line breaks stays in front of the first piece. -/
theorem brokenLines_append {line t piece : Text} {rest : List Text}
    (unbroken : ∀ c ∈ line, isLineBreak c = false) (h : brokenLines t = piece :: rest) :
    brokenLines (line ++ t) = (line ++ piece) :: rest := by
  induction line with
  | nil => exact h
  | cons c line ih =>
      exact brokenLines_other (unbroken c List.mem_cons_self)
        (ih fun d hd => unbroken d (List.mem_cons_of_mem c hd))

/-- A text without line breaks is one piece. -/
theorem brokenLines_eq_singleton {t : Text} (ne : t ≠ [])
    (unbroken : ∀ c ∈ t, isLineBreak c = false) : brokenLines t = [t] := by
  induction t with
  | nil => exact absurd rfl ne
  | cons c t ih =>
      have first := unbroken c List.mem_cons_self
      by_cases last : t = []
      · subst last
        rw [brokenLines_cons (apart_of_unbroken first), if_neg (by simp [first])]
        rfl
      · exact brokenLines_other first (ih last fun d hd => unbroken d (List.mem_cons_of_mem _ hd))

/-! ### Pieces with their breaks -/

/-- A line break, and a carriage return with the line feed after it. -/
def IsBreak (ending : Text) : Prop :=
  ending = ['\r', '\n'] ∨ ∃ c, isLineBreak c = true ∧ ending = [c]

/-- What follows a break is cut as it is alone. Only where the break is a carriage return and a line
feed follows, the two become one, and an empty piece between them is lost. -/
theorem exists_brokenLines_break {ending : Text} (ends : IsBreak ending) (t : Text) :
    ∃ rest, brokenLines (ending ++ t) = [] :: rest ∧
      (brokenLines t = rest ∨ brokenLines t = [] :: rest) := by
  rcases ends with rfl | ⟨c, brk, rfl⟩
  · exact ⟨_, rfl, .inl rfl⟩
  · by_cases pair : c = '\r' ∧ t.head? = some '\n'
    · obtain ⟨rfl, first⟩ := pair
      obtain ⟨t', rfl⟩ := List.head?_eq_some_iff.mp first
      refine ⟨brokenLines t', rfl, .inr ?_⟩
      exact brokenLines_break (by decide) fun other => absurd other (by decide)
    · refine ⟨brokenLines t, ?_, .inl rfl⟩
      exact brokenLines_break brk fun isReturn first => pair ⟨isReturn, first⟩

/-- The pieces of a text, each with the break that ends it; the last one may have none. -/
def endedLines : Text → List (Text × Text)
  | [] => []
  | '\r' :: '\n' :: t => ([], ['\r', '\n']) :: endedLines t
  | c :: t =>
      if isLineBreak c then ([], [c]) :: endedLines t
      else
        match endedLines t with
        | [] => [([c], [])]
        | (line, ending) :: rest => (c :: line, ending) :: rest

def ofEndedLines (ls : List (Text × Text)) : Text := ls.flatMap fun l => l.1 ++ l.2

@[simp] theorem ofEndedLines_cons (line ending : Text) (ls : List (Text × Text)) :
    ofEndedLines ((line, ending) :: ls) = line ++ (ending ++ ofEndedLines ls) := by
  rw [ofEndedLines, List.flatMap_cons, List.append_assoc]
  rfl

/-- Nothing of a text is lost in its pieces and their breaks. -/
@[simp] theorem ofEndedLines_endedLines (t : Text) : ofEndedLines (endedLines t) = t := by
  fun_induction endedLines t with
  | case1 => rfl
  | case2 t ih => simp [ih]
  | case3 c t apart brk ih => simp [ih]
  | case4 c t apart other last ih => simpa [last, ofEndedLines] using ih
  | case5 c t apart other line ending rest more ih => simpa [more] using ih

/-- The pieces are those that the text has without the breaks. -/
theorem map_fst_endedLines (t : Text) : (endedLines t).map Prod.fst = brokenLines t := by
  fun_induction endedLines t with
  | case1 => rfl
  | case2 t ih => rw [brokenLines, List.map_cons, ih]
  | case3 c t apart brk ih =>
      rw [brokenLines, if_pos brk, List.map_cons, ih]
      exact apart
  | case4 c t apart other last ih =>
      rw [brokenLines, if_neg other, ← ih, last]
      · rfl
      · exact apart
  | case5 c t apart other line ending rest more ih =>
      rw [brokenLines, if_neg other, ← ih, more]
      · rfl
      · exact apart

/-- Pieces without line breaks, each ended by one. Only the last one may have none, if it is not
empty. -/
inductive Ended : List (Text × Text) → Prop where
  | nil : Ended []
  | last {line : Text} : line ≠ [] → (∀ c ∈ line, isLineBreak c = false) → Ended [(line, [])]
  | cons {line ending : Text} {rest : List (Text × Text)} :
      (∀ c ∈ line, isLineBreak c = false) → IsBreak ending → Ended rest →
      Ended ((line, ending) :: rest)

/-- Every line but the last one has an end. -/
theorem ended_endedLines (t : Text) : Ended (endedLines t) := by
  fun_induction endedLines t with
  | case1 => exact .nil
  | case2 t ih => exact .cons (by simp) (.inl rfl) ih
  | case3 c t apart brk ih => exact .cons (by simp) (.inr ⟨c, brk, rfl⟩) ih
  | case4 c t apart other last ih => exact .last (by simp) (by simpa using other)
  | case5 c t apart other line ending rest more ih =>
      have first : isLineBreak c = false := by simpa using other
      rw [more] at ih
      cases ih with
      | last ne unbroken => exact .last (by simp) (List.forall_mem_cons.mpr ⟨first, unbroken⟩)
      | cons unbroken ends rest => exact .cons (List.forall_mem_cons.mpr ⟨first, unbroken⟩) ends rest

/-- Some of the pieces are such pieces again. -/
theorem Ended.filter {ls : List (Text × Text)} (ended : Ended ls) (p : Text × Text → Bool) :
    Ended (ls.filter p) := by
  induction ended with
  | nil => exact .nil
  | last ne unbroken =>
      rw [List.filter_cons]
      split
      · exact .last ne unbroken
      · exact .nil
  | cons unbroken ends _ ih =>
      rw [List.filter_cons]
      split
      · exact .cons unbroken ends ih
      · exact ih

/-- What says nothing of an empty piece finds in the text what it finds in the pieces. -/
theorem Ended.filterMap_brokenLines {β : Type} {f : Text → Option β} (empty : f [] = none)
    {ls : List (Text × Text)} (ended : Ended ls) :
    (brokenLines (ofEndedLines ls)).filterMap f = (ls.map Prod.fst).filterMap f := by
  induction ended with
  | nil => rfl
  | @last line ne unbroken =>
      rw [ofEndedLines_cons, List.nil_append, ofEndedLines, List.flatMap_nil, List.append_nil,
        brokenLines_eq_singleton ne unbroken]
      rfl
  | @cons line ending ls unbroken ends _ ih =>
      obtain ⟨rest, eq, either⟩ := exists_brokenLines_break ends (ofEndedLines ls)
      have again : rest.filterMap f = (brokenLines (ofEndedLines ls)).filterMap f := by
        rcases either with brokenLines_eq | joined
        · rw [brokenLines_eq]
        · rw [joined, List.filterMap_cons_none empty]
      rw [ofEndedLines_cons, brokenLines_append unbroken eq, List.append_nil, List.map_cons,
        List.filterMap_cons, List.filterMap_cons, again, ih]

/-! ### Deleted lines -/

def dropLines (p : Text → Bool) (t : Text) : Text :=
  ofEndedLines ((endedLines t).filter fun l => !p l.1)

/-- What says nothing of an empty piece sees the pieces that stay. -/
theorem filterMap_brokenLines_dropLines {β : Type} {f : Text → Option β} (empty : f [] = none)
    (p : Text → Bool) (t : Text) :
    (brokenLines (dropLines p t)).filterMap f =
      ((brokenLines t).filter fun line => !p line).filterMap f := by
  rw [dropLines, ((ended_endedLines t).filter _).filterMap_brokenLines empty, ← map_fst_endedLines,
    List.filter_map]
  rfl

end Notebase.Text
