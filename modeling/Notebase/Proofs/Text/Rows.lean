import Mathlib.Data.List.DropRight
import Mathlib.Data.List.TakeWhile
import Notebase.Document.Render
import Notebase.Text.Lines

/-!
A text as its rows, which are its lines without their ends. A text is its rows together with
the answer to one question, whether its last line has an end (`ofRows_rows`), so an edit can be
described by what it does to the rows and two texts can be compared row by row.
-/

namespace Notebase.Text

open Notebase.Document (unlines joinLines)

/-! ### Lines of a text -/

@[simp] theorem lines_nil : lines [] = [] := rfl

theorem lines_newline (t : Text) : lines ('\n' :: t) = ['\n'] :: lines t := by
  rw [lines, if_pos rfl]

theorem lines_eq_nil {t : Text} : lines t = [] ↔ t = [] := by
  constructor
  · intro h
    have whole := flatten_lines t
    rw [h] at whole
    exact whole.symm
  · rintro rfl
    rfl

/-- A text that stops at a line boundary: nothing, or lines that all have their ends. -/
def Complete (t : Text) : Prop := t = [] ∨ terminated t = true

theorem complete_nil : Complete [] := .inl rfl

@[simp] theorem terminated_append_newline (t : Text) : terminated (t ++ ['\n']) = true := by
  simp [terminated]

theorem terminated_append {t : Text} (front : Text) (ne : t ≠ []) :
    terminated (front ++ t) = terminated t := by
  unfold terminated
  rw [List.getLast?_append, List.getLast?_eq_some_getLast ne]
  rfl

theorem terminated_append_of (front : Text) {t : Text} (ends : terminated t = true) :
    terminated (front ++ t) = true := by
  have ne : t ≠ [] := by
    rintro rfl
    cases ends
  exact (terminated_append front ne).trans ends

theorem Complete.append {a b : Text} (ha : Complete a) (hb : Complete b) : Complete (a ++ b) := by
  rcases hb with rfl | ends
  · rwa [List.append_nil]
  · exact .inr (terminated_append_of a ends)

/-- What follows a line boundary starts new lines. -/
theorem lines_append {a : Text} (b : Text) (complete : Complete a) :
    lines (a ++ b) = lines a ++ lines b := by
  induction a with
  | nil => rfl
  | cons c a ih =>
      by_cases ha : a = []
      · subst ha
        have hc : c = '\n' := by
          rcases complete with h | h
          · cases h
          · simpa [terminated] using h
        subst hc
        simp [lines_newline]
      · have rest : Complete a := by
          rcases complete with h | h
          · cases h
          · exact .inr ((terminated_append [c] ha).symm.trans h)
        have some := mt lines_eq_nil.mp ha
        rw [List.cons_append, lines, lines, ih rest]
        split
        · rfl
        · cases h : lines a with
          | nil => exact absurd h some
          | cons line ls => rfl

/-- A row is one line. -/
theorem lines_row {r : Text} (plain : '\n' ∉ r) (ne : r ≠ []) : lines r = [r] := by
  induction r with
  | nil => exact absurd rfl ne
  | cons c r ih =>
      rw [List.mem_cons, not_or] at plain
      rw [lines, if_neg (Ne.symm plain.1)]
      by_cases hr : r = []
      · subst hr
        rfl
      · rw [ih plain.2 hr]

theorem lines_row_newline {r : Text} (plain : '\n' ∉ r) : lines (r ++ ['\n']) = [r ++ ['\n']] := by
  induction r with
  | nil => rfl
  | cons c r ih =>
      rw [List.mem_cons, not_or] at plain
      rw [List.cons_append, lines, if_neg (Ne.symm plain.1), ih plain.2]

theorem lines_row_append {r : Text} (t : Text) (plain : '\n' ∉ r) :
    lines (r ++ '\n' :: t) = (r ++ ['\n']) :: lines t := by
  have complete : Complete (r ++ ['\n']) := .inr (terminated_append_newline r)
  have split := lines_append t complete
  rwa [List.append_assoc, lines_row_newline plain] at split

/-- The first line of a text and the text after it. -/
theorem lines_eq_cons {t line : Text} {rest : List Text} (h : lines t = line :: rest) :
    lines rest.flatten = rest ∧ (∃ r, '\n' ∉ r ∧ (line = r ++ ['\n'] ∨
      line = r ∧ r ≠ [] ∧ rest = [])) := by
  induction t generalizing line rest with
  | nil => cases h
  | cons c t ih =>
      rw [lines] at h
      split at h
      · next hc =>
          subst hc
          cases h
          exact ⟨by rw [flatten_lines], [], by simp, .inl rfl⟩
      · next hc =>
          cases ht : lines t with
          | nil =>
              rw [ht] at h
              cases h
              exact ⟨rfl, [c], by simpa [eq_comm] using hc, .inr ⟨rfl, by simp, rfl⟩⟩
          | cons line' rest' =>
              rw [ht] at h
              cases h
              obtain ⟨again, r, plain, shape⟩ := ih ht
              refine ⟨again, c :: r, by simp [plain, Ne.symm hc], ?_⟩
              rcases shape with rfl | ⟨rfl, -, last⟩
              · exact .inl rfl
              · exact .inr ⟨rfl, by simp, last⟩

/-- Every way to cut the lines of a text in two cuts the text at a line boundary. -/
theorem lines_eq_append {t : Text} {a b : List Text} (h : lines t = a ++ b) :
    lines a.flatten = a ∧ lines b.flatten = b ∧ (b ≠ [] → Complete a.flatten) := by
  induction a generalizing t with
  | nil =>
      refine ⟨rfl, ?_, fun _ => complete_nil⟩
      have whole := flatten_lines t
      rw [h, List.nil_append] at whole
      rw [whole, h, List.nil_append]
  | cons line a ih =>
      obtain ⟨again, r, plain, shape⟩ := lines_eq_cons h
      obtain ⟨ha, hb, hc⟩ := ih again
      rcases shape with rfl | ⟨rfl, ne, last⟩
      · have first : lines ((r ++ ['\n']) ++ a.flatten) = (r ++ ['\n']) :: a := by
          rw [lines_append _ (.inr (terminated_append_newline r)), lines_row_newline plain, ha]
          rfl
        refine ⟨first, hb, fun hne => ?_⟩
        rw [List.flatten_cons]
        exact .append (.inr (terminated_append_newline r)) (hc hne)
      · obtain ⟨rfl, rfl⟩ := List.append_eq_nil_iff.mp last
        refine ⟨?_, rfl, fun hne => absurd rfl hne⟩
        simpa using lines_row plain ne

/-! ### Rows -/

def rows (t : Text) : List Text := (lines t).map content

/-- The text with these rows, whose last line has an end if `closed`. -/
def ofRows (closed : Bool) (rs : List Text) : Text := if closed then unlines rs else joinLines rs

theorem content_row {r : Text} (plain : '\n' ∉ r) : content r = r := by
  unfold content
  rw [List.takeWhile_eq_self_iff]
  intro c hc
  simpa using fun h : c = '\n' => plain (h ▸ hc)

theorem content_row_append {r : Text} (t : Text) (plain : '\n' ∉ r) :
    content (r ++ '\n' :: t) = r := by
  unfold content
  rw [List.takeWhile_append_of_pos fun c hc => by simpa using fun h : c = '\n' => plain (h ▸ hc)]
  simp

theorem not_mem_content (line : Text) : '\n' ∉ content line := by
  intro h
  simpa using List.mem_takeWhile_imp h

theorem not_mem_of_mem_rows {t r : Text} (h : r ∈ rows t) : '\n' ∉ r := by
  obtain ⟨line, -, rfl⟩ := List.mem_map.mp h
  exact not_mem_content line

theorem rows_append {a : Text} (b : Text) (complete : Complete a) :
    rows (a ++ b) = rows a ++ rows b := by
  rw [rows, lines_append b complete, List.map_append]
  rfl

theorem rows_row_append {r : Text} (t : Text) (plain : '\n' ∉ r) :
    rows (r ++ '\n' :: t) = r :: rows t := by
  rw [rows, lines_row_append t plain, List.map_cons, content_row_append [] plain]
  rfl

theorem rows_row {r : Text} (plain : '\n' ∉ r) (ne : r ≠ []) : rows r = [r] := by
  rw [rows, lines_row plain ne, List.map_singleton, content_row plain]

/-! ### Texts from rows -/

@[simp] theorem unlines_nil : unlines [] = [] := rfl

@[simp] theorem unlines_cons (r : Text) (rs : List Text) :
    unlines (r :: rs) = r ++ '\n' :: unlines rs := by
  simp [unlines]

@[simp] theorem unlines_append (as bs : List Text) :
    unlines (as ++ bs) = unlines as ++ unlines bs := by
  simp [unlines]

@[simp] theorem joinLines_nil : joinLines [] = [] := rfl

@[simp] theorem joinLines_singleton (r : Text) : joinLines [r] = r := by
  simp [joinLines, join]

theorem join_cons {sep : Char} (w : Text) {ws : List Text} (ne : ws ≠ []) :
    join [sep] (w :: ws) = w ++ sep :: join [sep] ws := by
  simp [join, List.intercalate_cons_of_ne_nil ne]

theorem joinLines_cons (r : Text) {rs : List Text} (ne : rs ≠ []) :
    joinLines (r :: rs) = r ++ '\n' :: joinLines rs := join_cons r ne

theorem joinLines_append (as : List Text) {bs : List Text} (ne : bs ≠ []) :
    joinLines (as ++ bs) = unlines as ++ joinLines bs := by
  induction as with
  | nil => rfl
  | cons a as ih =>
      rw [List.cons_append, joinLines_cons a (by simp [ne]), ih, unlines_cons]
      simp

theorem unlines_eq_joinLines {rs : List Text} (ne : rs ≠ []) :
    unlines rs = joinLines rs ++ ['\n'] := by
  obtain ⟨front, r, rfl⟩ := List.eq_nil_or_concat rs |>.resolve_left ne
  rw [List.concat_eq_append, joinLines_append _ (by simp)]
  simp

@[simp] theorem ofRows_nil (closed : Bool) : ofRows closed [] = [] := by
  cases closed <;> rfl

theorem ofRows_append (closed : Bool) (as : List Text) {bs : List Text} (ne : bs ≠ []) :
    ofRows closed (as ++ bs) = unlines as ++ ofRows closed bs := by
  cases closed with
  | true => exact unlines_append as bs
  | false => exact joinLines_append as ne

theorem complete_unlines (rs : List Text) : Complete (unlines rs) := by
  by_cases h : rs = []
  · subst h
    exact complete_nil
  · rw [unlines_eq_joinLines h]
    exact .inr (terminated_append_newline _)

theorem terminated_unlines {rs : List Text} (ne : rs ≠ []) : terminated (unlines rs) = true := by
  rw [unlines_eq_joinLines ne]
  exact terminated_append_newline _

/-- Rows without line ends in them. -/
def Plain (rs : List Text) : Prop := ∀ r ∈ rs, '\n' ∉ r

instance (rs : List Text) : Decidable (Plain rs) := inferInstanceAs (Decidable (∀ r ∈ rs, '\n' ∉ r))

theorem Plain.append {as bs : List Text} (ha : Plain as) (hb : Plain bs) : Plain (as ++ bs) := by
  intro r hr
  rcases List.mem_append.mp hr with h | h
  · exact ha r h
  · exact hb r h

theorem Plain.of_append {as bs : List Text} (h : Plain (as ++ bs)) : Plain as ∧ Plain bs :=
  ⟨fun r hr => h r (List.mem_append_left _ hr), fun r hr => h r (List.mem_append_right _ hr)⟩

theorem plain_rows (t : Text) : Plain (rows t) := fun _ => not_mem_of_mem_rows

theorem rows_unlines {rs : List Text} (plain : Plain rs) : rows (unlines rs) = rs := by
  induction rs with
  | nil => rfl
  | cons r rs ih =>
      rw [unlines_cons, rows_row_append _ (plain r List.mem_cons_self),
        ih fun r' hr => plain r' (List.mem_cons_of_mem _ hr)]

theorem terminated_of_plain {r : Text} (plain : '\n' ∉ r) : terminated r = false := by
  unfold terminated
  rw [beq_eq_false_iff_ne]
  exact fun h => plain (List.mem_of_getLast? h)

/-- A text whose last row has no line end has something on it. -/
theorem joinLines_ends {rs : List Text} (plain : Plain rs) (ne : rs ≠ [])
    (last : rs.getLast? ≠ some []) : ∃ front r, '\n' ∉ r ∧ r ≠ [] ∧ rs = front ++ [r] ∧
      joinLines rs = unlines front ++ r := by
  obtain ⟨front, r, rfl⟩ := List.eq_nil_or_concat rs |>.resolve_left ne
  rw [List.concat_eq_append] at *
  refine ⟨front, r, plain r (by simp), ?_, rfl, ?_⟩
  · rintro rfl
    simp at last
  · rw [joinLines_append _ (by simp), joinLines_singleton]

theorem terminated_joinLines {rs : List Text} (plain : Plain rs) (last : rs.getLast? ≠ some []) :
    terminated (joinLines rs) = false := by
  by_cases ne : rs = []
  · subst ne
    rfl
  · obtain ⟨front, r, hr, some, -, eq⟩ := joinLines_ends plain ne last
    rw [eq, terminated_append _ some, terminated_of_plain hr]

theorem rows_joinLines {rs : List Text} (plain : Plain rs) (last : rs.getLast? ≠ some []) :
    rows (joinLines rs) = rs := by
  by_cases ne : rs = []
  · subst ne
    rfl
  · obtain ⟨front, r, hr, some, rfl, eq⟩ := joinLines_ends plain ne last
    rw [eq, rows_append _ (complete_unlines front), rows_unlines plain.of_append.1,
      rows_row hr some]

/-- Rows that a text can have. -/
theorem rows_ofRows (closed : Bool) {rs : List Text} (plain : Plain rs)
    (last : rs.getLast? ≠ some []) : rows (ofRows closed rs) = rs := by
  cases closed with
  | true => exact rows_unlines plain
  | false => exact rows_joinLines plain last

theorem terminated_ofRows {closed : Bool} {rs : List Text} (plain : Plain rs) (ne : rs ≠ [])
    (last : rs.getLast? ≠ some []) : terminated (ofRows closed rs) = closed := by
  cases closed with
  | true => exact terminated_unlines ne
  | false => exact terminated_joinLines plain last

/-- A text is its rows, up to the end of its last line. -/
theorem ofRows_rows (t : Text) : ofRows (terminated t) (rows t) = t := by
  generalize h : lines t = ls
  induction ls generalizing t with
  | nil =>
      rw [lines_eq_nil] at h
      subst h
      rfl
  | cons line rest ih =>
      obtain ⟨again, r, plain, shape⟩ := lines_eq_cons h
      have whole : t = line ++ rest.flatten := by
        rw [← flatten_lines t, h, List.flatten_cons]
      rcases shape with rfl | ⟨rfl, ne, rfl⟩
      · by_cases hn : rest.flatten = []
        · rw [whole, hn, List.append_nil, terminated_append_newline, rows,
            lines_row_newline plain, List.map_singleton, content_row_append [] plain]
          simp [ofRows]
        · have some : rows rest.flatten ≠ [] := by
            rw [rows, ne_eq, List.map_eq_nil_iff, lines_eq_nil]
            exact hn
          rw [whole, terminated_append _ hn, List.append_assoc, List.singleton_append,
            rows_row_append _ plain, ← List.singleton_append, ofRows_append _ _ some, ih _ again]
          simp
      · rw [List.flatten_nil, List.append_nil] at whole
        subst whole
        rw [terminated_of_plain plain, rows_row plain ne]
        simp [ofRows]

/-! ### Pieces of a text -/

/-- The lines before a cut, as rows. -/
theorem flatten_eq_unlines {t : Text} {a b : List Text} (h : lines t = a ++ b) (ne : b ≠ []) :
    a.flatten = unlines (a.map content) := by
  obtain ⟨ha, -, hc⟩ := lines_eq_append h
  have eq := ofRows_rows a.flatten
  rw [rows, ha] at eq
  rcases hc ne with hnil | hterm
  · rw [hnil, lines_nil] at ha
    subst ha
    rfl
  · rw [hterm] at eq
    exact eq.symm

/-- The lines after a cut, as rows. -/
theorem flatten_eq_ofRows {t : Text} {a b : List Text} (h : lines t = a ++ b) :
    b.flatten = ofRows (terminated t) (b.map content) := by
  obtain ⟨-, hb, -⟩ := lines_eq_append h
  have eq := ofRows_rows b.flatten
  rw [rows, hb] at eq
  by_cases hn : b.flatten = []
  · rw [hn, lines_nil] at hb
    subst hb
    simp
  · have whole : t = a.flatten ++ b.flatten := by
      rw [← flatten_lines t, h, List.flatten_append]
    rw [whole, terminated_append _ hn]
    exact eq.symm

/-! ### Blocks of rows put into a text -/

/-- Dropping from the end is dropping from the right. -/
theorem dropEndWhile_eq_rdropWhile {α : Type} (p : α → Bool) (l : List α) :
    dropEndWhile p l = l.rdropWhile p := by
  induction l with
  | nil => rfl
  | cons a l ih =>
      rw [dropEndWhile, ih]
      unfold List.rdropWhile
      rw [List.reverse_cons, List.dropWhile_append]
      cases h : l.reverse.dropWhile p with
      | nil => by_cases ha : p a = true <;> simp [ha]
      | cons b kept => cases hr : (b :: kept).reverse <;> simp_all

theorem dropFinalNewlines_unlines {rs : List Text} (plain : Plain rs) (ne : rs ≠ [])
    (last : rs.getLast? ≠ some []) : dropFinalNewlines (unlines rs) = joinLines rs := by
  rw [unlines_eq_joinLines ne, dropFinalNewlines, dropEndWhile_eq_rdropWhile,
    List.rdropWhile_concat_pos _ _ _ (by simp), List.rdropWhile_eq_self_iff]
  intro some
  have ends := terminated_joinLines plain last
  rw [terminated, List.getLast?_eq_some_getLast some] at ends
  simpa using ends

/-- Appending lines to a text appends their rows. -/
theorem appendLines_ofRows (closed : Bool) {as bs : List Text} (ha : Plain as) (hb : Plain bs)
    (someA : as ≠ []) (someB : bs ≠ []) (lastA : as.getLast? ≠ some [])
    (lastB : bs.getLast? ≠ some []) :
    appendLines (ofRows closed as) (unlines bs) = ofRows closed (as ++ bs) := by
  have some : ofRows closed as ≠ [] := by
    intro h
    have same := rows_ofRows closed ha lastA
    rw [h] at same
    exact someA same.symm
  rw [appendLines, terminated_ofRows ha someA lastA, List.isEmpty_eq_false_iff.mpr some]
  cases closed with
  | true => simp [ofRows]
  | false =>
      rw [dropFinalNewlines_unlines hb someB lastB]
      simp only [ofRows, Bool.or_self, Bool.false_eq_true, if_false]
      rw [joinLines_append as someB, unlines_eq_joinLines someA]
      simp

/-- Lines in the place of others, as rows. -/
theorem inPlaceOf_ofRows (closed : Bool) {as bs : List Text} (ha : Plain as) (hb : Plain bs)
    (someA : as ≠ []) (someB : bs ≠ []) (lastA : as.getLast? ≠ some [])
    (lastB : bs.getLast? ≠ some []) :
    inPlaceOf (ofRows closed as) (unlines bs) = ofRows closed bs := by
  rw [inPlaceOf, terminated_ofRows ha someA lastA]
  cases closed with
  | true => rfl
  | false => exact dropFinalNewlines_unlines hb someB lastB

theorem lines_unlines {rs : List Text} (plain : Plain rs) :
    lines (unlines rs) = rs.map (· ++ ['\n']) := by
  induction rs with
  | nil => rfl
  | cons r rs ih =>
      rw [unlines_cons, lines_row_append _ (plain r List.mem_cons_self),
        ih fun r' hr => plain r' (List.mem_cons_of_mem _ hr)]
      rfl

/-! ### A stretch of a text that is exchanged -/

/-- A text up to its last line end, and the rest of it. -/
theorem exists_lastLine (t : Text) : ∃ front w, t = front ++ w ∧ Complete front ∧ '\n' ∉ w := by
  induction t with
  | nil => exact ⟨[], [], rfl, complete_nil, by simp⟩
  | cons c t ih =>
      obtain ⟨front, w, rfl, complete, plain⟩ := ih
      by_cases none : front = []
      · subst none
        by_cases hc : c = '\n'
        · subst hc
          exact ⟨['\n'], w, rfl, .inr rfl, plain⟩
        · exact ⟨[], c :: w, rfl, complete_nil, by simp [plain, Ne.symm hc]⟩
      · refine ⟨c :: front, w, rfl, .inr ?_, plain⟩
        exact (terminated_append [c] none).trans (complete.resolve_left none)

theorem lines_plain_append {w t first : Text} {rest : List Text} (plain : '\n' ∉ w)
    (h : lines t = first :: rest) : lines (w ++ t) = (w ++ first) :: rest := by
  induction w with
  | nil => exact h
  | cons c w ih =>
      rw [List.mem_cons, not_or] at plain
      rw [List.cons_append, lines, if_neg (Ne.symm plain.1), ih plain.2]
      rfl

theorem exists_lines_plain_append {w : Text} (t : Text) (plain : '\n' ∉ w) (ne : w ≠ []) :
    ∃ x rest, lines (w ++ t) = (w ++ x) :: rest := by
  cases h : lines t with
  | nil =>
      rw [lines_eq_nil] at h
      exact ⟨[], [], by rw [h, List.append_nil, lines_row plain ne]⟩
  | cons first rest => exact ⟨first, rest, lines_plain_append plain h⟩

/-- What follows a line of a text does not depend on what stands before the line. -/
theorem exists_lines_append (a : Text) {t first : Text} {rest : List Text}
    (h : lines t = first :: rest) : ∃ l ls, lines (a ++ t) = (l :: ls) ++ rest := by
  obtain ⟨front, w, rfl, complete, plain⟩ := exists_lastLine a
  rw [List.append_assoc, lines_append _ complete, lines_plain_append plain h]
  cases lines front with
  | nil => exact ⟨_, [], rfl⟩
  | cons l ls => exact ⟨l, ls ++ [w ++ first], by simp⟩

/-- The lines of a text after a stretch of it is exchanged for one without a line end: the line
of the part `u` before the stretch changes after that part, and lines may be joined to it. -/
theorem lines_exchange (before old : Text) {u new rest : Text} (plain : '\n' ∉ u) (ne : u ≠ [])
    (plain' : '\n' ∉ new) (ne' : rest ≠ []) : ∃ front mid after w x x',
      lines (before ++ u ++ old ++ rest) = front ++ (w ++ u ++ x) :: (mid ++ after) ∧
        lines (before ++ u ++ new ++ rest) = front ++ (w ++ u ++ x') :: after := by
  obtain ⟨front, w, rfl, complete, noEnd⟩ := exists_lastLine before
  obtain ⟨first, after, split⟩ := List.exists_cons_of_ne_nil (mt lines_eq_nil.mp ne')
  have joined : '\n' ∉ w ++ u := by simp [noEnd, plain]
  obtain ⟨x, tail, lines_eq⟩ := exists_lines_plain_append (old ++ rest) joined (by simp [ne])
  obtain ⟨l, mid, whole⟩ := exists_lines_append (w ++ u ++ old) split
  rw [List.append_assoc, lines_eq, List.cons_append, List.cons.injEq] at whole
  refine ⟨lines front, mid, after, w, x, new ++ first, ?_, ?_⟩
  · rw [show front ++ w ++ u ++ old ++ rest = front ++ (w ++ u ++ (old ++ rest)) by simp,
      lines_append _ complete, lines_eq, whole.2]
  · rw [show front ++ w ++ u ++ new ++ rest = front ++ ((w ++ u ++ new) ++ rest) by simp,
      lines_append _ complete, lines_plain_append (by simp [noEnd, plain, plain']) split]
    simp

/-! ### Parts of a row -/

theorem plain_replaceChar {c : Char} {new t : Text} (plain : '\n' ∉ t) (plain' : '\n' ∉ new) :
    '\n' ∉ t.replaceChar c new := by
  rw [replaceChar, List.mem_flatMap]
  rintro ⟨d, hd, h⟩
  split at h
  · exact plain' h
  · exact plain (List.mem_singleton.mp h ▸ hd)

theorem replaceChar_of_not_mem {c : Char} {new t : Text} (out : c ∉ t) :
    t.replaceChar c new = t := by
  have same : ∀ d ∈ t, (if d = c then new else [d]) = [d] := by
    intro d hd
    rw [if_neg]
    rintro rfl
    exact out hd
  rw [replaceChar, List.flatMap_congr same, List.flatMap_singleton']

/-- Dropping elements from both ends leaves some of the elements in their order. -/
theorem dropEnds_sublist {α : Type} (p : α → Bool) (l : List α) :
    (dropEndWhile p (l.dropWhile p)).Sublist l := by
  rw [dropEndWhile_eq_rdropWhile]
  exact (List.rdropWhile_prefix _ _).sublist.trans (List.dropWhile_sublist _)

theorem trimBy_subset (p : Char → Bool) (t : Text) : t.trimBy p ⊆ t := (dropEnds_sublist p t).subset

theorem trim_subset (t : Text) : t.trim ⊆ t := trimBy_subset isBlank t

theorem plain_trim {t : Text} (plain : '\n' ∉ t) : '\n' ∉ t.trim :=
  fun mem => plain (trim_subset t mem)

end Notebase.Text
