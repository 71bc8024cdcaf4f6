import Mathlib.Data.List.Forall2
import Notebase.Proofs.Document.Filters
import Notebase.Proofs.Document.Summary

/-!
A document with its views some spaces deeper. Every line under `views` that has something on it
moves to the right, the empty ones stay. The first view is found again with each of its rows moved
(`View.Sited.indent`), a key of it is found at the same place (`entryAt?_indent`), and an entry
says what it said, since what is read off a row never depends on how deep the row stands.
-/

namespace Notebase.Document

open Text

/-! ### Lines and rows that move to the right -/

def indentLine (k : Nat) (line : Text) : Text :=
  if isEmptyLine line then line else spaces k ++ line

def indentRow (k : Nat) (row : Text) : Text := if row.isEmpty then row else spaces k ++ row

/-- The document with the lines of its views `k` spaces deeper. -/
def indentViews (k : Nat) (t : Text) : Text :=
  match block? "views".toList t with
  | none => t
  | some b => b.replace (b.header ++ (b.body.map (indentLine k)).flatten)

theorem indentRow_nil (k : Nat) : indentRow k [] = [] := rfl

theorem indentRow_of_ne_nil (k : Nat) {row : Text} (ne : row ≠ []) :
    indentRow k row = spaces k ++ row := by
  rw [indentRow, if_neg (by simpa using ne)]

theorem indentRow_append (k : Nat) {label : Text} (ne : label ≠ []) (value : Text) :
    indentRow k (label ++ value) = spaces k ++ label ++ value := by
  rw [indentRow_of_ne_nil k (by simp [ne]), List.append_assoc]

theorem plain_spaces (n : Nat) : '\n' ∉ spaces n := by simp [spaces]

/-- Something without a line end goes in front of the line, or nothing. -/
theorem exists_front_indentLine (k : Nat) (line : Text) :
    ∃ front, '\n' ∉ front ∧ indentLine k line = front ++ line := by
  rw [indentLine]
  split
  · exact ⟨[], by simp, rfl⟩
  · exact ⟨spaces k, plain_spaces k, rfl⟩

theorem indentLine_row_newline (k : Nat) (row : Text) :
    indentLine k (row ++ ['\n']) = indentRow k row ++ ['\n'] := by
  cases row with
  | nil => rfl
  | cons c row =>
      have written : ¬ isEmptyLine (c :: row ++ ['\n']) = true := by simp [isEmptyLine]
      rw [indentLine, if_neg written, indentRow_of_ne_nil k (by simp), List.append_assoc]

theorem indentLine_row (k : Nat) {row : Text} (plain : '\n' ∉ row) (ne : row ≠ []) :
    indentLine k row = indentRow k row := by
  have written : ¬ isEmptyLine row = true := fun empty => plain (by simp [isEmptyLine_eq empty])
  rw [indentLine, if_neg written, indentRow_of_ne_nil k ne]

/-- What a line says moves with the line. -/
theorem content_indentLine (k : Nat) {t line : Text} (h : line ∈ t.lines) :
    content (indentLine k line) = indentRow k (content line) := by
  obtain ⟨r, plain, eq, rfl | rfl⟩ := shape_of_mem_lines h
  · rw [eq, indentLine_row k plain (ne_nil_of_mem_lines h), content_row]
    rw [indentRow_of_ne_nil k (ne_nil_of_mem_lines h)]
    simp [plain, plain_spaces]
  · have plain' : '\n' ∉ indentRow k r := by
      rw [indentRow]
      split
      · exact plain
      · simp [plain, plain_spaces]
    rw [eq, indentLine_row_newline, content_row_append [] plain']

/-! ### What a line is, wherever it stands -/

theorem dropSpaces_spaces_append (k : Nat) (t : Text) :
    (spaces k ++ t).dropWhile (· == ' ') = t.dropWhile (· == ' ') :=
  List.dropWhile_append_of_pos fun c hc => by
    rw [List.eq_of_mem_replicate hc]
    decide

theorem indentation_spaces (k : Nat) (t : Text) :
    indentation (spaces k ++ t) = k + indentation t := by
  rw [indentation, List.takeWhile_append_of_pos fun c hc => by
    rw [List.eq_of_mem_replicate hc]
    decide]
  simp [indentation, spaces]

theorem dashFront_add (dash k : Nat) : dashFront (dash + k) = spaces k ++ dashFront dash := by
  rw [dashFront, dashFront, ← List.append_assoc, spaces_append_spaces, Nat.add_comm]

theorem spaces_add_two (dash k : Nat) : spaces (dash + k + 2) = spaces k ++ spaces (dash + 2) := by
  rw [spaces_append_spaces, show k + (dash + 2) = dash + k + 2 by omega]

theorem after?_append_append (front x t : Text) : after? (front ++ x) (front ++ t) = after? x t := by
  induction front with
  | nil => rfl
  | cons c front ih => simp [after?, ih]

/-- A line does not become empty when it moves, nor stops being so. -/
theorem isEmptyLine_indentLine (k : Nat) (line : Text) :
    isEmptyLine (indentLine k line) = isEmptyLine line := by
  rw [indentLine]
  split
  · rfl
  · next written =>
      cases k with
      | zero => rfl
      | succ k => simp [isEmptyLine, spaces, List.replicate_succ] at written ⊢; simp [written]

theorem isItem_indentLine (k : Nat) (line : Text) :
    isItem (indentLine k line) = isItem line := by
  rw [indentLine]
  split
  · rfl
  · rw [isItem, isItem, dropSpaces_spaces_append]

theorem indentation_indentLine (k : Nat) {line : Text} (item : isItem line = true) :
    indentation (indentLine k line) = indentation line + k := by
  have written : ¬ isEmptyLine line = true := by
    intro empty
    rw [isEmptyLine_eq empty] at item
    exact absurd item (by decide)
  rw [indentLine, if_neg written, indentation_spaces, Nat.add_comm]

theorem not_isTopKey_spaces_append (k : Nat) {t : Text} (notTop : isTopKey t = false) :
    isTopKey (spaces k ++ t) = false := by
  cases k with
  | zero => exact notTop
  | succ k => simp [spaces, List.replicate_succ, isTopKey]

/-- A line under `views` opens no block, also when it moves. -/
theorem not_isTopKey_indentLine (k : Nat) {line : Text} (notTop : isTopKey line = false) :
    isTopKey (indentLine k line) = false := by
  rw [indentLine]
  split
  · exact notTop
  · exact not_isTopKey_spaces_append k notTop

theorem isPrefixOf_dashFront_indentLine (dash k : Nat) (line : Text) :
    (dashFront (dash + k)).isPrefixOf (indentLine k line) = (dashFront dash).isPrefixOf line := by
  rw [indentLine]
  split
  · next empty => rw [isPrefixOf_of_isEmptyLine _ empty, isPrefixOf_of_isEmptyLine _ empty]
  · rw [dashFront_add, isPrefixOf_eq_isSome, isPrefixOf_eq_isSome, after?_append_append]

/-- How much deeper a row is than another does not change when both move. -/
theorem isDeeper_indentRow (depth k : Nat) (row : Text) :
    isDeeper (depth + k) (indentRow k row) = isDeeper depth row := by
  by_cases ne : row = []
  · rw [ne, indentRow_nil]
    rfl
  · rw [indentRow_of_ne_nil k ne, isDeeper, isDeeper, dropSpaces_spaces_append,
      indentation_spaces]
    cases row.dropWhile (· == ' ') with
    | nil => rfl
    | cons c t => simp only [Nat.add_comm k, Nat.add_lt_add_iff_right]

/-- A label is found as deep as its row has moved. -/
theorem splitLabel?_indentRow (dash k : Nat) (key row : Text) :
    splitLabel? (dash + k) key (indentRow k row) =
      (splitLabel? dash key row).map fun (label, value) => (spaces k ++ label, value) := by
  -- An empty row is not moved, and it has no label at any depth.
  by_cases ne : row = []
  · have none : ∀ d, splitLabel? d key [] = none := by
      intro d
      rw [Option.eq_none_iff_forall_ne_some]
      rintro ⟨label, value⟩ found
      obtain ⟨⟨gap, -, rfl | rfl⟩, -, eq⟩ := splitLabel?_eq_some_iff.mp found
      · simp at eq
      · simp at eq
    rw [ne, indentRow_nil, none, none]
    rfl
  · have front : ∀ name : Text, after? (spaces k ++ name ++ key ++ [':']) (spaces k ++ row) =
        after? (name ++ key ++ [':']) row := by
      intro name
      rw [List.append_assoc, List.append_assoc, after?_append_append, List.append_assoc]
    rw [indentRow_of_ne_nil k ne, splitLabel?, splitLabel?]
    dsimp only
    rw [dashFront_add, spaces_add_two, front, front]
    cases after? (dashFront dash ++ key ++ [':']) row with
    | some rest => simp
    | none =>
        cases after? (spaces (dash + 2) ++ key ++ [':']) row with
        | some rest => simp
        | none => rfl

theorem isKeyRow_indentRow (dash k : Nat) (key row : Text) :
    isKeyRow (dash + k) key (indentRow k row) = isKeyRow dash key row := by
  rw [isKeyRow, splitLabel?_indentRow, Option.isSome_map]
  rfl

/-! ### The document around the view -/

/-- Lines stay lines when something without a line end goes in front of each. -/
theorem lines_flatten_of_fronts {ls ls' : List Text} (lines_eq : Text.lines ls.flatten = ls)
    (fronts : List.Forall₂ (fun l l' => ∃ front, '\n' ∉ front ∧ l' = front ++ l) ls ls') :
    Text.lines ls'.flatten = ls' := by
  induction fronts with
  | nil => rfl
  | @cons l l' ls ls' first _ ih =>
      obtain ⟨front, plain, rfl⟩ := first
      rw [List.flatten_cons] at lines_eq
      obtain ⟨again, r, plain', rfl | ⟨rfl, ne, rfl⟩⟩ := lines_eq_cons lines_eq
      · have row : '\n' ∉ front ++ r := by simp [plain, plain']
        rw [List.flatten_cons, ← List.append_assoc, List.append_assoc, List.singleton_append,
          lines_row_append _ row, ih again]
      · -- Only the last line may have no end, so nothing is below this one.
        have row : '\n' ∉ front ++ l := by simp [plain, plain']
        cases ls' with
        | nil => simpa using lines_row row (by simp [ne])
        | cons first rest => cases ‹List.Forall₂ _ [] _›

/-- The document with the lines of its views moved, and where their block stands in it. -/
theorem lines_indentViews (k : Nat) {t : Text} {b : Block}
    (found : block? "views".toList t = some b) :
    (indentViews k t).lines = b.before ++ b.header :: b.body.map (indentLine k) ++ b.after ∧
      block? "views".toList (indentViews k t) =
        some { b with body := b.body.map (indentLine k) } := by
  have lines := lines_of_block? found
  -- Only fronts without line ends are put in, so the lines stay apart as they were.
  have whole : indentViews k t =
      (b.before ++ b.header :: b.body.map (indentLine k) ++ b.after).flatten := by
    rw [indentViews, found]
    simp [Block.replace]
  have same : ∀ ls : List Text,
      List.Forall₂ (fun l l' => ∃ front, '\n' ∉ front ∧ l' = front ++ l) ls ls := fun ls =>
    List.forall₂_same.mpr fun l _ => ⟨[], by simp, rfl⟩
  have moved : List.Forall₂ (fun l l' => ∃ front, '\n' ∉ front ∧ l' = front ++ l) b.body
      (b.body.map (indentLine k)) :=
    List.forall₂_map_right_iff.mpr (List.forall₂_same.mpr fun l _ => exists_front_indentLine k l)
  have lines_eq : (indentViews k t).lines =
      b.before ++ b.header :: b.body.map (indentLine k) ++ b.after := by
    have old : Text.lines (b.before ++ b.lines ++ b.after).flatten =
        b.before ++ b.lines ++ b.after := by
      rw [← lines, flatten_lines]
    rw [whole]
    exact lines_flatten_of_fronts old
      (List.rel_append (List.rel_append (same _) (.cons ⟨[], by simp, rfl⟩ moved)) (same _))
  refine ⟨lines_eq, ?_⟩
  rw [block?, Option.map_eq_some_iff] at found
  obtain ⟨⟨before, header, rest⟩, split, rfl⟩ := found
  obtain ⟨-, isHeader, noHeader⟩ := splitFirst?_eq_some split
  -- A line that moves deeper does not come to start with a key, so the block ends where it did.
  have inside : ∀ l ∈ (rest.takeWhile (!isTopKey ·)).map (indentLine k),
      isTopKey l = false := by
    intro l hl
    obtain ⟨line, mem, rfl⟩ := List.mem_map.mp hl
    exact not_isTopKey_indentLine k (by simpa using List.mem_takeWhile_imp mem)
  obtain ⟨b', found', before', lines', after'⟩ := IsBlock.exists_block?
    ⟨header, _, rfl, isHeader, inside⟩ lines_eq noHeader fun l hl => by
      simpa using head?_dropWhile l hl
  rw [found']
  cases b'
  cases before'
  cases after'
  cases lines'
  rfl

/-- The parts around a view, with the lines of the views moved. -/
def Site.indent (k : Nat) (s : Site) : Site :=
  { s with
    skipped := s.skipped.map (indentLine k)
    others := s.others.map (indentLine k) }

/-- A view between these parts, `k` spaces deeper. -/
def View.indentIn (k : Nat) (s : Site) (v : View) : View where
  before := s.above ++ s.header :: s.skipped.map (indentLine k)
  head := indentLine k v.head
  body := v.body.map (indentLine k)
  after := s.gap ++ s.others.map (indentLine k) ++ s.below
  dash := v.dash + k

section Views

variable {t : Text} {v : View} {s : Site}

theorem lines_indentIn (k : Nat) (v : View) (s : Site) :
    (v.indentIn k s).lines = v.lines.map (indentLine k) := rfl

theorem map_indentLine_of_empty (k : Nat) {ls : List Text}
    (empty : ∀ l ∈ ls, isEmptyLine l = true) : ls.map (indentLine k) = ls := by
  conv_rhs => rw [← List.map_id ls]
  exact List.map_congr_left fun l hl => by rw [indentLine, if_pos (empty l hl), id]

/-- **A view that moves is found again** between the parts that move with it. -/
theorem View.Sited.indent (sited : v.Sited s t) (k : Nat) :
    (v.indentIn k s).Sited (s.indent k) (indentViews k t) := by
  have gap := map_indentLine_of_empty k sited.gap
  have lines := (lines_indentViews k sited.block?).1
  obtain ⟨-, -, -, above, header, skipped, ⟨notTop, item, depth⟩, body, last, empty,
    ⟨others, next⟩, below⟩ := sited
  refine ⟨?_, rfl, rfl, above, header, fun l hl => ?_, ⟨not_isTopKey_indentLine k notTop, ?_, ?_⟩,
    fun l hl => ?_, fun l hl => ?_, empty, ⟨fun l hl => ?_, fun l hl => ?_⟩, below⟩
  · rw [lines]
    simp [gap, View.indentIn, View.lines]
  · obtain ⟨line, mem, rfl⟩ := List.mem_map.mp hl
    rw [isItem_indentLine]
    exact ⟨not_isTopKey_indentLine k (skipped line mem).1, (skipped line mem).2⟩
  · exact (isItem_indentLine k v.head).trans item
  · exact (congrArg (· + k) depth).trans (indentation_indentLine k item).symm
  · obtain ⟨line, mem, rfl⟩ := List.mem_map.mp hl
    exact ⟨not_isTopKey_indentLine k (body line mem).1,
      (isPrefixOf_dashFront_indentLine v.dash k line).trans (body line mem).2⟩
  · rw [View.indentIn, List.getLast?_map, Option.mem_def, Option.map_eq_some_iff] at hl
    obtain ⟨line, mem, rfl⟩ := hl
    exact (isEmptyLine_indentLine k line).trans (last line mem)
  · obtain ⟨line, mem, rfl⟩ := List.mem_map.mp hl
    exact not_isTopKey_indentLine k (others line mem)
  · rw [Site.indent, List.head?_map, Option.mem_def, Option.map_eq_some_iff] at hl
    obtain ⟨line, mem, rfl⟩ := hl
    exact (isPrefixOf_dashFront_indentLine v.dash k line).trans (next line mem)

/-- Without a view there is none at any depth. -/
theorem firstView?_indentViews_eq_none (k : Nat) (none : firstView? t = none) :
    firstView? (indentViews k t) = Option.none := by
  cases block : block? "views".toList t with
  | none =>
      rw [indentViews, block]
      exact none
  | some b =>
      rw [firstView?, block, Option.bind_some, Option.map_eq_none_iff, splitFirst?_eq_none] at none
      rw [firstView?, (lines_indentViews k block).2, Option.bind_some, Option.map_eq_none_iff,
        splitFirst?_eq_none]
      intro l hl
      obtain ⟨line, mem, rfl⟩ := List.mem_map.mp hl
      rw [isItem_indentLine]
      exact none line mem

end Views

/-! ### Rows that are written -/

/-- Lines that move are the lines of rows that move. -/
theorem flatten_indentLines (k : Nat) (closed : Bool) {rs : List Text} (plain : Plain rs)
    (last : rs.getLast? ≠ some []) :
    ((Text.lines (ofRows closed rs)).map (indentLine k)).flatten =
      ofRows closed (rs.map (indentRow k)) := by
  induction rs with
  | nil => simp
  | cons r rs ih =>
      have notMem : '\n' ∉ r := plain r List.mem_cons_self
      -- Only the last row may be without a line end.
      by_cases none : rs = []
      · subst none
        have ne : r ≠ [] := fun h => last (by rw [h]; rfl)
        cases closed with
        | true =>
            rw [ofRows, if_pos rfl, unlines_cons, unlines_nil, lines_row_newline notMem]
            simp [ofRows, indentLine_row_newline]
        | false =>
            rw [ofRows, if_neg (by simp), joinLines, join]
            simp [ofRows, joinLines, join, List.intercalate, lines_row notMem ne,
              indentLine_row k notMem ne]
      · have rest := ih (fun r' hr => plain r' (List.mem_cons_of_mem _ hr))
          (by rwa [List.getLast?_cons_of_ne_nil none] at last)
        have split : ∀ (r : Text) (rs : List Text), rs ≠ [] →
            ofRows closed (r :: rs) = r ++ '\n' :: ofRows closed rs := by
          intro r rs ne
          have cut := ofRows_append closed [r] ne
          simpa using cut
        rw [split r rs none, lines_row_append _ notMem, List.map_cons, List.flatten_cons, rest,
          indentLine_row_newline, List.map_cons, split _ _ (by simpa using none)]
        simp

section Found

variable {t : Text} {v : View} {s : Site} (sited : v.Sited s t)
include sited

theorem rows_indentIn (k : Nat) : (v.indentIn k s).rows = v.rows.map (indentRow k) := by
  rw [View.rows, View.rows, lines_indentIn, List.map_map, List.map_map]
  exact List.map_congr_left fun l hl =>
    content_indentLine k (mem_lines_of_view sited.firstView? hl)

/-- Whether the last line has an end does not change. -/
theorem closed_indentIn (k : Nat) : (v.indentIn k s).closed = v.closed := by
  have ok := viewRows_rows sited.firstView?
  have ok' := viewRows_rows (sited.indent k).firstView?
  rw [rows_indentIn sited k] at ok'
  have ofRows_eq : ofRows v.closed v.rows = v.lines.flatten := by
    rw [View.closed, ← rows_flatten_view sited.firstView?, ofRows_rows]
  have moved := flatten_indentLines k v.closed ok.plain ok.last
  rw [ofRows_eq, lines_flatten_view sited.firstView?] at moved
  rw [View.closed, lines_indentIn, moved, terminated_ofRows ok'.plain ok'.ne_nil ok'.last]

/-- Rows that are written into the view move with it. -/
theorem indentViews_withRows (k : Nat) {rs : List Text} (plain : Plain rs)
    (last : rs.getLast? ≠ some []) (notTop : ∀ r ∈ rs, isTopKey r = false) :
    indentViews k (v.withRows rs) = (v.indentIn k s).withRows (rs.map (indentRow k)) := by
  have lines : (v.withRows rs).lines = s.above ++
      s.header :: (s.skipped ++ (ofRows v.closed rs).lines ++ s.gap ++ s.others) ++ s.below := by
    rw [lines_withRows sited.firstView?, sited.before, sited.after]
    simp
  -- No line of the block opens another one, so that all of them are moved.
  have inside : ∀ l ∈ s.skipped ++ (ofRows v.closed rs).lines ++ s.gap ++ s.others,
      isTopKey l = false := by
    intro l hl
    simp only [List.mem_append] at hl
    rcases hl with ((h | h) | h) | h
    · exact (sited.skipped l h).1
    · rw [← isTopKey_content h]
      refine notTop _ ?_
      rw [← rows_ofRows v.closed plain last]
      exact List.mem_map_of_mem h
    · exact isTopKey_of_isEmptyLine (sited.gap l h)
    · exact sited.others.1 l h
  obtain ⟨b, found, before, lines_eq, after⟩ :=
    IsBlock.exists_block? ⟨_, _, rfl, sited.header, inside⟩ lines sited.above sited.below
  obtain ⟨header, body⟩ := List.cons.inj lines_eq
  rw [indentViews, found]
  dsimp only
  rw [Block.replace, before, after, header, body, View.withRows, View.replace,
    closed_indentIn sited k, ← flatten_indentLines k v.closed plain last]
  simp [View.indentIn, map_indentLine_of_empty k sited.gap]

end Found

/-! ### Entries -/

def Entry.indent (k : Nat) (e : Entry) : Entry :=
  ⟨spaces k ++ e.label, e.value, e.children.map (indentRow k)⟩

section Entries

variable {dash : Nat} {key : Text} {rs above below : List Text} {e : Entry}

theorem IsLabel.indent (k : Nat) {label : Text} (h : IsLabel dash key label) :
    IsLabel (dash + k) key (spaces k ++ label) := by
  obtain ⟨gap, blank, rfl | rfl⟩ := h
  · exact ⟨gap, blank, .inl (by simp [dashFront_add])⟩
  · exact ⟨gap, blank, .inr (by simp only [spaces_add_two, List.append_assoc])⟩

/-- The row of a key with any value on it. -/
theorem IsLabel.indentRow_append {label : Text} (h : IsLabel dash key label) (k : Nat)
    (value : Text) : indentRow k (label ++ value) = spaces k ++ label ++ value :=
  Document.indentRow_append k h.ne_nil value

theorem Entry.Valid.rows_indent (valid : e.Valid dash key) (k : Nat) :
    (e.indent k).rows = e.rows.map (indentRow k) := by
  rw [Entry.rows, Entry.rows, List.map_cons, Entry.row, Entry.row,
    valid.label.indentRow_append k]
  rfl

theorem Entry.Valid.indent (valid : e.Valid dash key) (k : Nat) :
    (e.indent k).Valid (dash + k) key := by
  refine ⟨valid.label.indent k, valid.flush, fun r hr => ?_⟩
  obtain ⟨row, mem, rfl⟩ := List.mem_map.mp hr
  rw [show dash + k + 2 = dash + 2 + k by omega, isDeeper_indentRow]
  exact valid.children row mem

/-- No row of an entry opens a block of the top level. -/
theorem Entry.Valid.notTopKey (valid : e.Valid dash key) : ∀ r ∈ e.rows, isTopKey r = false := by
  intro r hr
  rcases List.mem_cons.mp hr with rfl | hr
  · obtain ⟨gap, -, label | label⟩ := valid.label
    · have item : dashFront dash <+: e.row :=
        ⟨key ++ [':'] ++ gap ++ e.value, by simp [Entry.row, label]⟩
      exact isTopKey_of_dashFront item
    · rw [Entry.row, label]
      simp [spaces, List.replicate_succ, isTopKey]
  · obtain ⟨rest, rfl⟩ := spaces_prefix_of_isDeeper (valid.children r hr)
    simp [spaces, List.replicate_succ, isTopKey]

theorem Entry.indent_withValue (k : Nat) (e : Entry) (value : Text) :
    (e.withValue value).indent k = (e.indent k).withValue value := by
  simp [Entry.withValue, Entry.indent]

/-- An entry stays between the rows around it. -/
theorem Placed.indent (placed : Placed dash key rs e above below) (k : Nat) :
    Placed (dash + k) key (rs.map (indentRow k)) (e.indent k) (above.map (indentRow k))
      (below.map (indentRow k)) := by
  refine ⟨?_, placed.valid.indent k, fun r hr => ?_, fun r hr => ?_⟩
  · rw [placed.rows, List.map_append, List.map_append, placed.valid.rows_indent]
  · obtain ⟨row, mem, rfl⟩ := List.mem_map.mp hr
    rw [isKeyRow_indentRow]
    exact placed.above row mem
  · rw [List.head?_map, Option.mem_def, Option.map_eq_some_iff] at hr
    obtain ⟨row, found, rfl⟩ := hr
    rw [show dash + k + 2 = dash + 2 + k by omega, isDeeper_indentRow]
    exact placed.below row found

/-- A key is found among rows that have moved exactly when it was found before. -/
theorem entryAt?_indent (dash k : Nat) (key : Text) (rs : List Text) :
    entryAt? (dash + k) key (rs.map (indentRow k)) =
      (entryAt? dash key rs).map (Entry.indent k) := by
  cases entry_eq : entryAt? dash key rs with
  | some e =>
      obtain ⟨above, below, placed⟩ := entryAt?_eq_some_iff.mp entry_eq
      exact (placed.indent k).entryAt?
  | none =>
      rw [Option.map_none, entryAt?_eq_none_iff]
      intro r hr
      obtain ⟨row, mem, rfl⟩ := List.mem_map.mp hr
      rw [isKeyRow_indentRow]
      exact entryAt?_eq_none_iff.mp entry_eq row mem

theorem nameEntry_indent (k dash : Nat) (name : Text) :
    (nameEntry dash name).indent k = nameEntry (dash + k) name := by
  rw [nameEntry, nameEntry, Entry.indent, ← List.append_assoc, ← spaces_add_two]
  rfl

/-- A row that is written below the line of a key. -/
theorem indentRow_spaces (k dash : Nat) (front value : Text) :
    indentRow k (spaces (dash + 2) ++ front ++ value) =
      spaces (dash + k + 2) ++ front ++ value := by
  have written : spaces (dash + 2) ++ front ≠ [] := by simp [spaces]
  rw [indentRow_append k written, ← List.append_assoc, ← spaces_add_two]

theorem sortEntry_indent (k : Nat) (property direction : Text) (dash : Nat) :
    (sortEntry property direction dash).indent k = sortEntry property direction (dash + k) := by
  rw [sortEntry, sortEntry, Entry.indent, List.map_cons, List.map_singleton,
    indentRow_spaces, indentRow_spaces, ← List.append_assoc,
    ← spaces_add_two]

theorem groupEntry_indent (k : Nat) (property direction : Text) (dash : Nat) :
    (groupEntry property direction dash).indent k = groupEntry property direction (dash + k) := by
  rw [groupEntry, groupEntry, Entry.indent, List.map_cons, List.map_singleton,
    indentRow_spaces, indentRow_spaces, ← List.append_assoc,
    ← spaces_add_two]

theorem indentRow_columnRow (k dash : Nat) (ref : Text) :
    indentRow k (columnRow dash ref) = columnRow (dash + k) ref := by
  rw [columnRow, columnRow, show dash + k + 4 = dash + 2 + k + 2 by omega]
  exact indentRow_spaces k (dash + 2) _ _

end Entries

/-! ### What a row says, wherever it stands -/

/-- A row under a key starts with a space, and the spaces before it make no difference. -/
theorem exists_spaces_of_isDeeper {depth : Nat} {row : Text} (h : isDeeper depth row = true)
    (k : Nat) : ∃ rest rest' : Text, content row = ' ' :: rest ∧
      content (indentRow k row) = ' ' :: rest' ∧
      rest'.dropWhile (· == ' ') = rest.dropWhile (· == ' ') := by
  have deep := lt_indentation_of_isDeeper h
  cases row with
  | nil => cases h
  | cons c row =>
      obtain rfl : c = ' ' := by
        by_contra other
        rw [indentation, List.takeWhile_cons_of_neg (by simpa using other)] at deep
        exact absurd deep (Nat.not_lt_zero _)
      have content_cons : ∀ t : Text, content (' ' :: t) = ' ' :: content t := fun _ => rfl
      rw [indentRow_of_ne_nil k (by simp), content_cons]
      cases k with
      | zero => exact ⟨_, _, rfl, rfl, rfl⟩
      | succ k =>
          refine ⟨_, content (spaces k ++ ' ' :: row), rfl, ?_, ?_⟩
          · rw [← content_cons]
            rfl
          · rw [content, List.takeWhile_append_of_pos fun c hc => by
              rw [List.eq_of_mem_replicate hc]
              decide, dropSpaces_spaces_append]
            rfl

theorem listItem?_indentRow {depth : Nat} {row : Text} (h : isDeeper depth row = true) (k : Nat) :
    listItem? (indentRow k row) = listItem? row := by
  obtain ⟨rest, rest', content_eq, moved, same⟩ := exists_spaces_of_isDeeper h k
  rw [listItem?, listItem?, content_eq, moved]
  simp only [same]

theorem isColumn_indentRow {depth : Nat} {row : Text} (h : isDeeper depth row = true) (k : Nat)
    (ref : Text) : isColumn ref (indentRow k row) = isColumn ref row := by
  obtain ⟨rest, rest', content_eq, moved, same⟩ := exists_spaces_of_isDeeper h k
  rw [isColumn, isColumn, content_eq, moved]
  simp only [same]

theorem dropWhile_isBlank_indentRow (k : Nat) (row : Text) :
    (indentRow k row).dropWhile isBlank = row.dropWhile isBlank := by
  rw [indentRow]
  split
  · rfl
  · exact dropWhile_isBlank_spaces k row

theorem firstWord?_indentRow (k : Nat) (row : Text) :
    firstWord? (indentRow k row) = firstWord? row := by
  rw [firstWord?, firstWord?, dropWhile_isBlank_indentRow]

theorem sortLine?_spaces_append (k : Nat) (piece : Text) :
    sortLine? (spaces k ++ piece) = sortLine? piece := by
  rw [sortLine?, sortLine?, dropWhile_isBlank_spaces]

/-- Only the first of the pieces between line breaks moves. -/
theorem brokenLines_spaces_append (k : Nat) {t piece : Text} {rest : List Text}
    (h : brokenLines t = piece :: rest) :
    brokenLines (spaces k ++ t) = (spaces k ++ piece) :: rest := by
  refine brokenLines_append (fun c hc => ?_) h
  rw [List.eq_of_mem_replicate hc]
  decide

theorem filterMap_brokenLines_indentRow (k : Nat) (row : Text) :
    (brokenLines (indentRow k row)).filterMap sortLine? =
      (brokenLines row).filterMap sortLine? := by
  by_cases ne : row = []
  · rw [ne, indentRow_nil]
  · obtain ⟨piece, rest, brokenLines_eq⟩ := List.exists_cons_of_ne_nil (brokenLines_ne_nil ne)
    rw [indentRow_of_ne_nil k ne, brokenLines_spaces_append k brokenLines_eq, brokenLines_eq,
      List.filterMap_cons,
      List.filterMap_cons, sortLine?_spaces_append]

/-- The parts of a grouping are read at any depth. -/
theorem groupPairsFrom_indent (k skip : Nat) (rs : List Text) :
    groupPairsFrom skip (rs.map (indentRow k)) = groupPairsFrom skip rs := by
  induction rs generalizing skip with
  | nil => cases skip <;> rfl
  | cons row rs ih =>
      have next : (rs.map (indentRow k)).head?.bind firstWord? = rs.head?.bind firstWord? := by
        cases rs with
        | nil => rfl
        | cons r rs => exact firstWord?_indentRow k r
      cases skip with
      | succ skip => exact ih skip
      | zero =>
          rw [List.map_cons]
          simp only [groupPairsFrom, dropWhile_isBlank_indentRow, next, ih]

namespace Entry

variable {dash : Nat} {key : Text} {e : Entry}

theorem said?_indent (k : Nat) (e : Entry) : (e.indent k).said? = e.said? := rfl

theorem Valid.columns_indent (valid : e.Valid dash key) (k : Nat) :
    (e.indent k).columns = e.columns := by
  rw [columns, columns, Entry.indent, List.filterMap_map]
  exact List.filterMap_congr fun r hr => listItem?_indentRow (valid.children r hr) k

theorem sorting_indent (k : Nat) (e : Entry) : (e.indent k).sorting = e.sorting := by
  rw [sorting, sorting, Entry.indent, List.flatMap_map, List.filterMap_flatMap, List.filterMap_flatMap]
  refine congrArg (List.foldl addSortLine []) (List.flatMap_congr fun r _ => ?_)
  exact filterMap_brokenLines_indentRow k r

theorem grouping?_indent (k : Nat) (e : Entry) : (e.indent k).grouping? = e.grouping? := by
  rw [grouping?, grouping?, Entry.indent, groupPairsFrom_indent]

end Entry

end Notebase.Document
