import Notebase.Proofs.Document.Outline
import Notebase.Proofs.Text.Breaks

/-!
Everything that is read off a document is read off its outline (`inspect_eq_summary`). So edits
that have the same effect on the outline cannot be told apart by what the document says.
-/

namespace Notebase

namespace Text

/-! ### Line breaks of other kinds -/

/-- A line end adds an empty piece at most. -/
theorem brokenLines_row_append {r : Text} (t : Text) (plain : '\n' ∉ r) :
    ∃ gap : List Text, (∀ piece ∈ gap, piece = []) ∧
      brokenLines (r ++ '\n' :: t) = brokenLines r ++ gap ++ brokenLines t := by
  induction r with
  | nil =>
      refine ⟨[[]], by simp, ?_⟩
      rw [List.nil_append, brokenLines_break (by decide) (by simp)]
      rfl
  | cons c r ih =>
      rw [List.mem_cons, not_or] at plain
      obtain ⟨gap, empty, eq⟩ := ih plain.2
      have apart : r.head? ≠ some '\n' := fun h => plain.2 (List.mem_of_mem_head? h)
      by_cases brk : isLineBreak c = true
      · by_cases pair : c = '\r' ∧ r = []
        · obtain ⟨rfl, rfl⟩ := pair
          exact ⟨[], by simp, by simp [brokenLines, isLineBreak, Ranges.has]⟩
        · refine ⟨gap, empty, ?_⟩
          have apart' : c = '\r' → (r ++ '\n' :: t).head? ≠ some '\n' := by
            intro hc
            cases r with
            | nil => exact absurd ⟨hc, rfl⟩ pair
            | cons d r => exact apart
          rw [List.cons_append, brokenLines_break brk apart', eq,
            brokenLines_break brk fun _ => apart]
          rfl
      · rw [Bool.not_eq_true] at brk
        cases r with
        | nil =>
            refine ⟨[], by simp, ?_⟩
            have start : brokenLines ('\n' :: t) = [] :: brokenLines t :=
              brokenLines_break (by decide) (by simp)
            rw [List.cons_append, List.nil_append, brokenLines_other brk start]
            simp [brokenLines, brk]
        | cons d r =>
            obtain ⟨piece, rest, brokenLines_eq⟩ :=
              List.exists_cons_of_ne_nil (brokenLines_ne_nil (List.cons_ne_nil d r))
            refine ⟨gap, empty, ?_⟩
            have eq' : brokenLines (d :: r ++ '\n' :: t) =
                piece :: (rest ++ gap ++ brokenLines t) := by
              rw [eq, brokenLines_eq]
              rfl
            rw [List.cons_append, brokenLines_other brk eq', brokenLines_other brk brokenLines_eq]
            rfl

/-- What is read off the pieces between line breaks is read off the rows one by one. -/
theorem filterMap_brokenLines {β : Type} {f : Text → Option β} (empty : f [] = none) (t : Text) :
    (brokenLines t).filterMap f = ((rows t).flatMap brokenLines).filterMap f := by
  generalize h : lines t = ls
  induction ls generalizing t with
  | nil =>
      rw [lines_eq_nil] at h
      subst h
      rfl
  | cons line rest ih =>
      obtain ⟨again, r, plain, shape⟩ := lines_eq_cons h
      have whole : t = line ++ rest.flatten := by
        rw [← flatten_lines t, h, List.flatten_cons]
      rcases shape with rfl | ⟨rfl, ne, rfl⟩
      · obtain ⟨gap, empties, eq⟩ := brokenLines_row_append rest.flatten plain
        have none : gap.filterMap f = [] := by
          rw [List.filterMap_eq_nil_iff]
          intro piece hp
          rw [empties piece hp, empty]
        rw [whole, List.append_assoc, List.singleton_append, eq, rows_row_append _ plain,
          List.flatMap_cons, List.filterMap_append, List.filterMap_append, List.filterMap_append,
          none, List.append_nil, ih _ again]
      · rw [whole, List.flatten_nil, List.append_nil, rows_row plain ne]
        simp

end Text

namespace Document

open Text

/-! ### Lines of a grouping -/

theorem dropWhile_isBlank_spaces (n : Nat) (t : Text) :
    (spaces n ++ t).dropWhile isBlank = t.dropWhile isBlank := by
  refine List.dropWhile_append_of_pos fun c hc => ?_
  rw [List.eq_of_mem_replicate hc]
  decide

theorem dropWhile_isBlank_append_newline (r : Text) : (r ++ ['\n']).dropWhile isBlank =
    if r.dropWhile isBlank = [] then [] else r.dropWhile isBlank ++ ['\n'] := by
  rw [List.dropWhile_append]
  cases h : r.dropWhile isBlank with
  | nil => simp [show isBlank '\n' = true by decide]
  | cons c t => simp

theorem firstWord?_append_newline (t : Text) : firstWord? (t ++ ['\n']) = firstWord? t := by
  rw [firstWord?, firstWord?, dropWhile_isBlank_append_newline]
  by_cases none : t.dropWhile isBlank = []
  · rw [if_pos none, none]
  · have stop : ∀ c ∈ ['\n'].head?, (!isBlank c) = false := by decide
    rw [if_neg none, takeWhile_append_stop stop]

/-- A row of an arrangement is read off a line with its end too. -/
theorem arrangement?_append_newline (t : Text) : arrangement? (t ++ ['\n']) =
    (arrangement? t).map fun (word, written) => (word, written ++ ['\n']) := by
  have one : ∀ word : Text, '\n' ∉ word →
      (after? (word ++ [':']) (t ++ ['\n'])).map (fun v => (word, v)) =
        ((after? (word ++ [':']) t).map fun v => (word, v)).map
          fun (word, written) => (word, written ++ ['\n']) := by
    intro word plain
    rw [after?_append_newline t (by simp [plain]), Option.map_map, Option.map_map]
    rfl
  rw [arrangement?, arrangement?, arrangementWords, List.map_cons, List.map_singleton]
  simp only [List.findSome?_cons, List.findSome?_nil, one _ (show '\n' ∉ "property".toList by decide),
    one _ (show '\n' ∉ "direction".toList by decide)]
  cases (after? ("property".toList ++ [':']) t).map fun v => ("property".toList, v) with
  | some pair => rfl
  | none =>
      cases (after? ("direction".toList ++ [':']) t).map fun v => ("direction".toList, v) with
      | some pair => rfl
      | none => rfl

theorem arrangement?_line (r : Text) : arrangement? ((r ++ ['\n']).dropWhile isBlank) =
    (arrangement? (r.dropWhile isBlank)).map fun (word, written) => (word, written ++ ['\n']) := by
  rw [dropWhile_isBlank_append_newline]
  split
  · next h =>
      rw [h]
      decide
  · exact arrangement?_append_newline _

/-- A grouping is read off the rows. -/
theorem groupPairsFrom_content {t : Text} {ls : List Text} (mem : ∀ l ∈ ls, l ∈ t.lines)
    (skip : Nat) : groupPairsFrom skip (ls.map content) = groupPairsFrom skip ls := by
  induction ls generalizing skip with
  | nil => cases skip <;> rfl
  | cons l ls ih =>
      have rest := ih fun l' hl => mem l' (List.mem_cons_of_mem _ hl)
      have next : ((ls.map content).head?.bind firstWord?) = ls.head?.bind firstWord? := by
        cases ls with
        | nil => rfl
        | cons l' ls =>
            rw [List.map_cons, List.head?_cons, List.head?_cons, Option.bind_some, Option.bind_some]
            obtain ⟨r, -, eq, rfl | rfl⟩ := shape_of_mem_lines (mem l' (by simp))
            · rw [eq]
            · rw [eq, firstWord?_append_newline]
      cases skip with
      | succ skip => exact rest skip
      | zero =>
          obtain ⟨r, -, eq, same | joined⟩ := shape_of_mem_lines (mem l (by simp))
          · rw [List.map_cons, eq, same]
            simp only [groupPairsFrom, next, rest]
          · rw [List.map_cons, eq, joined]
            simp only [groupPairsFrom, next, rest, arrangement?_line]
            cases arrangement? (r.dropWhile isBlank) with
            | none => rfl
            | some pair => simp only [Option.map_some, firstWord?_append_newline]

/-! ### What an outline says -/

namespace Entry

def said? (e : Entry) : Option Text :=
  match unquote e.value with
  | [] => none
  | v => some v

def sorting (e : Entry) : List (Dict Text Text) :=
  ((e.children.flatMap brokenLines).filterMap sortLine?).foldl addSortLine []

def grouping? (e : Entry) : Option (Dict Text Text) :=
  match Dict.ofList (groupPairsFrom 0 e.children) with
  | [] => none
  | d => some d

end Entry

def shownNames (ls : List Text) : Dict Text Text :=
  Dict.ofList ((shownNamesFrom 0 ls).filterMap fun (ref, written) =>
    match unquote written with
    | [] => none
    | name => some (name.lower, ref))

def Outline.summary (o : Outline) : Summary where
  filterEntries := ((o.filters.getD []).filterMap listItem?).map unquote
  viewType := (o.entryAt? .type).bind Entry.said?
  viewName := (o.entryAt? .name).bind Entry.said?
  viewOrder := ((o.entryAt? .order).map Entry.columns).getD []
  viewSort := ((o.entryAt? .sort).map Entry.sorting).getD []
  viewGroupBy := (o.entryAt? .groupBy).bind Entry.grouping?
  formulaNames := (o.formulas.getD []).filterMap formulaName?
  displayNames := shownNames (o.properties.getD [])

section Keys

variable {t : Text}

/-- A key that is found, as the outline has it. -/
theorem entryAt?_eq_map (t : Text) (key : ViewKey) :
    (outline t).entryAt? key = (viewKey? key.text t).map fun (_, k) => k.entry := by
  cases found : firstView? t with
  | none => simp [Outline.entryAt?, outline, viewKey?, found]
  | some v =>
      rw [entryAt?_of_found found, viewKey?, found, Option.bind_some, Option.map_map]
      exact entryAt?_rows found key.plain_text

/-- The lines below a key of the view are lines of the document. -/
theorem mem_lines_of_viewKey? {key : Text} {v : View} {k : Key}
    (found : viewKey? key t = some (v, k)) : ∀ l ∈ k.children, l ∈ t.lines := by
  rw [viewKey?, Option.bind_eq_some_iff] at found
  obtain ⟨v', isView, isKey⟩ := found
  rw [Option.map_eq_some_iff] at isKey
  obtain ⟨k', isKey, eq⟩ := isKey
  cases eq
  intro l hl
  refine mem_lines_of_view isView ?_
  rw [lines_of_key? isKey]
  simp [hl]

/-- The lines below a key of the view are whole. -/
theorem lines_children_of_viewKey? {key : Text} {v : View} {k : Key}
    (found : viewKey? key t = some (v, k)) : Text.lines k.children.flatten = k.children := by
  rw [viewKey?, Option.bind_eq_some_iff] at found
  obtain ⟨v', isView, isKey⟩ := found
  rw [Option.map_eq_some_iff] at isKey
  obtain ⟨k', isKey, eq⟩ := isKey
  cases eq
  have lines : Text.lines v.lines.flatten = (k.before ++ [k.line]) ++ (k.children ++ k.after) := by
    rw [lines_flatten_view isView, lines_of_key? isKey]
    simp
  exact (lines_eq_append (lines_eq_append lines).2.1).1

theorem viewValue?_eq (t : Text) (key : ViewKey) :
    viewValue? key.text t = ((outline t).entryAt? key).bind Entry.said? := by
  rw [viewValue?, entryAt?_eq_map]
  cases viewKey? key.text t with
  | none => rfl
  | some pair => rfl

/-- The columns are those of the entry for them, if the view has one. -/
theorem viewOrder_eq (t : Text) :
    viewOrder t = (((outline t).entryAt? .order).map Entry.columns).getD [] := by
  cases order_eq : (outline t).entryAt? .order with
  | none =>
      rw [viewOrder, viewChildren, show "order".toList = ViewKey.order.text from rfl,
        viewKey?_eq_none order_eq]
      rfl
  | some e =>
      obtain ⟨v, above, below, found, placed⟩ := exists_placed order_eq
      exact viewOrder_placed found placed

theorem viewSort_eq (t : Text) :
    viewSort t = (((outline t).entryAt? .sort).map Entry.sorting).getD [] := by
  rw [viewSort, viewChildren, entryAt?_eq_map, show "sort".toList = ViewKey.sort.text from rfl]
  cases found : viewKey? ViewKey.sort.text t with
  | none => rfl
  | some pair =>
      have lines := lines_children_of_viewKey? found
      dsimp only
      rw [filterMap_brokenLines (by decide), rows, lines]
      rfl

theorem viewGroupBy?_eq (t : Text) :
    viewGroupBy? t = ((outline t).entryAt? .groupBy).bind Entry.grouping? := by
  rw [viewGroupBy?, viewChildren, entryAt?_eq_map,
    show "groupBy".toList = ViewKey.groupBy.text from rfl]
  cases found : viewKey? ViewKey.groupBy.text t with
  | none => rfl
  | some pair =>
      dsimp only
      rw [← groupPairsFrom_content (mem_lines_of_viewKey? found)]
      rfl

end Keys

theorem blockOf?_lines (key t : Text) :
    (blockOf? key t.lines).getD [] = ((block? key t).map Block.lines).getD [] := by
  rw [map_lines_block?]

theorem filterEntries_eq (t : Text) :
    filterEntries t = (((outline t).filters.getD []).filterMap listItem?).map unquote := by
  rw [filterEntries, outline, blockOf?_lines]
  cases block? "filters".toList t <;> rfl

theorem formulaNames_eq (t : Text) :
    formulaNames t = ((outline t).formulas.getD []).filterMap formulaName? := by
  rw [formulaNames, outline, blockOf?_lines]
  cases block? "formulas".toList t <;> rfl

theorem displayNames_eq (t : Text) :
    displayNames t = shownNames ((outline t).properties.getD []) := by
  rw [displayNames, outline, blockOf?_lines]
  cases block? "properties".toList t <;> rfl

/-- **What a document says is what its outline says.** -/
theorem inspect_eq_summary (t : Text) : inspect t = (outline t).summary := by
  rw [inspect, Outline.summary, filterEntries_eq, viewOrder_eq, viewSort_eq, viewGroupBy?_eq,
    formulaNames_eq, displayNames_eq, viewType?, viewName?,
    show "type".toList = ViewKey.type.text from rfl, viewValue?_eq,
    show "name".toList = ViewKey.name.text from rfl, viewValue?_eq]

end Document

end Notebase
