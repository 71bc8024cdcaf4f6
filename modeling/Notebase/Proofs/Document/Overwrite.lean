import Notebase.Proofs.Document.Predicate

/-!
An edit over an earlier one of the same kind. The later edit finds exactly what the earlier one
wrote, whether that stands in the place of an older value or on rows of its own, and writes over
it, so the document is the same as if the earlier edit had not been made.
-/

namespace Notebase.Document

open Text

/-! ### Keys of the first view -/

section Found

variable {t : Text} {v : View} (found : firstView? t = some v)
include found

/-- An entry that is written in the place of another stands there in the new document. -/
theorem exists_placed_exchange {key : Text} {e e' : Entry} {above below : List Text}
    (placed : Placed v.dash key v.rows e above below) (valid : e'.Valid v.dash key)
    (plain : Plain e'.rows) (front : dashFront v.dash <+: e'.label ↔ dashFront v.dash <+: e.label) :
    ∃ v', firstView? (v.withRows (above ++ e'.rows ++ below)) = some v' ∧ v'.dash = v.dash ∧
      Placed v'.dash key v'.rows e' above below ∧ ∀ rs, v'.withRows rs = v.withRows rs := by
  obtain ⟨v', found', dash, rows, again⟩ :=
    exists_again found (viewRows_exchange (viewRows_rows found) placed valid plain front)
  refine ⟨v', found', dash, ?_, again⟩
  rw [dash, rows]
  exact ⟨rfl, valid, placed.above, placed.below⟩

/-- An entry that is written after another stands there in the new document. -/
theorem exists_placed_insert {key anchor : Text} {e new : Entry} {above below : List Text}
    (none : entryAt? v.dash key v.rows = none) (placed : Placed v.dash anchor v.rows e above below)
    (written : new.Written v.dash key) :
    ∃ v', firstView? (v.withRows (above ++ e.rows ++ new.rows ++ below)) = some v' ∧
      v'.dash = v.dash ∧ Placed v'.dash key v'.rows new (above ++ e.rows) below ∧
        ∀ rs, v'.withRows rs = v.withRows rs := by
  obtain ⟨v', found', dash, rows, again⟩ :=
    exists_again found (viewRows_insert (viewRows_rows found) placed written)
  refine ⟨v', found', dash, ?_, again⟩
  rw [dash, rows]
  refine ⟨rfl, written.valid, fun r hr => entryAt?_eq_none_iff.mp none r ?_, placed.below⟩
  rw [placed.rows]
  exact List.mem_append_left _ hr

/-- A value without blanks at its start can be written over: the label is the one that was there
before. -/
theorem exists_placed_withValue {key : Text} {e : Entry} {above below : List Text} {value : Text}
    (placed : Placed v.dash key v.rows e above below) (name : '\n' ∉ key) (plain : '\n' ∉ value)
    (flush : Flush value) :
    ∃ v', firstView? (v.withRows (above ++ (e.label ++ value) :: e.children ++ below)) = some v' ∧
      Placed v'.dash key v'.rows ⟨e.label, value, e.children⟩ above below ∧
        ∀ rs, v'.withRows rs = v.withRows rs := by
  obtain ⟨v', found', -, placed', again⟩ := exists_placed_exchange found placed
    (placed.valid.withValue value) (plain_rows_withValue placed name plain)
    (placed.valid.dashFront_withValue value)
  rw [Entry.rows_withValue] at found'
  rw [e.withValue_of_flush flush] at placed'
  exact ⟨v', found', placed', again⟩

/-- Other rows under a key stand there in the new document. -/
theorem exists_placed_withChildren {key : Text} {e : Entry} {above below children : List Text}
    (placed : Placed v.dash key v.rows e above below) (plain : Plain children)
    (deeper : ∀ r ∈ children, isDeeper (v.dash + 2) r = true) :
    ∃ v', firstView? (v.withRows (above ++ e.row :: children ++ below)) = some v' ∧
      v'.dash = v.dash ∧ Placed v'.dash key v'.rows (e.withChildren children) above below ∧
        ∀ rs, v'.withRows rs = v.withRows rs := by
  have rows : (e.withChildren children).rows = e.row :: children := rfl
  rw [← rows]
  exact exists_placed_exchange found placed (placed.valid.withChildren deeper)
    (plain_rows_withChildren placed plain) Iff.rfl

end Found

/-- **The kind that is set last** is the kind. -/
theorem setViewType_setViewType {old : Text} (plain : '\n' ∉ old) (flush : Flush old)
    (kind t : Text) : setViewType kind (setViewType old t) = setViewType kind t := by
  cases type_eq : (outline t).entryAt? .type with
  | none => exact congrArg (setViewType kind) (setViewType_of_none (viewKey?_eq_none type_eq))
  | some e =>
      obtain ⟨v, above, below, found, placed⟩ := exists_placed type_eq
      obtain ⟨v', found', placed', again⟩ :=
        exists_placed_withValue found placed (by decide) plain flush
      rw [setViewType_placed found old placed, setViewType_placed found kind placed,
        setViewType_placed found' kind placed', again]

/-- **The name that is given last** is the name. -/
theorem renameView_renameView {old name : Text} (plain : '\n' ∉ old) (plain' : '\n' ∉ name)
    (t : Text) : renameView name (renameView old t) = renameView name t := by
  cases name_eq : (outline t).entryAt? .name with
  | some e =>
      obtain ⟨v, above, below, found, placed⟩ := exists_placed name_eq
      obtain ⟨v', found', placed', again⟩ := exists_placed_withValue found placed (by decide)
        (plain_quotedName plain) (flush_quotedName old)
      rw [renameView_placed found old placed, renameView_placed found name placed,
        renameView_placed found' name placed', again]
  | none =>
      cases kind : (outline t).entryAt? .type with
      | none =>
          exact congrArg (renameView name)
            (renameView_of_none (viewKey?_eq_none name_eq) (viewKey?_eq_none kind))
      | some e =>
          obtain ⟨v, above, below, found, placed⟩ := exists_placed kind
          rw [entryAt?_of_found found] at name_eq
          obtain ⟨v', found', -, placed', again⟩ :=
            exists_placed_insert found name_eq placed (nameEntry_written v.dash plain)
          rw [renameView_insert found plain name_eq placed,
            renameView_insert found plain' name_eq placed,
            renameView_placed found' name placed', again]
          rfl

/-- **The block that is written last** for a key that does not open the view is its block. -/
theorem setViewBlock_setViewBlock (key : ViewKey) {block block' : Nat → Text}
    {old new : Nat → Entry} (eq : ∀ dash, block (dash + 2) = unlines (old dash).rows)
    (eq' : ∀ dash, block' (dash + 2) = unlines (new dash).rows)
    (written : ∀ dash, (old dash).Written dash key.text)
    (written' : ∀ dash, (new dash).Written dash key.text) {t : Text}
    (bare : ∀ p ∈ (outline t).view, ∀ e ∈ p.entry key, ¬ dashFront p.dash <+: e.label) :
    setViewBlock key.text block' (setViewBlock key.text block t) =
      setViewBlock key.text block' t := by
  cases entry_eq : (outline t).entryAt? key with
  | some e =>
      obtain ⟨v, above, below, found, placed⟩ := exists_placed entry_eq
      rw [entryAt?_of_found found] at entry_eq
      have front := iff_of_false (not_dashFront_of_spaces (written v.dash).front)
        (bare v.panel (by simp [outline, found]) e entry_eq)
      obtain ⟨v', found', dash, placed', again⟩ := exists_placed_exchange found placed
        (written v.dash).valid (written v.dash).plain front
      rw [setViewBlock_placed found key.plain_text placed (eq v.dash) (written v.dash),
        setViewBlock_placed found key.plain_text placed (eq' v.dash) (written' v.dash),
        setViewBlock_placed found' key.plain_text placed' (eq' v'.dash) (written' v'.dash), again,
        dash]
  | none =>
      cases order : (outline t).entryAt? .order with
      | none =>
          exact congrArg (setViewBlock key.text block')
            (setViewBlock_of_none (viewKey?_eq_none entry_eq) (viewKey?_eq_none order))
      | some e =>
          obtain ⟨v, above, below, found, placed⟩ := exists_placed order
          rw [entryAt?_of_found found] at entry_eq
          obtain ⟨v', found', dash, placed', again⟩ :=
            exists_placed_insert found entry_eq placed (written v.dash)
          rw [setViewBlock_insert found key.plain_text entry_eq placed (eq v.dash) (written v.dash),
            setViewBlock_insert found key.plain_text entry_eq placed (eq' v.dash) (written' v.dash),
            setViewBlock_placed found' key.plain_text placed' (eq' v'.dash) (written' v'.dash),
            again, dash]

section Arrangement

variable {property direction property' direction' t : Text} (plain : '\n' ∉ property)
  (plainDirection : '\n' ∉ direction) (plain' : '\n' ∉ property')
  (plainDirection' : '\n' ∉ direction')
include plain plainDirection plain' plainDirection'

theorem setSort_setSort
    (bare : ∀ p ∈ (outline t).view, ∀ e ∈ p.entry .sort, ¬ dashFront p.dash <+: e.label) :
    setSort property' direction' (setSort property direction t) = setSort property' direction' t :=
  setViewBlock_setViewBlock .sort (renderSort_eq property direction)
    (renderSort_eq property' direction') (fun dash => sortEntry_written dash plain plainDirection)
    (fun dash => sortEntry_written dash plain' plainDirection') bare

theorem setGroupBy_setGroupBy
    (bare : ∀ p ∈ (outline t).view, ∀ e ∈ p.entry .groupBy, ¬ dashFront p.dash <+: e.label) :
    setGroupBy property' direction' (setGroupBy property direction t) =
      setGroupBy property' direction' t :=
  setViewBlock_setViewBlock .groupBy (renderGroupBy_eq property direction)
    (renderGroupBy_eq property' direction')
    (fun dash => groupEntry_written dash plain plainDirection)
    (fun dash => groupEntry_written dash plain' plainDirection') bare

end Arrangement

/-! ### Predicates -/

/-- The predicate in new filters can be exchanged for another one. -/
theorem replace_newFilters {t : Text} {b : Block} (before : b.before = [])
    (after : b.after = (t.lines.dropWhile isEmptyLine).dropWhile (!isTopKey ·)) (predicate : Text) :
    b.replace (filterLines predicate ++ leading t).flatten = prependFilters predicate t := by
  have rest : (leading t).flatten ++ b.after.flatten = t.dropWhile (· == '\n') := by
    rw [after, ← List.flatten_append, leading, List.takeWhile_append_dropWhile,
      ← lines_dropWhile_newline, flatten_lines]
  have text : (filterLines predicate).flatten = unlines (filterRows predicate) := rfl
  rw [Block.replace, before, List.flatten_append, List.flatten_nil, List.nil_append,
    List.append_assoc, rest, text, ← newFilters_eq, prependFilters]

/-- **The value that a test gets last** is its value. -/
theorem setFilterPredicate_setFilterPredicate {test old : Text} (word : test.all isWordChar = true)
    (plain : '\n' ∉ old) (open? : old.head? ≠ some ')') (value t : Text) :
    setFilterPredicate test value (setFilterPredicate test old t) =
      setFilterPredicate test value t := by
  have noEnd : '\n' ∉ test := not_mem_of_word word (by decide)
  cases filters : block? "filters".toList t with
  | some b =>
      have lines_eq := lines_flatten_block filters
      obtain ⟨block', ends⟩ := isBlock_setPredicate lines_eq (isBlock_of_block? filters) noEnd plain
      obtain ⟨b', filters', before, lines, after⟩ := exists_block?_replace filters block' ends
      rw [setFilterPredicate_of_block? filters, setFilterPredicate_of_block? filters,
        setFilterPredicate_of_block? filters', lines, setPredicate_setPredicate word lines_eq open?,
        Block.replace, Block.replace, before, after]
  | none =>
      have new : ∀ value, setFilterPredicate test value t =
          prependFilters (filePredicate test value) t := fun value => by
        rw [setFilterPredicate, filters]
      obtain ⟨b, filters', before, lines, after⟩ :=
        exists_block?_prependFilters (plain_filePredicate noEnd plain) t
      have eq := lines_flatten_block filters'
      have again := (slot_filterLines word (leading t)).setPredicate word open? value
      rw [lines] at eq
      rw [eq] at again
      rw [new, new, setFilterPredicate_of_block? filters', lines, again,
        replace_newFilters before after]

end Notebase.Document
