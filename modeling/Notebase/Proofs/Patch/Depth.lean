import Notebase.Proofs.Document.Depth
import Notebase.Proofs.Patch.Place

/-!
How deep the list of views stands makes no difference. An edit of the view finds its place among
the rows wherever they stand, and what it writes is as deep as what was there. So moving the views
and editing the document can be done in either order, and a list whose dashes stand at the start of
their lines is edited and read like an indented one (`edits_move_with_views`).
-/

namespace Notebase

open Document

/-- Which element is taken out depends on the elements of the list alone. -/
theorem eraseP_congr {α : Type} {p q : α → Bool} {l : List α} (same : ∀ a ∈ l, p a = q a) :
    l.eraseP p = l.eraseP q := by
  induction l with
  | nil => rfl
  | cons a l ih =>
      rw [List.eraseP_cons, List.eraseP_cons, same a List.mem_cons_self,
        ih fun b hb => same b (List.mem_cons_of_mem _ hb)]

/-- Columns are taken out of rows that have moved as they were before. -/
theorem withoutColumns_indent {depth : Nat} {rs : List Text}
    (deeper : ∀ r ∈ rs, isDeeper depth r = true) (k : Nat) (refs : List Text) :
    withoutColumns refs (rs.map (indentRow k)) = (withoutColumns refs rs).map (indentRow k) := by
  induction refs generalizing rs with
  | nil => rfl
  | cons ref refs ih =>
      have first : (rs.map (indentRow k)).eraseP (isColumn ref) =
          (rs.eraseP (isColumn ref)).map (indentRow k) := by
        rw [List.eraseP_map]
        exact congrArg _ (eraseP_congr fun r hr => isColumn_indentRow (deeper r hr) k ref)
      rw [withoutColumns, List.foldl_cons, first]
      exact ih fun r hr => deeper r (List.mem_of_mem_eraseP hr)

section Sited

variable {t : Text} {v : View} {s : Site} (sited : v.Sited s t) (k : Nat)
include sited

/-! ### Places that move -/

/-- A key stands in the view and in the view that has moved, or neither has it. -/
theorem placed_or_absent_indent (key : ViewKey) :
    (∃ e above below, Placed v.dash key.text v.rows e above below ∧
      Placed (v.indentIn k s).dash key.text (v.indentIn k s).rows (e.indent k)
        (above.map (indentRow k)) (below.map (indentRow k))) ∨
    (entryAt? v.dash key.text v.rows = none ∧ viewKey? key.text t = none) ∧
      entryAt? (v.indentIn k s).dash key.text (v.indentIn k s).rows = none ∧
        viewKey? key.text (indentViews k t) = none := by
  have moved := (sited.indent k).firstView?
  rcases placed_or_absent sited.firstView? key with ⟨e, above, below, placed⟩ | ⟨absent, none⟩
  · refine .inl ⟨e, above, below, placed, ?_⟩
    rw [rows_indentIn sited k]
    exact placed.indent k
  · have absent' : entryAt? (v.indentIn k s).dash key.text (v.indentIn k s).rows = Option.none := by
      rw [rows_indentIn sited k]
      exact (entryAt?_indent v.dash k key.text v.rows).trans (by rw [absent, Option.map_none])
    refine .inr ⟨⟨absent, none⟩, absent', ?_⟩
    rw [viewKey?, moved, Option.bind_some, key?_of_entry?_eq_none moved key.plain_text absent',
      Option.map_none]

/-- Rows that are written in the place of others move with the view. -/
theorem exchange_indent {above old new below : List Text} (rows : v.rows = above ++ old ++ below)
    (whole : Whole (above ++ new ++ below)) (notTop : ∀ r ∈ new, isTopKey r = false) :
    indentViews k (v.withRows (above ++ new ++ below)) = (v.indentIn k s).withRows
      (above.map (indentRow k) ++ new.map (indentRow k) ++ below.map (indentRow k)) := by
  have around := (viewRows_rows sited.firstView?).notTopKey
  rw [rows] at around
  rw [indentViews_withRows sited k whole.plain whole.last, List.map_append, List.map_append]
  intro r hr
  simp only [List.mem_append] at hr around
  rcases hr with (h | h) | h
  · exact around r (.inl (.inl h))
  · exact notTop r h
  · exact around r (.inr h)

/-- Another entry in the place of one moves with the view. -/
theorem exchange_entry_indent {key : Text} {e e' : Entry} {above below : List Text}
    (placed : Placed v.dash key v.rows e above below) (valid : e'.Valid v.dash key)
    (plain : Text.Plain e'.rows) :
    indentViews k (v.withRows (above ++ e'.rows ++ below)) = (v.indentIn k s).withRows
      (above.map (indentRow k) ++ (e'.indent k).rows ++ below.map (indentRow k)) := by
  rw [valid.rows_indent]
  exact exchange_indent sited k placed.rows (placed.whole sited.firstView? valid plain)
    valid.notTopKey

/-- An entry after another one moves with the view. -/
theorem insert_entry_indent {key anchor : Text} {e new : Entry} {above below : List Text}
    (placed : Placed v.dash anchor v.rows e above below) (written : new.Written v.dash key) :
    indentViews k (v.withRows (above ++ e.rows ++ new.rows ++ below)) =
      (v.indentIn k s).withRows (above.map (indentRow k) ++ (e.indent k).rows ++
        (new.indent k).rows ++ below.map (indentRow k)) := by
  have whole := placed.whole_insert sited.firstView? written
  rw [List.append_assoc above] at whole ⊢
  rw [placed.valid.rows_indent, written.valid.rows_indent, List.append_assoc (above.map _),
    ← List.map_append]
  refine exchange_indent sited k placed.rows whole fun r hr => ?_
  rcases List.mem_append.mp hr with h | h
  · exact placed.valid.notTopKey r h
  · exact written.valid.notTopKey r h

/-! ### Edits that move -/

/-- Another value of a key moves with the view. -/
theorem exchange_value_indent {key value : Text} {e : Entry} {above below : List Text}
    (placed : Placed v.dash key v.rows e above below) (name : '\n' ∉ key)
    (plain : '\n' ∉ value) :
    indentViews k (v.withRows (above ++ (e.label ++ value) :: e.children ++ below)) =
      (v.indentIn k s).withRows (above.map (indentRow k) ++
        ((e.indent k).label ++ value) :: (e.indent k).children ++ below.map (indentRow k)) := by
  rw [← Entry.rows_withValue, ← Entry.rows_withValue, ← Entry.indent_withValue]
  exact exchange_entry_indent sited k placed (placed.valid.withValue value)
    (plain_rows_withValue placed name plain)

theorem setViewType_indentViews {kind : Text} (plain : '\n' ∉ kind) :
    setViewType kind (indentViews k t) = indentViews k (setViewType kind t) := by
  rcases placed_or_absent_indent sited k .type with
    ⟨e, above, below, placed, placed'⟩ | ⟨⟨-, none⟩, -, none'⟩
  · rw [setViewType_placed sited.firstView? kind placed,
      setViewType_placed (sited.indent k).firstView? kind placed',
      exchange_value_indent sited k placed (by decide) plain]
  · rw [setViewType_of_none none, setViewType_of_none none']

/-- A view is renamed at any depth. -/
theorem renameView_indentViews {name : Text} (plain : '\n' ∉ name) :
    renameView name (indentViews k t) = indentViews k (renameView name t) := by
  have found := sited.firstView?
  have found' := (sited.indent k).firstView?
  rcases placed_or_absent_indent sited k .name with
    ⟨e, above, below, placed, placed'⟩ | ⟨⟨absent, noName⟩, absent', noName'⟩
  · rw [renameView_placed found name placed, renameView_placed found' name placed',
      exchange_value_indent sited k placed (by decide) (plain_quotedName plain)]
  · rcases placed_or_absent_indent sited k .type with
      ⟨e, above, below, placed, placed'⟩ | ⟨⟨-, noType⟩, -, noType'⟩
    · rw [renameView_insert found plain absent placed, renameView_insert found' plain absent' placed',
        insert_entry_indent sited k placed (nameEntry_written v.dash plain), nameEntry_indent]
      rfl
    · rw [renameView_of_none noName noType, renameView_of_none noName' noType']

/-- The block of a key is written as deep as the view stands. -/
theorem setViewBlock_indentViews (key : ViewKey) {block : Nat → Text} {new : Nat → Entry}
    (eq : ∀ dash, block (dash + 2) = Document.unlines (new dash).rows)
    (written : ∀ dash, (new dash).Written dash key.text)
    (moved : ∀ dash, (new dash).indent k = new (dash + k)) :
    setViewBlock key.text block (indentViews k t) =
      indentViews k (setViewBlock key.text block t) := by
  have found := sited.firstView?
  have found' := (sited.indent k).firstView?
  rcases placed_or_absent_indent sited k key with
    ⟨e, above, below, placed, placed'⟩ | ⟨⟨absent, noKey⟩, absent', noKey'⟩
  · rw [setViewBlock_placed found key.plain_text placed (eq _) (written _),
      setViewBlock_placed found' key.plain_text placed' (eq _) (written _),
      exchange_entry_indent sited k placed (written _).valid (written _).plain, moved]
    rfl
  · rcases placed_or_absent_indent sited k .order with
      ⟨e, above, below, placed, placed'⟩ | ⟨⟨-, noOrder⟩, -, noOrder'⟩
    · rw [setViewBlock_insert found key.plain_text absent placed (eq _) (written _),
        setViewBlock_insert found' key.plain_text absent' placed' (eq _) (written _),
        insert_entry_indent sited k placed (written _), moved]
      rfl
    · rw [setViewBlock_of_none noKey noOrder, setViewBlock_of_none noKey' noOrder']

/-- Other rows under a key move with the view. -/
theorem exchange_children_indent {key : Text} {e : Entry} {above below children : List Text}
    (placed : Placed v.dash key v.rows e above below) (plain : Text.Plain children)
    (deeper : ∀ r ∈ children, isDeeper (v.dash + 2) r = true) :
    indentViews k (v.withRows (above ++ e.row :: children ++ below)) =
      (v.indentIn k s).withRows (above.map (indentRow k) ++
        (e.indent k).row :: children.map (indentRow k) ++ below.map (indentRow k)) := by
  have moved := exchange_entry_indent sited k placed (placed.valid.withChildren deeper)
    (plain_rows_withChildren placed plain)
  simpa only [Entry.withChildren, Entry.indent, Entry.rows, Entry.row] using moved

/-- Columns are added at any depth. -/
theorem addColumns_indentViews {refs : List Text} (plain : Text.Plain refs) :
    addColumns refs (indentViews k t) = indentViews k (addColumns refs t) := by
  rcases placed_or_absent_indent sited k .order with
    ⟨e, above, below, placed, placed'⟩ | ⟨⟨-, none⟩, -, none'⟩
  · obtain ⟨plain', deeper⟩ := rows_with_newColumns placed plain
    rw [addColumns_placed sited.firstView? plain placed,
      addColumns_placed (sited.indent k).firstView? plain placed',
      exchange_children_indent sited k placed plain' deeper, placed.valid.columns_indent,
      List.map_append, List.map_map]
    have rows : indentRow k ∘ columnRow v.dash = columnRow (v.indentIn k s).dash :=
      funext fun ref => indentRow_columnRow k v.dash ref
    rw [rows]
    rfl
  · rw [addColumns_of_none none, addColumns_of_none none']

/-- Columns are removed at any depth. -/
theorem removeColumns_indentViews {refs : List Text} (plain : Text.Plain refs) :
    removeColumns refs (indentViews k t) = indentViews k (removeColumns refs t) := by
  rcases placed_or_absent_indent sited k .order with
    ⟨e, above, below, placed, placed'⟩ | ⟨⟨-, none⟩, -, none'⟩
  · have kept := (withoutColumns_sublist refs e.children).subset
    rw [removeColumns_placed sited.firstView? plain placed,
      removeColumns_placed (sited.indent k).firstView? plain placed', Entry.withChildren,
      Entry.withChildren, Entry.rows, Entry.rows, Entry.indent,
      withoutColumns_indent placed.valid.children k refs]
    exact (exchange_children_indent sited k placed
      (fun r hr => plain_rows_of_view placed r (List.mem_cons_of_mem _ (kept hr)))
      fun r hr => placed.valid.children r (kept hr)).symm
  · rw [removeColumns_of_none none, removeColumns_of_none none']

end Sited

/-! ### What is read -/

/-- The outline has the same keys, each `k` spaces deeper. -/
theorem entryAt?_indentViews (k : Nat) (t : Text) (key : ViewKey) :
    (outline (indentViews k t)).entryAt? key = ((outline t).entryAt? key).map (Entry.indent k) := by
  cases found : firstView? t with
  | none =>
      have none := firstView?_indentViews_eq_none k found
      simp [Outline.entryAt?, outline, found, none]
  | some v =>
      obtain ⟨s, sited⟩ := sited_of_firstView? found
      rw [entryAt?_of_found found, entryAt?_of_found (sited.indent k).firstView?, View.panel,
        View.panel, rows_indentIn sited k]
      exact entryAt?_indent v.dash k key.text v.rows

theorem viewValue?_indentViews (k : Nat) (t : Text) (key : ViewKey) :
    viewValue? key.text (indentViews k t) = viewValue? key.text t := by
  rw [viewValue?_eq, viewValue?_eq, entryAt?_indentViews, Option.bind_map]
  exact congrArg (Option.bind _) (funext (Entry.said?_indent k))

theorem viewOrder_indentViews (k : Nat) (t : Text) :
    viewOrder (indentViews k t) = viewOrder t := by
  rw [viewOrder_eq, viewOrder_eq, entryAt?_indentViews]
  cases order_eq : (outline t).entryAt? .order with
  | none => rfl
  | some e =>
      obtain ⟨v, above, below, -, placed⟩ := exists_placed order_eq
      exact placed.valid.columns_indent k

theorem viewSort_indentViews (k : Nat) (t : Text) : viewSort (indentViews k t) = viewSort t := by
  rw [viewSort_eq, viewSort_eq, entryAt?_indentViews, Option.map_map]
  exact congrArg (fun f => (Option.map f _).getD []) (funext (Entry.sorting_indent k))

theorem viewGroupBy?_indentViews (k : Nat) (t : Text) :
    viewGroupBy? (indentViews k t) = viewGroupBy? t := by
  rw [viewGroupBy?_eq, viewGroupBy?_eq, entryAt?_indentViews, Option.bind_map]
  exact congrArg (Option.bind _) (funext (Entry.grouping?_indent k))

/-! ### Any edit at any depth -/

/-- **The depth of the views makes no difference.** An edit of the view does to a document whose
views are `k` spaces deeper what it does to the document, `k` spaces deeper, and both documents say
the same of their first view. -/
theorem edits_move_with_views (k : Nat) (t : Text) :
    (∀ e : Edit, e.aspect ≠ none → Text.Plain e.arguments →
      ∃ t', e.perform t = .ok t' ∧ e.perform (indentViews k t) = .ok (indentViews k t')) ∧
    viewType? (indentViews k t) = viewType? t ∧ viewName? (indentViews k t) = viewName? t ∧
    viewOrder (indentViews k t) = viewOrder t ∧ viewSort (indentViews k t) = viewSort t ∧
    viewGroupBy? (indentViews k t) = viewGroupBy? t := by
  refine ⟨fun e aspect plain => ?_, viewValue?_indentViews k t .type,
    viewValue?_indentViews k t .name, viewOrder_indentViews k t, viewSort_indentViews k t,
    viewGroupBy?_indentViews k t⟩
  refine ⟨e.apply t, Edit.perform_of_aspect aspect t, ?_⟩
  rw [Edit.perform_of_aspect aspect]
  refine congrArg Except.ok ?_
  -- Without a view both texts stay as they are; with one, it is found in both between the same parts.
  cases found : firstView? t with
  | none =>
      rw [Edit.apply_of_no_view found aspect,
        Edit.apply_of_no_view (firstView?_indentViews_eq_none k found) aspect]
  | some v =>
      obtain ⟨s, sited⟩ := sited_of_firstView? found
      cases e with
      | filter test value => exact absurd rfl aspect
      | viewType kind => exact setViewType_indentViews sited k (plain kind List.mem_cons_self)
      | addColumns refs => exact addColumns_indentViews sited k plain
      | removeColumns refs => exact removeColumns_indentViews sited k plain
      | sort property direction =>
          exact setViewBlock_indentViews sited k .sort (renderSort_eq property direction)
            (fun dash => sortEntry_written dash (plain property (by simp [Edit.arguments]))
              (plain direction (by simp [Edit.arguments])))
            (sortEntry_indent k property direction)
      | groupBy property direction =>
          exact setViewBlock_indentViews sited k .groupBy (renderGroupBy_eq property direction)
            (fun dash => groupEntry_written dash (plain property (by simp [Edit.arguments]))
              (plain direction (by simp [Edit.arguments])))
            (groupEntry_indent k property direction)
      | rename name => exact renameView_indentViews sited k (plain name List.mem_cons_self)

/-- Dashes at the start of their lines, and the same list two spaces deeper. -/
theorem sort_at_column_zero_moves :
    indentViews 2 "views:\n- type: table\n  order:\n    - file.name\n".toList =
        "views:\n  - type: table\n    order:\n      - file.name\n".toList ∧
      ∃ t', Edit.perform "views:\n- type: table\n  order:\n    - file.name\n".toList
          (.sort "due".toList "DESC".toList) = .ok t' ∧
        Edit.perform "views:\n  - type: table\n    order:\n      - file.name\n".toList
          (.sort "due".toList "DESC".toList) = .ok (indentViews 2 t') := by
  have moved : indentViews 2 "views:\n- type: table\n  order:\n    - file.name\n".toList =
      "views:\n  - type: table\n    order:\n      - file.name\n".toList := by decide
  refine ⟨moved, ?_⟩
  rw [← moved]
  exact (edits_move_with_views 2 _).1 _ (by decide) (by decide)

end Notebase
