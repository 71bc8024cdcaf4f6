import Notebase.Proofs.Patch.Act
import Notebase.Proofs.Patch.Columns

/-!
Edits that have been made. Making an edit again changes nothing (`apply_apply`), and it stays so
when an edit of another aspect is made (`apply_stays`). So after a run of edits every edit of the
run has been made (`apply_foldl_apply`).
-/

namespace Notebase

open Document

/-! ### Edits that leave the outline alone -/

namespace Document

section Same

variable {t : Text}

theorem setFilterPredicate_eq_self {test value : Text} {ls : List Text}
    (filters : (outline t).filters = some ls) (same : setPredicate test value ls = ls.flatten) :
    setFilterPredicate test value t = t := by
  rw [outline, ← map_lines_block?, Option.map_eq_some_iff] at filters
  obtain ⟨b, found, rfl⟩ := filters
  rw [setFilterPredicate_of_block? found, same]
  exact replace_lines_of_block? found

variable {f : Panel → Panel} (same : (outline t).onView f = outline t)
include same

theorem panel_same {v : View} (found : firstView? t = some v) : f v.panel = v.panel := by
  have view := congrArg Outline.view same
  rw [Outline.onView, outline, found] at view
  exact Option.some.inj view

theorem entry_same {v : View} {key : ViewKey} {e e' : Entry} (found : firstView? t = some v)
    (present : v.panel.entry key = some e) (eq : f v.panel = v.panel.set key e') : e' = e := by
  have whole := (eq.symm.trans (panel_same same found))
  have entries := congrArg (fun p : Panel => p.entry key) whole
  rw [Panel.entry_set_self, present] at entries
  exact Option.some.inj entries

end Same

section Edits

variable {t : Text}

/-- Setting a kind that the view has changes no character. -/
theorem setViewType_same {kind : Text}
    (same : (outline t).onView (Panel.setType kind) = outline t) : setViewType kind t = t := by
  cases type_eq : (outline t).entryAt? .type with
  | none => exact setViewType_of_none (viewKey?_eq_none type_eq)
  | some e =>
      obtain ⟨v, above, below, found, placed⟩ := exists_placed type_eq
      rw [entryAt?_of_found found] at type_eq
      have again := entry_same same found type_eq (by rw [Panel.setType, type_eq])
      rw [setViewType_placed found kind placed, ← Entry.rows_withValue, again]
      exact withRows_placed found placed

/-- Giving a view the name that it has changes no character. -/
theorem renameView_same {name : Text}
    (same : (outline t).onView (Panel.rename name) = outline t) : renameView name t = t := by
  cases name_eq : (outline t).entryAt? .name with
  | some e =>
      obtain ⟨v, above, below, found, placed⟩ := exists_placed name_eq
      rw [entryAt?_of_found found] at name_eq
      have again := entry_same same found name_eq (by rw [Panel.rename, name_eq])
      rw [renameView_placed found name placed, ← Entry.rows_withValue, again]
      exact withRows_placed found placed
  | none =>
      cases kind : (outline t).entryAt? .type with
      | none => exact renameView_of_none (viewKey?_eq_none name_eq) (viewKey?_eq_none kind)
      | some e =>
          -- A view with a kind gets the name, so it is not as it was.
          obtain ⟨v, above, below, found, placed⟩ := exists_placed kind
          rw [entryAt?_of_found found] at name_eq kind
          have named := congrArg (fun p : Panel => p.entry .name) (panel_same same found)
          rw [Panel.rename, name_eq, kind] at named
          dsimp only at named
          rw [Panel.entry_set_self] at named
          cases named

/-- Adding columns that are there changes no character. -/
theorem addColumns_same {refs : List Text} (plain : Text.Plain refs)
    (same : (outline t).onView (Panel.addColumns refs) = outline t) : addColumns refs t = t := by
  cases order_eq : (outline t).entryAt? .order with
  | none => exact addColumns_of_none (viewKey?_eq_none order_eq)
  | some e =>
      obtain ⟨v, above, below, found, placed⟩ := exists_placed order_eq
      rw [entryAt?_of_found found] at order_eq
      have again := entry_same same found order_eq (by rw [Panel.addColumns, order_eq])
      have children : e.children ++ (newColumns e.columns refs).map (columnRow v.panel.dash) =
          e.children := congrArg Entry.children again
      have none : newColumns e.columns refs = [] := by simpa using children
      rw [addColumns_placed found plain placed, none, List.map_nil, List.append_nil]
      exact withRows_placed found placed

/-- Removing columns that are not there changes no character. -/
theorem removeColumns_same {refs : List Text} (plain : Text.Plain refs)
    (same : (outline t).onView (Panel.removeColumns refs) = outline t) :
    removeColumns refs t = t := by
  cases order_eq : (outline t).entryAt? .order with
  | none => exact removeColumns_of_none (viewKey?_eq_none order_eq)
  | some e =>
      obtain ⟨v, above, below, found, placed⟩ := exists_placed order_eq
      rw [entryAt?_of_found found] at order_eq
      have again := entry_same same found order_eq (Panel.removeColumns_eq order_eq refs)
      rw [removeColumns_placed found plain placed, again]
      exact withRows_placed found placed

/-- Writing a block that stands there changes no character. -/
theorem setViewBlock_same (key : ViewKey) {block : Nat → Text} {new : Nat → Entry}
    (eq : ∀ dash, block (dash + 2) = Document.unlines (new dash).rows)
    (written : ∀ dash, (new dash).Written dash key.text)
    (same : (outline t).onView (Panel.put key new) = outline t) :
    setViewBlock key.text block t = t := by
  cases entry_eq : (outline t).entryAt? key with
  | some e =>
      obtain ⟨v, above, below, found, placed⟩ := exists_placed entry_eq
      rw [entryAt?_of_found found] at entry_eq
      have again := entry_same same found entry_eq (by rw [Panel.put, entry_eq]; rfl)
      rw [setViewBlock_placed found key.plain_text placed (eq v.dash) (written v.dash)]
      have rows : new v.dash = e := again
      rw [rows]
      exact withRows_placed found placed
  | none =>
      cases order : (outline t).entryAt? .order with
      | none => exact setViewBlock_of_none (viewKey?_eq_none entry_eq) (viewKey?_eq_none order)
      | some e =>
          -- A view with columns gets the block, so it is not as it was.
          obtain ⟨v, above, below, found, placed⟩ := exists_placed order
          rw [entryAt?_of_found found] at entry_eq order
          have put := congrArg (fun p : Panel => p.entry key) (panel_same same found)
          rw [Panel.put, entry_eq, order, Option.isSome_some, Bool.or_true, if_pos rfl,
            Panel.entry_set_self] at put
          cases put

end Edits

end Document

/-- **An edit that leaves the outline alone leaves the document alone.** -/
theorem apply_eq_self {e : Edit} (plain : e.Plain) {t : Text} (same : e.act (outline t) = outline t) :
    e.apply t = t := by
  obtain ⟨arguments, word⟩ := plain
  cases e with
  | filter test value =>
      have filters := congrArg Outline.filters same
      rw [show Edit.act (outline t) (.filter test value) = (outline t).setFilter test value from rfl,
        Outline.setFilter] at filters
      -- Without a block the edit writes one, so the outline is not the same.
      cases filters_eq : (outline t).filters with
      | none =>
          rw [filters_eq] at filters
          cases filters
      | some ls =>
          rw [filters_eq] at filters
          have lines := congrArg List.flatten (Option.some.inj filters)
          rw [Text.flatten_lines] at lines
          exact setFilterPredicate_eq_self filters_eq lines
  | viewType kind => exact setViewType_same same
  | addColumns refs => exact addColumns_same arguments same
  | removeColumns refs => exact removeColumns_same arguments same
  | sort property direction =>
      exact setViewBlock_same .sort (renderSort_eq property direction)
        (fun dash => sortEntry_written dash (arguments property (by simp [Edit.arguments]))
          (arguments direction (by simp [Edit.arguments]))) same
  | groupBy property direction =>
      exact setViewBlock_same .groupBy (renderGroupBy_eq property direction)
        (fun dash => groupEntry_written dash (arguments property (by simp [Edit.arguments]))
          (arguments direction (by simp [Edit.arguments]))) same
  | rename name => exact renameView_same same

/-! ### Edits that are made again -/

/-- An edit that can be made again without effect: the value of a predicate has no parenthesis,
a kind starts with no blank, and references can be read off the rows that they are written on. -/
def Edit.Steady : Edit → Prop
  | .filter _ value => '(' ∉ value ∧ ')' ∉ value
  | .viewType kind => Flush kind
  | .addColumns refs => ∀ ref ∈ refs, Tidy ref
  | .removeColumns refs => ∀ ref ∈ refs, Tidy ref
  | _ => True

theorem Edit.Steady.head {test value : Text} (steady : Edit.Steady (.filter test value)) :
    value.head? ≠ some ')' := fun first => steady.2 (List.mem_of_head? first)

section Runs

variable {t : Text}

theorem lines_of_filters {ls : List Text} (filters : (outline t).filters = some ls) :
    Text.lines ls.flatten = ls := by
  rw [outline, ← map_lines_block?, Option.map_eq_some_iff] at filters
  obtain ⟨b, found, rfl⟩ := filters
  exact lines_flatten_block found

/-- **Making an edit again** changes nothing. -/
theorem apply_apply {e : Edit} (plain : e.Plain) (steady : e.Steady) (bare : (outline t).Bare)
    (distinct : (viewOrder t).Nodup) : e.apply (e.apply t) = e.apply t := by
  have arguments := plain.arguments
  cases e with
  | filter test value =>
      exact setFilterPredicate_setFilterPredicate plain.word
        (arguments value (by simp [Edit.arguments])) steady.head value t
  | viewType kind =>
      exact setViewType_setViewType (arguments kind (by simp [Edit.arguments])) steady kind t
  | addColumns refs =>
      refine apply_eq_self plain ?_
      rw [outline_apply plain bare]
      show ((outline t).onView (Panel.addColumns refs)).onView (Panel.addColumns refs) =
        (outline t).onView (Panel.addColumns refs)
      rw [onView_onView]
      exact congrArg (Outline.onView · _) (funext (Panel.addColumns_addColumns steady))
  | removeColumns refs =>
      refine apply_eq_self plain ?_
      rw [outline_apply plain bare]
      show ((outline t).onView (Panel.removeColumns refs)).onView (Panel.removeColumns refs) =
        (outline t).onView (Panel.removeColumns refs)
      rw [onView_onView]
      -- The references of the view that is there are distinct; without a view nothing is removed.
      cases found : firstView? t with
      | none => simp [Outline.onView, outline, found]
      | some v =>
          rw [viewOrder_of_found found] at distinct
          exact outline_onView_congr found (Panel.removeColumns_removeColumns steady distinct)
  | sort property direction =>
      have plainProperty := arguments property (by simp [Edit.arguments])
      have plainDirection := arguments direction (by simp [Edit.arguments])
      exact setSort_setSort plainProperty plainDirection plainProperty plainDirection
        fun p hp => bare p hp .sort (by simp)
  | groupBy property direction =>
      have plainProperty := arguments property (by simp [Edit.arguments])
      have plainDirection := arguments direction (by simp [Edit.arguments])
      exact setGroupBy_setGroupBy plainProperty plainDirection plainProperty plainDirection
        fun p hp => bare p hp .groupBy (by simp)
  | rename name =>
      have plainName := arguments name (by simp [Edit.arguments])
      exact renameView_renameView plainName plainName t

/-- Edits that leave each other's effect alone: they are about different aspects, or set predicates
with different tests, the first of them to a simple value. -/
def Edit.Apart (e e' : Edit) : Prop :=
  e.aspect ≠ e'.aspect ∨ ∃ test value test' value', e = .filter test value ∧
    e' = .filter test' value' ∧ test ≠ test' ∧ Simple value

/-- **An edit that has been made stays so** when another one is made. -/
theorem apply_stays {e e' : Edit} (plain : e.Plain) (plain' : e'.Plain) (steady' : e'.Steady)
    (apart : e.Apart e') (bare : (outline t).Bare) (same : e.apply t = t) :
    e.apply (e'.apply t) = e'.apply t := by
  refine apply_eq_self plain ?_
  have act : e.act (outline t) = outline t := by rw [← outline_apply plain bare, same]
  rw [outline_apply plain' bare]
  rcases apart with ne | ⟨test, value, test', value', rfl, rfl, ne, simple⟩
  · rw [act_comm ne, act]
  · have value_ : '\n' ∉ value' := plain'.arguments value' (by simp [Edit.arguments])
    have filters := congrArg Outline.filters act
    show ((outline t).setFilter test' value').setFilter test value =
      (outline t).setFilter test' value'
    rw [show Edit.act (outline t) (.filter test value) = (outline t).setFilter test value from rfl]
      at filters
    cases filters_eq : (outline t).filters with
    | none =>
        simp only [Outline.setFilter, filters_eq] at filters
        cases filters
    | some ls =>
        simp only [Outline.setFilter, filters_eq, Option.some_inj] at filters ⊢
        have settled := congrArg List.flatten filters
        rw [Text.flatten_lines] at settled
        rw [setPredicate_stays plain.word plain'.word ne steady' value_ simple
          (lines_of_filters filters_eq) settled]

/-- An edit of another aspect leaves the columns alone. -/
theorem Edit.columns_onPanel {e : Edit} (ne : e.aspect ≠ some .order) (p : Panel) :
    (e.onPanel p).columns = p.columns := by
  cases aspect : e.aspect with
  | none =>
      cases e with
      | filter test value => rfl
      | _ => cases aspect
  | some key =>
      have apart : key ≠ .order := by
        rintro rfl
        exact ne aspect
      rw [Panel.columns, Panel.columns, (local_onPanel aspect).frame p .order apart.symm]

/-- A steady edit leaves distinct columns distinct. -/
theorem nodup_columns {e : Edit} (steady : e.Steady) {p : Panel} (distinct : p.columns.Nodup) :
    (e.onPanel p).columns.Nodup := by
  cases e with
  | addColumns refs =>
      show (p.addColumns refs).columns.Nodup
      cases order_eq : p.entry .order with
      | none => rwa [Panel.addColumns, order_eq]
      | some e =>
          rw [Panel.columns_of_entry order_eq] at distinct
          rw [Panel.columns_addColumns steady order_eq]
          exact distinct.append (nodup_eraseDups _) fun ref old added =>
            (mem_newColumns.mp added).2.1 old
  | removeColumns refs =>
      show (p.removeColumns refs).columns.Nodup
      rw [Panel.columns_removeColumns steady]
      exact List.Nodup.diff distinct
  | _ => rwa [Edit.columns_onPanel (by simp [Edit.aspect]) p]

/-- No edit makes a column stand twice. -/
theorem nodup_viewOrder_apply {e : Edit} (plain : e.Plain) (steady : e.Steady)
    (bare : (outline t).Bare) (distinct : (viewOrder t).Nodup) : (viewOrder (e.apply t)).Nodup := by
  rw [viewOrder_eq_columns, outline_apply plain bare, Outline.columns, e.view_act]
  rw [viewOrder_eq_columns, Outline.columns] at distinct
  cases view_eq : (outline t).view with
  | none => simp
  | some p =>
      rw [view_eq] at distinct
      exact nodup_columns steady distinct

/-- An edit that has been made stays so through a run of edits. -/
theorem stays_foldl_apply {e : Edit} {es : List Edit} (plain : e.Plain)
    (plains : ∀ e' ∈ es, e'.Plain) (steady : ∀ e' ∈ es, e'.Steady) (apart : ∀ e' ∈ es, e.Apart e')
    (bare : (outline t).Bare) (same : e.apply t = t) :
    e.apply (es.foldl Edit.apply t) = es.foldl Edit.apply t := by
  induction es generalizing t with
  | nil => exact same
  | cons e' es ih =>
      have plain' := plains e' List.mem_cons_self
      refine ih (fun e he => plains e (List.mem_cons_of_mem _ he))
        (fun e he => steady e (List.mem_cons_of_mem _ he))
        (fun e he => apart e (List.mem_cons_of_mem _ he)) ?_ ?_
      · rw [outline_apply plain' bare]
        exact bare_act e' bare
      · exact apply_stays plain plain' (steady e' List.mem_cons_self) (apart e' List.mem_cons_self)
          bare same

/-- **After a run of edits every edit has been made.** -/
theorem apply_foldl_apply {es : List Edit} (plain : ∀ e ∈ es, e.Plain) (steady : ∀ e ∈ es, e.Steady)
    (apart : es.Pairwise Edit.Apart) (bare : (outline t).Bare) (distinct : (viewOrder t).Nodup) :
    ∀ e ∈ es, e.apply (es.foldl Edit.apply t) = es.foldl Edit.apply t := by
  induction es generalizing t with
  | nil => simp
  | cons e es ih =>
      obtain ⟨first, rest⟩ := List.pairwise_cons.mp apart
      have plain' := plain e List.mem_cons_self
      have steady' := steady e List.mem_cons_self
      have plains := fun e' he => plain e' (List.mem_cons_of_mem e he)
      have steadies := fun e' he => steady e' (List.mem_cons_of_mem e he)
      have bare' : (outline (e.apply t)).Bare := by
        rw [outline_apply plain' bare]
        exact bare_act e bare
      have distinct' := nodup_viewOrder_apply plain' steady' bare distinct
      intro e' he
      rcases List.mem_cons.mp he with rfl | he
      · have stays := stays_foldl_apply plain' plains steadies first bare'
          (apply_apply plain' steady' bare distinct)
        exact stays
      · exact ih plains steadies rest bare' distinct' e' he

end Runs

end Notebase
