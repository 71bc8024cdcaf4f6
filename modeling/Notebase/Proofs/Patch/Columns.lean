import Mathlib.Data.List.Count
import Mathlib.Data.List.Nodup
import Notebase.Form
import Notebase.Proofs.Document.Overwrite
import Notebase.Proofs.Patch.Resolver

/-!
Columns that are added and removed. Columns are read off the rows that they are written on, so new
ones come after those that are there, and removing them takes out the rows that were added and no
others (`added_columns_are_appended`). Removing a reference takes out one row; the reference is gone
if the column was there once (`removed_columns_are_gone`).
-/

namespace Notebase

open Document

/-! ### Rows of columns -/

/-- The row of a column is read as the column. -/
theorem listItem?_columnRow (dash : Nat) {ref : Text} (tidy : Tidy ref) :
    listItem? (columnRow dash ref) = some ref := by
  have item : (Text.spaces (dash + 3) ++ "- ".toList ++ ref).dropWhile (· == ' ') =
      "- ".toList ++ ref := by
    rw [List.append_assoc, List.dropWhile_append_of_pos (by simp [Text.spaces])]
    rfl
  rw [listItem?, Text.content_row (plain_columnRow tidy.plain), columnRow, Text.spaces,
    List.replicate_succ, List.cons_append, List.cons_append]
  show (Text.after? "- ".toList ((Text.spaces (dash + 3) ++ "- ".toList ++ ref).dropWhile
    (· == ' '))).map (dropEndWhile isSpaceOrTab) = some ref
  rw [item, Text.after?_eq_some_iff.mpr rfl, Option.map_some, Text.dropEndWhile_eq_rdropWhile,
    List.rdropWhile_eq_self_iff.mpr]
  intro ne
  rw [tidy.last _ (List.getLast?_eq_some_getLast ne)]
  simp

/-- Columns are read off their rows. -/
theorem filterMap_columnRow (dash : Nat) {refs : List Text} (tidy : ∀ ref ∈ refs, Tidy ref) :
    (refs.map (columnRow dash)).filterMap listItem? = refs := by
  have listed : ∀ ref ∈ refs, (listItem? ∘ columnRow dash) ref = some ref := fun ref mem =>
    listItem?_columnRow dash (tidy ref mem)
  rw [List.filterMap_map, List.filterMap_congr listed, List.filterMap_some]

/-- What is left without the blanks at the end, if it does not end in blanks. -/
theorem dropEndWhile_eq_iff {ref : Text} (tidy : Tidy ref) (rest : Text) :
    dropEndWhile isSpaceOrTab rest = ref ↔
      ∃ gap, rest = ref ++ gap ∧ gap.all isSpaceOrTab = true := by
  constructor
  · rintro rfl
    refine ⟨_, (dropEndWhile_append_drop isSpaceOrTab rest).symm, List.all_eq_true.mpr ?_⟩
    exact forall_mem_drop_dropEndWhile isSpaceOrTab rest
  · rintro ⟨gap, rfl, blank⟩
    exact dropEndWhile_append_of_all (List.all_eq_true.mp blank) tidy.last

/-- A row is the column of a reference exactly if it is a list item with that reference. -/
theorem isColumn_iff {ref : Text} (tidy : Tidy ref) (row : Text) :
    isColumn ref row = true ↔ listItem? row = some ref := by
  rw [isColumn, listItem?]
  cases line : Text.content row with
  | nil => simp
  | cons c t =>
      by_cases space : c = ' '
      · subst space
        show ((Text.after? ("- ".toList ++ ref) (t.dropWhile (· == ' '))).map
            (·.all isSpaceOrTab)).getD false = true ↔
          (Text.after? "- ".toList (t.dropWhile (· == ' '))).map (dropEndWhile isSpaceOrTab) =
            some ref
        rw [Option.map_eq_some_iff]
        cases item : Text.after? ("- ".toList ++ ref) (t.dropWhile (· == ' ')) with
        | some gap =>
            rw [Text.after?_eq_some_iff] at item
            rw [item, List.append_assoc, Text.after?_eq_some_iff.mpr rfl]
            simp [dropEndWhile_eq_iff tidy]
        | none =>
            refine iff_of_false (by simp) ?_
            rintro ⟨rest, isItem, dropEndWhile_eq⟩
            obtain ⟨gap, rfl, -⟩ := (dropEndWhile_eq_iff tidy rest).mp dropEndWhile_eq
            rw [Text.after?_eq_some_iff] at isItem
            rw [isItem, ← List.append_assoc, Text.after?_eq_some_iff.mpr rfl] at item
            cases item
      · simp [space]

/-- Taking out the row of a column takes out the column, once. -/
theorem filterMap_eraseP {ref : Text} (tidy : Tidy ref) (rs : List Text) :
    (rs.eraseP (isColumn ref)).filterMap listItem? = (rs.filterMap listItem?).erase ref := by
  induction rs with
  | nil => rfl
  | cons r rs ih =>
      by_cases isColumn_eq : isColumn ref r = true
      · rw [List.eraseP_cons_of_pos isColumn_eq, List.filterMap_cons_some
          ((isColumn_iff tidy r).mp isColumn_eq),
          List.erase_cons_head]
      · have other := mt (isColumn_iff tidy r).mpr isColumn_eq
        rw [List.eraseP_cons_of_neg isColumn_eq, List.filterMap_cons, List.filterMap_cons, ih]
        cases item : listItem? r with
        | none => rfl
        | some ref' =>
            have ne : ref' ≠ ref := by
              rintro rfl
              exact other item
            exact (List.erase_cons_tail (by simpa using ne)).symm

namespace Document

/-- The rows without the first column of every reference, taken out one after another. -/
def withoutColumns (refs rs : List Text) : List Text :=
  refs.foldl (fun rs ref => rs.eraseP (isColumn ref)) rs

theorem withoutColumns_sublist (refs rs : List Text) : (withoutColumns refs rs).Sublist rs := by
  induction refs generalizing rs with
  | nil => exact .refl rs
  | cons ref refs ih => exact (ih _).trans List.eraseP_sublist

/-- Rows of other columns stay in front of those that are taken out. -/
theorem withoutColumns_append {refs front : List Text}
    (none : ∀ ref ∈ refs, ∀ r ∈ front, ¬ isColumn ref r = true) (rs : List Text) :
    withoutColumns refs (front ++ rs) = front ++ withoutColumns refs rs := by
  induction refs generalizing rs with
  | nil => rfl
  | cons ref refs ih =>
      rw [withoutColumns, List.foldl_cons, List.eraseP_append_right _ (none ref List.mem_cons_self)]
      exact ih (fun r hr => none r (List.mem_cons_of_mem _ hr)) _

section Tidy

variable {refs : List Text} (tidy : ∀ ref ∈ refs, Tidy ref)
include tidy

/-- Every reference takes one of its columns away. -/
theorem filterMap_withoutColumns (rs : List Text) :
    (withoutColumns refs rs).filterMap listItem? = (rs.filterMap listItem?).diff refs := by
  induction refs generalizing rs with
  | nil => rfl
  | cons ref refs ih =>
      have rest := ih (fun r hr => tidy r (List.mem_cons_of_mem _ hr)) (rs.eraseP (isColumn ref))
      rw [filterMap_eraseP (tidy ref List.mem_cons_self)] at rest
      rw [List.diff_cons, ← rest]
      rfl

theorem not_isColumn_of_not_mem {rs : List Text} (out : ∀ ref ∈ refs, ref ∉ rs.filterMap listItem?) :
    ∀ ref ∈ refs, ∀ r ∈ rs, ¬ isColumn ref r = true := fun ref mem r hr item =>
  out ref mem (List.mem_filterMap.mpr ⟨r, hr, (isColumn_iff (tidy ref mem) r).mp item⟩)

theorem withoutColumns_eq_self {rs : List Text} (out : ∀ ref ∈ refs, ref ∉ rs.filterMap listItem?) :
    withoutColumns refs rs = rs := by
  have whole := withoutColumns_append (not_isColumn_of_not_mem tidy out) []
  rwa [List.sublist_nil.mp (withoutColumns_sublist refs []), List.append_nil] at whole

end Tidy

/-! ### New columns -/

theorem mem_newColumns {current refs : List Text} {ref : Text} :
    ref ∈ newColumns current refs ↔ ref ∈ refs ∧ ref ∉ current ∧ Request.isNoise ref = false := by
  simp [newColumns, List.mem_eraseDups]

theorem newColumns_eq_nil {current refs : List Text} :
    newColumns current refs = [] ↔
      ∀ ref ∈ refs, ref ∈ current ∨ Request.isNoise ref = true := by
  simp only [List.eq_nil_iff_forall_not_mem, mem_newColumns, not_and, Bool.not_eq_false]
  refine forall₂_congr fun ref _ => ?_
  rw [← or_iff_not_imp_left]

theorem nodup_eraseDups {α : Type} [BEq α] [LawfulBEq α] (as : List α) : as.eraseDups.Nodup := by
  match as with
  | [] => exact List.nodup_nil
  | a :: as =>
      rw [List.eraseDups_cons, List.nodup_cons]
      exact ⟨by simp [List.mem_eraseDups], nodup_eraseDups _⟩
termination_by as.length
decreasing_by exact Nat.lt_succ_of_le (List.length_filter_le _ _)

/-- The rows of new columns are taken out again. -/
theorem withoutColumns_newColumns {refs : List Text} (tidy : ∀ ref ∈ refs, Tidy ref) (dash : Nat)
    (current : List Text) :
    withoutColumns refs ((newColumns current refs).map (columnRow dash)) = [] := by
  have new : ∀ ref ∈ newColumns current refs, Tidy ref := fun ref mem =>
    tidy ref (mem_newColumns.mp mem).1
  have none : (withoutColumns refs ((newColumns current refs).map (columnRow dash))).filterMap
      listItem? = [] := by
    rw [filterMap_withoutColumns tidy, filterMap_columnRow dash new,
      List.eq_nil_iff_forall_not_mem]
    intro ref mem
    have distinct : (newColumns current refs).Nodup := nodup_eraseDups _
    rw [List.Nodup.mem_sdiff_iff distinct] at mem
    exact mem.2 (mem_newColumns.mp mem.1).1
  rw [List.eq_nil_iff_forall_not_mem]
  intro r mem
  obtain ⟨ref, hr, rfl⟩ := List.mem_map.mp ((withoutColumns_sublist refs _).subset mem)
  have read : ref ∈ ([] : List Text) := by
    rw [← none]
    exact List.mem_filterMap.mpr ⟨_, mem, listItem?_columnRow dash (new ref hr)⟩
  cases read

/-! ### Columns of a view -/

namespace Panel

def columns (p : Panel) : List Text := ((p.entry .order).map Entry.columns).getD []

theorem set_eq_self {p : Panel} {key : ViewKey} {e : Entry} (found : p.entry key = some e) :
    p.set key e = p :=
  Panel.ext rfl (by rw [set, ← found, Function.update_eq_self])

theorem set_set (p : Panel) (key : ViewKey) (e e' : Entry) :
    (p.set key e).set key e' = p.set key e' :=
  Panel.ext rfl (Function.update_idem ..)

theorem columns_of_entry {p : Panel} {e : Entry} (order_eq : p.entry .order = some e) :
    p.columns = e.columns := by
  rw [columns, order_eq]
  rfl

theorem removeColumns_of_none {p : Panel} (none : p.entry .order = none) (refs : List Text) :
    p.removeColumns refs = p :=
  List.foldl_fixed' (fun ref => by rw [removeColumn, none]) refs

/-- Removing columns takes their rows out of those under the key. -/
theorem removeColumns_eq {p : Panel} {e : Entry} (order_eq : p.entry .order = some e)
    (refs : List Text) :
    p.removeColumns refs = p.set .order (e.withChildren (withoutColumns refs e.children)) := by
  induction refs generalizing p e with
  | nil => exact (set_eq_self order_eq).symm
  | cons ref refs ih =>
      have step : p.removeColumn ref =
          p.set .order (e.withChildren (e.children.eraseP (isColumn ref))) := by
        rw [removeColumn, order_eq]
      rw [removeColumns, List.foldl_cons, step]
      exact (ih (entry_set_self ..)).trans (set_set ..)

section Tidy

variable {refs : List Text} (tidy : ∀ ref ∈ refs, Tidy ref)
include tidy

/-- Removing columns takes one copy of each out. -/
theorem columns_removeColumns (p : Panel) :
    (p.removeColumns refs).columns = p.columns.diff refs := by
  cases order_eq : p.entry .order with
  | none =>
      have empty : p.columns = [] := by
        rw [columns, order_eq]
        rfl
      rw [removeColumns_of_none order_eq, empty, List.nil_diff]
  | some e =>
      rw [removeColumns_eq order_eq, columns_of_entry order_eq, columns_of_entry
        (entry_set_self ..)]
      exact filterMap_withoutColumns tidy e.children

/-- Removing columns that are there once leaves none to remove. -/
theorem removeColumns_removeColumns {p : Panel} (distinct : p.columns.Nodup) :
    (p.removeColumns refs).removeColumns refs = p.removeColumns refs := by
  cases order_eq : p.entry .order with
  | none => rw [removeColumns_of_none order_eq, removeColumns_of_none order_eq]
  | some e =>
      rw [removeColumns_eq order_eq, removeColumns_eq (entry_set_self ..), set_set]
      refine congrArg (fun rs => p.set .order (e.withChildren rs))
        (withoutColumns_eq_self tidy fun ref mem left => ?_)
      rw [columns_of_entry order_eq] at distinct
      rw [Entry.withChildren, filterMap_withoutColumns tidy] at left
      exact ((List.Nodup.mem_sdiff_iff distinct).mp left).2 mem

/-- Adding columns puts the new ones behind the old ones. -/
theorem columns_addColumns {p : Panel} {e : Entry} (order_eq : p.entry .order = some e) :
    (p.addColumns refs).columns = e.columns ++ newColumns e.columns refs := by
  have new : ∀ ref ∈ newColumns e.columns refs, Tidy ref := fun ref mem =>
    tidy ref (mem_newColumns.mp mem).1
  rw [addColumns, order_eq]
  dsimp only
  rw [columns_of_entry (entry_set_self ..), Entry.columns, Entry.withChildren,
    List.filterMap_append, filterMap_columnRow p.dash new]
  rfl

end Tidy

/-- Without new columns nothing is added. -/
theorem addColumns_eq_self {refs : List Text} {p : Panel}
    (none : newColumns p.columns refs = []) : p.addColumns refs = p := by
  rw [addColumns]
  cases order_eq : p.entry .order with
  | none => rfl
  | some e =>
      rw [columns_of_entry order_eq] at none
      dsimp only
      rw [none, List.map_nil, List.append_nil]
      exact set_eq_self order_eq

/-- Adding columns leaves none to add. -/
theorem addColumns_addColumns {refs : List Text} (tidy : ∀ ref ∈ refs, Tidy ref) (p : Panel) :
    (p.addColumns refs).addColumns refs = p.addColumns refs := by
  cases order_eq : p.entry .order with
  | none =>
      have same : p.addColumns refs = p := by rw [addColumns, order_eq]
      rw [same, same]
  | some e =>
      refine addColumns_eq_self ?_
      rw [columns_addColumns tidy order_eq, newColumns_eq_nil]
      intro ref mem
      by_cases old : ref ∈ e.columns
      · exact .inl (List.mem_append_left _ old)
      · by_cases noise : Request.isNoise ref = true
        · exact .inr noise
        · exact .inl (List.mem_append_right _
            (mem_newColumns.mpr ⟨mem, old, Bool.not_eq_true _ ▸ noise⟩))

end Panel

/-! ### Columns of a document -/

def Outline.columns (o : Outline) : List Text := (o.view.map Panel.columns).getD []

theorem viewOrder_eq_columns (t : Text) : viewOrder t = (outline t).columns := by
  rw [viewOrder_eq, Outline.entryAt?, Outline.columns]
  cases (outline t).view <;> rfl

theorem viewOrder_of_found {t : Text} {v : View} (found : firstView? t = some v) :
    viewOrder t = v.panel.columns := by
  rw [viewOrder_eq_columns, Outline.columns, outline, found]
  rfl

/-- **Columns that are removed one after another** are rows that are taken out: each time the view
is found again, between the lines that stood around it at first. -/
theorem removeColumns_placed {t : Text} {v : View} {e : Entry} {above below refs : List Text}
    (found : firstView? t = some v) (plain : Text.Plain refs)
    (placed : Placed v.dash "order".toList v.rows e above below) :
    removeColumns refs t =
      v.withRows (above ++ (e.withChildren (withoutColumns refs e.children)).rows ++ below) := by
  induction refs generalizing t v e with
  | nil => exact (withRows_placed found placed).symm
  | cons ref refs ih =>
      have kept : e.children.eraseP (isColumn ref) ⊆ e.children := List.eraseP_subset
      obtain ⟨v', found', -, placed', again⟩ := exists_placed_withChildren found placed
        (fun r hr => plain_rows_of_view placed r (List.mem_cons_of_mem _ (kept hr)))
        fun r hr => placed.valid.children r (kept hr)
      have rest := ih found' (fun r hr => plain r (List.mem_cons_of_mem _ hr)) placed'
      rw [← removeColumn_placed found (plain ref List.mem_cons_self) placed, again] at rest
      exact rest

section Tidy

variable {t : Text} {refs : List Text} (tidy : ∀ ref ∈ refs, Tidy ref)
include tidy

theorem viewOrder_removeColumns : viewOrder (removeColumns refs t) = (viewOrder t).diff refs := by
  have plain : Text.Plain refs := fun ref mem => (tidy ref mem).plain
  rw [viewOrder_eq_columns, viewOrder_eq_columns, outline_removeColumns plain, Outline.columns,
    Outline.columns, Outline.onView]
  cases (outline t).view with
  | none => exact (List.nil_diff refs).symm
  | some p => exact Panel.columns_removeColumns tidy p

/-- What is read after columns are added: the old ones, and then the new ones. -/
theorem viewOrder_addColumns (ordered : (viewKey? "order".toList t).isSome = true) :
    viewOrder (addColumns refs t) = viewOrder t ++ newColumns (viewOrder t) refs := by
  have plain : Text.Plain refs := fun ref mem => (tidy ref mem).plain
  cases order_eq : (outline t).entryAt? .order with
  | none =>
      rw [show "order".toList = ViewKey.order.text from rfl, viewKey?_eq_none order_eq] at ordered
      cases ordered
  | some e =>
      obtain ⟨v, -, -, found, -⟩ := exists_placed order_eq
      rw [entryAt?_of_found found] at order_eq
      rw [viewOrder_of_found found, Panel.columns_of_entry order_eq, viewOrder_eq_columns,
        outline_addColumns plain, Outline.columns, Outline.onView, outline, found]
      exact Panel.columns_addColumns tidy order_eq

/-- **Removing takes back what adding has written**, to the character. -/
theorem removeColumns_addColumns (new : ∀ ref ∈ refs, ref ∉ viewOrder t) :
    removeColumns refs (addColumns refs t) = t := by
  have plain : Text.Plain refs := fun ref mem => (tidy ref mem).plain
  cases order_eq : (outline t).entryAt? .order with
  | none =>
      have absent := viewKey?_eq_none order_eq
      rw [addColumns_of_none absent, Document.removeColumns_of_none absent]
  | some e =>
      obtain ⟨v, above, below, found, placed⟩ := exists_placed order_eq
      rw [viewOrder_placed found placed] at new
      obtain ⟨plain', deeper⟩ := rows_with_newColumns placed plain
      obtain ⟨v', found', -, placed', again⟩ :=
        exists_placed_withChildren found placed plain' deeper
      have taken : withoutColumns refs
          (e.children ++ (newColumns e.columns refs).map (columnRow v.dash)) = e.children := by
        rw [withoutColumns_append (not_isColumn_of_not_mem tidy new),
          withoutColumns_newColumns tidy, List.append_nil]
      rw [addColumns_placed found plain placed, removeColumns_placed found' plain placed', again,
        Entry.withChildren, Entry.withChildren, taken]
      exact withRows_placed found placed

end Tidy

/-- Taking away one copy of every reference takes away all of them exactly if there are no more
copies than references. -/
theorem diff_eq_filter_iff {l refs : List Text} :
    l.diff refs = l.filter (· ∉ refs) ↔ ∀ ref ∈ refs, l.count ref ≤ refs.count ref := by
  constructor
  · intro same a mem
    have gone : (l.filter (· ∉ refs)).count a = 0 := List.count_eq_zero.mpr (by simp [mem])
    rw [← same, List.count_diff] at gone
    omega
  · intro few
    have kept : (l.diff refs).filter (· ∉ refs) = l.diff refs := by
      refine List.filter_eq_self.mpr fun a left => decide_eq_true fun mem => ?_
      have some := List.count_pos_iff.mpr left
      have le := few a mem
      rw [List.count_diff] at some
      omega
    rw [← kept]
    refine ((List.diff_sublist l refs).filter _).eq_of_length ?_
    refine (List.perm_iff_count.mpr fun a => ?_).length_eq
    by_cases mem : a ∈ refs
    · rw [List.count_eq_zero_of_not_mem (by simp [mem]), List.count_eq_zero_of_not_mem (by simp [mem])]
    · rw [List.count_filter (by simp [mem]), List.count_filter (by simp [mem]), List.count_diff,
        List.count_eq_zero_of_not_mem mem, Nat.sub_zero]

end Document

/-! ### Adding and removing -/

/-- **Columns that are added come after the ones that are there**, each once and without the words
that are no columns. Removing new columns takes back what adding them has written. -/
theorem added_columns_are_appended {t : Text} {refs : List Text} (tidy : ∀ ref ∈ refs, Tidy ref) :
    ((viewKey? "order".toList t).isSome = true → viewOrder (addColumns refs t) = viewOrder t ++
      (refs.filter fun ref => ref ∉ viewOrder t ∧ Request.isNoise ref = false).eraseDups) ∧
    ((∀ ref ∈ refs, ref ∉ viewOrder t) → removeColumns refs (addColumns refs t) = t) := by
  refine ⟨fun ordered => ?_, removeColumns_addColumns tidy⟩
  rw [viewOrder_addColumns tidy ordered, newColumns]
  simp

/-- A column that is there is not added again, and one that was added can be taken back. -/
theorem column_added_and_taken_back :
    viewOrder (addColumns ["c".toList, "and".toList, "a".toList, "c".toList]
      "views:\n- type: table\n  order:\n    - a\n\n".toList) = ["a".toList, "c".toList] ∧
    removeColumns ["c".toList, "c".toList, "and".toList]
      (addColumns ["c".toList, "c".toList, "and".toList]
        "views:\n- type: table\n  order:\n    - a".toList) =
      "views:\n- type: table\n  order:\n    - a".toList := by
  constructor
  · rw [(added_columns_are_appended (by decide)).1 (by decide)]
    decide
  · exact (added_columns_are_appended (by decide)).2 (by decide)

/-- **A removed column is gone if it was there once.** Every reference takes away the first of its
columns, so all of them are gone exactly if a reference is given as often as its column is there. -/
theorem removed_columns_are_gone {t : Text} {refs : List Text} (tidy : ∀ ref ∈ refs, Tidy ref) :
    viewOrder (removeColumns refs t) = (viewOrder t).diff refs ∧
    (viewOrder (removeColumns refs t) = (viewOrder t).filter (· ∉ refs) ↔
      ∀ ref ∈ refs, (viewOrder t).count ref ≤ refs.count ref) := by
  rw [viewOrder_removeColumns tidy]
  exact ⟨rfl, diff_eq_filter_iff⟩

theorem single_columns_are_gone :
    viewOrder (removeColumns ["c".toList, "a".toList]
      "views:\n- type: table\n  order:\n    - a\n    - b\n    - c".toList) = ["b".toList] := by
  rw [(removed_columns_are_gone (by decide)).2.mpr (by decide)]
  decide

/-- A form whose fields name a column twice lists it twice, and removing it leaves one of the
two. -/
theorem repeated_column_stays : ∃ d,
    ({ properties := ["a".toList, "b".toList], customProperties := ["a".toList] } :
      Form).render = .ok d ∧
    (∀ ref ∈ ["a".toList], Tidy ref) ∧ (viewKey? "order".toList d).isSome = true ∧
    viewOrder (removeColumns ["a".toList] d) = ["b".toList, "a".toList] ∧
    viewOrder (removeColumns ["a".toList] d) ≠ (viewOrder d).filter (· ∉ ["a".toList]) := by
  let d := "views:\n  - type: table\n    name: \"Results\"\n    order:\n      - a\n      - b\n      - a".toList
  have old : viewOrder d = ["a".toList, "b".toList, "a".toList] := by decide
  have new : viewOrder (removeColumns ["a".toList] d) = ["b".toList, "a".toList] := by
    decide
  exact ⟨d, by decide, by decide, by decide, new, by rw [old, new]; decide⟩

end Notebase
