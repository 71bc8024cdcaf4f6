import Notebase.Proofs.Rendering
import Notebase.Proofs.Request.Neat

/-!
One document, two ways to ask for it. A sentence that names columns and a tag or a folder makes the
document of the form that has the parts of its request filled in (`sentence_renders_as_form`). The
two renderers treat their values differently, and agree because a request is neat.
-/

namespace Notebase

open Document

namespace Form

def ofRequest (r : Request) : Form where
  tags := r.tag.toList
  folder := r.folder
  logic := "and".toList
  formulas := []
  properties := r.properties.getD []
  customProperties := []
  viewType := r.resolvedViewType
  viewName := r.renameTo
  limit := none
  sortBy := r.sorting.map (·.property)
  sortDirection := r.sorting.map (·.direction)
  groupBy := r.groupBy
  groupDirection := r.groupBy.map fun _ => "ASC".toList
  summaries := []

theorem entries_of_written {items : List Text} (h : ∀ item ∈ items, Text.Written item) :
    entries items = items := by
  have trimmed : items.map Text.trim = items :=
    (List.map_congr_left fun item mem => (h item mem).trimmed.trim_eq).trans (List.map_id items)
  rw [entries, trimmed, List.filter_eq_self]
  exact fun item mem => by simpa using (h item mem).ne_nil

theorem text_of_trimmed {field : Option Text} (h : ∀ value ∈ field, Text.Trimmed value) :
    text field = field.getD [] := by
  cases field with
  | none => rfl
  | some value => exact (h value rfl).trim_eq

section Parts

variable {r : Request} (neat : r.Neat)
include neat

/-- A request and its form test the same. -/
theorem predicates_ofRequest : (ofRequest r).predicates =
    ((Text.given? r.tag).map (filePredicate "hasTag".toList)).toList ++
      ((Text.given? r.folder).map (filePredicate "inFolder".toList)).toList := by
  have tags : (entries r.tag.toList).map (fun tag =>
      filePredicate "hasTag".toList (tag.dropWhile (· == '#'))) =
        ((Text.given? r.tag).map (filePredicate "hasTag".toList)).toList := by
    -- A tag of a neat request has no number sign in front, so the form strips nothing off.
    cases tag_eq : r.tag with
    | none => rfl
    | some tag =>
        cases tag with
        | nil => rfl
        | cons c t =>
            obtain ⟨trimmed, plain⟩ := neat.tag (c :: t) tag_eq
            have sign : (c == '#') = false := by
              rw [beq_eq_false_iff_ne]
              rintro rfl
              exact plain List.mem_cons_self
            have written : ∀ item ∈ [c :: t], Text.Written item := by
              simpa using ⟨List.cons_ne_nil c t, trimmed⟩
            rw [Option.toList_some, entries_of_written written, List.map_singleton,
              List.dropWhile_cons_of_neg (by simp [sign])]
            rfl
  rw [predicates, ofRequest, text_of_trimmed neat.folder, tags]
  refine congrArg _ ?_
  cases r.folder with
  | none => rfl
  | some folder =>
      cases folder with
      | nil => rfl
      | cons c t => rfl

/-- The form of a request shows the name that the request gives, or the default one. -/
theorem resolvedViewName_ofRequest : quotedName (ofRequest r).resolvedViewName =
    '"' :: (Text.given? r.renameTo).getD Draft.defaultViewName ++ ['"'] := by
  rw [resolvedViewName, ofRequest,
    text_of_trimmed fun name mem => (neat.renameTo name mem).1.trimmed]
  cases renameTo_eq : r.renameTo with
  | none => decide
  | some name =>
      obtain ⟨written, plain⟩ := neat.renameTo name renameTo_eq
      rw [Option.getD_some, if_neg (by simpa using written.ne_nil),
        given?_of_ne_nil written.ne_nil, Option.getD_some, quotedName,
        Text.replaceChar_of_not_mem plain]

/-- A sorting of a request always has both its parts. -/
theorem arrangement_sorting :
    arrangement (r.sorting.map (·.property)) (r.sorting.map (·.direction)) =
      r.sorting.map fun s => (s.property, s.direction) := by
  cases sorting_eq : r.sorting with
  | none => rfl
  | some s =>
      have written := (neat.sorting s sorting_eq).1
      unfold arrangement
      rw [Option.map_some, given?_of_ne_nil written.ne_nil, Option.map_some, Option.map_some]
      dsimp only
      rw [written.trimmed.trim_eq]

/-- A grouping of a request is ascending, and an empty one counts as none. -/
theorem arrangement_groupBy :
    arrangement r.groupBy (r.groupBy.map fun _ => "ASC".toList) =
      (Text.given? r.groupBy).map fun property => (property, "ASC".toList) := by
  cases groupBy_eq : r.groupBy with
  | none => rfl
  | some property =>
      have written := neat.groupBy property groupBy_eq
      unfold arrangement
      rw [given?_of_ne_nil written.ne_nil, Option.map_some, Option.map_some]
      dsimp only
      rw [written.trimmed.trim_eq]

/-- The form of a request can be read. -/
theorem read_ofRequest : (ofRequest r).Read [] (r.sorting.map (·.direction))
    (r.groupBy.map fun _ => "ASC".toList) where
  formulas := rfl
  sortDirection := by
    rw [ofRequest]
    cases sorting_eq : r.sorting with
    | none => rfl
    | some s => exact direction?_of_mem .sort (neat.sorting s sorting_eq).2
  groupDirection := by
    rw [ofRequest]
    cases r.groupBy with
    | none => rfl
    | some property => rfl

/-- The form of a request has no fault. -/
theorem check_ofRequest : (ofRequest r).check = .ok () := by
  have known : ∀ kind ∈ ["cards", "list", "map", "table"].map String.toList,
      Text.given? (some kind) = some kind ∧ kind ∈ viewTypes := by decide
  have kind : r.resolvedViewType ∈ viewTypes := by
    rw [Request.resolvedViewType]
    cases viewType_eq : r.viewType with
    | none => decide
    | some kind =>
        obtain ⟨given, mem⟩ := known kind (neat.viewType kind viewType_eq)
        rw [given]
        exact mem
  have offered : viewTypes.contains (ofRequest r).viewType = true := List.contains_iff_mem.mpr kind
  have logic : logics.contains "and".toList = true := by decide
  have joined : logics.contains (ofRequest r).logic = true := logic
  rw [check, joined, offered]
  rfl

/-- **The form of a request has the layout of the request**, if the request names columns and
something to test. -/
theorem layout_ofRequest {refs : List Text} (columns : r.properties = some refs)
    (tested : (Text.given? r.tag).isSome = true ∨ (Text.given? r.folder).isSome = true) :
    (ofRequest r).layout [] (r.sorting.map (·.direction)) (r.groupBy.map fun _ => "ASC".toList) =
      Draft.layout r := by
  obtain ⟨some, written⟩ := neat.properties refs columns
  have tests : (ofRequest r).predicates ≠ [] := by
    rw [predicates_ofRequest neat]
    rcases tested with tag | folder
    · obtain ⟨tag, tag_eq⟩ := Option.isSome_iff_exists.mp tag
      simp [tag_eq]
    · obtain ⟨folder, folder_eq⟩ := Option.isSome_iff_exists.mp folder
      simp [folder_eq]
  -- With a test the draft does not fall back on the predicate that every note passes.
  have same : Draft.predicates r = (ofRequest r).predicates := by
    rw [predicates_ofRequest neat] at tests ⊢
    rw [Draft.predicates]
    split
    · next none => exact absurd none tests
    · rfl
  have sections : (ofRequest r).sections [] =
      filterRows (Draft.predicates r) "and".toList :: [] := by
    rw [Form.sections, if_neg (by simpa using tests), same]
    rfl
  have order : (ofRequest r).columns [] = refs := by
    have entries_eq : entries (r.properties.getD []) = refs := by
      rw [columns, Option.getD_some, entries_of_written written]
    rw [Form.columns, List.map_nil, List.append_nil]
    show entries (r.properties.getD []) ++ [] = refs
    rw [List.append_nil, entries_eq]
  rw [Form.layout, sections, order, resolvedViewName_ofRequest neat, Draft.layout, columns,
    Option.getD_some, if_neg (by simpa using some), if_neg (by simpa using some)]
  refine congrArg₂ (fun sort groupBy => (⟨_, _, _, _, _, sort, groupBy, _⟩ : Layout)) ?_ ?_
  · exact arrangement_sorting neat
  · exact arrangement_groupBy neat

end Parts

end Form

/-- **A request and its form are one document.** -/
theorem Request.Neat.render_ofRequest {r : Request} (neat : r.Neat)
    (columns : r.properties.isSome = true)
    (tested : (Text.given? r.tag).isSome = true ∨ (Text.given? r.folder).isSome = true) :
    (Form.ofRequest r).render = .ok (Draft.ofRequest r) := by
  obtain ⟨refs, properties_eq⟩ := Option.isSome_iff_exists.mp columns
  have layout := Form.layout_ofRequest neat properties_eq tested
  have written : (Form.ofRequest r).columns [] ≠ [] := by
    have order : (Form.ofRequest r).columns [] = (Draft.layout r).columns :=
      congrArg Layout.columns layout
    have some := (neat.properties refs properties_eq).1
    rw [order, Draft.layout, properties_eq, Option.getD_some]
    dsimp only
    rwa [if_neg (by simpa using some)]
  refine Form.render_eq_ok_iff.mpr ⟨Form.check_ofRequest neat, [], _, _,
    Form.read_ofRequest neat, ?_⟩
  rw [Draft.ofRequest_eq, Form.viewBlock_eq _ _ _ written, layout, ← layout]
  rfl

/-- **A sentence makes the document of its form.** The document of a sentence that names columns,
and a tag or a folder, is the document of the form with the parts of its request filled in. -/
theorem sentence_renders_as_form (t : Text) :
    (Request.ofText Property.resolve t).properties ≠ none →
      (Text.given? (Request.ofText Property.resolve t).tag ≠ none ∨
        Text.given? (Request.ofText Property.resolve t).folder ≠ none) →
      (Form.ofRequest (Request.ofText Property.resolve t)).render = .ok (Draft.ofText t) := by
  intro columns tested
  rw [← Option.isSome_iff_ne_none] at columns
  rw [← Option.isSome_iff_ne_none, ← Option.isSome_iff_ne_none] at tested
  exact (Request.neat_ofText t).render_ofRequest columns tested

/-- A sentence with columns, a tag, a quoted name, a sorting and a grouping. -/
theorem shelf_sentence_renders_as_form : ∃ t, (Request.ofText Property.resolve t).properties =
      some ["author".toList, "file.size".toList] ∧
    (Request.ofText Property.resolve t).tag = some "book".toList ∧
    (Form.ofRequest (Request.ofText Property.resolve t)).render = .ok (Draft.ofText t) := by
  let t : Text :=
    "call it 'Shelf', tagged #book, sort by size, group by year: show author & size".toList
  have columns : (Request.ofText Property.resolve t).properties =
      some ["author".toList, "file.size".toList] := by decide +kernel
  have tag : (Request.ofText Property.resolve t).tag = some "book".toList := by decide +kernel
  refine ⟨t, columns, tag, sentence_renders_as_form t ?_ (.inl ?_)⟩
  · rw [columns]
    exact Option.some_ne_none _
  · rw [tag]
    exact Option.some_ne_none _

end Notebase
