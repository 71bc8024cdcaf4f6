import Notebase.Proofs.Document.Arrangement
import Notebase.Proofs.Document.Matching
import Notebase.Proofs.Patch.Aspect
import Notebase.Proofs.Patch.Commute

/-!
What a document says after one edit. The readers look for their places in the whole text anew, and
still an edit changes nothing that they find but its own aspect (`edit_keeps_other_aspects`). A
sorting or a grouping is read back as it was written, unless it opened the view: then the line with
the dash is gone, and with it the view (`arrangement_is_read_back`).
-/

namespace Notebase

open Document

/-! ### Edits that keep the lines of the view -/

/-- **An edit changes what a document says about its own aspect only.** -/
theorem Edit.inspect_apply {e : Edit} (plain : e.Plain)
    (early : e.aspect ∉ [some ViewKey.sort, some ViewKey.groupBy]) (t : Text) :
    inspect (e.apply t) = (inspect t).about e.aspect (inspect (e.apply t)) := by
  have same := e.sameBut_act (outline t)
  rw [← outline_apply_of_aspect plain early] at same
  rw [inspect_eq_summary, inspect_eq_summary]
  exact same.summary

/-- **Setting a predicate changes the filters only**, also where its test is named by a pattern. -/
theorem inspect_setFilterMatching {test value t : Text}
    (name : block? "filters".toList t = none ∨ IsTestName test) (noEnd : '\n' ∉ test)
    (plain : '\n' ∉ value) : ∃ t' filterEntries, setFilterMatching test value t = .ok t' ∧
      inspect t' = { inspect t with filterEntries } := by
  suffices same : ∃ t', setFilterMatching test value t = .ok t' ∧
      Outline.SameBut none (outline t) (outline t') by
    obtain ⟨t', eq, same⟩ := same
    refine ⟨t', (inspect t').filterEntries, eq, ?_⟩
    rw [inspect_eq_summary, inspect_eq_summary]
    exact same.summary
  cases found : block? "filters".toList t with
  | none =>
      refine ⟨setFilterPredicate test value t, by rw [setFilterMatching, found], ?_⟩
      rw [outline_setFilter_new noEnd plain found]
      exact (Edit.filter test value).sameBut_act (outline t)
  | some b =>
      have name := name.resolve_left (found ▸ Option.some_ne_none b)
      obtain ⟨t', ls, eq, outline_eq⟩ := outline_setFilterMatching name noEnd plain found
      refine ⟨t', eq, ?_⟩
      rw [outline_eq]
      exact ⟨fun ne => absurd rfl ne, fun _ _ => rfl, rfl, rfl⟩

/-- **Five edits change one field each** of what a document says, whatever the document is like. -/
theorem edit_keeps_other_aspects (t : Text) :
    (∀ test value : Text, (block? "filters".toList t = none ∨ IsTestName test) →
      '\n' ∉ test → '\n' ∉ value →
        ∃ t' filterEntries, Edit.perform t (.filter test value) = .ok t' ∧
          inspect t' = { inspect t with filterEntries }) ∧
    (∀ kind : Text, '\n' ∉ kind → ∃ t' viewType, Edit.perform t (.viewType kind) = .ok t' ∧
      inspect t' = { inspect t with viewType }) ∧
    (∀ name : Text, '\n' ∉ name → ∃ t' viewName, Edit.perform t (.rename name) = .ok t' ∧
      inspect t' = { inspect t with viewName }) ∧
    ∀ refs : List Text, (∀ ref ∈ refs, '\n' ∉ ref) →
      (∃ t' viewOrder, Edit.perform t (.addColumns refs) = .ok t' ∧
        inspect t' = { inspect t with viewOrder }) ∧
      ∃ t' viewOrder, Edit.perform t (.removeColumns refs) = .ok t' ∧
        inspect t' = { inspect t with viewOrder } := by
  refine ⟨fun test value name noEnd plain => inspect_setFilterMatching name noEnd plain,
    fun kind noEnd => ?_, fun name noEnd => ?_, fun refs noEnds => ⟨?_, ?_⟩⟩
  · have plain : Edit.Plain (.viewType kind) :=
      ⟨by simpa [Text.Plain, Edit.arguments] using noEnd, rfl⟩
    exact ⟨_, _, rfl, Edit.inspect_apply plain (by simp [Edit.aspect]) t⟩
  · have plain : Edit.Plain (.rename name) :=
      ⟨by simpa [Text.Plain, Edit.arguments] using noEnd, rfl⟩
    exact ⟨_, _, rfl, Edit.inspect_apply plain (by simp [Edit.aspect]) t⟩
  · have plain : Edit.Plain (.addColumns refs) := ⟨noEnds, rfl⟩
    exact ⟨_, _, rfl, Edit.inspect_apply plain (by simp [Edit.aspect]) t⟩
  · have plain : Edit.Plain (.removeColumns refs) := ⟨noEnds, rfl⟩
    exact ⟨_, _, rfl, Edit.inspect_apply plain (by simp [Edit.aspect]) t⟩

/-- Each edit is carried out on one shelf, and changes its own aspect. -/
theorem shelf_keeps_other_aspects :
    (∃ t' filterEntries, Edit.perform "views:\n- type: table\n  order:\n    - a".toList
        (.filter "hasTag".toList "food".toList) = .ok t' ∧
      inspect t' = { inspect "views:\n- type: table\n  order:\n    - a".toList with filterEntries }) ∧
    (∃ t' viewType, Edit.perform "views:\n- type: table\n  order:\n    - a".toList
        (.viewType "cards".toList) = .ok t' ∧
      inspect t' = { inspect "views:\n- type: table\n  order:\n    - a".toList with viewType }) ∧
    (∃ t' viewName, Edit.perform "views:\n- type: table\n  order:\n    - a".toList
        (.rename "Shelf".toList) = .ok t' ∧
      inspect t' = { inspect "views:\n- type: table\n  order:\n    - a".toList with viewName }) ∧
    (∃ t' viewOrder, Edit.perform "views:\n- type: table\n  order:\n    - a".toList
        (.addColumns ["b".toList]) = .ok t' ∧
      inspect t' = { inspect "views:\n- type: table\n  order:\n    - a".toList with viewOrder }) ∧
    ∃ t' viewOrder, Edit.perform "views:\n- type: table\n  order:\n    - a".toList
        (.removeColumns ["a".toList]) = .ok t' ∧
      inspect t' = { inspect "views:\n- type: table\n  order:\n    - a".toList with viewOrder } := by
  obtain ⟨filter, kind, name, columns⟩ :=
    edit_keeps_other_aspects "views:\n- type: table\n  order:\n    - a".toList
  have word : IsTestName "hasTag".toList := isTestName_of_word (by decide)
  exact ⟨filter _ _ (.inr word) (by decide) (by decide), kind _ (by decide), name _ (by decide),
    (columns ["b".toList] (by simp)).1, (columns ["a".toList] (by simp)).2⟩

/-- The value of a test that is named by a pattern may land in the view. -/
theorem pattern_test_changes_kind :
    ¬ ∀ t test value : Text, '\n' ∉ test → '\n' ∉ value →
      ∃ t' filterEntries, Edit.perform t (.filter test value) = .ok t' ∧
        inspect t' = { inspect t with filterEntries } := by
  intro claim
  obtain ⟨t', filterEntries, performed, same⟩ := claim
    "filters:\n  and:\n    - file.y(\"q\")\nviews:\n  - type: table".toList
    "(x)?y".toList "v".toList (by decide) (by decide)
  have kinds : (Edit.perform "filters:\n  and:\n    - file.y(\"q\")\nviews:\n  - type: table".toList
      (.filter "(x)?y".toList "v".toList)).toOption.bind (fun t' => (inspect t').viewType) =
        some "tablve".toList := by decide +kernel
  have kind : (inspect
      "filters:\n  and:\n    - file.y(\"q\")\nviews:\n  - type: table".toList).viewType =
        some "table".toList := by decide
  rw [performed] at kinds
  have changed : (inspect t').viewType = some "tablve".toList := kinds
  rw [same] at changed
  exact absurd (kind.symm.trans changed) (by decide)

/-! ### Arrangements that are read back -/

namespace Document

/-- An entry that is put into a view stands there, if the view has a place for it. -/
theorem entryAt?_onView_put {o : Outline} {key : ViewKey} (new : Nat → Entry)
    (place : (o.entryAt? key).isSome ∨ (o.entryAt? .order).isSome) :
    ∃ dash, (o.onView (Panel.put key new)).entryAt? key = some (new dash) := by
  cases view_eq : o.view with
  | none => simp [Outline.entryAt?, view_eq] at place
  | some p =>
      have anchored : ((p.entry key).isSome || (p.entry .order).isSome) = true := by
        simpa [Outline.entryAt?, view_eq] using place
      refine ⟨p.dash, ?_⟩
      rw [Outline.entryAt?, Outline.onView, view_eq, Option.map_some, Option.bind_some, Panel.put,
        if_pos anchored, Panel.entry_set_self]

/-- A view has a place for a key if it has the key or columns. -/
theorem place_of_viewKey? {t : Text} (key : ViewKey)
    (place : (viewKey? "order".toList t).isSome ∨ (viewKey? key.text t).isSome) :
    ((outline t).entryAt? key).isSome ∨ ((outline t).entryAt? .order).isSome := by
  rw [entryAt?_eq_map, entryAt?_eq_map, Option.isSome_map, Option.isSome_map]
  exact place.symm

end Document

/-- An edit that puts an entry into a view with a place for it changes what the document says about
that entry alone, and the entry is the one that was put. -/
theorem Edit.inspect_of_put {e : Edit} {key : ViewKey} {new : Nat → Entry} {t t' : Text}
    (aspect : e.aspect = some key) (puts : e.onPanel = Panel.put key new)
    (acts : outline t' = e.act (outline t))
    (place : (viewKey? "order".toList t).isSome ∨ (viewKey? key.text t).isSome) :
    inspect t' = (inspect t).about (some key) (inspect t') ∧
      ∃ dash, (outline t').entryAt? key = some (new dash) := by
  have same := e.sameBut_act (outline t)
  rw [← acts, aspect] at same
  rw [inspect_eq_summary, inspect_eq_summary, acts, Edit.act_eq_onView aspect, puts]
  rw [acts, Edit.act_eq_onView aspect, puts] at same
  exact ⟨same.summary, entryAt?_onView_put new (place_of_viewKey? key place)⟩

/-- **A sorting or a grouping is read back as it was written**, and nothing else that the document
says changes, if the key stands on a row of its own or not at all. -/
theorem arrangement_is_read_back {t property direction : Text}
    (isProperty : Text.Unbroken property) (isDirection : Text.Unbroken direction) :
    (opensWith "sort".toList t = false →
      (viewKey? "order".toList t).isSome ∨ (viewKey? "sort".toList t).isSome →
        inspect (setSort property direction t) = { inspect t with
          viewSort := [[("property".toList, property), ("direction".toList, direction)]] }) ∧
    (opensWith "groupBy".toList t = false →
      (viewKey? "order".toList t).isSome ∨ (viewKey? "groupBy".toList t).isSome →
        inspect (setGroupBy property direction t) = { inspect t with
          viewGroupBy := some [("property".toList, property), ("direction".toList, direction)] }) := by
  constructor
  · intro closed place
    have acts : outline (setSort property direction t) =
        Edit.act (outline t) (.sort property direction) :=
      outline_setViewBlock .sort (renderSort_eq property direction)
        (fun dash => sortEntry_written dash isProperty.plain isDirection.plain)
        (label_of_not_opensWith .sort closed)
    have aspect : Edit.aspect (.sort property direction) = some .sort := rfl
    obtain ⟨same, dash, sort_eq⟩ := Edit.inspect_of_put aspect rfl acts place
    have said : (inspect (setSort property direction t)).viewSort =
        [[("property".toList, property), ("direction".toList, direction)]] := by
      show viewSort _ = _
      rw [viewSort_eq, sort_eq, ← sorting_sortEntry isProperty isDirection dash]
      rfl
    exact same.trans (congrArg (fun viewSort => { inspect t with viewSort }) said)
  · intro closed place
    have acts : outline (setGroupBy property direction t) =
        Edit.act (outline t) (.groupBy property direction) :=
      outline_setViewBlock .groupBy (renderGroupBy_eq property direction)
        (fun dash => groupEntry_written dash isProperty.plain isDirection.plain)
        (label_of_not_opensWith .groupBy closed)
    have aspect : Edit.aspect (.groupBy property direction) = some .groupBy := rfl
    obtain ⟨same, dash, groupBy_eq⟩ := Edit.inspect_of_put aspect rfl acts place
    have said : (inspect (setGroupBy property direction t)).viewGroupBy =
        some [("property".toList, property), ("direction".toList, direction)] := by
      show viewGroupBy? _ = _
      rw [viewGroupBy?_eq, groupBy_eq, ← grouping?_groupEntry isProperty isDirection dash]
      rfl
    exact same.trans (congrArg (fun viewGroupBy => { inspect t with viewGroupBy }) said)

/-- A sorting takes the place of another one, and a grouping is new. -/
theorem shelf_arrangement_is_read_back :
    inspect (setSort "size".toList "DESC".toList
        "views:\n- type: table\n  order:\n    - a\n  sort:\n    - property: b\n".toList) =
      { inspect "views:\n- type: table\n  order:\n    - a\n  sort:\n    - property: b\n".toList with
        viewSort := [[("property".toList, "size".toList), ("direction".toList, "DESC".toList)]] } ∧
    inspect (setGroupBy "size".toList "DESC".toList
        "views:\n- type: table\n  order:\n    - a\n  sort:\n    - property: b\n".toList) =
      { inspect "views:\n- type: table\n  order:\n    - a\n  sort:\n    - property: b\n".toList with
        viewGroupBy :=
          some [("property".toList, "size".toList), ("direction".toList, "DESC".toList)] } := by
  have isProperty : Text.Unbroken "size".toList := ⟨by decide, by decide⟩
  have isDirection : Text.Unbroken "DESC".toList := ⟨by decide, by decide⟩
  obtain ⟨sort, groupBy⟩ := arrangement_is_read_back
    (t := "views:\n- type: table\n  order:\n    - a\n  sort:\n    - property: b\n".toList)
    isProperty isDirection
  exact ⟨sort (by decide) (.inl (by decide)), groupBy (by decide) (.inl (by decide))⟩

/-- A sorting that opens the view takes the dash with it when it is replaced, and a grouping does
the same. -/
theorem opening_arrangement_is_lost :
    (¬ ∀ t property direction : Text, Text.Unbroken property → Text.Unbroken direction →
      (viewKey? "order".toList t).isSome ∨ (viewKey? "sort".toList t).isSome →
        inspect (setSort property direction t) = { inspect t with
          viewSort := [[("property".toList, property), ("direction".toList, direction)]] }) ∧
    ¬ ∀ t property direction : Text, Text.Unbroken property → Text.Unbroken direction →
      (viewKey? "order".toList t).isSome ∨ (viewKey? "groupBy".toList t).isSome →
        inspect (setGroupBy property direction t) = { inspect t with
          viewGroupBy := some [("property".toList, property), ("direction".toList, direction)] } := by
  have isProperty : Text.Unbroken "p".toList := ⟨by decide, by decide⟩
  have isDirection : Text.Unbroken "DESC".toList := ⟨by decide, by decide⟩
  constructor
  · intro claim
    have same := claim ("views:\n  - sort:\n      - property: a\n        direction: ASC\n" ++
      "    type: table\n    order:\n      - b\n").toList _ _ isProperty isDirection
      (.inl (by decide))
    have kind := congrArg Summary.viewType same
    exact absurd kind (by decide)
  · intro claim
    have same := claim ("views:\n  - groupBy:\n      property: a\n      direction: ASC\n" ++
      "    type: table\n    order:\n      - b\n").toList _ _ isProperty isDirection
      (.inl (by decide))
    have kind := congrArg Summary.viewType same
    exact absurd kind (by decide)

end Notebase
