import Notebase.Proofs.Rendering
import Notebase.Proofs.Text.Padding

/-!
Blanks around the fields of a form. A form with its fields trimmed, and those left out that are
blank, comes to the same document as the form itself or is refused like it, unless a blank field
counts as given (`trimmed_outcome_iff`). This happens with the fields of an arrangement alone, since
these are looked at before they are trimmed.
-/

namespace Notebase.Form

open Document

/-! ### Trimmed fields -/

/-- A field that is trimmed, and left out if nothing remains of it. -/
def tidied (field : Option Text) : Option Text := Text.given? (field.map Text.trim)

/-- A form with its fields trimmed and without the blank ones. The choices among those offered stay
as they are. -/
def trimmed (form : Form) : Form :=
  { form with
    tags := entries form.tags
    folder := tidied form.folder
    formulas := form.formulas.map fun f => ⟨f.name.trim, f.expression.trim⟩
    properties := entries form.properties
    customProperties := entries form.customProperties
    viewName := tidied form.viewName
    sortBy := tidied form.sortBy
    sortDirection := tidied form.sortDirection
    groupBy := tidied form.groupBy
    groupDirection := tidied form.groupDirection
    summaries := form.summaries.map fun s => ⟨s.property.trim, s.summary⟩ }

/-- A field that is filled in with nothing but blanks. -/
def Blank (field : Option Text) : Prop := ∃ value, Text.given? field = some value ∧ value.trim = []

/-- A field of an arrangement is blank and counts all the same: the direction, or the property of an
arrangement that has a direction. -/
def BlankCounts (property direction : Option Text) : Prop :=
  Blank direction ∨ (Blank property ∧ Text.given? direction ≠ none)

theorem trim_trim (t : Text) : t.trim.trim = t.trim := (Text.trimmed_trim t).trim_eq

/-- A field is empty, blank or written. -/
theorem tidied_cases (field : Option Text) :
    (Text.given? field = none ∧ tidied field = none) ∨ (Blank field ∧ tidied field = none) ∨
      ∃ value, Text.given? field = some value ∧ value.trim ≠ [] ∧
        tidied field = some value.trim := by
  rcases field with - | ⟨- | ⟨c, t⟩⟩
  · exact .inl ⟨rfl, rfl⟩
  · exact .inl ⟨rfl, rfl⟩
  · by_cases blank : Text.trim (c :: t) = []
    · refine .inr (.inl ⟨⟨_, rfl, blank⟩, ?_⟩)
      rw [tidied, Option.map_some, blank]
      rfl
    · exact .inr (.inr ⟨_, rfl, blank, given?_of_ne_nil blank⟩)

theorem text_tidied (field : Option Text) : text (tidied field) = text field := by
  rcases field with - | value
  · rfl
  · rw [tidied, Option.map_some, text, text, Option.getD_some]
    cases trim : value.trim with
    | nil => rfl
    | cons c t =>
        rw [given?_of_ne_nil (List.cons_ne_nil c t), Option.getD_some, ← trim, trim_trim]

theorem entries_entries (items : List Text) : entries (entries items) = entries items := by
  have same : ∀ t ∈ entries items, t.trim = t := by
    intro t ht
    obtain ⟨item, -, rfl⟩ := List.mem_map.mp (List.mem_filter.mp ht).1
    exact trim_trim item
  rw [entries, List.map_congr_left same, List.map_id', entries, List.filter_filter]
  simp only [Bool.and_self]

/-! ### The parts of a trimmed form -/

/-- The formulas that are kept are the same after they are trimmed. -/
theorem keptFormulas_trimmed (formulas : List Formula) :
    keptFormulas (formulas.map fun f => ⟨f.name.trim, f.expression.trim⟩) =
      keptFormulas formulas := by
  induction formulas with
  | nil => rfl
  | cons f formulas ih =>
      rw [List.map_cons, keptFormulas, keptFormulas, ih]
      dsimp only
      rw [trim_trim, trim_trim]

/-- A form has the same faults after it is trimmed. -/
theorem check_trimmed (form : Form) : form.trimmed.check = form.check := by
  rw [check, check, trimmed]
  dsimp only
  rw [List.find?_map]
  have same : ((fun s : Summary => !summaryTypes.contains s.summary) ∘
      fun s : Summary => (⟨s.property.trim, s.summary⟩ : Summary)) =
      fun s : Summary => !summaryTypes.contains s.summary := rfl
  rw [same]
  cases form.summaries.find? fun s => !summaryTypes.contains s.summary with
  | none => rfl
  | some s => rfl

theorem sections_trimmed (form : Form) (formulas : List Formula) :
    form.trimmed.sections formulas = form.sections formulas := by
  have predicates_ : form.trimmed.predicates = form.predicates := by
    rw [predicates, predicates, trimmed]
    dsimp only
    rw [entries_entries, text_tidied]
  rw [sections, sections, predicates_]
  rfl

section Layouts

variable {form : Form} {formulas : List Formula} {sortDirection groupDirection : Option Text}

/-- **The layout** of a trimmed form differs in the properties of its arrangements alone. -/
theorem layout_trimmed : form.trimmed.layout formulas sortDirection groupDirection =
    { form.layout formulas sortDirection groupDirection with
      sort := arrangement (tidied form.sortBy) sortDirection
      groupBy := arrangement (tidied form.groupBy) groupDirection } := by
  have name : form.trimmed.resolvedViewName = form.resolvedViewName := by
    rw [resolvedViewName, resolvedViewName, trimmed]
    dsimp only
    rw [text_tidied]
  have columns_ : form.trimmed.columns formulas = form.columns formulas := by
    rw [columns, columns, trimmed]
    dsimp only
    rw [entries_entries, entries_entries]
  have summaries_ : ((form.trimmed.summaries.filter fun s => !s.property.trim.isEmpty).map fun s =>
      "      ".toList ++ s.property.trim ++ ": ".toList ++ s.summary) =
      (form.summaries.filter fun s => !s.property.trim.isEmpty).map fun s =>
        "      ".toList ++ s.property.trim ++ ": ".toList ++ s.summary := by
    rw [trimmed]
    dsimp only
    rw [List.filter_map, List.map_map]
    simp only [Function.comp_def, trim_trim]
  rw [layout, layout, sections_trimmed, name, columns_, summaries_]
  rfl

/-- A direction that can be read is not blank, and it is the same when it is trimmed. -/
theorem direction?_eq_ok_iff {what : Arrangement} {field direction : Option Text} :
    direction? what field = .ok direction ↔
      direction? what (tidied field) = .ok direction ∧ ¬ Blank field := by
  rcases tidied_cases field with ⟨absent, tidied_⟩ | ⟨⟨value, given, blank⟩, tidied_⟩ |
    ⟨value, given, written, tidied_⟩
  · have filled : ¬ Blank field := by
      rintro ⟨value, given, -⟩
      cases absent.symm.trans given
    rw [direction?, direction?, absent, tidied_]
    exact (and_iff_left filled).symm
  -- A direction that is all blank is refused, though a trimmed form has none.
  · have unknown : direction? what field = .error (.badDirection what value) := by
      rw [direction?, given]
      dsimp only
      rw [blank]
      rfl
    rw [unknown]
    constructor
    · intro none
      cases none
    · rintro ⟨-, filled⟩
      exact absurd ⟨value, given, blank⟩ filled
  · have filled : ¬ Blank field := by
      rintro ⟨value', given', blank⟩
      cases given.symm.trans given'
      exact written blank
    rw [and_iff_left filled, direction?, direction?, given, tidied_, given?_of_ne_nil written]
    dsimp only
    rw [trim_trim]
    split
    · rfl
    · constructor <;> intro none <;> cases none

/-- **What is read of a form** is read of the trimmed form, and its directions are not blank. -/
theorem read_iff_trimmed : form.Read formulas sortDirection groupDirection ↔
    form.trimmed.Read formulas sortDirection groupDirection ∧
      ¬ Blank form.sortDirection ∧ ¬ Blank form.groupDirection := by
  constructor
  · rintro ⟨kept, sort, group⟩
    obtain ⟨sort, sort'⟩ := direction?_eq_ok_iff.mp sort
    obtain ⟨group, group'⟩ := direction?_eq_ok_iff.mp group
    exact ⟨⟨(keptFormulas_trimmed _).trans kept, sort, group⟩, sort', group'⟩
  · rintro ⟨⟨kept, sort, group⟩, sort', group'⟩
    exact ⟨(keptFormulas_trimmed _).symm.trans kept, direction?_eq_ok_iff.mpr ⟨sort, sort'⟩,
      direction?_eq_ok_iff.mpr ⟨group, group'⟩⟩

end Layouts

/-! ### What is written -/

def ink (t : Text) : Nat := t.countP (· ≠ '\n')

theorem ink_append (t u : Text) : ink (t ++ u) = ink t + ink u := List.countP_append

/-- Line ends at the end are no ink. -/
theorem ink_dropFinalNewlines (t : Text) : ink (Text.dropFinalNewlines t) = ink t := by
  have dropped : ink (t.drop (Text.dropFinalNewlines t).length) = 0 := by
    rw [ink, List.countP_eq_zero]
    intro c hc
    simpa using forall_mem_drop_dropEndWhile (· == '\n') t c hc
  calc ink (Text.dropFinalNewlines t)
      = ink (Text.dropFinalNewlines t ++ t.drop (Text.dropFinalNewlines t).length) := by
        rw [ink_append, dropped, Nat.add_zero]
    _ = ink t := congrArg ink (dropEndWhile_append_drop _ t)

/-- The arrangements of a view are written beside the rest of it. -/
theorem ink_arranged (l : Layout) (sort groupBy : Option (Text × Text)) :
    ink (unlines ("views:".toList :: pageRows l.kind l.shown)) +
        (ink (Layout.block renderSort sort) + ink (Layout.block renderGroupBy groupBy)) =
      ink (unlines ("views:".toList :: pageRows l.kind { l with sort, groupBy }.shown)) +
        (ink (Layout.block renderSort l.sort) + ink (Layout.block renderGroupBy l.groupBy)) := by
  have other := Layout.unlines_shown { l with sort, groupBy }
  dsimp only at other
  rw [Layout.unlines_shown, other]
  simp only [ink_append]
  omega

section Arranged

variable {property direction : Option Text}

theorem arrangement_of_absent (absent : Text.given? property = none) (direction : Option Text) :
    arrangement property direction = none := by
  unfold arrangement
  rw [absent]

theorem arrangement_of_undirected (property : Option Text) : arrangement property none = none := by
  unfold arrangement
  cases Text.given? property with
  | none => rfl
  | some value => rfl

theorem arrangement_of_given {value : Text} (given : Text.given? property = some value) (d : Text) :
    arrangement property (some d) = some (value.trim, d) := by
  unfold arrangement
  rw [given]

/-- Trimming does not change an arrangement, unless a blank property has a direction. -/
theorem arrangement_tidied (shown : ¬ (Blank property ∧ direction ≠ none)) :
    arrangement (tidied property) direction = arrangement property direction := by
  rcases tidied_cases property with ⟨absent, left⟩ | ⟨blank, left⟩ | ⟨value, given, written, left⟩
  · rw [left, arrangement_of_absent rfl, arrangement_of_absent absent]
  · have undirected : direction = none := by_contra fun directed => shown ⟨blank, directed⟩
    rw [left, undirected, arrangement_of_absent rfl, arrangement_of_undirected]
  · cases direction with
    | none => rw [arrangement_of_undirected, arrangement_of_undirected]
    | some d =>
        rw [left, arrangement_of_given (given?_of_ne_nil written), arrangement_of_given given,
          trim_trim]

variable {render : Text → Text → Nat → Text} (written : ∀ p d, 0 < ink (render p d 4))
include written

/-- **A blank property** of an arrangement with a direction is written, unless it is left out. -/
theorem ink_block_of_blank (blank : Blank property) (directed : direction ≠ none) :
    ink (Layout.block render (arrangement (tidied property) direction)) <
      ink (Layout.block render (arrangement property direction)) := by
  obtain ⟨value, given, trim⟩ := blank
  obtain ⟨d, rfl⟩ := Option.ne_none_iff_exists'.mp directed
  have left : tidied property = none := by
    rw [tidied, given?_eq_some given, Option.map_some, trim]
    rfl
  rw [left, arrangement_of_absent rfl, arrangement_of_given given]
  exact written _ d

theorem ink_block_le (property direction : Option Text) :
    ink (Layout.block render (arrangement (tidied property) direction)) ≤
      ink (Layout.block render (arrangement property direction)) := by
  by_cases blank : Blank property ∧ direction ≠ none
  · exact Nat.le_of_lt (ink_block_of_blank written blank.1 blank.2)
  · rw [arrangement_tidied blank]

end Arranged

section Views

variable {form : Form} {formulas : List Formula} {sortDirection groupDirection : Option Text}

/-- **The view** of a form is that of the trimmed form exactly if no arrangement has a direction and
a blank property. -/
theorem viewBlock_trimmed_iff : form.trimmed.viewBlock formulas sortDirection groupDirection =
      form.viewBlock formulas sortDirection groupDirection ↔
    ¬ (Blank form.sortBy ∧ sortDirection ≠ none) ∧
      ¬ (Blank form.groupBy ∧ groupDirection ≠ none) := by
  -- Either arrangement has some ink, so leaving one out shows in the ink of the whole block.
  have sorted : ∀ p d, 0 < ink (renderSort p d 4) := by
    intro p d
    simp only [renderSort, unlines, List.flatMap_cons, ink_append]
    have word : 0 < ink "sort:".toList := by decide
    omega
  have grouped : ∀ p d, 0 < ink (renderGroupBy p d 4) := by
    intro p d
    simp only [renderGroupBy, unlines, List.flatMap_cons, ink_append]
    have word : 0 < ink "groupBy:".toList := by decide
    omega
  rw [viewBlock_eq_shown, viewBlock_eq_shown, layout_trimmed]
  constructor
  · intro same
    let l := form.layout formulas sortDirection groupDirection
    let sort := arrangement (tidied form.sortBy) sortDirection
    let groupBy := arrangement (tidied form.groupBy) groupDirection
    have equal : ink (unlines ("views:".toList :: pageRows l.kind { l with sort, groupBy }.shown)) =
        ink (unlines ("views:".toList :: pageRows l.kind l.shown)) := by
      have ink_ := congrArg ink same
      rwa [ink_dropFinalNewlines, ink_dropFinalNewlines] at ink_
    have arranged := ink_arranged l sort groupBy
    rw [equal] at arranged
    have total : ink (Layout.block renderSort sort) + ink (Layout.block renderGroupBy groupBy) =
        ink (Layout.block renderSort (arrangement form.sortBy sortDirection)) +
          ink (Layout.block renderGroupBy (arrangement form.groupBy groupDirection)) :=
      Nat.add_left_cancel arranged
    have sortLe := ink_block_le sorted form.sortBy sortDirection
    have groupLe := ink_block_le grouped form.groupBy groupDirection
    constructor
    · rintro ⟨blank, directed⟩
      have less := ink_block_of_blank sorted blank directed
      exact absurd total (Nat.ne_of_lt (Nat.add_lt_add_of_lt_of_le less groupLe))
    · rintro ⟨blank, directed⟩
      have less := ink_block_of_blank grouped blank directed
      exact absurd total (Nat.ne_of_lt (Nat.add_lt_add_of_le_of_lt sortLe less))
  · rintro ⟨sort, group⟩
    rw [arrangement_tidied sort, arrangement_tidied group]
    rfl

/-- Documents that differ in their last part alone differ there. -/
theorem join_concat_inj {separator : Text} {parts : List Text} {a b : Text}
    (same : Text.join separator (parts ++ [a]) = Text.join separator (parts ++ [b])) : a = b := by
  rw [Text.join, Text.join] at same
  by_cases none : parts = []
  · rw [none] at same
    simpa using same
  · rw [Padding.intercalate_concat _ none, Padding.intercalate_concat _ none] at same
    exact List.append_cancel_left (List.append_cancel_left same)

theorem given?_ne_none_iff {what : Arrangement} {field direction : Option Text}
    (read : direction? what field = .ok direction) :
    Text.given? field ≠ none ↔ direction ≠ none := by
  rw [← Option.isSome_iff_ne_none, ← Option.isSome_iff_ne_none, (of_direction? read).1]

end Views

theorem blankCounts_iff {property direction read : Option Text} {what : Arrangement}
    (read_ : direction? what direction = .ok read) :
    BlankCounts property direction ↔ Blank property ∧ read ≠ none := by
  rw [BlankCounts, given?_ne_none_iff read_]
  exact or_iff_right (direction?_eq_ok_iff.mp read_).2

/-- **A form is rendered like the trimmed form**, where that is rendered, exactly if no blank field
counts. -/
theorem render_eq_ok_iff_trimmed {form : Form} {d : Text} (trimmed_ : form.trimmed.render = .ok d) :
    form.render = .ok d ↔ ¬ BlankCounts form.sortBy form.sortDirection ∧
      ¬ BlankCounts form.groupBy form.groupDirection := by
  obtain ⟨check, formulas, sortDirection, groupDirection, read, rfl⟩ :=
    render_eq_ok_iff.mp trimmed_
  constructor
  · intro rendered
    obtain ⟨-, formulas', sortDirection', groupDirection', read', same⟩ :=
      render_eq_ok_iff.mp rendered
    obtain ⟨isRead, -⟩ := read_iff_trimmed.mp read'
    obtain rfl := Except.ok.inj (read.formulas.symm.trans isRead.formulas)
    obtain rfl := Except.ok.inj (read.sortDirection.symm.trans isRead.sortDirection)
    obtain rfl := Except.ok.inj (read.groupDirection.symm.trans isRead.groupDirection)
    rw [sections_trimmed] at same
    rw [blankCounts_iff read'.sortDirection, blankCounts_iff read'.groupDirection]
    exact viewBlock_trimmed_iff.mp (join_concat_inj same)
  · rintro ⟨sort, group⟩
    have read' := read_iff_trimmed.mpr ⟨read, fun blank => sort (.inl blank),
      fun blank => group (.inl blank)⟩
    rw [blankCounts_iff read'.sortDirection] at sort
    rw [blankCounts_iff read'.groupDirection] at group
    refine render_eq_ok_iff.mpr ⟨(check_trimmed form).symm.trans check, _, _, _, read', ?_⟩
    rw [sections_trimmed, viewBlock_trimmed_iff.mpr ⟨sort, group⟩]

/-- **Blanks around the fields** of a form make no difference unless a blank field counts as given.
A form and the trimmed form come to the same document, or both are refused, exactly if this is not
so or the trimmed form is refused anyway. -/
theorem trimmed_outcome_iff (form : Form) :
    form.render.toOption = form.trimmed.render.toOption ↔
      ∀ d, form.trimmed.render = .ok d → ¬ BlankCounts form.sortBy form.sortDirection ∧
        ¬ BlankCounts form.groupBy form.groupDirection := by
  have toOption : ∀ {x : Except Error Text} {d}, x.toOption = some d ↔ x = .ok d := by
    intro x d
    cases x <;> simp [Except.toOption]
  constructor
  · intro same d trimmed_
    rw [trimmed_] at same
    exact (render_eq_ok_iff_trimmed trimmed_).mp (toOption.mp same)
  · intro counts
    cases trimmed_ : form.trimmed.render with
    | ok d => exact toOption.mpr ((render_eq_ok_iff_trimmed trimmed_).mpr (counts d trimmed_))
    | error e =>
        cases rendered : form.render with
        | error e' => rfl
        | ok d =>
            obtain ⟨check, _, _, _, read, -⟩ := render_eq_ok_iff.mp rendered
            have accepted := render_eq_ok_iff.mpr ⟨(check_trimmed form).trans check, _, _, _,
              (read_iff_trimmed.mp read).1, rfl⟩
            cases trimmed_.symm.trans accepted

/-- A blank property with a direction is sorted by, and a blank direction is refused. -/
theorem blank_arrangement_counts :
    let named : Form := { sortBy := some [' '], sortDirection := some "ASC".toList }
    let directed : Form := { sortDirection := some [' '] }
    let rows := ["views:", "  - type: table", "    name: \"Results\"", "    order:",
      "      - file.name"]
    named.render.toOption = some (joinLines ((rows ++ ["    sort:", "      - property: ",
        "        direction: ASC"]).map String.toList)) ∧
      named.trimmed.render.toOption = some (joinLines (rows.map String.toList)) ∧
      directed.render.toOption = none ∧
      directed.trimmed.render.toOption = some (joinLines (rows.map String.toList)) := by
  decide

end Notebase.Form
