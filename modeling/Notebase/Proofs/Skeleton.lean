import Notebase.Proofs.ReadBack

/-!
The structure of a rendered document. A page opens one block for each of its sections and one for
the views, in that order (`IsPage.topRows_eq`), and a single item of a list starts a view on it
(`IsPage.viewHeads_eq`). No field of a form changes that, as long as it is written on one line
(`fields_keep_structure`).
-/

namespace Notebase

namespace Document

open Text

/-- What the lines say that open a block of the top level. -/
def topRows (t : Text) : List Text := (rows t).filter isTopKey

/-- What the lines say that start a view: the items of a list under `views` that do not stand deeper
than the first one. -/
def viewHeads (t : Text) : List Text :=
  match block? "views".toList t with
  | none => []
  | some b =>
      match (b.body.map content).filter isItem with
      | [] => []
      | head :: items => head :: items.filter fun row => indentation row ≤ indentation head

/-! ### Blocks of a page -/

/-- A section has one line with a key of the document. -/
theorem IsSection.filter_isTopKey {key : Text} {rs : List Text} (h : IsSection key rs) :
    (rs ++ [[]]).filter isTopKey = [key ++ [':']] := by
  obtain ⟨name, body, rfl, deeper⟩ := h
  have top : isTopKey (key ++ [':']) = true :=
    isTopKey_of_startsWithKey name (List.isPrefixOf_iff_prefix.mpr (List.prefix_refl _))
  have rest : ∀ r ∈ body ++ [[]], ¬ isTopKey r = true := by
    intro r hr
    rcases List.mem_append.mp hr with hr | hr
    · simp [isTopKey_of_head? (deeper r hr).2]
    · rw [List.mem_singleton.mp hr]
      decide
  rw [List.cons_append, List.filter_cons_of_pos top, List.filter_eq_nil_iff.mpr rest]

/-- **The blocks of sections** stand above those of the text below. -/
theorem topRows_sectionsText {keys : List Text} {sections : List (List Text)}
    (areSections : List.Forall₂ IsSection keys sections) (below : Text) :
    topRows (sectionsText sections ++ below) = keys.map (· ++ [':']) ++ topRows below := by
  induction areSections with
  | nil => rfl
  | @cons key rs keys sections first _ ih =>
      have said : (sectionLines rs).map content = rs ++ [[]] := by
        rw [sectionLines, List.map_map, List.map_congr_left, List.map_id]
        intro r hr
        refine content_row_append [] ?_
        rcases List.mem_append.mp hr with hr | hr
        · exact first.plain r hr
        · rw [List.mem_singleton.mp hr]
          exact List.not_mem_nil
      rw [topRows, rows] at ih ⊢
      rw [lines_sectionsText first.plain, List.map_append, List.filter_append, ih, said,
        first.filter_isTopKey]
      rfl

/-! ### Rows of a view -/

theorem le_indentation_of_spaces {n : Nat} {row : Text} (front : spaces n <+: row) :
    n ≤ indentation row := by
  obtain ⟨rest, rfl⟩ := front
  rw [indentation, List.takeWhile_append_of_pos (by simp [spaces]), List.length_append, spaces,
    List.length_replicate]
  exact Nat.le_add_right _ _

theorem Entry.Written.le_indentation {dash : Nat} {key : Text} {e : Entry} (ok : e.Written dash key) :
    ∀ r ∈ e.rows, dash + 2 ≤ indentation r := by
  intro r hr
  rcases List.mem_cons.mp hr with rfl | hr
  · exact le_indentation_of_spaces (ok.front.trans (List.prefix_append _ _))
  · exact Nat.le_of_lt (lt_indentation_of_isDeeper (ok.valid.children r hr))

/-! ### Pages -/

section Pages

variable {above kind : Text} {es : List (Text × Entry)}

/-- **The blocks of a page** are those of its sections, and then the one of the views. -/
theorem IsPage.topRows_eq {keys : List Text} {sections : List (List Text)}
    (ok : IsPage (sectionsText sections) kind es) (areSections :
    List.Forall₂ IsSection keys sections) :
    topRows (page (sectionsText sections) kind es) =
      keys.map (· ++ [':']) ++ ["views:".toList] := by
  obtain ⟨plain, last⟩ := ok.rows_views
  have header : isTopKey "views:".toList = true := by decide
  have below : ∀ r ∈ pageRows kind es, ¬ isTopKey r = true := fun r hr => by
    simpa using ok.viewRows.notTopKey r hr
  rw [page, topRows_sectionsText areSections, topRows, rows_joinLines plain last,
    List.filter_cons_of_pos header, List.filter_eq_nil_iff.mpr below]

/-- The block of the views on a page says what the rows of the view say. -/
theorem IsPage.block?_views (ok : IsPage above kind es) :
    ∃ b, block? "views".toList (page above kind es) = some b ∧
      b.body.map content = pageRows kind es := by
  obtain ⟨ls, below, notTop⟩ := ok.lines_below
  have header : startsWithKey "views".toList "views:\n".toList = true := by decide
  have all : ∀ l ∈ ls, (!isTopKey l) = true := fun l hl => by simp [notTop l hl]
  refine ⟨⟨lines above, "views:\n".toList, ls, []⟩, ?_, ?_⟩
  · rw [block?, page, lines_append _ ok.complete, below,
      splitFirst?_of_split ok.noViews header, Option.map_some]
    dsimp only
    rw [List.takeWhile_eq_self_iff.mpr all, List.dropWhile_eq_nil_iff.mpr all]
  · obtain ⟨plain, last⟩ := ok.rows_views
    have whole := rows_joinLines plain last
    rw [rows, below, List.map_cons] at whole
    exact (List.cons.inj whole).2

/-- **A single item starts a view** on a page: the one with the kind. -/
theorem IsPage.viewHeads_eq (ok : IsPage above kind es) :
    viewHeads (page above kind es) = ["  - type: ".toList ++ kind] := by
  obtain ⟨b, block, body⟩ := ok.block?_views
  have item := dashFront_typeRow kind
  have rows : pageRows kind es = ("  - type: ".toList ++ kind) :: entryRows es := by
    rw [pageRows, entryRows_cons, rows_typeEntry, List.singleton_append]
  have deeper : ∀ r ∈ (entryRows es).filter isItem, ¬ decide (indentation r ≤ 2) = true := by
    intro r hr
    obtain ⟨x, mem, listed⟩ := List.mem_flatMap.mp (List.mem_filter.mp hr).1
    have deep := (ok.written x mem).le_indentation r listed
    rw [decide_eq_true_eq]
    omega
  rw [viewHeads, block]
  dsimp only
  rw [body, rows, List.filter_cons_of_pos (isItem_of_dashFront item)]
  dsimp only
  rw [indentation_of_dashFront item, List.filter_eq_nil_iff.mpr deeper]

end Pages

end Document

open Document

namespace Form

/-! ### Forms -/

section Forms

variable {form : Form} {formulas : List Formula}

def sectionKeys (form : Form) : List Text :=
  (if form.predicates.isEmpty then [] else ["filters".toList]) ++
    if form.keptNames.isEmpty then [] else ["formulas".toList, "properties".toList]

/-- The sections of a form have their keys in the order in which they are written. -/
theorem OneLine.forall₂_sections (line : form.OneLine) (check : form.check = .ok ())
    (kept : keptFormulas form.formulas = .ok formulas) :
    List.Forall₂ IsSection form.sectionKeys (form.sections formulas) := by
  have names : form.keptNames.isEmpty = formulas.isEmpty := by
    rw [← map_name_keptFormulas kept, List.isEmpty_map]
  rw [sectionKeys, sections, names]
  refine List.rel_append ?_ ?_
  · split
    · exact .nil
    · exact .cons (isSection_filterRows line.predicates (plain_logic_of_check check)) .nil
  · split
    · next none =>
        rw [formulaSections, if_pos none]
        exact .nil
    · next some =>
        obtain ⟨declared, named, sections, first, second, -⟩ := isSection_formulaSections
          (by simpa using some) (of_mem_keptFormulas kept line.formulas)
        rw [sections]
        exact .cons first (.cons second .nil)

end Forms

/-- **The structure of a rendered form**: a block for its filters if it has any, two for its formulas
if it has any, and one view, with its kind. -/
theorem OneLine.skeleton {form : Form} {d : Text} (line : form.OneLine)
    (rendered : form.render = .ok d) :
    topRows d = form.sectionKeys.map (· ++ [':']) ++ ["views:".toList] ∧
      viewHeads d = ["  - type: ".toList ++ form.viewType] := by
  obtain ⟨check, formulas, sortDirection, groupDirection, read, rfl⟩ :=
    line.render_eq_page_iff.mp rendered
  have isPage : IsPage (sectionsText (form.sections formulas)) form.viewType
      (form.layout formulas sortDirection groupDirection).shown :=
    (line.layout check read).isPage_shown
  exact ⟨isPage.topRows_eq (line.forall₂_sections check read.formulas), isPage.viewHeads_eq⟩

/-- The lines that open a block in the document of a form. -/
def headers : List Text := ["filters:", "formulas:", "properties:", "views:"].map String.toList

theorem headers_sublist (form : Form) :
    (form.sectionKeys.map (· ++ [':']) ++ ["views:".toList]).Sublist headers := by
  rw [sectionKeys]
  split <;> split <;> decide

end Form

/-- **No field of a form changes the structure of its document**, as long as it is written on one
line. The lines that open a block are those for filters, formulas, properties and views, each once at
most and in this order, a single item starts a view, the view has the kind of the form, and the
formulas of the document are those that are kept. -/
theorem fields_keep_structure {form : Form} {d : Text} (line : form.OneLine)
    (rendered : form.render = .ok d) :
    (topRows d).Sublist Form.headers ∧ viewHeads d = ["  - type: ".toList ++ form.viewType] ∧
      viewType? d = some form.viewType ∧ formulaNames d = form.keptNames := by
  obtain ⟨top, heads⟩ := line.skeleton rendered
  obtain ⟨-, kind, -, names⟩ := line.readBack rendered
  refine ⟨?_, heads, kind, names⟩
  rw [top]
  exact form.headers_sublist

/-- Values that look like keys and items, with quotes and backslashes in them and line ends around
them. -/
theorem awkward_fields_keep_structure : ∃ d,
    ({ tags := [" # \n", "##views:"].map String.toList
       folder := some "\n- type: 'x\\\"\n".toList
       formulas := [⟨"total\n".toList, "\nviews: \"b\"".toList⟩, ⟨"none".toList, " ".toList⟩]
       properties := ["filters:\n".toList]
       viewType := "map".toList
       viewName := some " \n\"- type: x ".toList
       sortBy := some "  - type: y\n".toList
       sortDirection := some "desc\n".toList
       summaries := [⟨"- type:\n".toList, "Sum".toList⟩] } : Form).render = .ok d ∧
    (topRows d).Sublist Form.headers ∧ viewHeads d = ["  - type: map".toList] ∧
    viewType? d = some "map".toList ∧ formulaNames d = ["total".toList] := by
  let form : Form := {
    tags := [" # \n", "##views:"].map String.toList
    folder := some "\n- type: 'x\\\"\n".toList
    formulas := [⟨"total\n".toList, "\nviews: \"b\"".toList⟩, ⟨"none".toList, " ".toList⟩]
    properties := ["filters:\n".toList]
    viewType := "map".toList
    viewName := some " \n\"- type: x ".toList
    sortBy := some "  - type: y\n".toList
    sortDirection := some "desc\n".toList
    summaries := [⟨"- type:\n".toList, "Sum".toList⟩] }
  have line : form.OneLine := by constructor <;> decide
  obtain ⟨d, rendered⟩ := form.exists_render (by decide)
  obtain ⟨top, heads, kind, names⟩ := fields_keep_structure line rendered
  exact ⟨d, rendered, top, heads.trans (by decide), kind, names.trans (by decide)⟩

/-- A folder with line ends in it opens a second block of views, above the one of the form, and the
view that is read is the one that the folder writes there. -/
theorem folder_writes_a_view : ∃ d,
    ({ folder := some "a\nviews:\n  - type: list\n#".toList, viewType := "table".toList } :
      Form).render = .ok d ∧
    ¬ (topRows d).Sublist Form.headers ∧ viewType? d = some "list".toList := by
  let form : Form :=
    { folder := some "a\nviews:\n  - type: list\n#".toList, viewType := "table".toList }
  obtain ⟨d, rendered⟩ := form.exists_render (by decide)
  have out : (form.render.toOption.map fun d =>
      (decide (¬ (topRows d).Sublist Form.headers), viewType? d)) =
        some (true, some "list".toList) := by decide
  rw [rendered] at out
  obtain ⟨top, kind⟩ := Prod.mk.inj (Option.some.inj out)
  exact ⟨d, rendered, of_decide_eq_true top, kind⟩

end Notebase
