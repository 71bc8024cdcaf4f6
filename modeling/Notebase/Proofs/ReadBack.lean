import Notebase.Proofs.Patch.Sound
import Notebase.Proofs.Rendering
import Notebase.Proofs.Text.Trim

/-!
What the renderers write, the readers read back (`rendered_documents_are_read_back`). A predicate
passes through two layers of quoting, a value may look like any part of a document, and every
section may be there or not; the readers find each part by its place on the page.
-/

namespace Notebase

open Document

/-! ### Quoted predicates -/

theorem halveQuotes_cons {c : Char} (ne : c ≠ '\'') (t : Text) :
    halveQuotes (c :: t) = c :: halveQuotes t := by
  rw [halveQuotes]
  exact fun _ eq _ => ne eq

/-- Every single quote is undone once. -/
theorem halveQuotes_doubleQuotes (t : Text) : halveQuotes (doubleQuotes t) = t := by
  induction t with
  | nil => rfl
  | cons c t ih =>
      by_cases quote : c = '\''
      · rw [quote, doubleQuotes_mark]
        exact congrArg ('\'' :: ·) ih
      · rw [doubleQuotes_cons quote, halveQuotes_cons quote, ih]

/-- A text between single marks is taken out again. -/
theorem unquote_singleQuoted (t : Text) : unquote (singleQuoted t) = t := by
  have last : (singleQuoted t).getLast? = some '\'' := List.getLast?_concat
  have trimmed : Text.Trimmed (singleQuoted t) :=
    ⟨by rintro c ⟨⟩; decide, by rw [last]; rintro c ⟨⟩; decide⟩
  have quoted : isBetween '\'' (singleQuoted t) = true := by
    rw [isBetween, last]
    simp [singleQuoted]
  have inside : (singleQuoted t).tail.dropLast = doubleQuotes t := by
    rw [singleQuoted, List.cons_append, List.tail_cons, List.dropLast_concat]
  rw [unquote, trimmed.trim_eq, quoted, if_pos rfl, inside, halveQuotes_doubleQuotes]

/-- A predicate with a double quote is a tidy item. -/
theorem tidy_quotePredicate {p : Text} (quote : '"' ∈ p) (plain : '\n' ∉ p) :
    Tidy (quotePredicate p) := by
  refine ⟨plain_quotePredicate plain, ?_⟩
  have last : (singleQuoted p).getLast? = some '\'' := List.getLast?_concat
  rw [quotePredicate, if_pos (List.contains_iff_mem.mpr quote), last]
  rintro c ⟨⟩
  decide

theorem quote_mem_filePredicate (test value : Text) : '"' ∈ filePredicate test value := by
  simp [filePredicate, callFront_def]

/-- In every test of a file there is a quotation mark. -/
theorem quote_mem_filePredicates (tags folders : List Text) (name : Text → Text) :
    ∀ p ∈ tags.map (fun tag => filePredicate "hasTag".toList (name tag)) ++
      folders.map (filePredicate "inFolder".toList), '"' ∈ p := by
  intro p hp
  rcases List.mem_append.mp hp with hp | hp
  · obtain ⟨tag, -, rfl⟩ := List.mem_map.mp hp
    exact quote_mem_filePredicate _ _
  · obtain ⟨folder, -, rfl⟩ := List.mem_map.mp hp
    exact quote_mem_filePredicate _ _

/-- **Filters are read back.** -/
theorem read_filterRows {predicates : List Text} {conjunction : Text}
    (known : conjunction ∈ Form.logics) (quote : ∀ p ∈ predicates, '"' ∈ p)
    (plain : Text.Plain predicates) :
    ((filterRows predicates conjunction).filterMap listItem?).map unquote = predicates := by
  have header : listItem? "filters:".toList = none := by decide
  have join : ∀ conjunction ∈ Form.logics,
      listItem? ("  ".toList ++ conjunction ++ ":".toList) = none := by decide
  have dash : "    - ".toList = Text.spaces (0 + 4) ++ "- ".toList := by decide
  have items : (predicates.map fun p => "    - ".toList ++ quotePredicate p) =
      (predicates.map quotePredicate).map (columnRow 0) := by
    rw [List.map_map, dash]
    rfl
  have tidy : ∀ ref ∈ predicates.map quotePredicate, Tidy ref := by
    intro ref hr
    obtain ⟨p, mem, rfl⟩ := List.mem_map.mp hr
    exact tidy_quotePredicate (quote p mem) (plain p mem)
  have undone : ∀ p ∈ predicates, (unquote ∘ quotePredicate) p = p := by
    intro p mem
    rw [Function.comp_apply, quotePredicate, if_pos (List.contains_iff_mem.mpr (quote p mem)),
      unquote_singleQuoted]
  rw [filterRows, List.filterMap_cons_none header, List.filterMap_cons_none (join _ known), items,
    filterMap_columnRow 0 tidy, List.map_map, List.map_congr_left undone, List.map_id']

/-! ### The view of a layout -/

namespace Document

section Pages

variable {above kind : Text} {es : List (Text × Entry)} (ok : IsPage above kind es)
include ok

theorem IsPage.viewType?_eq (isKind : kind ∈ viewKinds) :
    viewType? (page above kind es) = some kind := by
  rw [Document.viewType?_eq, ok.entryAt?_outline .type List.mem_cons_self, Option.bind_some,
    typeEntry, said?_withValue_kind isKind]

end Pages

namespace Layout

variable {l : Layout} (ok : l.Ok)
include ok

/-- A name inside double quotes is read off the view. -/
theorem Ok.viewName?_shown {name : Text} (quoted : l.name = '"' :: name ++ ['"']) (ne : name ≠ []) :
    viewName? (page (sectionsText l.sections) l.kind l.shown) = some name := by
  have name_eq := ok.isPage_shown.entryAt?_outline .name
    (List.mem_cons_of_mem _ (List.mem_append_left _ List.mem_cons_self))
  rw [viewName?_eq, name_eq, Option.bind_some, Entry.said?, quoted, unquote_quoted]
  cases name with
  | nil => exact absurd rfl ne
  | cons c t => rfl

/-- **Columns are read off the view**, or none if there are none. -/
theorem Ok.viewOrder_shown (tidy : ∀ ref ∈ l.columns, Tidy ref) :
    viewOrder (page (sectionsText l.sections) l.kind l.shown) = l.columns := by
  rw [viewOrder_eq]
  by_cases none : l.columns = []
  · have absent := ok.isPage_shown.entryAt?_outline_eq_none .order fun x hx => by
      rcases List.mem_cons.mp hx with rfl | hx
      · show "type".toList ≠ ViewKey.order.text
        decide
      · exact order_not_mem_shown none x hx
    rw [absent, none]
    rfl
  · have mem : (ViewKey.order.text, orderEntry l.columns) ∈ l.shown := by
      rw [shown_of_ne_nil none]
      exact List.mem_append_right _ List.mem_cons_self
    rw [ok.isPage_shown.entryAt?_outline .order (List.mem_cons_of_mem _ mem), Option.map_some,
      Option.getD_some]
    exact filterMap_columnRow 2 tidy

end Layout

end Document

/-! ### Requests -/

namespace Request

def tests (r : Request) : List Text :=
  (Text.given? r.tag).toList.map (filePredicate "hasTag".toList) ++
    (Text.given? r.folder).toList.map (filePredicate "inFolder".toList)

end Request

namespace Draft

/-- The predicates of a request are its tests, or the one that every note passes. -/
theorem predicates_eq (r : Request) :
    predicates r = if r.tests = [] then [everyNote] else r.tests := by
  have same : ((Text.given? r.tag).map (filePredicate "hasTag".toList)).toList ++
      ((Text.given? r.folder).map (filePredicate "inFolder".toList)).toList = r.tests := by
    rw [Request.tests, Option.toList_map, Option.toList_map]
  rw [predicates, same]
  split
  · next none => rw [if_pos none]
  · next none => rw [if_neg none]

theorem quote_mem_predicates (r : Request) : ∀ p ∈ predicates r, '"' ∈ p := by
  rw [predicates_eq]
  split
  · decide
  · exact quote_mem_filePredicates _ _ id

theorem layout_columns (r : Request) : (layout r).columns =
    if r.properties.getD [] = [] then defaultOrder else r.properties.getD [] := by
  rw [layout]
  dsimp only
  split
  · next none => rw [if_pos (by simpa using none)]
  · next some => rw [if_neg (by simpa using some)]

theorem layout_columns_ne_nil (r : Request) : (layout r).columns ≠ [] := by
  rw [layout_columns]
  split
  · decide
  · next some => exact some

/-- The document of a request, as a page. -/
theorem ofRequest_eq_page {r : Request} (plain : r.Plain)
    (columns : ∀ refs ∈ r.properties, Text.Plain refs) : (layout r).Ok ∧ ofRequest r =
      page (sectionsText (layout r).sections) (layout r).kind (layout r).shown := by
  refine ⟨layout_ok plain columns, ?_⟩
  rw [ofRequest_eq_text plain columns, Layout.shown_of_ne_nil (layout_columns_ne_nil r)]
  rfl

section Requests

variable {r : Request} (plain : r.Plain) (columns : ∀ refs ∈ r.properties, ∀ ref ∈ refs, Tidy ref)
include columns

theorem plain_columns : ∀ refs ∈ r.properties, Text.Plain refs := fun refs listed ref mem =>
  (columns refs listed ref mem).plain

theorem tidy_columns : ∀ ref ∈ (layout r).columns, Tidy ref := by
  rw [layout_columns]
  split
  · have written : ∀ ref ∈ defaultOrder, ∀ c ∈ ref, isBlank c = false := by decide
    exact fun ref mem => tidy_of_forall (written ref mem)
  · cases properties_eq : r.properties with
    | none => exact List.forall_mem_nil _
    | some refs => exact columns refs properties_eq

include plain

theorem filterEntries_ofRequest : filterEntries (ofRequest r) =
    if r.tests = [] then [everyNote] else r.tests := by
  obtain ⟨ok, eq⟩ := ofRequest_eq_page plain (plain_columns columns)
  have areSections : ∀ rs ∈ (layout r).sections, ∃ key, IsSection key rs := fun rs hr =>
    (isSection_sections plain rs hr).imp fun _ => And.right
  rw [eq, ok.isPage_shown.filterEntries_eq areSections, findSection?_filters plain,
    Option.getD_some,
    read_filterRows (by decide) (quote_mem_predicates r) (plain_predicates plain), predicates_eq]

/-- **The document of a request is read back.** -/
theorem readBack_ofRequest (kind : ∀ kind ∈ r.viewType, kind ∈ viewKinds)
    (name : ∀ name ∈ r.renameTo, name ≠ []) :
    filterEntries (ofRequest r) = (if r.tests = [] then [everyNote] else r.tests) ∧
      viewType? (ofRequest r) = some (r.viewType.getD "table".toList) ∧
      viewName? (ofRequest r) = some (r.renameTo.getD "Results".toList) ∧
      viewOrder (ofRequest r) =
        if r.properties.getD [] = [] then defaultOrder else r.properties.getD [] := by
  have filters := filterEntries_ofRequest plain columns
  obtain ⟨ok, eq⟩ := ofRequest_eq_page plain (plain_columns columns)
  have kind_ : (layout r).kind = r.viewType.getD "table".toList := by
    have written : ∀ kind ∈ viewKinds, kind ≠ [] := by decide
    show (Text.given? r.viewType).getD "table".toList = _
    cases viewType_eq : r.viewType with
    | none => rfl
    | some kind' => rw [given?_of_ne_nil (written kind' (kind kind' viewType_eq))]
  have known : (layout r).kind ∈ viewKinds := by
    rw [kind_]
    cases viewType_eq : r.viewType with
    | none => decide
    | some kind' => exact kind kind' viewType_eq
  have name_ : (Text.given? r.renameTo).getD defaultViewName =
      r.renameTo.getD "Results".toList := by
    cases renameTo_eq : r.renameTo with
    | none => rfl
    | some name' => rw [given?_of_ne_nil (name name' renameTo_eq)]; rfl
  have ne : r.renameTo.getD "Results".toList ≠ [] := by
    cases renameTo_eq : r.renameTo with
    | none => decide
    | some name' => exact name name' renameTo_eq
  refine ⟨filters, ?_, ?_, ?_⟩
  · rw [eq, ok.isPage_shown.viewType?_eq known, kind_]
  · rw [eq]
    refine ok.viewName?_shown ?_ ne
    rw [← name_]
    rfl
  · rw [eq, ok.viewOrder_shown (tidy_columns columns), layout_columns]

end Requests

end Draft

/-! ### Forms -/

namespace Form

def keptNames (form : Form) : List Text :=
  (form.formulas.filter fun f => !f.name.trim.isEmpty && !f.expression.trim.isEmpty).map
    (·.name.trim)

theorem ne_nil_of_mem_keptNames {form : Form} : ∀ name ∈ form.keptNames, name ≠ [] := by
  intro name hn
  obtain ⟨f, mem, rfl⟩ := List.mem_map.mp hn
  have written := (List.mem_filter.mp mem).2
  rw [Bool.and_eq_true] at written
  simpa using written.1

/-- The formulas that are rendered are those that are kept. -/
theorem map_name_keptFormulas {form : Form} {formulas : List Formula}
    (h : keptFormulas form.formulas = .ok formulas) : formulas.map (·.name) = form.keptNames := by
  rw [keptNames]
  generalize form.formulas = all at h
  induction all generalizing formulas with
  | nil =>
      cases h
      rfl
  | cons f all ih =>
      rw [keptFormulas] at h
      split at h
      · next blank =>
          rw [List.filter_cons_of_neg (by simpa [or_iff_not_imp_left] using blank)]
          exact ih h
      · next written =>
          split at h
          · cases h
          · cases keptFormulas_eq : keptFormulas all with
            | error e =>
                rw [keptFormulas_eq] at h
                cases h
            | ok rest =>
                rw [keptFormulas_eq] at h
                cases h
                rw [List.filter_cons_of_pos (by simpa using written), List.map_cons, List.map_cons,
                  ih keptFormulas_eq]

/-- The predicates of a form are one for each tag and one for the folder. -/
theorem predicates_eq_entries (form : Form) : form.predicates =
    (entries form.tags).map (fun tag =>
      filePredicate "hasTag".toList (tag.dropWhile (· == '#'))) ++
    (entries form.folder.toList).map (filePredicate "inFolder".toList) := by
  rw [predicates]
  refine congrArg _ ?_
  cases form.folder with
  | none => rfl
  | some folder =>
      rw [text, Option.getD_some, entries, Option.toList_some, List.map_singleton]
      split
      · next blank => rw [List.filter_cons_of_neg (by simpa using blank)]; rfl
      · next written => rw [List.filter_cons_of_pos (by simpa using written)]; rfl

/-- An entry of a list field is tidy. -/
theorem tidy_entries {items : List Text} (plain : Text.Plain (entries items)) :
    ∀ entry ∈ entries items, Tidy entry := by
  intro entry mem
  have noEnd := plain entry mem
  obtain ⟨item, -, rfl⟩ := List.mem_map.mp (List.mem_filter.mp mem).1
  exact ⟨noEnd, fun c hc => not_isSpaceOrTab ((Text.trimmed_trim item).last c hc)⟩

/-- A row that declares a formula is read as its name. -/
theorem formulaName?_row {name : Text} (word : name.all isWordChar = true) (ne : name ≠ [])
    (rest : Text) : formulaName? ("  ".toList ++ name ++ ": ".toList ++ rest) = some name := by
  have colon : ": ".toList ++ rest = ':' :: ' ' :: rest := rfl
  have stop : ∀ c ∈ (':' :: ' ' :: rest).head?, isWordChar c = false := by
    rintro c ⟨⟩
    decide
  have all := List.all_eq_true.mp word
  rw [formulaName?, List.append_assoc, List.append_assoc, Text.after?_eq_some_iff.mpr rfl,
    Option.bind_some, colon, takeWhile_append_stop stop, dropWhile_append_stop stop,
    List.takeWhile_eq_self_iff.mpr all, List.dropWhile_eq_nil_iff.mpr all, List.nil_append]
  cases name with
  | nil => exact absurd rfl ne
  | cons c name => rfl

section Forms

variable {form : Form} {formulas : List Formula} {sortDirection groupDirection : Option Text}

/-- The filters section of a form lists its predicates. -/
theorem findSection?_filters (line : form.OneLine) (check : form.check = .ok ())
    (kept : keptFormulas form.formulas = .ok formulas) :
    (findSection? "filters".toList (form.sections formulas)).getD [] =
      if form.predicates.isEmpty then [] else filterRows form.predicates form.logic := by
  rw [sections]
  split
  · by_cases none : formulas = []
    · rw [none]
      rfl
    · obtain ⟨declared, named, sections, first, second, -⟩ :=
        isSection_formulaSections none (of_mem_keptFormulas kept line.formulas)
      rw [sections, List.nil_append, first.findSection?_cons_of_ne (by decide),
        second.findSection?_cons_of_ne (by decide)]
      rfl
  · rw [List.singleton_append,
      (isSection_filterRows line.predicates (plain_logic_of_check check)).findSection?_cons, Option.getD_some]

/-- The formulas that are read are those that the form keeps. -/
theorem read_formulas (line : form.OneLine) (check : form.check = .ok ())
    (kept : keptFormulas form.formulas = .ok formulas) :
    ((findSection? "formulas".toList (form.sections formulas)).getD []).filterMap formulaName? =
      form.keptNames := by
  have names := map_name_keptFormulas kept
  -- A section of filters in front is not the one that is looked for.
  have skipped : findSection? "formulas".toList (form.sections formulas) =
      findSection? "formulas".toList (formulaSections formulas) := by
    rw [sections]
    split
    · rfl
    · rw [List.singleton_append,
        (isSection_filterRows line.predicates (plain_logic_of_check check)).findSection?_cons_of_ne (by decide)]
  rw [skipped]
  by_cases none : formulas = []
  · rw [← names, none]
    rfl
  · have plainFormulas := of_mem_keptFormulas kept line.formulas
    obtain ⟨declared, named, sections, first, -, rows⟩ :=
      isSection_formulaSections none plainFormulas
    have header : formulaName? "formulas:".toList = Option.none := by decide
    have read : ∀ f ∈ formulas, (formulaName? ∘ fun f : Formula =>
        "  ".toList ++ f.name ++ ": ".toList ++ quoteFormula f.expression) f =
          (some ∘ Formula.name) f := by
      intro f mem
      have kept : f.name ∈ form.keptNames := names ▸ List.mem_map_of_mem mem
      exact formulaName?_row (plainFormulas f mem).1 (ne_nil_of_mem_keptNames _ kept) _
    rw [sections, first.findSection?_cons, Option.getD_some, rows, List.filterMap_cons_none header,
      List.filterMap_map, List.filterMap_congr read, List.filterMap_eq_map, names]

/-- The filters that are read are the predicates of the form. -/
theorem read_filters (line : form.OneLine) (check : form.check = .ok ())
    (kept : keptFormulas form.formulas = .ok formulas) :
    (((findSection? "filters".toList (form.sections formulas)).getD []).filterMap listItem?).map
      unquote = form.predicates := by
  have quote : ∀ p ∈ form.predicates, '"' ∈ p := by
    rw [predicates_eq_entries]
    exact quote_mem_filePredicates _ _ _
  rw [findSection?_filters line check kept]
  split
  · next none => rw [List.isEmpty_iff.mp none]; rfl
  · exact read_filterRows (logic_mem_of_check check) quote line.predicates

/-- **A rendered form is read back.** -/
theorem OneLine.readBack {d : Text} (line : form.OneLine) (rendered : form.render = .ok d) :
    filterEntries d = form.predicates ∧ viewType? d = some form.viewType ∧
      viewOrder d = entries form.properties ++ entries form.customProperties ++
        form.keptNames.map ("formula.".toList ++ ·) ∧
      formulaNames d = form.keptNames := by
  obtain ⟨check, formulas, sortDirection, groupDirection, read, rfl⟩ :=
    line.render_eq_page_iff.mp rendered
  have kinds : ∀ kind ∈ viewTypes, kind ∈ viewKinds := by decide
  have ok := line.layout check read
  have isPage : IsPage (sectionsText (form.sections formulas)) form.viewType
      (form.layout formulas sortDirection groupDirection).shown := ok.isPage_shown
  have areSections : ∀ rs ∈ form.sections formulas, ∃ key, IsSection key rs := fun rs hr =>
    (line.isSection_sections check read.formulas rs hr).imp fun _ => And.right
  have names := (isPage.formulaNames_eq areSections).trans (read_formulas line check read.formulas)
  have columns : (form.layout formulas sortDirection groupDirection).columns =
      entries form.properties ++ entries form.customProperties ++
        form.keptNames.map ("formula.".toList ++ ·) := by
    rw [← map_name_keptFormulas read.formulas, List.map_map]
    rfl
  have order := ok.viewOrder_shown fun ref hr => by
    rw [columns, List.mem_append, List.mem_append] at hr
    rcases hr with (hr | hr) | hr
    · exact tidy_entries line.properties ref hr
    · exact tidy_entries line.customProperties ref hr
    · -- The names are read back already, and what is read as a name is a word.
      obtain ⟨name, mem, rfl⟩ := List.mem_map.mp hr
      rw [← names] at mem
      exact tidy_formulaNames mem
  exact ⟨(isPage.filterEntries_eq areSections).trans
      (read_filters line check read.formulas),
    isPage.viewType?_eq (kinds _ (viewType_mem_of_check check)), order.trans columns, names⟩

end Forms

end Form

/-! ### Both renderers -/

/-- **What the renderers write, the readers read back.** The document of a request says its tag and
folder, its kind, its name and its columns, or the defaults in their place. A rendered form says its
tags without their number signs and its folder, its kind, its columns, and its formulas. -/
theorem rendered_documents_are_read_back :
    (∀ r : Request, r.Plain → (∀ refs ∈ r.properties, ∀ ref ∈ refs, Tidy ref) →
      (∀ kind ∈ r.viewType, kind ∈ viewKinds) → (∀ name ∈ r.renameTo, name ≠ []) →
      filterEntries (Draft.ofRequest r) =
        (if r.tests = [] then [Draft.everyNote] else r.tests) ∧
      viewType? (Draft.ofRequest r) = some (r.viewType.getD "table".toList) ∧
      viewName? (Draft.ofRequest r) = some (r.renameTo.getD "Results".toList) ∧
      viewOrder (Draft.ofRequest r) =
        if r.properties.getD [] = [] then Draft.defaultOrder else r.properties.getD []) ∧
    ∀ (form : Form) (d : Text), form.Plain → form.render = .ok d →
      filterEntries d =
        (Form.entries form.tags).map (fun tag =>
          filePredicate "hasTag".toList (tag.dropWhile (· == '#'))) ++
        (Form.entries form.folder.toList).map (filePredicate "inFolder".toList) ∧
      viewType? d = some form.viewType ∧
      viewOrder d = Form.entries form.properties ++ Form.entries form.customProperties ++
        form.keptNames.map ("formula.".toList ++ ·) ∧
      formulaNames d = form.keptNames := by
  refine ⟨fun r plain columns kind name => ?_, fun form d plain rendered => ?_⟩
  · exact Draft.readBack_ofRequest plain columns kind name
  · rw [← form.predicates_eq_entries]
    exact plain.oneLine.readBack rendered

/-- Values with quotes and backslashes in them, and values that look like keys and items. -/
theorem awkward_values_are_read_back :
    (∃ r : Request, r.tag = some "it's \"a\\b\"".toList ∧ r.folder = none ∧
      filterEntries (Draft.ofRequest r) = ["file.hasTag(\"it's \\\"a\\\\b\\\"\")".toList] ∧
      viewType? (Draft.ofRequest r) = some "list".toList ∧
      viewName? (Draft.ofRequest r) = some "'views:'".toList ∧
      viewOrder (Draft.ofRequest r) = ["- x: # y".toList, []]) ∧
    ∃ (form : Form) (d : Text), form.render = .ok d ∧
      filterEntries d =
        ["file.hasTag(\"\")", "file.hasTag(\"filters:\")", "file.inFolder(\"- '\")"].map
          String.toList ∧
      viewType? d = some "map".toList ∧
      viewOrder d = ["order: \"a\"".toList, "formula.total".toList] ∧
      formulaNames d = ["total".toList] := by
  let r : Request := {
    tag := some "it's \"a\\b\"".toList
    viewType := some "list".toList
    properties := some ["- x: # y".toList, []]
    renameTo := some "'views:'".toList }
  let form : Form := {
    tags := [" # ", "", "##filters:"].map String.toList
    folder := some " - '".toList
    logic := "or".toList
    formulas := [⟨" total ".toList, "a: \"b\"".toList⟩, ⟨"none".toList, " ".toList⟩]
    properties := []
    customProperties := [" order: \"a\" ".toList]
    viewType := "map".toList }
  have plain : r.Plain := by constructor <;> decide
  have tidy : ∀ refs ∈ r.properties, ∀ ref ∈ refs, Tidy ref := by
    rintro refs ⟨⟩ ref mem
    have tidyColumns : ∀ ref ∈ ["- x: # y".toList, []], '\n' ∉ ref ∧
        ∀ c ∈ ref.getLast?, isSpaceOrTab c = false := by decide
    exact ⟨(tidyColumns ref mem).1, (tidyColumns ref mem).2⟩
  have plain' : form.Plain := by constructor <;> decide
  obtain ⟨d, rendered⟩ := form.exists_render (by decide)
  obtain ⟨filters, kind, name, order⟩ :=
    rendered_documents_are_read_back.1 r plain tidy (by decide) (by decide)
  obtain ⟨filters', kind', order', formulas'⟩ :=
    rendered_documents_are_read_back.2 form d plain' rendered
  exact ⟨⟨r, rfl, rfl, filters.trans (by decide), kind, name, order.trans (by decide)⟩,
    form, d, rendered, filters'.trans (by decide), kind', order'.trans (by decide),
    formulas'.trans (by decide)⟩

end Notebase
