import Notebase.Benchmark.Basic
import Notebase.Proofs.Request.Padded
import Notebase.Proofs.Request.Usable
import Notebase.Proofs.Session.Run

/-!
What the checker says of a document that is right. A sentence that a fresh session makes a new
document of is asked for just what it says, blanks at its ends and all. Two of these expectations
the checker finds broken: that of a folder with a backslash in its name, since it looks for the
predicate without the escape that the renderer writes, and that of a column that the sentence names
only because of blanks after a hyphen at its end, since the session trims it
(`accepted_iff_of_synthesized`).
-/

namespace Notebase

open Document

namespace Request

/-- A folder that is read from a sentence has no double quote in it. -/
theorem quote_not_mem_folderOf {t folder : Text} (h : folderOf t = some folder) : '"' ∉ folder := by
  have same : ∀ c, (c != '"') = true → (c != '"') = true := fun _ passes => passes
  have either : ∀ c, (c != '\'' && c != '"') = true → (c != '"') = true := fun c both =>
    (Bool.and_eq_true_iff.mp both).2
  have path : ∀ c, Phrase.isPathChar c = true → (c != '"') = true := by
    rintro c word
    rw [bne_iff_ne]
    rintro rfl
    exact absurd word (by decide)
  -- Each of the three ways to write a folder captures no double quotation mark.
  have double : Pattern.Captures (· != '"') (Pattern.inOrder [
      Pattern.exactly '"', .capture (Pattern.run1 (· != '"')), Pattern.exactly '"']) :=
    .seq _ ((((Pattern.only_char same).seq (Pattern.only_run same)).capture).seq_char _)
  have single : Pattern.Captures (· != '"') (Pattern.inOrder [
      Pattern.exactly '\'', .capture (Pattern.run1 fun c => c != '\'' && c != '"'),
      Pattern.exactly '\'']) :=
    .seq _ ((((Pattern.only_char either).seq (Pattern.only_run either)).capture).seq_char _)
  have bare : Pattern.Captures (· != '"') (.capture Phrase.pathName) :=
    Pattern.Captures.mono only_pathName.capture path
  have name : Pattern.Captures (· != '"') Phrase.folderName := double.alt (single.alt bare)
  have announced : Pattern.Captures (· != '"') Phrase.folderPhrase :=
    .seq _ (.seq _ (.seq _ (.seq _ name)))
  have placed : Pattern.Captures (· != '"') Phrase.inPhrase :=
    .seq _ (.seq _ (.seq _ (.seq _ name)))
  obtain ⟨m, mem, rfl⟩ := List.mem_map.mp (List.mem_of_find?_eq_some h)
  have apart : ∀ c ∈ m.subject, (c != '"') = true := by
    rcases List.mem_append.mp mem with mem | mem
    · obtain ⟨prev, u, -, found⟩ := Pattern.mem_findAllFrom mem
      exact announced.of_matchAt? found
    · obtain ⟨prev, u, -, present⟩ := Pattern.mem_findAllFrom mem
      exact placed.of_matchAt? present
  intro quote
  exact absurd (apart '"' (Text.trim_subset _ quote)) (by decide)

end Request

namespace Benchmark

/-! ### What is expected of a new document -/

/-- The case that expects of a session what its one sentence says. -/
def Case.ofText (name t : Text) : Case :=
  let r := Request.ofText Property.resolve t
  { name := name
    instructions := [t]
    route := some Route.synthesized.label
    tag := r.tag
    folder := r.folder
    viewType := r.viewType
    inOrder := r.properties.getD []
    viewName := r.renameTo }

/-- Every built-in description opens with a capital letter. -/
theorem isUpper_description : ∀ e ∈ Catalog.builtin.templates,
    e.2.description.head?.any Char.isUpper = true := by decide +kernel

/-- A sentence that opens with no capital letter and has no keyword in it leads to a new
document. -/
theorem route_eq_synthesized {t : Text} {c : Char} {u : Text} (text : t.trim = c :: u)
    (small : c.isUpper = false) (noKeyword : Session.keywordHit? Catalog.builtin t.trim = none) :
    (Session.submit studio () .fresh t).1.2.route = some .synthesized := by
  have alone : studio.mode ≠ .remote := by decide
  have noDescription : Catalog.builtin.idOfDescription? (c :: u) = none := by
    rw [Catalog.idOfDescription?, Option.map_eq_none_iff, List.find?_eq_none]
    intro e mem same
    have opens := isUpper_description e mem
    rw [beq_iff_eq.mp same, List.head?_cons, Option.any_some, small] at opens
    cases opens
  have noTemplate : Session.templateHit? Catalog.builtin .fresh (c :: u) = none := by
    rw [Session.templateHit?, Session.fresh]
    dsimp only
    rw [noDescription]
    rfl
  have catalog : studio.catalog = Catalog.builtin := rfl
  rw [text] at noKeyword
  rw [Session.submit_eq_workAlone alone, text, catalog, Session.workAlone, noTemplate,
    Session.workLocally, Session.fresh]
  dsimp only
  rw [noKeyword]
  rfl

/-- A new document is the one for the trimmed sentence. -/
theorem response_of_synthesized {t : Text}
    (route : (Session.submit studio () .fresh t).1.2.route = some .synthesized) :
    (Session.submit studio () .fresh t).1.2 =
      { document := some (Draft.ofText t.trim)
        route := some .synthesized
        request := some (Request.ofText Property.resolve t.trim) } := by
  have alone : studio.mode ≠ .remote := by decide
  rw [Session.submit_eq_workAlone alone] at route ⊢
  cases text : t.trim with
  | nil =>
      rw [text] at route
      cases route
  | cons c u =>
      rw [text] at route
      rw [Session.workAlone] at route ⊢
      split at route
      · cases route
      · rw [Session.workLocally] at route ⊢
        dsimp only [Session.fresh] at route ⊢
        split at route
        · cases route
        · rfl

/-- The predicate that is looked for is the one that is written if its argument needs no escape. -/
theorem predicate_eq {test value : Text} (noEscape : '\\' ∉ value) (noQuote : '"' ∉ value) :
    callFront test ++ value ++ "\")".toList = filePredicate test value := by
  rw [filePredicate, escape_eq_self noEscape noQuote]

/-- What is met is no failure. -/
theorem expect_eq_nil {α : Type} {o : Option α} {met : α → Bool} {failure : α → Failure}
    (h : ∀ a ∈ o, met a = true) : expect o met failure = [] := by
  cases o with
  | none => rfl
  | some a => rw [expect, if_pos (h a rfl)]

section Predicates

variable {r : Request}

theorem mem_predicates_of_mem_tests {p : Text} (mem : p ∈ r.tests) : p ∈ Draft.predicates r := by
  rw [Draft.predicates_eq, if_neg (List.ne_nil_of_mem mem)]
  exact mem

/-- A tag is found, since it has nothing to escape. -/
theorem expect_tag (path : ∀ tag ∈ r.tag, ∀ c ∈ tag, Request.Phrase.isPathChar c = true) :
    expect (Text.given? r.tag) (fun tag => (Draft.predicates r).contains
      (callFront "hasTag".toList ++ tag ++ "\")".toList)) .noTag = [] := by
  refine expect_eq_nil fun tag listed => ?_
  have isPath := path tag (given?_eq_some listed)
  have noEscape : '\\' ∉ tag := fun mem => absurd (isPath _ mem) (by decide)
  have noQuote : '"' ∉ tag := fun mem => absurd (isPath _ mem) (by decide)
  rw [List.contains_iff_mem, predicate_eq noEscape noQuote]
  exact mem_predicates_of_mem_tests
    (List.mem_append_left _ (List.mem_map_of_mem (Option.mem_toList.mpr listed)))

/-- The checker finds the folder among the predicates exactly if nothing in it has to be escaped. -/
theorem mem_predicates_iff {folder : Text} (folder_eq : r.folder = some folder) (ne : folder ≠ [])
    (quote : '"' ∉ folder) :
    callFront "inFolder".toList ++ folder ++ "\")".toList ∈ Draft.predicates r ↔
      '\\' ∉ folder := by
  have last : (Text.given? r.folder).toList = [folder] := by
    rw [folder_eq, given?_of_ne_nil ne]
    rfl
  have tests : r.tests = (Text.given? r.tag).toList.map (filePredicate "hasTag".toList) ++
      [filePredicate "inFolder".toList folder] := by
    rw [Request.tests, last, List.map_singleton]
  constructor
  · intro mem backslash
    rw [Draft.predicates_eq, if_neg (by simp [tests]), tests] at mem
    rcases List.mem_append.mp mem with mem | mem
    · obtain ⟨tag, -, eq⟩ := List.mem_map.mp mem
      have other : "file.h".toList = "file.i".toList := congrArg (List.take 6) eq
      exact absurd other (by decide)
    · have length := congrArg List.length (List.mem_singleton.mp mem)
      have longer := length_lt_escape backslash
      rw [filePredicate, List.length_append, List.length_append, List.length_append,
        List.length_append] at length
      omega
  · intro backslash
    rw [predicate_eq backslash quote]
    refine mem_predicates_of_mem_tests ?_
    rw [tests]
    exact List.mem_append_right _ List.mem_cons_self

/-- A folder is missed if there is a backslash in it. -/
theorem expect_folder (quote : ∀ folder ∈ r.folder, '"' ∉ folder) :
    expect (Text.given? r.folder) (fun folder => (Draft.predicates r).contains
      (callFront "inFolder".toList ++ folder ++ "\")".toList)) .noFolder =
        (r.folder.filter (·.contains '\\')).toList.map .noFolder := by
  cases folder_eq : r.folder with
  | none => rfl
  | some folder =>
      by_cases blank : folder = []
      · rw [blank]
        rfl
      · have found := mem_predicates_iff folder_eq blank (quote folder folder_eq)
        rw [given?_of_ne_nil blank, expect]
        by_cases backslash : '\\' ∈ folder
        · rw [if_neg fun met => found.mp (List.contains_iff_mem.mp met) backslash,
            Option.filter_some, if_pos (List.contains_iff_mem.mpr backslash)]
          rfl
        · rw [if_pos (List.contains_iff_mem.mpr (found.mpr backslash)), Option.filter_some,
            if_neg fun passes => backslash (List.contains_iff_mem.mp passes)]
          rfl

end Predicates

/-- What a new document for the trimmed sentence says, in terms of what the sentence asks for. -/
theorem readBack_of_trim {t : Text} (oneLine : '\n' ∉ t) :
    let r := Request.ofText Property.resolve t
    let d := Draft.ofText t.trim
    filterEntries d = Draft.predicates r ∧
      viewType? d = some (r.viewType.getD "table".toList) ∧
      viewName? d = some (r.renameTo.getD "Results".toList) ∧
      (Request.columnsOf t.trim = Request.columnsOf t →
        ∀ ref ∈ r.properties.getD [], ref ∈ viewOrder d) := by
  intro r d
  let trimmed := Request.ofText Property.resolve t.trim
  obtain ⟨tag, folder, kind, rename⟩ : trimmed.tag = r.tag ∧ trimmed.folder = r.folder ∧
    trimmed.viewType = r.viewType ∧ trimmed.renameTo = r.renameTo := Request.parts_trim t
  have plain : trimmed.Plain := Request.plain_ofText [] (Text.plain_trim oneLine)
  have kinds : ∀ kind ∈ ["cards", "list", "map", "table"].map String.toList, kind ∈ viewKinds := by
    decide
  obtain ⟨filters, viewType, viewName, order⟩ := Draft.readBack_ofRequest plain
    Request.tidy_properties (fun kind listed => kinds kind (Request.mem_of_viewTypeOf listed))
    (fun name member => ((Request.neat_ofText t.trim).renameTo name member).1.ne_nil)
  have tests : trimmed.tests = r.tests := by
    rw [Request.tests, Request.tests, tag, folder]
  rw [kind] at viewType
  rw [rename] at viewName
  rw [tests, ← Draft.predicates_eq] at filters
  refine ⟨filters, viewType, viewName, fun same ref mem => ?_⟩
  have columns : trimmed.properties = r.properties :=
    congrArg (Option.map fun names : List Text => (names.map Property.resolve).eraseDups) same
  rw [columns, if_neg (List.ne_nil_of_mem mem)] at order
  exact order.symm ▸ mem

/-- **What the checker finds wrong** with a new document. -/
theorem failures_of_synthesized {t : Text} (oneLine : '\n' ∉ t)
    (route : (Session.submit studio () .fresh t).1.2.route = some .synthesized) (name : Text) :
    let r := Request.ofText Property.resolve t
    let order := viewOrder (Draft.ofText t.trim)
    (run (Case.ofText name t)).failures =
      (r.folder.filter (·.contains '\\')).toList.map .noFolder ++
        ((r.properties.getD []).filter (!order.contains ·)).map (.notInOrder · order) := by
  intro r order
  obtain ⟨filters, viewType, viewName, -⟩ := readBack_of_trim oneLine
  have tag := expect_tag (r := r) fun tag mem => Request.isPathChar_of_mem_tagOf mem
  have folder := expect_folder (r := r) fun folder listed => Request.quote_not_mem_folderOf listed
  have kind : expect (Text.given? r.viewType) (fun kind =>
      viewType? (Draft.ofText t.trim) == some kind)
        (.viewType (viewType? (Draft.ofText t.trim))) = [] := by
    refine expect_eq_nil fun kind member => ?_
    rw [viewType, beq_iff_eq]
    exact congrArg (fun o : Option Text => some (o.getD "table".toList)) (given?_eq_some member)
  have rename : expect (Text.given? r.renameTo) (fun name =>
      viewName? (Draft.ofText t.trim) == some name)
        (.viewName (viewName? (Draft.ofText t.trim))) = [] := by
    refine expect_eq_nil fun name known => ?_
    rw [viewName, beq_iff_eq]
    exact congrArg (fun o : Option Text => some (o.getD "Results".toList)) (given?_eq_some known)
  rw [← filters] at tag folder
  calc (run (Case.ofText name t)).failures
      = check (Case.ofText name t) (some (Session.submit studio () .fresh t).1.2) := rfl
    _ = [] ++ [] ++ expect (Text.given? r.tag) _ .noTag ++
          expect (Text.given? r.folder) _ .noFolder ++ expect (Text.given? r.viewType) _ _ ++
          ((r.properties.getD []).filter (!order.contains ·)).map (.notInOrder · order) ++ [] ++
          [] ++ [] ++ expect (Text.given? r.renameTo) _ _ := by
        rw [response_of_synthesized route]
        rfl
    _ = _ := by
        dsimp only [Option.bind_some, Option.getD_some]
        rw [tag, folder, kind, rename]
        simp only [List.append_nil, List.nil_append]

theorem run_of_synthesized {t : Text}
    (route : (Session.submit studio () .fresh t).1.2.route = some .synthesized) {name : Text}
    {failures : List Failure} (eq : (run (Case.ofText name t)).failures = failures) :
    run (Case.ofText name t) = ⟨name, failures, some Route.synthesized.label⟩ := by
  have shown : (run (Case.ofText name t)).route = some Route.synthesized.label :=
    congrArg (Option.map Route.label) route
  rw [← eq, ← shown]
  rfl

/-- **The checker accepts a new document** exactly if the folder asked for has no backslash in it
and the document has the columns asked for. It has them unless blanks follow a hyphen at the end of
the sentence. -/
theorem accepted_iff_of_synthesized {t : Text} (oneLine : '\n' ∉ t)
    (route : (Session.submit studio () .fresh t).1.2.route = some .synthesized) (name : Text) :
    let r := Request.ofText Property.resolve t
    let d := (Session.submit studio () .fresh t).1.2.document.getD []
    ((run (Case.ofText name t)).passed = true ↔
      (∀ folder ∈ r.folder, '\\' ∉ folder) ∧ ∀ ref ∈ r.properties.getD [], ref ∈ viewOrder d) ∧
    ((t.trim.getLast? = some '-' → t.getLast? = some '-') →
      ∀ ref ∈ r.properties.getD [], ref ∈ viewOrder d) := by
  intro r d
  have new : d = Draft.ofText t.trim := by
    simp only [d, response_of_synthesized route]
    rfl
  rw [new]
  refine ⟨?_, fun closed ref mem => ?_⟩
  · rw [Result.passed, failures_of_synthesized oneLine route, List.isEmpty_iff,
      List.append_eq_nil_iff, List.map_eq_nil_iff, List.map_eq_nil_iff, List.filter_eq_nil_iff]
    refine and_congr ?_ (forall₂_congr fun ref _ => ?_)
    · rw [Option.toList_eq_nil_iff, Option.filter_eq_none_iff]
      simp [r]
    · simp
  · exact (readBack_of_trim oneLine).2.2.2 (Request.columnsOf_trim closed) ref mem

/-- A sentence with blanks around it, which names a tag, a folder and columns. -/
theorem slow_food_is_accepted :
    let t := " notes tagged #recipes in folder \"Slow Food\", show cuisine and prep time ".toList
    Request.ofText Property.resolve t =
      { tag := some "recipes".toList, folder := some "Slow Food".toList,
        properties := some ["cuisine".toList, "prep time".toList] } ∧
      (run (Case.ofText "recipes".toList t)).passed = true := by
  intro t
  have asks : Request.ofText Property.resolve t =
      { tag := some "recipes".toList, folder := some "Slow Food".toList,
        properties := some ["cuisine".toList, "prep time".toList] } := by
    decide +kernel
  have route : (Session.submit studio () .fresh t).1.2.route = some .synthesized :=
    route_eq_synthesized rfl (by decide) (by decide +kernel)
  obtain ⟨accepted, columns⟩ :=
    accepted_iff_of_synthesized (show '\n' ∉ t by decide) route "recipes".toList
  rw [asks] at accepted columns
  exact ⟨asks, accepted.mpr ⟨by decide, columns (by decide +kernel)⟩⟩

/-- The folder of the first sentence is written with an escape, and the checker looks for it
without. The second sentence names a column that the trimmed sentence does not name. -/
theorem new_documents_are_refused :
    run (Case.ofText [] "notes in folder \"a\\b\"".toList) =
      ⟨[], [.noFolder "a\\b".toList], some Route.synthesized.label⟩ ∧
    run (Case.ofText [] "show size - ".toList) =
      ⟨[], [.notInOrder "file.size".toList ["size -".toList]], some Route.synthesized.label⟩ := by
  constructor
  · have route : (Session.submit studio () .fresh "notes in folder \"a\\b\"".toList).1.2.route =
        some .synthesized := route_eq_synthesized rfl (by decide) (by decide +kernel)
    have failures := (failures_of_synthesized (by decide) route []).trans
      (show _ = [.noFolder "a\\b".toList] by decide +kernel)
    exact run_of_synthesized route failures
  · have route : (Session.submit studio () .fresh "show size - ".toList).1.2.route =
        some .synthesized := route_eq_synthesized rfl (by decide) (by decide +kernel)
    have failures := (failures_of_synthesized (by decide) route []).trans
      (show _ = [.notInOrder "file.size".toList ["size -".toList]] by decide +kernel)
    exact run_of_synthesized route failures

end Benchmark

end Notebase
