import Notebase.Proofs.Patch.Steps
import Notebase.Proofs.Request.Framed

/-!
What a patch leaves alone. An edit changes what a document says about its own aspect only
(`Edit.sameBut_act`), so an instruction that hands over a value for one aspect leaves every other
aspect as it is, if the value does not name another aspect by itself (`value_keeps_to_its_aspect`).
-/

namespace Notebase

open Document

/-! ### Outlines that agree in all aspects but one -/

/-- Outlines that agree in everything but the filters, for `none`, or the entry of a key. -/
structure Document.Outline.SameBut (aspect : Option ViewKey) (o o' : Outline) : Prop where
  filters : aspect ≠ none → o'.filters = o.filters
  entry : ∀ key, aspect ≠ some key → o'.entryAt? key = o.entryAt? key
  formulas : o'.formulas = o.formulas
  properties : o'.properties = o.properties

def Document.Summary.about (s : Summary) (aspect : Option ViewKey) (new : Summary) : Summary :=
  match aspect with
  | none => { s with filterEntries := new.filterEntries }
  | some .type => { s with viewType := new.viewType }
  | some .name => { s with viewName := new.viewName }
  | some .order => { s with viewOrder := new.viewOrder }
  | some .sort => { s with viewSort := new.viewSort }
  | some .groupBy => { s with viewGroupBy := new.viewGroupBy }

namespace Document.Outline.SameBut

variable {aspect : Option ViewKey} {o o' o'' : Outline}

theorem refl (aspect : Option ViewKey) (o : Outline) : SameBut aspect o o :=
  ⟨fun _ => rfl, fun _ _ => rfl, rfl, rfl⟩

theorem trans (first : SameBut aspect o o') (second : SameBut aspect o' o'') :
    SameBut aspect o o'' where
  filters ne := (second.filters ne).trans (first.filters ne)
  entry key ne := (second.entry key ne).trans (first.entry key ne)
  formulas := second.formulas.trans first.formulas
  properties := second.properties.trans first.properties

/-- Outlines that agree in all aspects but one say the same about all of these. -/
theorem summary (same : SameBut aspect o o') : o'.summary = o.summary.about aspect o'.summary := by
  cases aspect with
  | none =>
      simp only [Outline.summary, Summary.about, same.entry .type (by decide),
        same.entry .name (by decide), same.entry .order (by decide), same.entry .sort (by decide),
        same.entry .groupBy (by decide), same.formulas, same.properties]
  | some key =>
      have filters := same.filters (by simp)
      have others := fun key' (ne : key ≠ key') => same.entry key' (by simpa using ne)
      cases key with
      | type =>
          simp only [Outline.summary, Summary.about, filters, others .name (by decide),
            others .order (by decide), others .sort (by decide), others .groupBy (by decide),
            same.formulas, same.properties]
      | name =>
          simp only [Outline.summary, Summary.about, filters, others .type (by decide),
            others .order (by decide), others .sort (by decide), others .groupBy (by decide),
            same.formulas, same.properties]
      | order =>
          simp only [Outline.summary, Summary.about, filters, others .type (by decide),
            others .name (by decide), others .sort (by decide), others .groupBy (by decide),
            same.formulas, same.properties]
      | sort =>
          simp only [Outline.summary, Summary.about, filters, others .type (by decide),
            others .name (by decide), others .order (by decide), others .groupBy (by decide),
            same.formulas, same.properties]
      | groupBy =>
          simp only [Outline.summary, Summary.about, filters, others .type (by decide),
            others .name (by decide), others .order (by decide), others .sort (by decide),
            same.formulas, same.properties]

end Document.Outline.SameBut

/-- **An edit changes its own aspect only.** -/
theorem Edit.sameBut_act (e : Edit) (o : Outline) : Outline.SameBut e.aspect o (e.act o) := by
  obtain ⟨formulas, properties⟩ := formulas_act e o
  refine ⟨fun ne => ?_, fun key ne => ?_, formulas, properties⟩
  · cases aspect_eq : e.aspect with
    | none => exact absurd aspect_eq ne
    | some key => rw [Edit.act_eq_onView aspect_eq, Outline.onView]
  · cases aspect_eq : e.aspect with
    | none =>
        cases e with
        | filter test value =>
            have view : (o.setFilter test value).view = o.view := by
              rw [Outline.setFilter]
              split <;> rfl
            exact congrArg (·.bind (·.entry key)) view
        | _ => cases aspect_eq
    | some key' =>
        have other : key ≠ key' := by
          rintro rfl
          exact ne aspect_eq
        rw [Edit.act_eq_onView aspect_eq, Outline.entryAt?, Outline.onView, Outline.entryAt?]
        cases o.view with
        | none => rfl
        | some p => exact (Edit.local_onPanel aspect_eq).frame p key other

/-- An edit that changes no document. -/
def Edit.Idle (e : Edit) : Prop := ∀ t, e.apply t = t

theorem idle_addColumns : Edit.Idle (.addColumns []) := by
  intro t
  show addColumns [] t = t
  rw [addColumns]
  cases viewKey? "order".toList t with
  | none => rfl
  | some found => rfl

theorem idle_removeColumns : Edit.Idle (.removeColumns []) := fun _ => rfl

/-- **A run of edits about one aspect changes that aspect only.** -/
theorem sameBut_foldl_apply {aspect : Option ViewKey} {es : List Edit}
    (early : aspect ∉ [some ViewKey.sort, some ViewKey.groupBy])
    (aspects : ∀ e ∈ es, e.Plain ∧ e.aspect = aspect ∨ e.Idle) (t : Text) :
    Outline.SameBut aspect (outline t) (outline (es.foldl Edit.apply t)) := by
  induction es generalizing t with
  | nil => exact .refl aspect _
  | cons e es ih =>
      have rest := ih (fun e' he => aspects e' (List.mem_cons_of_mem _ he)) (e.apply t)
      rcases aspects e List.mem_cons_self with ⟨plain, rfl⟩ | idle
      · have first := e.sameBut_act (outline t)
        rw [← outline_apply_of_aspect plain early] at first
        exact first.trans rest
      · rw [idle t] at rest
        rw [List.foldl_cons, idle t]
        exact rest

/-! ### Patches about one aspect -/

/-- Whether a request names the part that a step carries out. Columns are read from the
instruction. -/
def Request.asks (r : Request) : Patch.Step → Bool
  | .tag => r.tag.isSome
  | .folder => r.folder.isSome
  | .viewType => r.viewType.isSome
  | .add => false
  | .remove => false
  | .sort => r.sorting.isSome
  | .groupBy => r.groupBy.isSome
  | .rename => r.renameTo.isSome

namespace Patch

variable {document instruction : Text}

/-- Every step about another aspect does nothing. -/
theorem aspect_or_idle {aspect : Option ViewKey} {r : Request} (plain : r.Plain)
    (noAdded : Request.addedOf instruction = none) (noRemoved : Request.removedOf instruction = none)
    (aspects : ∀ step, r.asks step = true → step.aspect = aspect) :
    ∀ e ∈ (steps (resolver document) instruction r).map Prod.snd,
      e.Plain ∧ e.aspect = aspect ∨ e.Idle := by
  intro e he
  have plainEdit := plain_steps document instruction plain e he
  obtain ⟨⟨step, e⟩, mem, rfl⟩ := List.mem_map.mp he
  have said := mem_steps mem
  have asked : r.asks step = true → e.Plain ∧ e.aspect = aspect ∨ e.Idle := fun asks =>
    .inl ⟨plainEdit, (aspect_of_mem_steps mem).trans (aspects step asks)⟩
  -- The steps that add and remove columns are always there, and do nothing without columns.
  cases step with
  | add =>
      obtain ⟨-, rfl⟩ := said
      rw [noAdded]
      exact .inr idle_addColumns
  | remove =>
      obtain ⟨-, rfl⟩ := said
      rw [noRemoved]
      exact .inr idle_removeColumns
  | sort =>
      obtain ⟨s, h, -⟩ := said
      exact asked (Option.isSome_of_mem h)
  | _ =>
      obtain ⟨value, h, -⟩ := said
      exact asked (Option.isSome_of_mem (given?_eq_some h))

/-- **A patch whose instruction is about one aspect changes that aspect only.** -/
theorem sameBut_patch {aspect : Option ViewKey}
    (early : aspect ∉ [some ViewKey.sort, some ViewKey.groupBy]) (plain : '\n' ∉ instruction)
    (noAdded : Request.addedOf instruction = none) (noRemoved : Request.removedOf instruction = none)
    (aspects : ∀ step, (Request.ofText (resolver document) instruction).asks step = true →
      step.aspect = aspect) :
    Outline.SameBut aspect (outline document) (outline (patch document instruction).1) := by
  rw [patch, patchWith, fst_applySteps]
  exact sameBut_foldl_apply early
    (aspect_or_idle (Request.plain_ofText document plain) noAdded noRemoved aspects) document

end Patch

/-! ### Values that are handed over -/

/-- A value that can be handed over inside quotation marks. -/
structure IsValue (value : Text) : Prop where
  written : ∃ c ∈ value, isBlank c = false
  noQuote : ∀ c ∈ value, Request.isQuote c = false
  plain : '\n' ∉ value

namespace Request

theorem plain_wish {front value : Text} (front_ : '\n' ∉ front) (plain : '\n' ∉ value) :
    '\n' ∉ front ++ (value ++ ['"']) := by
  rw [List.mem_append, List.mem_append, not_or, not_or]
  exact ⟨front_, plain, by decide⟩

/-- What a sentence that names no part but one asks for. -/
theorem aspect_of_asks {resolve : Text → Text} {t : Text} {aspect : Option ViewKey}
    (filter : aspect ≠ none → tagOf t = none ∧ folderOf t = none)
    (rename : aspect ≠ some .name → renameOf t = none)
    (noKind : viewTypeOf t = none) (noSort : sortingOf t = none) (noGroup : groupByOf t = none) :
    ∀ step, (Request.ofText resolve t).asks step = true → step.aspect = aspect := by
  intro step asks
  by_contra other
  cases step with
  | tag =>
      rw [Request.asks, ofText, (filter (Ne.symm other)).1] at asks
      cases asks
  | folder =>
      rw [Request.asks, ofText, (filter (Ne.symm other)).2] at asks
      cases asks
  | viewType =>
      rw [Request.asks, ofText, noKind] at asks
      cases asks
  | add => cases asks
  | remove => cases asks
  | sort =>
      rw [Request.asks, ofText, noSort] at asks
      cases asks
  | groupBy =>
      rw [Request.asks, ofText, noGroup] at asks
      cases asks
  | rename =>
      rw [Request.asks, ofText, rename (Ne.symm other)] at asks
      cases asks

/-- A wish to rename changes nothing but the name. -/
theorem sameBut_renameWish (document : Text) {name : Text} (isValue : IsValue name)
    (noTag : tagOf name = none) (noFolder : folderOf name = none) (noKind : viewTypeOf name = none)
    (noSort : sortingOf name = none) (noGroup : groupByOf name = none) :
    Outline.SameBut (some .name) (outline document)
      (outline (Patch.patch document (renameWish name)).1) := by
  have clean : quotes.Clean name := isValue.noQuote
  have ne : name ≠ [] := by
    obtain ⟨c, mem, -⟩ := isValue.written
    exact List.ne_nil_of_mem mem
  refine Patch.sameBut_patch (by decide) (plain_wish (by decide) isValue.plain)
    (namesAfter_renameWish clean isValue.plain ne _) (namesAfter_renameWish clean isValue.plain ne _)
    (aspect_of_asks (fun _ => ?_) (fun ne => absurd rfl ne) ?_ ?_ ?_)
  · exact ⟨(tagOf_renameWish clean).trans noTag, (folderOf_renameWish clean).trans noFolder⟩
  · exact (viewTypeOf_renameWish clean).trans noKind
  · exact (sortingOf_renameWish clean).trans noSort
  · exact (groupByOf_renameWish clean).trans noGroup

/-- A wish to move changes nothing but the filters. -/
theorem sameBut_moveWish (document : Text) {folder : Text} (isValue : IsValue folder)
    (noKind : viewTypeOf folder = none) (noSort : sortingOf folder = none)
    (noGroup : groupByOf folder = none) (noAdded : addedOf (moveWish folder) = none)
    (noRemoved : removedOf (moveWish folder) = none) :
    Outline.SameBut none (outline document)
      (outline (Patch.patch document (moveWish folder)).1) := by
  have clean : quotes.Clean folder := isValue.noQuote
  refine Patch.sameBut_patch (by decide) (plain_wish (by decide) isValue.plain)
    noAdded noRemoved (aspect_of_asks (fun ne => absurd rfl ne) (fun _ => ?_) ?_ ?_ ?_)
  · exact renameOf_of_findAll (findAll_renamePhrase_moveWish clean)
  · exact (viewTypeOf_moveWish clean).trans noKind
  · exact (sortingOf_moveWish clean).trans noSort
  · exact (groupByOf_moveWish clean).trans noGroup

theorem sameBut_tagWish (document : Text) {tag : Text} (isTag : IsTag tag)
    (noKind : viewTypeOf tag = none) :
    Outline.SameBut none (outline document) (outline (Patch.patch document (tagWish tag)).1) := by
  have plain : '\n' ∉ tagWish tag :=
    List.not_mem_append (by decide) fun mem => absurd (isTag.path _ mem) (by decide)
  exact Patch.sameBut_patch (by decide) plain isTag.addedOf_tagWish isTag.removedOf_tagWish
    (aspect_of_asks (fun ne => absurd rfl ne) (fun _ => isTag.renameOf_tagWish)
      (isTag.viewTypeOf_tagWish.trans noKind) isTag.sortingOf_tagWish isTag.groupByOf_tagWish)

end Request

open Request in
/-- **A value that is handed over for one aspect leaves the others alone**, if it does not name them
by itself. For a folder this goes for columns too: none is to be added or removed, whether or not
there is a word in it that could ask for that. -/
theorem value_keeps_to_its_aspect (document : Text) :
    (∀ name, IsValue name → tagOf name = none → folderOf name = none → viewTypeOf name = none →
      sortingOf name = none → groupByOf name = none →
        ∃ viewName, inspect (Patch.patch document (renameWish name)).1 =
          { inspect document with viewName }) ∧
    (∀ folder, IsValue folder → viewTypeOf folder = none → sortingOf folder = none →
      groupByOf folder = none → addedOf (moveWish folder) = none →
      removedOf (moveWish folder) = none →
        ∃ filterEntries, inspect (Patch.patch document (moveWish folder)).1 =
          { inspect document with filterEntries }) ∧
    (∀ tag, IsTag tag → viewTypeOf tag = none →
      ∃ filterEntries, inspect (Patch.patch document (tagWish tag)).1 =
        { inspect document with filterEntries }) := by
  simp only [inspect_eq_summary]
  refine ⟨?_, ?_, ?_⟩
  · intro name isValue noTag noFolder noKind noSort noGroup
    exact ⟨_, (sameBut_renameWish document isValue noTag noFolder noKind noSort
      noGroup).summary⟩
  · intro folder isValue noKind noSort noGroup noAdded noRemoved
    exact ⟨_, (sameBut_moveWish document isValue noKind noSort noGroup noAdded
      noRemoved).summary⟩
  · intro tag isTag noKind
    exact ⟨_, (sameBut_tagWish document isTag noKind).summary⟩

open Request in
/-- The folder has a word in it that asks for columns, but names none. -/
theorem cookbook_keeps_to_its_aspect :
    (∃ viewName, inspect (Patch.patch "views:\n- type: table\n  name: \"A\"".toList
        (renameWish "Cookbook".toList)).1 =
      { inspect "views:\n- type: table\n  name: \"A\"".toList with viewName }) ∧
    (∃ filterEntries, inspect (Patch.patch "views:\n- type: table\n  name: \"A\"".toList
        (moveWish "Show Notes".toList)).1 =
      { inspect "views:\n- type: table\n  name: \"A\"".toList with filterEntries }) ∧
    ∃ filterEntries, inspect (Patch.patch "views:\n- type: table\n  name: \"A\"".toList
        (tagWish "food/sweet".toList)).1 =
      { inspect "views:\n- type: table\n  name: \"A\"".toList with filterEntries } := by
  have isName : IsValue "Cookbook".toList := by constructor <;> decide
  have isFolder : IsValue "Show Notes".toList := by constructor <;> decide
  have isTag : IsTag "food/sweet".toList := ⟨⟨'f', by decide, by decide⟩, by decide⟩
  obtain ⟨rename, move, tag⟩ :=
    value_keeps_to_its_aspect "views:\n- type: table\n  name: \"A\"".toList
  exact ⟨rename _ isName (by decide) (by decide) (by decide) (by decide) (by decide),
    move _ isFolder (by decide) (by decide) (by decide) (by decide) (by decide),
    tag _ isTag (by decide)⟩

open Request in
/-- A value that is a phrase for another aspect changes that aspect too. -/
theorem value_is_read_as_another_aspect :
    let document := "views:\n- type: table\n  order:\n    - x".toList
    (∀ name ∈ ["#b", "notes in folder b", "cards", "sorted by b", "grouped by b"].map String.toList,
      IsValue name ∧ ¬ ∃ viewName, inspect (Patch.patch document (renameWish name)).1 =
        { inspect document with viewName }) ∧
    (∀ folder ∈ ["cards", "sorted by b", "grouped by b", "show b", "hide x"].map String.toList,
      IsValue folder ∧ ¬ ∃ filterEntries, inspect (Patch.patch document (moveWish folder)).1 =
        { inspect document with filterEntries }) ∧
    IsTag "cards".toList ∧
      ¬ ∃ filterEntries, inspect (Patch.patch document (tagWish "cards".toList)).1 =
        { inspect document with filterEntries } := by
  intro document
  have values : ∀ value ∈ ["#b", "notes in folder b", "cards", "sorted by b", "grouped by b",
      "show b", "hide x"].map String.toList, (∃ c ∈ value, isBlank c = false) ∧
        (∀ c ∈ value, Request.isQuote c = false) ∧ '\n' ∉ value := by decide
  have isValue : ∀ value ∈ ["#b", "notes in folder b", "cards", "sorted by b", "grouped by b",
      "show b", "hide x"].map String.toList, IsValue value := fun value mem =>
    ⟨(values value mem).1, (values value mem).2.1, (values value mem).2.2⟩
  have isTag : IsTag "cards".toList := ⟨⟨'c', by decide, by decide⟩, by decide⟩
  have renamed : ∀ name ∈ ["#b", "notes in folder b", "cards", "sorted by b", "grouped by b"].map
      String.toList, inspect (Patch.patch document (renameWish name)).1 ≠
        { inspect document with
          viewName := (inspect (Patch.patch document (renameWish name)).1).viewName } := by
    decide
  have moved : ∀ folder ∈ ["cards", "sorted by b", "grouped by b", "show b", "hide x"].map
      String.toList, inspect (Patch.patch document (moveWish folder)).1 ≠
        { inspect document with
          filterEntries := (inspect (Patch.patch document (moveWish folder)).1).filterEntries } := by
    decide
  have tagged : inspect (Patch.patch document (tagWish "cards".toList)).1 ≠
      { inspect document with
        filterEntries :=
          (inspect (Patch.patch document (tagWish "cards".toList)).1).filterEntries } := by
    decide
  refine ⟨fun name mem => ⟨isValue name ?_, ?_⟩, fun folder mem => ⟨isValue folder ?_, ?_⟩, isTag, ?_⟩
  · revert name
    decide
  · rintro ⟨viewName, same⟩
    refine renamed name mem ?_
    rw [same]
  · revert folder
    decide
  · rintro ⟨filterEntries, same⟩
    refine moved folder mem ?_
    rw [same]
  · rintro ⟨filterEntries, same⟩
    refine tagged ?_
    rw [same]

end Notebase
