import Mathlib.Data.List.Nodup
import Notebase.Proofs.Session.Consult
import Notebase.Proofs.Text.Trim

/-!
The fast path to a template. A template that has been selected is what the session makes of its
description, whatever blanks are written around it, and no generator is called for it; and a
session that holds a document never falls back to a template, a keyword or a new document
(`selected_template_is_made`).
-/

namespace Notebase

/-- A catalog whose templates can be told apart by their descriptions: every template has an id and
a description, which is written without blanks around it, and no two have the same one. -/
structure Catalog.Distinctive (c : Catalog) : Prop where
  ids : ∀ entry ∈ c.templates, entry.1 ≠ []
  written : ∀ entry ∈ c.templates,
    entry.2.description ≠ [] ∧ entry.2.description.trim = entry.2.description
  distinct : (c.templates.map fun entry => entry.2.description).Nodup

/-- **A description picks its own template.** -/
theorem Catalog.Distinctive.idOfDescription? {c : Catalog} (ok : c.Distinctive) {id : Text}
    {template : Template} (mem : (id, template) ∈ c.templates) :
    c.idOfDescription? template.description = some id := by
  have found : (c.templates.find? fun entry =>
      entry.2.description == template.description).isSome = true :=
    List.find?_isSome.mpr ⟨_, mem, beq_self_eq_true _⟩
  obtain ⟨entry, found⟩ := Option.isSome_iff_exists.mp found
  have same : entry.2.description = template.description := by simpa using List.find?_some found
  have entry_eq : entry = (id, template) :=
    List.inj_on_of_nodup_map ok.distinct (List.mem_of_find?_eq_some found) mem same
  exact Option.map_eq_some_iff.mpr ⟨entry, found, congrArg Prod.fst entry_eq⟩

namespace Session

variable {σ : Type}

/-- An action that leaves every session as it is: a blank instruction or the selection of a
template that there is not. -/
def Action.Idle (catalog : Catalog) : Action → Prop
  | .submit instruction => instruction.trim = []
  | .select id => id ∉ catalog.templates.map Prod.fst
  | .reset => False

/-- An idle action changes nothing. -/
theorem step_idle {studio : Studio σ} (h : History σ) {a : Action}
    (idle : a.Idle studio.catalog) : h.step studio a = h := by
  cases a with
  | submit instruction =>
      have blank : instruction.trim = [] := idle
      have silent : ¬ Consults studio h.session instruction := fun consults => consults.1 blank
      rw [History.step, submit_of_not_consults silent, blank]
      show (⟨h.session, h.generator, h.made ++ []⟩ : History σ) = h
      rw [List.append_nil]
  | select id => exact step_select_of_unknown studio h idle
  | reset => exact absurd idle id

theorem run_idle {studio : Studio σ} (h : History σ) {actions : List Action}
    (idle : ∀ a ∈ actions, a.Idle studio.catalog) : h.run studio actions = h := by
  induction actions with
  | nil => rfl
  | cons a actions ih =>
      rw [History.run, List.foldl_cons, step_idle h (idle a List.mem_cons_self)]
      exact ih fun a' mem => idle a' (List.mem_cons_of_mem _ mem)

/-! ### Picking a template -/

def templateAnswer (id : Text) (template : Template) : Response :=
  { document := some template.document, route := some .template, templateId := some id }

/-- The description of a template brings its document. -/
theorem submit_description {studio : Studio σ} (ok : studio.catalog.Distinctive) (g : σ)
    {s : Session} (open_ : s.document = none) {id : Text} {template : Template}
    (known : studio.catalog.templates.get? id = some template) {instruction : Text}
    (picks : instruction.trim = template.description) :
    submit studio g s instruction =
      ((⟨some template.document, none⟩, templateAnswer id template), g) := by
  have mem := Dict.mem_of_get? known
  have given : Text.given? (studio.catalog.idOfDescription? template.description) = some id := by
    rw [ok.idOfDescription? mem]
    exact given?_of_ne_nil (ok.ids _ mem)
  have hit : templateHit? studio.catalog s template.description = some (id, template.document) := by
    rw [templateHit?, open_]
    dsimp only
    rw [given, Option.bind_some, known, Option.map_some]
  have silent : ¬ Consults studio s instruction := by
    rintro ⟨-, -, other⟩
    rw [picks] at other
    exact other (isSome_templateHit?_iff.mp (by rw [hit]; rfl))
  obtain ⟨c, t, description_eq⟩ := List.exists_cons_of_ne_nil (ok.written _ mem).1
  rw [submit_of_not_consults silent, picks, description_eq, workAlone, ← description_eq, hit]
  rfl

/-! ### Sessions with a document -/

/-- The ways that are open to a session with a document. -/
theorem route_of_held (studio : Studio σ) (g : σ) {s : Session} {d : Text}
    (held : s.document = some d) (instruction : Text) :
    (submit studio g s instruction).1.2.route ∈ [none, some .patched, some .remote] := by
  by_cases consults : Consults studio s instruction
  · obtain ⟨generate, generator_eq⟩ := Studio.exists_generator consults.2.1
    have remote : ∀ reply, (takeIn s reply).2.route = some .remote := by
      intro reply
      cases reply with
      | refusal message => rfl
      | breakdown message => rfl
      | text t =>
          rw [takeIn]
          dsimp only
          cases (t.getD []).stripFence with
          | nil => rfl
          | cons c rest => rfl
    rw [submit_of_consults consults generator_eq, remote]
    simp
  · rw [submit_of_not_consults consults]
    cases instruction.trim with
    | nil => simp [workAlone]
    | cons c t =>
        -- A template is only looked for when no document is held.
        have miss : templateHit? studio.catalog s (c :: t) = none := by rw [templateHit?, held]
        rw [workAlone, miss]
        dsimp only
        rw [workLocally, held]
        simp [commit]

/-- **A selected template is made of its description.** After any run of a session, a template can
be selected, and blank instructions and the selection of unknown templates change nothing; the
description of the template, with any blanks around it, is then answered by the template, and no
generator is called. While a session holds a document, no instruction is answered by a template, by
a keyword or by a new document. -/
theorem selected_template_is_made (studio : Studio σ) (ok : studio.catalog.Distinctive) (g : σ)
    (actions : List Action) :
    let h := (History.start (g, [])).run studio.logged actions
    (∀ id template, studio.catalog.templates.get? id = some template →
      select? studio.catalog id = some (⟨none, some id⟩, template.description) ∧
        ∀ idle : List Action, (∀ a ∈ idle, a.Idle studio.catalog) →
          ∀ before after : Text, (∀ c ∈ before, isBlank c = true) →
            (∀ c ∈ after, isBlank c = true) →
              let h' := (h.step studio.logged (.select id)).run studio.logged idle
              submit studio.logged h'.generator h'.session
                  (before ++ template.description ++ after) =
                ((⟨some template.document, none⟩, templateAnswer id template), h.generator)) ∧
      ∀ d, h.session.document = some d → ∀ instruction,
        (submit studio.logged h.generator h.session instruction).1.2.route ∉
          [some .template, some .keyword, some .synthesized] := by
  intro h
  refine ⟨fun id template known => ?_, fun d held instruction mem => ?_⟩
  · have selected : select? studio.catalog id =
        some (⟨none, some id⟩, template.description) := by
      rw [select?, known, Option.map_some]
    refine ⟨selected, fun idle isIdle before after blank blank' => ?_⟩
    intro h'
    -- Nothing that is idle changes the state, so it is the one right after the selection.
    have state : h' = ⟨⟨none, some id⟩, h.generator, []⟩ := by
      have step : h.step studio.logged (.select id) = ⟨⟨none, some id⟩, h.generator, []⟩ := by
        rw [History.step, Studio.catalog_logged, selected]
      rw [← step]
      exact run_idle _ isIdle
    have trimmed : template.description.Trimmed :=
      Text.trim_eq_self_iff.mp (ok.written _ (Dict.mem_of_get? known)).2
    have distinctive : studio.logged.catalog.Distinctive := ok
    rw [state]
    exact submit_description distinctive h.generator rfl known (trimmed.trim_around blank blank')
  · have open_ := route_of_held studio.logged h.generator held instruction
    revert mem open_
    generalize (submit studio.logged h.generator h.session instruction).1.2.route = route
    revert route
    decide

/-- A session whose generator has written a map; a shelf is selected in it then, and made. -/
theorem selected_shelf_is_made : ∃ (studio : Studio (List Reply)) (template : Template)
    (h h' : History (List Reply × List Call)), studio.catalog.Distinctive ∧
    h = (History.start ([.text (some "views:".toList)], [])).run studio.logged
      [.submit "draw a map".toList] ∧
    h.session.document = some "views:".toList ∧
    (submit studio.logged h.generator h.session template.description).1.2.route ∉
      [some .template, some .keyword, some .synthesized] ∧
    select? studio.catalog "shelf".toList =
      some (⟨none, some "shelf".toList⟩, template.description) ∧
    h' = (h.step studio.logged (.select "shelf".toList)).run studio.logged
      [.submit " \n".toList, .select "attic".toList] ∧
    submit studio.logged h'.generator h'.session
        (" ".toList ++ template.description ++ "\n".toList) =
      ((⟨some template.document, none⟩, templateAnswer "shelf".toList template), h.generator) := by
  let template : Template := ⟨"Shelf".toList, "Make a shelf".toList, "views: []".toList⟩
  let studio : Studio (List Reply) :=
    ⟨⟨[("shelf".toList, template)], [], []⟩, some Generator.scripted, .remote⟩
  let script : List Reply := [.text (some "views:".toList)]
  let actions : List Action := [.submit "draw a map".toList]
  have ok : studio.catalog.Distinctive := by constructor <;> decide
  have known : studio.catalog.templates.get? "shelf".toList = some template := by decide
  have held : ((History.start (script, [])).run studio.logged actions).session.document =
      some "views:".toList := by decide
  have idle : ∀ a ∈ [Action.submit " \n".toList, Action.select "attic".toList],
      a.Idle studio.catalog := by
    have blank : Text.trim " \n".toList = [] := by decide
    have unknown : "attic".toList ∉ studio.catalog.templates.map Prod.fst := by decide
    simp only [List.forall_mem_cons]
    exact ⟨blank, unknown, List.forall_mem_nil _⟩
  obtain ⟨made, other⟩ := selected_template_is_made studio ok script actions
  obtain ⟨selected, answered⟩ := made "shelf".toList template known
  exact ⟨studio, template, _, _, ok, rfl, held, other _ held _, selected, rfl,
    answered _ idle " ".toList "\n".toList (by decide) (by decide)⟩

end Session

end Notebase
