import Notebase.Proofs.Session.Run

/-!
When a session consults its generator, and what it makes of an instruction. A generator that keeps
a log of its calls leaves every session as it is (`run_logged`), so the log of a run is the list of
the calls that the session makes: one for each instruction that is to be consulted about. Every
other instruction is carried out without a call, and the answer reports an error exactly if no
document is committed (`session_runs_in_step`).
-/

namespace Notebase

/-! ### Generators with a log -/

/-- A call of a generator: the instruction and the document that are handed over. -/
abbrev Call := Text × Option Text

/-- A generator that keeps a log of its calls beside its own state. -/
def Generator.logged {σ : Type} (generate : Generator σ) : Generator (σ × List Call) :=
  fun (g, log) instruction document =>
    let (reply, g) := generate g instruction document
    (reply, g, log ++ [(instruction, document)])

/-- A generator that replies from a script and breaks down at its end. -/
def Generator.scripted : Generator (List Reply)
  | [], _, _ => (.breakdown "script exhausted".toList, [])
  | reply :: rest, _, _ => (reply, rest)

def Studio.logged {σ : Type} (studio : Studio σ) : Studio (σ × List Call) :=
  ⟨studio.catalog, studio.generator.map Generator.logged, studio.wishedMode⟩

@[simp] theorem Studio.catalog_logged {σ : Type} (studio : Studio σ) :
    studio.logged.catalog = studio.catalog := rfl

@[simp] theorem Studio.mode_logged {σ : Type} (studio : Studio σ) :
    studio.logged.mode = studio.mode := by
  obtain ⟨catalog, generator, wishedMode⟩ := studio
  cases generator with
  | none => rfl
  | some generate => rfl

/-- There is a generator in remote mode. -/
theorem Studio.exists_generator {σ : Type} {studio : Studio σ} (remote : studio.mode = .remote) :
    ∃ generate, studio.generator = some generate := by
  rw [Studio.mode] at remote
  cases generator_eq : studio.generator with
  | none =>
      have apart : Mode.local ≠ Mode.remote := by decide
      rw [generator_eq] at remote
      exact absurd remote apart
  | some generate => exact ⟨generate, rfl⟩

namespace Session

variable {σ : Type}

/-! ### When a generator is consulted -/

def Picks (catalog : Catalog) (s : Session) (instruction : Text) : Prop :=
  s.document = none ∧ (Text.given? (catalog.idOfDescription? instruction)).isSome = true

instance (catalog : Catalog) (s : Session) (instruction : Text) :
    Decidable (Picks catalog s instruction) := inferInstanceAs (Decidable (_ ∧ _))

/-- A generator is to be consulted about every instruction that is not blank, in remote mode,
unless the instruction picks a template. -/
def Consults (studio : Studio σ) (s : Session) (instruction : Text) : Prop :=
  instruction.trim ≠ [] ∧ studio.mode = .remote ∧ ¬ Picks studio.catalog s instruction.trim

instance (studio : Studio σ) (s : Session) (instruction : Text) :
    Decidable (Consults studio s instruction) := inferInstanceAs (Decidable (_ ∧ _ ∧ _))

theorem mem_of_idOfDescription? {catalog : Catalog} {t id : Text}
    (h : catalog.idOfDescription? t = some id) :
    ∃ template, (id, template) ∈ catalog.templates ∧ template.description = t := by
  obtain ⟨⟨id, template⟩, found, rfl⟩ := Option.map_eq_some_iff.mp h
  exact ⟨template, List.mem_of_find?_eq_some found, by simpa using List.find?_some found⟩

/-- The template with a description is found under its id, so an instruction picks a template
exactly if there is one to be shown. -/
theorem isSome_templateHit?_iff {catalog : Catalog} {s : Session} {instruction : Text} :
    (templateHit? catalog s instruction).isSome = true ↔ Picks catalog s instruction := by
  rw [templateHit?, Picks]
  cases s.document with
  | some d => simp
  | none =>
      dsimp only
      cases picked : Text.given? (catalog.idOfDescription? instruction) with
      | none => simp
      | some id =>
          obtain ⟨template, mem, -⟩ := mem_of_idOfDescription? (given?_eq_some picked)
          have known : catalog.templates.get? id ≠ none := fun none =>
            Dict.get?_eq_none_iff.mp none (List.mem_map_of_mem (f := Prod.fst) mem)
          simpa [Option.isSome_iff_ne_none] using known

/-- Whoever is consulted is the generator of the studio. -/
theorem consulted?_of_consults {studio : Studio σ} {s : Session} {instruction : Text}
    (h : Consults studio s instruction) :
    consulted? studio s instruction.trim = studio.generator := by
  obtain ⟨written, remote, open_⟩ := h
  have none : ¬ (instruction.trim.isEmpty ||
      (templateHit? studio.catalog s instruction.trim).isSome) = true := by
    rw [Bool.or_eq_true, isSome_templateHit?_iff, List.isEmpty_iff, not_or]
    exact ⟨written, open_⟩
  rw [consulted?, if_neg none, if_pos remote]

theorem consulted?_of_not_consults {studio : Studio σ} {s : Session} {instruction : Text}
    (h : ¬ Consults studio s instruction) : consulted? studio s instruction.trim = none := by
  rw [consulted?]
  split
  · rfl
  · next open_ =>
      rw [Bool.or_eq_true, isSome_templateHit?_iff, List.isEmpty_iff, not_or] at open_
      exact if_neg fun remote => h ⟨open_.1, remote, open_.2⟩

/-- **An instruction that is to be consulted about** goes to the generator, trimmed and with the
document of the session. -/
theorem submit_of_consults {studio : Studio σ} {s : Session} {instruction : Text}
    (h : Consults studio s instruction) {generate : Generator σ}
    (generator_eq : studio.generator = some generate) (g : σ) :
    submit studio g s instruction =
      (takeIn s (generate g instruction.trim s.document).1,
        (generate g instruction.trim s.document).2) := by
  rw [submit, consulted?_of_consults h, generator_eq]

/-- **Any other instruction** is carried out without a generator. -/
theorem submit_of_not_consults {studio : Studio σ} {s : Session} {instruction : Text}
    (h : ¬ Consults studio s instruction) (g : σ) :
    submit studio g s instruction = (workAlone studio.catalog s instruction.trim, g) := by
  rw [submit, consulted?_of_not_consults h]

/-! ### What an instruction commits -/

def replied? : Reply → Option Text
  | .text t => Text.given? (some (t.getD []).stripFence)
  | .refusal _ => none
  | .breakdown _ => none

def ownDocument (catalog : Catalog) (s : Session) (instruction : Text) : Text :=
  match s.document, templateHit? catalog s instruction, keywordHit? catalog instruction with
  | some document, _, _ => (Patch.patch document instruction).1
  | none, some (_, document), _ => document
  | none, none, some (_, document) => document
  | none, none, none => Draft.ofText instruction

/-- The document that an instruction commits, if it commits one. -/
def committed? (studio : Studio σ) (g : σ) (s : Session) (instruction : Text) : Option Text :=
  if Consults studio s instruction then
    studio.generator.bind fun generate => replied? (generate g instruction.trim s.document).1
  else if instruction.trim = [] then none
  else some (ownDocument studio.catalog s instruction.trim)

/-- The outcome of an instruction in a session: either it commits a document, and then the session
holds that document alone, or it reports an error and leaves the session as it is. -/
structure Outcome (s : Session) (committed : Option Text) (result : Session × Response) : Prop where
  document : result.2.document = result.1.document
  error : result.2.error = none ↔ committed.isSome = true
  failed : committed = none → result.1 = s
  made : ∀ d ∈ committed, result.1 = ⟨some d, none⟩

theorem outcome_commit (s : Session) (d : Text) {response : Response}
    (none : response.error = Option.none) : Outcome s (some d) (commit d response) where
  document := rfl
  error := by simpa [commit] using none
  failed h := by cases h
  made := by
    rintro d' ⟨⟩
    rfl

theorem outcome_fail (s : Session) {response : Response} (document : response.document = s.document)
    (error : response.error.isSome = true) : Outcome s none (s, response) where
  document := document
  error := by simpa [Option.isSome_iff_ne_none] using error
  failed _ := rfl
  made d h := by cases h

/-- A session takes in what a reply holds, if it holds anything. -/
theorem outcome_takeIn (s : Session) (reply : Reply) :
    Outcome s (replied? reply) (takeIn s reply) := by
  cases reply with
  | refusal message => exact outcome_fail s rfl rfl
  | breakdown message => exact outcome_fail s rfl rfl
  | text t =>
      rw [takeIn, replied?]
      dsimp only
      cases (t.getD []).stripFence with
      | nil => exact outcome_fail s rfl rfl
      | cons c rest => exact outcome_commit s _ rfl

/-- A session on its own always comes to a document. -/
theorem outcome_workAlone (catalog : Catalog) (s : Session) {instruction : Text}
    (written : instruction ≠ []) :
    Outcome s (some (ownDocument catalog s instruction)) (workAlone catalog s instruction) := by
  obtain ⟨c, t, rfl⟩ := List.exists_cons_of_ne_nil written
  rw [workAlone, ownDocument]
  cases held : s.document with
  | some d =>
      have miss : templateHit? catalog s (c :: t) = none := by rw [templateHit?, held]
      rw [miss]
      dsimp only
      rw [workLocally, held]
      exact outcome_commit s _ rfl
  | none =>
      cases templateHit? catalog s (c :: t) with
      | some hit => exact outcome_commit s _ rfl
      | none =>
          dsimp only
          rw [workLocally, held]
          dsimp only
          cases keywordHit? catalog (c :: t) with
          | some hit => exact outcome_commit s _ rfl
          | none => exact outcome_commit s _ rfl

/-- **Every instruction has one of the two outcomes.** -/
theorem outcome_submit (studio : Studio σ) (g : σ) (s : Session) (instruction : Text) :
    Outcome s (committed? studio g s instruction) (submit studio g s instruction).1 := by
  rw [committed?]
  by_cases consults : Consults studio s instruction
  · obtain ⟨generate, generator_eq⟩ := Studio.exists_generator consults.2.1
    rw [if_pos consults, submit_of_consults consults generator_eq, generator_eq]
    exact outcome_takeIn s _
  · rw [if_neg consults, submit_of_not_consults consults]
    by_cases blank : instruction.trim = []
    · rw [if_pos blank, blank]
      exact outcome_fail s rfl rfl
    · rw [if_neg blank]
      exact outcome_workAlone studio.catalog s blank

/-! ### Calls -/

def Action.calls (studio : Studio σ) (s : Session) : Action → List Call
  | .submit instruction =>
      if Consults studio s instruction then [(instruction.trim, s.document)] else []
  | .select _ => []
  | .reset => []

namespace History

def calls (studio : Studio σ) (h : History σ) : List Action → List Call
  | [] => []
  | a :: actions => a.calls studio h.session ++ (h.step studio a).calls studio actions

def erase (h : History (σ × List Call)) : History σ := ⟨h.session, h.generator.1, h.made⟩

end History

theorem consults_logged {studio : Studio σ} {s : Session} {instruction : Text} :
    Consults studio.logged s instruction ↔ Consults studio s instruction := by
  rw [Consults, Consults, Studio.mode_logged, Studio.catalog_logged]

/-- **The log of an instruction.** A log changes nothing but itself. -/
theorem submit_logged (studio : Studio σ) (g : σ) (log : List Call) (s : Session)
    (instruction : Text) : submit studio.logged (g, log) s instruction =
      ((submit studio g s instruction).1, (submit studio g s instruction).2,
        log ++ (Action.submit instruction).calls studio s) := by
  by_cases consults : Consults studio s instruction
  · obtain ⟨generate, generator_eq⟩ := Studio.exists_generator consults.2.1
    have logged : studio.logged.generator = some generate.logged := by
      rw [Studio.logged, generator_eq, Option.map_some]
    rw [submit_of_consults (consults_logged.mpr consults) logged,
      submit_of_consults consults generator_eq,
      Action.calls, if_pos consults]
    rfl
  · rw [submit_of_not_consults (fun h => consults (consults_logged.mp h)),
      submit_of_not_consults consults, Action.calls, if_neg consults, List.append_nil,
      Studio.catalog_logged]

/-- **One action** of a session whose generator keeps a log. -/
theorem step_logged (studio : Studio σ) (h : History (σ × List Call)) (a : Action) :
    (h.step studio.logged a).erase = h.erase.step studio a ∧
      (h.step studio.logged a).generator.2 = h.generator.2 ++ a.calls studio h.session := by
  obtain ⟨s, ⟨g, log⟩, made⟩ := h
  cases a with
  | submit instruction =>
      rw [History.step, submit_logged]
      exact ⟨rfl, rfl⟩
  | select id =>
      rw [History.step, Studio.catalog_logged]
      cases found : select? studio.catalog id with
      | none => simp [History.erase, History.step, Action.calls, found]
      | some pair => simp [History.erase, History.step, Action.calls, found]
  | reset => exact ⟨rfl, (List.append_nil log).symm⟩

/-- **A run** of a session whose generator keeps a log is a run of the session, and the log tells
its calls. -/
theorem run_logged (studio : Studio σ) (h : History (σ × List Call)) (actions : List Action) :
    (h.run studio.logged actions).erase = h.erase.run studio actions ∧
      (h.run studio.logged actions).generator.2 =
        h.generator.2 ++ h.erase.calls studio actions := by
  induction actions generalizing h with
  | nil => exact ⟨rfl, (List.append_nil _).symm⟩
  | cons a actions ih =>
      obtain ⟨same, log⟩ := step_logged studio h a
      obtain ⟨same', log'⟩ := ih (h.step studio.logged a)
      refine ⟨?_, ?_⟩
      · rw [History.run, List.foldl_cons, ← History.run, same', same]
        rfl
      · rw [History.run, List.foldl_cons, ← History.run, log', log, same, List.append_assoc]
        rfl

/-! ### The template that is selected -/

/-- Only a session without a document has a template selected. -/
def Waiting (s : Session) : Prop := s.selected ≠ none → s.document = none

/-- After any outcome a template is selected only while there is no document. -/
theorem Outcome.waiting {s : Session} {committed : Option Text} {result : Session × Response}
    (outcome : Outcome s committed result) (waiting : s.Waiting) : result.1.Waiting := by
  cases committed with
  | none =>
      rw [outcome.failed rfl]
      exact waiting
  | some d =>
      rw [outcome.made d rfl]
      exact fun selected => absurd rfl selected

/-- After any action a template is selected only while there is no document. -/
theorem waiting_step (studio : Studio σ) {h : History σ} (waiting : h.session.Waiting)
    (a : Action) : (h.step studio a).session.Waiting := by
  cases a with
  | submit instruction =>
      exact (outcome_submit studio h.generator h.session instruction).waiting waiting
  | select id =>
      rw [History.step]
      cases found : select? studio.catalog id with
      | none => exact waiting
      | some pair =>
          obtain ⟨template, -, rfl⟩ := Option.map_eq_some_iff.mp found
          exact fun _ => rfl
  | reset => exact fun _ => rfl

theorem waiting_run (studio : Studio σ) {h : History σ} (waiting : h.session.Waiting)
    (actions : List Action) : (h.run studio actions).session.Waiting := by
  induction actions generalizing h with
  | nil => exact waiting
  | cons a actions ih => exact ih (waiting_step studio waiting a)

theorem select?_eq_none_iff {catalog : Catalog} {id : Text} :
    select? catalog id = none ↔ id ∉ catalog.templates.map Prod.fst := by
  rw [select?, Option.map_eq_none_iff, Dict.get?_eq_none_iff]

theorem step_select_of_unknown (studio : Studio σ) (h : History σ) {id : Text}
    (unknown : id ∉ studio.catalog.templates.map Prod.fst) : h.step studio (.select id) = h := by
  rw [History.step, select?_eq_none_iff.mpr unknown]

/-! ### The whole machine -/

/-- **What a session does, after any run.** Each instruction commits a document or reports an error
that leaves the session as it is; only the ids of the catalog can be selected, and any other id
changes nothing; a template is selected only while there is no document. A log that the generator
keeps changes nothing, and after the run it has the calls for the instructions that a generator is
to be consulted about, one for each, and no others. -/
theorem session_runs_in_step (studio : Studio σ) (g : σ) (actions : List Action) :
    let h := (History.start g).run studio actions
    let logged := (History.start (g, [])).run studio.logged actions
    (∀ instruction, Outcome h.session (committed? studio h.generator h.session instruction)
        (submit studio h.generator h.session instruction).1) ∧
      (∀ id, (select? studio.catalog id = none ↔ id ∉ studio.catalog.templates.map Prod.fst) ∧
        (id ∉ studio.catalog.templates.map Prod.fst → h.step studio (.select id) = h)) ∧
      (h.session.selected ≠ none → h.session.document = none) ∧
      logged.erase = h ∧ logged.generator.2 = (History.start g).calls studio actions := by
  intro h logged
  obtain ⟨same, log⟩ := run_logged studio (History.start (g, [])) actions
  refine ⟨fun instruction => outcome_submit studio h.generator h.session instruction,
    fun id => ⟨select?_eq_none_iff, step_select_of_unknown studio h⟩, ?_, same, ?_⟩
  · exact waiting_run studio (fun _ => rfl) actions
  · exact log

/-- A session in remote mode is refused a document, and a template is selected in it; the generator
has then been called once. -/
theorem refused_session_runs_in_step : ∃ (studio : Studio (List Reply))
    (h : History (List Reply)) (logged : History (List Reply × List Call)),
    h = (History.start [.refusal "no".toList]).run studio
      [.submit " draw ".toList, .select "shelf".toList] ∧
    logged.generator.2 = [("draw".toList, none)] ∧ logged.erase = h ∧
    h.session.selected = some "shelf".toList ∧ h.session.document = none ∧
    h.step studio (.select "attic".toList) = h ∧
    (submit studio h.generator h.session "draw".toList).1.2.error ≠ none ∧
    (submit studio h.generator h.session "draw".toList).1.1 = h.session := by
  let catalog : Catalog :=
    ⟨[("shelf".toList, ⟨"Shelf".toList, "Make a shelf".toList, "views:".toList⟩)], [], []⟩
  let studio : Studio (List Reply) := ⟨catalog, some Generator.scripted, .remote⟩
  let actions : List Action := [.submit " draw ".toList, .select "shelf".toList]
  let script : List Reply := [.refusal "no".toList]
  have selected : ((History.start script).run studio actions).session.selected =
      some "shelf".toList := by decide
  have calls : (History.start script).calls studio actions = [("draw".toList, none)] := by decide
  have unknown : "attic".toList ∉ studio.catalog.templates.map Prod.fst := by decide
  have nothing : committed? studio ((History.start script).run studio actions).generator
      ((History.start script).run studio actions).session "draw".toList = none := by decide
  obtain ⟨outcome, select, waiting, same, log⟩ := session_runs_in_step studio script actions
  have failed := outcome "draw".toList
  rw [nothing] at failed
  refine ⟨studio, _, _, rfl, log.trans calls, same, selected, waiting ?_, (select _).2 unknown, ?_,
    failed.failed rfl⟩
  · rw [selected]
    exact Option.some_ne_none _
  · exact fun none => absurd (failed.error.mp none) (by decide)

end Session

end Notebase
