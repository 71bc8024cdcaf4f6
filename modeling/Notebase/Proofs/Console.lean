import Notebase.Catalog.Builtin
import Notebase.Console
import Notebase.Proofs.Api.Framework
import Notebase.Proofs.Session.Consult

/-!
The console and the API. Whoever types at the console could have sent requests instead: each
instruction and each reset, and for a template that is known its selection and then the description
that comes back (`Visit`). Both come to the same documents, one after another
(`console_agrees_with_api`).
-/

namespace Notebase

theorem Session.select?_of_known {catalog : Catalog} {id : Text} {template : Template}
    (known : catalog.templates.get? id = some template) :
    select? catalog id = some (⟨none, some id⟩, template.description) := by
  rw [select?, known, Option.map_some]

namespace Console

/-! ### Lines -/

def words : List Text := [":quit".toList, ":q".toList, ":reset".toList, ":templates".toList]

/-- What a line is read as. A command stands alone between blanks, except that what follows the
word that selects is the id. -/
inductive Reads (typed : Text) : Command → Prop where
  | nothing : typed.trim = [] → Reads typed .nothing
  | quit : typed.trim = ":quit".toList ∨ typed.trim = ":q".toList → Reads typed .quit
  | reset : typed.trim = ":reset".toList → Reads typed .reset
  | templates : typed.trim = ":templates".toList → Reads typed .templates
  | select {id : Text} : typed.trim = ":select".toList ++ id → Reads typed (.select id.trim)
  | instruct : typed.trim ≠ [] → typed.trim ∉ words → ¬ ":select".toList <+: typed.trim →
      Reads typed (.instruct typed.trim)

/-- **A line is read as one command.** -/
theorem reads_iff {typed : Text} {c : Command} : Reads typed c ↔ Command.ofLine typed = c := by
  rw [Command.ofLine]
  simp only [Bool.or_eq_true, decide_eq_true_eq, List.isEmpty_iff]
  constructor
  · intro reads
    cases reads with
    | nothing blank => rw [blank]; rfl
    | quit either =>
        rcases either with typed_eq | word_eq
        · rw [typed_eq]; rfl
        · rw [word_eq]; rfl
    | reset isWord => rw [isWord]; rfl
    | templates asWord => rw [asWord]; rfl
    | @select id stated =>
        have after : Text.after? ":select".toList (":select".toList ++ id) = some id :=
          Text.after?_eq_some_iff.mpr rfl
        rw [stated, after]
        rfl
    | instruct written other noSelect =>
        -- The words come before the instruction, so none of their tests may succeed.
        have known : ∀ word ∈ words, typed.trim ≠ word := fun word mem same => other (same ▸ mem)
        have after : Text.after? ":select".toList typed.trim = none := by
          rw [Option.eq_none_iff_forall_ne_some]
          intro rest found
          exact noSelect ⟨rest, (Text.after?_eq_some_iff.mp found).symm⟩
        have quit : ¬ (typed.trim = ":quit".toList ∨ typed.trim = ":q".toList) :=
          not_or.mpr ⟨known _ (by decide), known _ (by decide)⟩
        have reset : typed.trim ≠ ":reset".toList := known _ (by decide)
        have templates : typed.trim ≠ ":templates".toList := known _ (by decide)
        rw [if_neg written, if_neg quit, if_neg reset, if_neg templates, after]
  · rintro rfl
    by_cases blank : typed.trim = []
    · rw [if_pos blank]
      exact .nothing blank
    rw [if_neg blank]
    by_cases quit : typed.trim = ":quit".toList ∨ typed.trim = ":q".toList
    · rw [if_pos quit]
      exact .quit quit
    rw [if_neg quit]
    by_cases reset : typed.trim = ":reset".toList
    · rw [if_pos reset]
      exact .reset reset
    rw [if_neg reset]
    by_cases templates : typed.trim = ":templates".toList
    · rw [if_pos templates]
      exact .templates templates
    rw [if_neg templates]
    cases after : Text.after? ":select".toList typed.trim with
    | some id => exact .select (Text.after?_eq_some_iff.mp after)
    | none =>
        refine .instruct blank ?_ ?_
        · simp only [words, List.mem_cons, List.not_mem_nil, or_false, not_or]
          exact ⟨(not_or.mp quit).1, (not_or.mp quit).2, reset, templates⟩
        · rintro ⟨rest, typed_eq⟩
          cases after.symm.trans (Text.after?_eq_some_iff.mpr typed_eq.symm)

theorem Reads.ne_nil {typed instruction : Text} (reads : Reads typed (.instruct instruction)) :
    instruction ≠ [] := by
  cases reads with
  | instruct written => exact written

/-! ### Documents -/

def Output.document? : Output → Option Text
  | .document _ t _ => some t
  | _ => none

def documents (said : List Output) : List Text := said.filterMap Output.document?

end Console

namespace Api

open Console (Reads)

/-! ### Visits -/

def Request.post (address : Text) (body : Option Json) : Request := ⟨"POST".toList, address, body⟩

def Request.say (instruction : Text) : Request :=
  .post "/api/instruct".toList (some (object [("instruction", .str instruction)]))

def Request.startOver : Request := .post "/api/reset".toList none

def Request.pick (id : Text) : Request :=
  .post ("/api/templates/".toList ++ id ++ "/select".toList) none

def textOf? (key : String) (outcome : Outcome) : Option Text :=
  match outcome with
  | .ok ⟨_, .json value⟩ =>
      match value.get? key.toList with
      | some (.str t) => some t
      | _ => none
  | _ => none

/-- A line that nothing is sent for. -/
inductive Unsent (catalog : Catalog) (typed : Text) : Prop where
  | nothing : Reads typed .nothing → Unsent catalog typed
  | templates : Reads typed .templates → Unsent catalog typed
  | unknown {id : Text} : Reads typed (.select id) → catalog.templates.get? id = none →
      Unsent catalog typed

/-- What comes back for the instructions when requests are sent for the lines that are typed, one
line after another. An instruction may be sent with any blanks around it, and after a template is
picked its description is sent as it came back. -/
inductive Visit {σ : Type} (server : Server σ) :
    Session × σ → List Text → List Outcome → Prop where
  | done {state : Session × σ} : Visit server state [] []
  | quit {state : Session × σ} {typed : Text} {rest : List Text} :
      Reads typed .quit → Visit server state (typed :: rest) []
  | unsent {state : Session × σ} {typed : Text} {rest : List Text} {answers : List Outcome} :
      Unsent server.studio.catalog typed → Visit server state rest answers →
      Visit server state (typed :: rest) answers
  | reset {state state' : Session × σ} {typed : Text} {rest : List Text} {o : Outcome}
      {answers : List Outcome} :
      Reads typed .reset → handle server state .startOver = (o, state') →
      Visit server state' rest answers → Visit server state (typed :: rest) answers
  | select {state state' state'' : Session × σ} {typed id description : Text} {rest : List Text}
      {o o' : Outcome} {answers : List Outcome} :
      Reads typed (.select id) → server.studio.catalog.templates.get? id ≠ none →
      handle server state (.pick id) = (o, state') → textOf? "description" o = some description →
      handle server state' (.say description) = (o', state'') →
      Visit server state'' rest answers → Visit server state (typed :: rest) (o' :: answers)
  | instruct {state state' : Session × σ} {typed text : Text} {rest : List Text} {o : Outcome}
      {answers : List Outcome} :
      Reads typed (.instruct text.trim) → handle server state (.say text) = (o, state') →
      Visit server state' rest answers → Visit server state (typed :: rest) (o :: answers)

/-! ### Requests -/

theorem upper_post : Text.upper "POST".toList = "POST".toList := by decide

theorem call?_say (instruction : Text) :
    (Request.say instruction).call? = some (.instruct instruction) := by
  have reaches : (Request.post "/api/instruct".toList none).reaches? = some .instruct := by
    decide
  rw [Request.call?_of_reaches (r := .say instruction) reaches]
  rfl

section Server

variable {σ : Type} (server : Server σ)

theorem handle_post {address : Text} {body : Option Json} {call : Call}
    (made : (Request.post address body).call? = some call) (state : Session × σ) :
    handle server state (.post address body) =
      (.ok (server.answer call state).1, (server.answer call state).2) := by
  have kept : (server.answer call state).1.to "POST".toList = (server.answer call state).1 :=
    if_neg (by decide)
  rw [handle, serve_of_call made, Request.post, upper_post, kept]

/-- **An instruction** is carried out as it is at the console. -/
theorem handle_say (alone : server.studio.mode ≠ .remote) (s : Session) (g : σ) (text : Text) :
    handle server (s, g) (.say text) =
      (.ok (ok (sessionBody (Session.workAlone server.studio.catalog s text.trim).2)),
        (Session.workAlone server.studio.catalog s text.trim).1, g) := by
  rw [Request.say, handle_post server (call?_say text), Server.answer]
  dsimp only
  rw [Session.submit_eq_workAlone alone]

theorem handle_startOver (s : Session) (g : σ) :
    (handle server (s, g) .startOver).2 = (.fresh, g) := by
  have reaches : Request.startOver.reaches? = some .reset := by decide
  have made : Request.startOver.call? = some .reset := Request.call?_of_reaches reaches
  rw [Request.startOver, handle_post server made]
  rfl

/-- **A template** that is known is selected, and its description comes back. -/
theorem handle_pick {id : Text} (reaches : (Request.pick id).reaches? = some (.select id))
    {template : Template} (known : server.studio.catalog.templates.get? id = some template)
    (s : Session) (g : σ) : handle server (s, g) (.pick id) =
      (.ok (ok (templateBody id template)), ⟨none, some id⟩, g) := by
  have made : (Request.pick id).call? = some (.select id) := Request.call?_of_reaches reaches
  rw [Request.pick, handle_post server made, Server.answer]
  dsimp only
  rw [select, known, Session.select?_of_known known]

end Server

end Api

/-! ### One line -/

/-- The console and the API tell of the same document. -/
theorem Session.Response.told_of_made {r : Response} {d : Text} (made : r.made = [d]) :
    (Console.ofResponse r).document? = some d ∧
      Api.textOf? "document" (.ok (Api.ok (Api.sessionBody r))) = some d := by
  obtain ⟨document, route, templateId, request, applied, error⟩ := r
  cases error with
  | some e => cases made
  | none =>
      cases document with
      | none => cases made
      | some d' =>
          cases made
          exact ⟨rfl, rfl⟩

namespace Console

section Lines

variable {σ τ : Type} {studio : Studio σ} {server : Api.Server τ}

theorem documents_cons (o : Output) (said : List Output) :
    documents (o :: said) = o.document?.toList ++ documents said := by
  rw [documents, List.filterMap_cons]
  cases o.document? with
  | none => rfl
  | some d => rfl

/-- **One line** is said something about, and the conversation goes on. -/
theorem documents_converse {g g' : σ} {s s' : Session} {typed : Text} {said : List Output}
    (answered : answer studio g s typed = (said, some (s', g'))) (rest : List Text) :
    documents (converse studio g s (typed :: rest)).1 =
      documents said ++ documents (converse studio g' s' rest).1 := by
  rw [converse, answered]
  dsimp only
  rw [List.cons_append, documents_cons, documents, List.filterMap_append]
  rfl

/-- The last line ends the conversation. -/
theorem documents_converse_of_quit {g : σ} {s : Session} {typed : Text} (quit : Reads typed .quit)
    (rest : List Text) : documents (converse studio g s (typed :: rest)).1 = [] := by
  have answered : answer studio g s typed = ([], none) := by rw [answer, reads_iff.mp quit]
  rw [converse, answered]
  rfl

/-- Of the templates nothing is said that is a document. -/
theorem documents_templates (templates : Dict Text Template) :
    documents (templates.map fun e => .template e.1 e.2.label) = [] := by
  induction templates with
  | nil => rfl
  | cons e templates ih => exact ih

/-- **A line that nothing is sent for** leaves the session as it is, and no document is said. -/
theorem answer_of_unsent {typed : Text} (unsent : Api.Unsent studio.catalog typed) (g : σ)
    (s : Session) :
    ∃ said, answer studio g s typed = (said, some (s, g)) ∧ documents said = [] := by
  cases unsent with
  | nothing reads => exact ⟨[], by rw [answer, reads_iff.mp reads], rfl⟩
  | templates reads =>
      exact ⟨_, by rw [answer, reads_iff.mp reads], documents_templates studio.catalog.templates⟩
  | @unknown id reads unknown =>
      refine ⟨[.unknownTemplate id], ?_, rfl⟩
      have none : Session.select? studio.catalog id = none := by rw [Session.select?, unknown]; rfl
      rw [answer, reads_iff.mp reads]
      dsimp only
      rw [none]

theorem answer_of_reset {typed : Text} (reads : Reads typed .reset) (g : σ) (s : Session) :
    answer studio g s typed = ([.resetDone], some (.fresh, g)) := by
  rw [answer, reads_iff.mp reads]

variable (alone : studio.mode ≠ .remote)
include alone

theorem answer_of_instruct {typed instruction : Text} (reads : Reads typed (.instruct instruction))
    (g : σ) (s : Session) : answer studio g s typed =
      ([ofResponse (Session.workAlone studio.catalog s instruction.trim).2],
        some ((Session.workAlone studio.catalog s instruction.trim).1, g)) := by
  rw [answer, reads_iff.mp reads]
  dsimp only
  rw [Session.submit_eq_workAlone alone]

/-- A known template is selected and its description carried out at once. -/
theorem answer_of_select {typed id : Text} (reads : Reads typed (.select id)) {template : Template}
    (known : studio.catalog.templates.get? id = some template) (g : σ) (s : Session) :
    answer studio g s typed =
      ([.description template.description, ofResponse (Session.workAlone studio.catalog
          ⟨none, some id⟩ template.description.trim).2],
        some ((Session.workAlone studio.catalog ⟨none, some id⟩
          template.description.trim).1, g)) := by
  rw [answer, reads_iff.mp reads]
  dsimp only
  rw [Session.select?_of_known known]
  dsimp only
  rw [Session.submit_eq_workAlone alone]

end Lines

end Console

/-! ### Whole conversations -/

/-- A catalog whose templates can be picked over the API and whose descriptions can be sent. -/
structure Catalog.Pickable (catalog : Catalog) : Prop where
  reaches : ∀ e ∈ catalog.templates, (Api.Request.pick e.1).reaches? = some (.select e.1)
  written : ∀ e ∈ catalog.templates, e.2.description.trim ≠ []

theorem Catalog.pickable_builtin : builtin.Pickable := by
  constructor <;> decide +kernel

section Visits

variable {σ τ : Type} {studio : Studio σ} {server : Api.Server τ}
  (same : server.studio.catalog = studio.catalog) (pickable : studio.catalog.Pickable)
  (alone : studio.mode ≠ .remote) (alone' : server.studio.mode ≠ .remote)

/-- Requests can be sent for any lines that are typed. -/
theorem Api.exists_visit (pickable : server.studio.catalog.Pickable) (lines : List Text)
    (state : Session × τ) : ∃ answers, Visit server state lines answers := by
  induction lines generalizing state with
  | nil => exact ⟨[], .done⟩
  | cons typed rest ih =>
      have reads : Console.Reads typed (Console.Command.ofLine typed) := Console.reads_iff.mpr rfl
      cases command : Console.Command.ofLine typed with
      | nothing =>
          obtain ⟨answers, visit⟩ := ih state
          exact ⟨answers, .unsent (.nothing (command ▸ reads)) visit⟩
      -- Nothing is sent after the end, whatever is still typed.
      | quit => exact ⟨[], .quit (command ▸ reads)⟩
      | reset =>
          obtain ⟨answers, visit⟩ := ih (handle server state .startOver).2
          exact ⟨answers, .reset (command ▸ reads) rfl visit⟩
      | templates =>
          obtain ⟨answers, visit⟩ := ih state
          exact ⟨answers, .unsent (.templates (command ▸ reads)) visit⟩
      | select id =>
          cases known : server.studio.catalog.templates.get? id with
          | none =>
              obtain ⟨answers, visit⟩ := ih state
              exact ⟨answers, .unsent (.unknown (command ▸ reads) known) visit⟩
          | some template =>
              have reaches := pickable.reaches _ (Dict.mem_of_get? known)
              have picked := handle_pick server reaches known state.1 state.2
              obtain ⟨answers, visit⟩ := ih (handle server (⟨none, some id⟩, state.2)
                (.say template.description)).2
              have known' : server.studio.catalog.templates.get? id ≠ none := by
                rw [known]
                exact Option.some_ne_none template
              exact ⟨_, .select (command ▸ reads) known' picked rfl rfl visit⟩
      | instruct instruction =>
          rw [command] at reads
          obtain ⟨answers, visit⟩ := ih (handle server state (.say typed)).2
          cases reads with
          | instruct written other noSelect =>
              exact ⟨_, .instruct (.instruct written other noSelect) rfl visit⟩

include same pickable alone alone' in
/-- **Every visit** gets the documents back that the console says. -/
theorem Console.documents_of_visit {state : Session × τ} {lines : List Text}
    {answers : List Api.Outcome} (visit : Api.Visit server state lines answers) (g : σ) :
    answers.map (Api.textOf? "document") =
      (documents (converse studio g state.1 lines).1).map some := by
  induction visit with
  | done => rfl
  | quit reads =>
      rw [documents_converse_of_quit reads]
      rfl
  -- Neither side moves on a line that nothing is sent for.
  | unsent unsent _ ih =>
      obtain ⟨said, answered, none⟩ := answer_of_unsent (same ▸ unsent) g _
      rw [documents_converse answered, none, List.nil_append]
      exact ih
  | @reset state state' typed rest o answers reads handled _ ih =>
      have fresh := Api.handle_startOver server state.1 state.2
      obtain rfl : state' = (.fresh, state.2) := (congrArg Prod.snd handled).symm.trans fresh
      rw [documents_converse (answer_of_reset reads g state.1)]
      exact ih
  | @select state state' state'' typed id description rest o o' answers reads known picked described
      said _ ih =>
      obtain ⟨template, known⟩ := Option.ne_none_iff_exists'.mp known
      have known' : studio.catalog.templates.get? id = some template := same ▸ known
      have mem := Dict.mem_of_get? known'
      have picked' := Api.handle_pick server (pickable.reaches _ mem) known state.1 state.2
      cases picked.symm.trans picked'
      cases described
      have said' := Api.handle_say server alone' ⟨none, some id⟩ state.2 template.description
      rw [same] at said'
      cases said.symm.trans said'
      obtain ⟨d, ⟨-, made⟩, -⟩ := Session.exists_makes_of_workAlone studio.catalog
        ⟨none, some id⟩ (pickable.written _ mem)
      obtain ⟨printed, returned⟩ := Session.Response.told_of_made made
      rw [documents_converse (answer_of_select alone reads known' g state.1), documents_cons,
        documents_cons, printed, List.map_cons, returned, ih]
      rfl
  | @instruct state state' typed text rest o answers reads said _ ih =>
      have written := reads.ne_nil
      have said' := Api.handle_say server alone' state.1 state.2 text
      rw [same] at said'
      cases said.symm.trans said'
      obtain ⟨d, ⟨-, made⟩, -⟩ := Session.exists_makes_of_workAlone studio.catalog state.1 written
      obtain ⟨printed, returned⟩ := Session.Response.told_of_made made
      have answered := answer_of_instruct alone reads g state.1
      rw [(Text.trimmed_trim text).trim_eq] at answered
      rw [documents_converse answered, documents_cons, printed, List.map_cons, returned, ih]
      rfl

end Visits

/-- **The console and the API agree.** In a studio with the built-in catalog that no generator
writes for, the documents that the console says about its input are, one for one, those that come
back for the instructions when requests are sent to a fresh session instead. Requests can always be
sent, and the console ends well. -/
theorem console_agrees_with_api {σ τ : Type} (studio : Studio σ) (server : Api.Server τ)
    (catalog : studio.catalog = Catalog.builtin)
    (catalog' : server.studio.catalog = Catalog.builtin)
    (alone : studio.mode ≠ .remote) (alone' : server.studio.mode ≠ .remote) (g : σ) (g' : τ)
    (input : Text) :
    (Console.run studio g [] input).1.1 = 0 ∧
    (∃ answers, Api.Visit server (.fresh, g') input.lines answers) ∧
    ∀ answers, Api.Visit server (.fresh, g') input.lines answers →
      answers.map (Api.textOf? "document") =
        (Console.documents (Console.run studio g [] input).1.2).map some := by
  have pickable : ∀ {c : Catalog}, c = Catalog.builtin → c.Pickable := by
    rintro c rfl
    exact Catalog.pickable_builtin
  refine ⟨rfl, Api.exists_visit (pickable catalog') input.lines _, fun answers visit => ?_⟩
  exact Console.documents_of_visit (catalog'.trans catalog.symm) (pickable catalog) alone alone'
    visit g

/-- A template is picked and its document edited, and after a reset another one is picked. A template
that there is not, the list of them and a blank line are left out, and so is all after the end. -/
theorem three_documents_come_back :
    let studio : Studio Unit := ⟨Catalog.builtin, none, .local⟩
    let server : Api.Server Unit := ⟨studio, fun g _ _ => (.text none, g), none⟩
    let input : Text := Text.join ['\n'] ([" :select progress ", ":select attic",
      "rename it to \"A\"", ":templates", ":reset", "", ":select map", ":q",
      "notes tagged #a"].map String.toList)
    ∃ answers, Api.Visit server (.fresh, ()) input.lines answers ∧ answers.length = 3 ∧
      answers.map (Api.textOf? "document") =
        (Console.documents (Console.run studio () [] input).1.2).map some := by
  intro studio server input
  have alone : studio.mode ≠ .remote := by decide
  have three : (Console.documents (Console.run studio () [] input).1.2).length = 3 := by
    decide
  obtain ⟨-, ⟨answers, visit⟩, agree⟩ :=
    console_agrees_with_api studio server rfl rfl alone alone () () input
  have same := agree answers visit
  refine ⟨answers, visit, ?_, same⟩
  rw [← List.length_map (Api.textOf? "document"), same, List.length_map, three]

end Notebase
