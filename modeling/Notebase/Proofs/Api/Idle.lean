import Notebase.Proofs.Api.Framework
import Notebase.Proofs.Session.Consult

/-!
Requests that leave the session of a server alone. Most requests of the API do not touch it: those
that are turned down before any handler is reached, those for the handlers without a state, and those
that the handlers of the session turn down themselves. Whichever framework tells these requests apart,
they can be left out of any sequence of requests, and all the others but those for the generation
endpoint are answered as before (`idle_requests_leave_no_trace`).
-/

namespace Notebase.Api

open Session (submit)

/-! ### One call -/

/-- A call that leaves the session as it is. -/
inductive Call.Idle (catalog : Catalog) : Call → Prop where
  | generate (input : GenerateInput) : Idle catalog (.generate input)
  | build (form : Form) : Idle catalog (.build form)
  | templates : Idle catalog .templates
  | health : Idle catalog .health
  /-- The instruction is blank. -/
  | blank {t : Text} : t.trim = [] → Idle catalog (.instruct t)
  /-- There is no template with the id. -/
  | unknown {id : Text} : catalog.templates.get? id = none → Idle catalog (.select id)

def Call.isGenerate : Call → Bool
  | .generate _ => true
  | _ => false

section Calls

variable {σ : Type} (server : Server σ)

theorem select_unknown {catalog : Catalog} {id : Text} (unknown : catalog.templates.get? id = none)
    (s : Session) : (select catalog s id).2 = s := by
  rw [select, unknown]

theorem submit_blank (studio : Studio σ) (g : σ) (s : Session) {t : Text} (blank : t.trim = []) :
    (submit studio g s t).1.1 = s := by
  rw [Session.submit_of_not_consults fun consults => consults.1 blank, blank]
  rfl

/-- **An idle call** leaves the session as it is. -/
theorem answer_of_idle {call : Call} (idle : call.Idle server.studio.catalog) (s : Session) (g : σ) :
    (server.answer call (s, g)).2.1 = s := by
  cases idle with
  | generate input => rfl
  | build form => rfl
  | templates => rfl
  | health => rfl
  | blank blank => exact submit_blank server.studio g s blank
  | unknown unknown => exact select_unknown unknown s

/-- **A generator that is not consulted** has no part in what becomes of the session, nor in the
response to any call but one of the generation endpoint. -/
theorem answer_generators (alone : server.studio.mode ≠ .remote) (call : Call) (s : Session)
    (g g' : σ) :
    (server.answer call (s, g)).2.1 = (server.answer call (s, g')).2.1 ∧
      (call.isGenerate = false → (server.answer call (s, g)).1 = (server.answer call (s, g')).1) := by
  cases call with
  | generate input => exact ⟨rfl, fun other => Bool.noConfusion other⟩
  | instruct t =>
      have submit_eq : ∀ g : σ, submit server.studio g s t =
          (Session.workAlone server.studio.catalog s t.trim, g) := fun g =>
        Session.submit_of_not_consults (fun consults => alone consults.2.1) g
      rw [Server.answer, Server.answer]
      dsimp only
      rw [submit_eq, submit_eq]
      exact ⟨rfl, fun _ => rfl⟩
  | build | reset | templates | select | health => exact ⟨rfl, fun _ => rfl⟩

end Calls

/-! ### One request -/

namespace Framework

variable {ρ ω σ : Type} (framework : Framework ρ ω (Session × σ))

/-- A request that leaves the session as it is: if it makes a call at all, the call is idle. -/
def Idle (catalog : Catalog) (r : ρ) : Prop :=
  ∀ call, framework.call? r = some call → call.Idle catalog

def generates (r : ρ) : Bool := (framework.call? r).any Call.isGenerate

section Requests

variable {framework} (faithful : framework.Faithful) (server : Server σ) {r : ρ}
include faithful

/-- An idle request leaves the session as it is behind any faithful framework. -/
theorem serve_of_idle (idle : framework.Idle server.studio.catalog r) (s : Session) (g : σ) :
    (framework.serve server.answer r (s, g)).2.1 = s := by
  cases made : framework.call? r with
  | none =>
      obtain ⟨outcome, served⟩ := faithful.turnedDown r made
      rw [served]
  | some call =>
      obtain ⟨send, served⟩ := faithful.called r call made
      rw [served]
      exact answer_of_idle server (idle call made) s g

/-- Only a request for the generation endpoint can tell what the generators have come to. -/
theorem serve_generators (alone : server.studio.mode ≠ .remote) (r : ρ) (s : Session) (g g' : σ) :
    (framework.serve server.answer r (s, g)).2.1 = (framework.serve server.answer r (s, g')).2.1 ∧
      (framework.generates r = false →
        (framework.serve server.answer r (s, g)).1 =
          (framework.serve server.answer r (s, g')).1) := by
  cases made : framework.call? r with
  | none =>
      obtain ⟨outcome, served⟩ := faithful.turnedDown r made
      rw [served, served]
      exact ⟨rfl, fun _ => rfl⟩
  | some call =>
      obtain ⟨send, served⟩ := faithful.called r call made
      obtain ⟨session, response⟩ := answer_generators server alone call s g g'
      rw [served, served, generates, made, Option.any_some]
      exact ⟨session, fun other => congrArg send (response other)⟩

end Requests

end Framework

/-! ### Sequences of requests -/

/-- A sequence of requests, each marked with whether it stays. -/
abbrev Plan (ρ : Type) := List (ρ × Bool)

namespace Plan

variable {ρ ω τ : Type}

def all (plan : Plan ρ) : List ρ := plan.map Prod.fst

/-- The plan with no requests but those that stay. -/
def thinned (plan : Plan ρ) : Plan ρ := plan.filter Prod.snd

/-- What becomes of the requests that stay when all requests of a plan are sent. -/
def outcomes (plan : Plan ρ) (framework : Framework ρ ω τ)
    (handlers : Call → τ → Response × τ) (state : τ) : List (ρ × ω) :=
  ((plan.zip (framework.serveAll handlers state plan.all).1).filter fun x => x.1.2).map
    fun x => (x.1.1, x.2)

/-- The first request of a plan is served first, and the others from where it leaves the state. -/
theorem outcomes_cons (framework : Framework ρ ω τ) (handlers : Call → τ → Response × τ) (r : ρ)
    (stays : Bool) (plan : Plan ρ) (state : τ) :
    outcomes ((r, stays) :: plan) framework handlers state =
      (if stays then [(r, (framework.serve handlers r state).1)] else []) ++
        plan.outcomes framework handlers (framework.serve handlers r state).2 := by
  rw [outcomes, all, List.map_cons, Framework.serveAll]
  dsimp only
  rw [List.zip_cons_cons]
  cases stays with
  | false => rfl
  | true => rfl

end Plan

section Runs

variable {ρ ω σ : Type} {framework : Framework ρ ω (Session × σ)}
  (faithful : framework.Faithful) (server : Server σ)
include faithful

/-- **A run without the idle requests.** From the same session, and whatever the generators have come
to, the requests that stay have the same outcomes whether the others are sent or not. -/
theorem outcomes_thinned (alone : server.studio.mode ≠ .remote) {plan : Plan ρ}
    (idle : ∀ x ∈ plan, x.2 = false → framework.Idle server.studio.catalog x.1) (s : Session)
    (g g' : σ) :
    (plan.outcomes framework server.answer (s, g)).filter (fun x => !framework.generates x.1) =
      (plan.thinned.outcomes framework server.answer (s, g')).filter
        fun x => !framework.generates x.1 := by
  induction plan generalizing s g g' with
  | nil => rfl
  | cons x plan ih =>
      obtain ⟨r, stays⟩ := x
      have rest := ih fun x hx => idle x (List.mem_cons_of_mem _ hx)
      cases stays with
      | false =>
          -- The session is as before, and only the generator may have gone on.
          have same := Framework.serve_of_idle faithful server (idle _ List.mem_cons_self rfl) s g
          have thinned : Plan.thinned ((r, false) :: plan) = Plan.thinned plan := rfl
          rw [Plan.outcomes_cons, thinned]
          generalize framework.serve server.answer r (s, g) = result at same
          obtain ⟨outcome, s', g''⟩ := result
          cases same
          exact rest _ g'' g'
      | true =>
          obtain ⟨session, outcome⟩ := Framework.serve_generators faithful server alone r s g g'
          have thinned : Plan.thinned ((r, true) :: plan) = (r, true) :: Plan.thinned plan := rfl
          rw [Plan.outcomes_cons, thinned, Plan.outcomes_cons, List.filter_append,
            List.filter_append]
          refine congrArg₂ (· ++ ·) ?_ ?_
          · cases writes : framework.generates r with
            | true => simp [writes]
            | false => rw [outcome writes]
          · generalize framework.serve server.answer r (s, g) = result at session
            generalize framework.serve server.answer r (s, g') = result' at session
            obtain ⟨o, s₁, g₁⟩ := result
            obtain ⟨o', s₂, g₂⟩ := result'
            cases session
            exact rest _ g₁ g₂

end Runs

/-- **Idle requests leave no trace.** Behind any faithful framework, where the session works on its
own, requests that leave it as it is can be left out of any sequence of requests: of those that stay,
all but the ones for the generation endpoint have the same outcomes as before. -/
theorem idle_requests_leave_no_trace {ρ ω σ : Type} (framework : Framework ρ ω (Session × σ))
    (faithful : framework.Faithful) (server : Server σ) (state : Session × σ) (plan : Plan ρ)
    (alone : server.studio.mode = .local)
    (idle : ∀ x ∈ plan, x.2 = false → framework.Idle server.studio.catalog x.1) :
    (plan.outcomes framework server.answer state).filter (fun x => !framework.generates x.1) =
      (plan.thinned.outcomes framework server.answer state).filter
        fun x => !framework.generates x.1 := by
  have apart : Mode.local ≠ .remote := by decide
  exact outcomes_thinned faithful server (alone ▸ apart) idle state.1 state.2 state.2

/-- A session makes a document, and starts over with a template. In between a document is built, a
template is asked for that there is not, a method is wrong, and instructions are blank or missing. -/
theorem shelf_session_without_idle_requests :
    let catalog : Catalog :=
      ⟨[("shelf".toList, ⟨"Shelf".toList, "Make a shelf".toList, "views:".toList⟩)], [], []⟩
    let server : Server Unit := ⟨⟨catalog, none, .local⟩, fun g _ _ => (.text none, g), none⟩
    let post : String → Json → Request := fun path body =>
      ⟨"POST".toList, path.toList, some body⟩
    let say : String → Request := fun t => post "/api/instruct" (object [("instruction", word t)])
    let plan : Plan Request := [
      (say "notes tagged #a", true), (post "/api/build" (object []), false),
      (post "/api/templates/attic/select" .null, false),
      (⟨"GET".toList, "/api/reset".toList, none⟩, false), (say "rename it to \"A\"", true),
      (say " ", false), (post "/api/instruct" (object []), false),
      (post "/api/generate" (object [("instruction", word "draw")]), false),
      (post "/api/templates/shelf/select" .null, true), (say "Make a shelf", true),
      (post "/api/reset" .null, true)]
    let http : Framework Request Outcome (Session × Unit) := framework
    (plan.outcomes http server.answer (.fresh, ())).filter (fun x => !http.generates x.1) =
      (plan.thinned.outcomes http server.answer (.fresh, ())).filter
        fun x => !http.generates x.1 := by
  intro catalog server post say plan http
  refine idle_requests_leave_no_trace http framework_faithful server (.fresh, ()) plan rfl
    fun x hx left => ?_
  have idle : x ∈ plan.filter fun x => !x.2 := List.mem_filter.mpr ⟨hx, by simp [left]⟩
  have parts : (plan.filter fun x => !x.2) = [
      (post "/api/build" (object []), false), (post "/api/templates/attic/select" .null, false),
      (⟨"GET".toList, "/api/reset".toList, none⟩, false), (say " ", false),
      (post "/api/instruct" (object []), false),
      (post "/api/generate" (object [("instruction", word "draw")]), false)] := rfl
  -- What a request calls is told by the endpoint that it reaches and by its body.
  have calls : ∀ {r : Request} (e : Endpoint), r.reaches? = some e →
      (∀ call, e.call? r.body = some call → call.Idle catalog) →
      http.Idle catalog r := by
    intro r e reaches idle call made
    exact idle call ((Request.call?_of_reaches reaches).symm.trans made)
  rw [parts] at idle
  simp only [List.mem_cons, List.not_mem_nil, or_false] at idle
  rcases idle with rfl | rfl | rfl | rfl | rfl | rfl
  · refine calls .build (by decide) fun call made => ?_
    rw [Endpoint.call?] at made
    obtain ⟨form, -, rfl⟩ := Option.map_eq_some_iff.mp made
    exact .build form
  · refine calls (.select "attic".toList) (by decide) fun call made => ?_
    cases made
    exact .unknown rfl
  · intro call made
    have astray : Request.reaches? ⟨"GET".toList, "/api/reset".toList, none⟩ = none := by decide
    have none : Request.call? ⟨"GET".toList, "/api/reset".toList, none⟩ = none := by
      rw [Request.call?, astray, Option.bind_none]
    cases none.symm.trans made
  · refine calls .instruct (by decide) fun call made => ?_
    cases made
    exact .blank (by decide)
  · refine calls .instruct (by decide) fun call made => ?_
    cases made
  · refine calls .generate (by decide) fun call made => ?_
    rw [Endpoint.call?] at made
    obtain ⟨input, -, rfl⟩ := Option.map_eq_some_iff.mp made
    exact .generate input

end Notebase.Api
