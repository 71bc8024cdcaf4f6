import Notebase.Api.Basic

/-!
The framework that is run. It keeps to what is relied on (`framework_faithful`): a request that makes
no call is turned down in one way, whatever the handlers and their state are, and any other one is
answered by the handler that it calls (`serve_of_call`).
-/

namespace Notebase.Api

variable {τ : Type} {r : Request}

theorem Request.call?_of_reaches {e : Endpoint} (reaches : r.reaches? = some e) :
    r.call? = e.call? r.body := by
  rw [call?, reaches, Option.bind_some]

/-- **A request that makes a call** is answered by its handler. -/
theorem serve_of_call {call : Call} (made : r.call? = some call)
    (handlers : Call → τ → Response × τ) (state : τ) :
    serve handlers r state =
      (.ok ((handlers call state).1.to (Text.upper r.method)), (handlers call state).2) := by
  obtain ⟨e, reaches, made⟩ := Option.bind_eq_some_iff.mp made
  rw [Request.reaches?] at reaches
  split at reaches
  · cases reaches
  · next path sent =>
      split at reaches
      · next e' found =>
          split at reaches
          · next method =>
              cases reaches
              rw [serve, sent]
              dsimp only
              rw [respond, found]
              dsimp only
              rw [if_pos method, made]
          · cases reaches
      · cases reaches

/-- **A request that makes no call** has one outcome in every state, and changes none. -/
theorem serve_of_turnedDown (made : r.call? = none) :
    ∃ outcome, ∀ (handlers : Call → τ → Response × τ) (state : τ),
      serve handlers r state = (outcome, state) := by
  cases sent : Address.path? r.address with
  | error e => exact ⟨.error e, fun handlers state => by rw [serve, sent]⟩
  | ok path =>
      have here : ∀ response : Response,
          (∀ (handlers : Call → τ → Response × τ) (state : τ),
            respond handlers (Text.upper r.method) path r.body state = (response, state)) →
          ∃ outcome, ∀ (handlers : Call → τ → Response × τ) (state : τ),
            serve handlers r state = (outcome, state) := by
        intro response responded
        refine ⟨.ok (response.to (Text.upper r.method)), fun handlers state => ?_⟩
        rw [serve, sent]
        dsimp only
        rw [responded handlers state]
      cases found : Destination.find path with
      | nowhere => exact here _ fun handlers state => by rw [respond, found]
      | withoutSlash => exact here _ fun handlers state => by rw [respond, found]
      | page => exact here _ fun handlers state => by rw [respond, found]
      | endpoint e =>
          -- A request with the right method for its path makes no call only if its body is invalid.
          by_cases method : e.method = Text.upper r.method
          · have reaches : r.reaches? = some e := by
              rw [Request.reaches?, sent]
              dsimp only
              rw [found]
              dsimp only
              rw [if_pos method]
            rw [Request.call?_of_reaches reaches] at made
            refine here invalid fun handlers state => ?_
            rw [respond, found]
            dsimp only
            rw [if_pos method, made]
          · refine here wrongMethod fun handlers state => ?_
            rw [respond, found]
            dsimp only
            rw [if_neg method]

theorem framework_faithful : (framework : Framework Request Outcome τ).Faithful where
  turnedDown _ made := serve_of_turnedDown made
  called r _ made := ⟨fun response => .ok (response.to (Text.upper r.method)), serve_of_call made⟩

end Notebase.Api
