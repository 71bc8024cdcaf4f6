import Notebase.Proofs.Session.Origin

/-!
Runs of a session. A session that no generator writes for makes a document out of every instruction
that is not blank, and there are only three ways to make one (`exists_makes_of_workAlone`).
-/

namespace Notebase

namespace Session

inductive Action where
  | submit (instruction : Text)
  | select (id : Text)
  | reset
deriving DecidableEq, Repr

/-- The document that an answer is about, if the instruction made it. -/
def Response.made (r : Response) : List Text := if r.error.isNone then r.document.toList else []

/-- How far a session has come: its state, the state of the generator, and the documents that it
has made since it started over last, in their order. -/
structure History (σ : Type) where
  session : Session
  generator : σ
  made : List Text

namespace History

variable {σ : Type} (studio : Studio σ)

def start (g : σ) : History σ := ⟨fresh, g, []⟩

/-- The history after one more action. The selection of an unknown template is none. -/
def step (h : History σ) : Action → History σ
  | .submit instruction =>
      let answer := submit studio h.generator h.session instruction
      ⟨answer.1.1, answer.2, h.made ++ answer.1.2.made⟩
  | .select id =>
      match select? studio.catalog id with
      | none => h
      | some (s, _) => ⟨s, h.generator, []⟩
  | .reset => start h.generator

/-- The history after some actions, one after another. -/
def run (h : History σ) (actions : List Action) : History σ := actions.foldl (step studio) h

end History

/-! ### What an instruction makes -/

/-- What a session without a generator can make of an instruction: a document of the catalog, or
one that is new, where it holds none, and a patched one where it holds one. -/
inductive Makes (catalog : Catalog) (instruction : Text) : Option Text → Text → Prop where
  | ready {d : Text} : d ∈ catalog.documents → Makes catalog instruction none d
  | drafted : Makes catalog instruction none (Draft.ofText instruction)
  | patched (d : Text) : Makes catalog instruction (some d) (Patch.patch d instruction).1

/-- A template is hit only by a fresh session, and its document is in the catalog. -/
theorem mem_documents_of_templateHit? {catalog : Catalog} {s : Session} {instruction id d : Text}
    (hit : templateHit? catalog s instruction = some (id, d)) :
    s.document = none ∧ d ∈ catalog.documents := by
  rw [templateHit?] at hit
  split at hit
  · cases hit
  · next none =>
      obtain ⟨id', -, picked⟩ := Option.bind_eq_some_iff.mp hit
      obtain ⟨template, found, pair⟩ := Option.map_eq_some_iff.mp picked
      obtain ⟨-, rfl⟩ := Prod.mk.inj pair
      exact ⟨none, Catalog.mem_documents_of_template found⟩

theorem mem_documents_of_keywordHit? {catalog : Catalog} {instruction id d : Text}
    (hit : keywordHit? catalog instruction = some (id, d)) : d ∈ catalog.documents := by
  obtain ⟨id', -, picked⟩ := Option.bind_eq_some_iff.mp hit
  obtain ⟨d', found, pair⟩ := Option.map_eq_some_iff.mp picked
  obtain ⟨-, rfl⟩ := Prod.mk.inj pair
  exact Catalog.mem_documents_of_document? found

/-- The state after `d` has been made, and an answer that tells of it. -/
def IsCommit (d : Text) (result : Session × Response) : Prop :=
  result.1 = ⟨some d, none⟩ ∧ result.2.made = [d]

theorem isCommit_commit (d : Text) {response : Response} (none : response.error = none) :
    IsCommit d (commit d response) := by
  refine ⟨rfl, ?_⟩
  rw [commit, Response.made, none]
  rfl

/-- **An instruction that is not blank makes a document.** -/
theorem exists_makes_of_workAlone (catalog : Catalog) (s : Session) {instruction : Text}
    (ne : instruction ≠ []) : ∃ d, IsCommit d (workAlone catalog s instruction) ∧
      Makes catalog instruction s.document d := by
  obtain ⟨c, t, rfl⟩ := List.exists_cons_of_ne_nil ne
  rw [workAlone]
  cases hit : templateHit? catalog s (c :: t) with
  | some pair =>
      obtain ⟨none, mem⟩ := mem_documents_of_templateHit? hit
      rw [none]
      exact ⟨pair.2, isCommit_commit _ rfl, .ready mem⟩
  | none =>
      dsimp only
      rw [workLocally]
      cases held : s.document with
      | some d => exact ⟨_, isCommit_commit _ rfl, .patched d⟩
      | none =>
          cases hit : keywordHit? catalog (c :: t) with
          | some pair =>
              exact ⟨pair.2, isCommit_commit _ rfl, .ready (mem_documents_of_keywordHit? hit)⟩
          | none => exact ⟨_, isCommit_commit _ rfl, .drafted⟩

section Submit

variable {σ : Type} {studio : Studio σ} (alone : studio.mode ≠ .remote)
include alone

theorem submit_eq_workAlone (g : σ) (s : Session) (instruction : Text) :
    submit studio g s instruction = (workAlone studio.catalog s instruction.trim, g) := by
  have none : consulted? studio s instruction.trim = none := by
    rw [consulted?, if_neg alone, ite_self]
  rw [submit, none]

/-- An instruction that is not blank leaves a document. -/
theorem exists_held (h : History σ) {instruction : Text} (ne : instruction.trim ≠ []) :
    ∃ d, (h.step studio (.submit instruction)).session.document = some d := by
  obtain ⟨d, ⟨session, -⟩, -⟩ := exists_makes_of_workAlone studio.catalog h.session ne
  rw [History.step, submit_eq_workAlone alone]
  exact ⟨d, congrArg document session⟩

/-- **One action** leaves the state as it is, starts over, or makes a document. -/
theorem step_cases (h : History σ) (a : Action) :
    ((h.step studio a).session = h.session ∧ (h.step studio a).made = h.made) ∨
      ((h.step studio a).session.document = none ∧ (h.step studio a).made = []) ∨
      ∃ instruction d, a = .submit instruction ∧ (h.step studio a).session.document = some d ∧
        (h.step studio a).made = h.made ++ [d] ∧
          Makes studio.catalog instruction.trim h.session.document d := by
  cases a with
  | submit instruction =>
      rw [History.step, submit_eq_workAlone alone]
      by_cases blank : instruction.trim = []
      · rw [blank]
        exact .inl ⟨rfl, List.append_nil _⟩
      · obtain ⟨d, ⟨session, made⟩, makes⟩ :=
          exists_makes_of_workAlone studio.catalog h.session blank
        refine .inr (.inr ⟨instruction, d, rfl, ?_, ?_, makes⟩)
        · exact congrArg document session
        · exact congrArg (h.made ++ ·) made
  | select id =>
      rw [History.step]
      cases found : select? studio.catalog id with
      | none => exact .inl ⟨rfl, rfl⟩
      | some pair =>
          obtain ⟨template, -, rfl⟩ := Option.map_eq_some_iff.mp found
          exact .inr (.inl ⟨rfl, rfl⟩)
  | reset => exact .inr (.inl ⟨rfl, rfl⟩)

end Submit

end Session

end Notebase
