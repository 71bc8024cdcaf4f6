import Notebase.Proofs.Session.Run

/-!
What a session keeps that no generator writes for. Whatever a person does, the document that the
session holds shows something, and it has the formulas and the shown names of the first document
that was made since the session started over (`held_document_shows_something`).
-/

namespace Notebase.Session

open Document

/-- What a session keeps between its document and those that it has made: without a document it has
made none, and any other document is sound and has the formulas and the properties of the first. -/
inductive Kept : Option Text → List Text → Prop where
  | unmade : Kept none []
  | held {d first : Text} {later : List Text} : Sound d →
      (outline d).formulas = (outline first).formulas →
      (outline d).properties = (outline first).properties → Kept (some d) (first :: later)

section Local

variable {σ : Type} {studio : Studio σ} (ready : ∀ d ∈ studio.catalog.documents, Sound d)
include ready

/-- What is made of a line keeps it. -/
theorem Kept.of_makes {instruction d : Text} {old : Option Text} {made : List Text}
    (oneLine : '\n' ∉ instruction) (makes : Makes studio.catalog instruction old d)
    (kept : Kept old made) : Kept (some d) (made ++ [d]) := by
  cases makes with
  | ready mem =>
      cases kept
      exact .held (ready d mem) rfl rfl
  | drafted =>
      cases kept
      exact .held (Draft.sound_ofText oneLine) rfl rfl
  | patched d =>
      cases kept with
      | held ok formulas properties =>
          obtain ⟨sound, formulas', properties'⟩ := Patch.sound_patch oneLine ok
          exact .held sound (formulas'.trans formulas) (properties'.trans properties)

variable (alone : studio.mode ≠ .remote)
include alone

/-- **An action keeps it.** -/
theorem Kept.step {h : History σ} {a : Action} (oneLine : ∀ i, a = .submit i → '\n' ∉ i)
    (kept : Kept h.session.document h.made) :
    Kept (h.step studio a).session.document (h.step studio a).made := by
  rcases step_cases alone h a with ⟨session, made⟩ | ⟨document, made⟩ |
    ⟨instruction, d, submitted, document, made, makes⟩
  · rw [session, made]
    exact kept
  · rw [document, made]
    exact .unmade
  · rw [document, made]
    exact kept.of_makes ready (Text.plain_trim (oneLine instruction submitted)) makes

/-- **A run keeps it.** -/
theorem Kept.run {actions : List Action} {h : History σ}
    (oneLine : ∀ i, .submit i ∈ actions → '\n' ∉ i) (kept : Kept h.session.document h.made) :
    Kept (h.run studio actions).session.document (h.run studio actions).made := by
  induction actions generalizing h with
  | nil => exact kept
  | cons a actions ih =>
      refine ih (fun i mem => oneLine i (List.mem_cons_of_mem _ mem)) (kept.step ready alone ?_)
      rintro i rfl
      exact oneLine i List.mem_cons_self

end Local

/-- **The document of a session shows something.** A session that works on its own with the built-in
catalog makes documents with filters, whose first view has a kind, a name and distinct columns; and
it keeps the formulas and the shown names of the first document since it started over. -/
theorem held_document_shows_something {σ : Type} (studio : Studio σ) (alone : studio.mode ≠ .remote)
    (catalog : studio.catalog = Catalog.builtin) (g : σ) (actions : List Action)
    (oneLine : ∀ i, .submit i ∈ actions → '\n' ∉ i) :
    ∀ d ∈ ((History.start g).run studio actions).session.document,
      (∃ kind ∈ ["table", "cards", "list", "map"].map String.toList, viewType? d = some kind) ∧
      (viewName? d).isSome = true ∧ filterEntries d ≠ [] ∧ (viewOrder d).Nodup ∧
      ∃ first, ((History.start g).run studio actions).made.head? = some first ∧
        formulaNames d = formulaNames first ∧ displayNames d = displayNames first := by
  have ready : ∀ d ∈ studio.catalog.documents, Sound d := by
    rw [catalog]
    exact Catalog.sound_builtin
  have kept : Kept ((History.start g).run studio actions).session.document
      ((History.start g).run studio actions).made := .run ready alone oneLine .unmade
  intro d held
  rw [Option.mem_def.mp held] at kept
  generalize ((History.start g).run studio actions).made = made at kept
  cases kept with
  | held ok formulas properties =>
      refine ⟨ok.kind, ok.name, ok.filterEntries_ne_nil, ok.distinct, _, rfl, ?_, ?_⟩
      · rw [formulaNames_eq, formulaNames_eq, formulas]
      · rw [displayNames_eq, displayNames_eq, properties]

/-- A session that makes a document, is asked for a template that there is not, and edits it. -/
theorem shelf_session_shows_something : ∃ h : History Unit,
    h = (History.start ()).run ⟨Catalog.builtin, none, .local⟩ [.submit "use #book".toList,
      .select "shelf".toList, .submit "rename it to \"Shelf\"".toList] ∧
    ∃ d, h.session.document = some d ∧
      (∃ kind ∈ ["table", "cards", "list", "map"].map String.toList, viewType? d = some kind) ∧
      (viewName? d).isSome = true ∧ filterEntries d ≠ [] ∧ (viewOrder d).Nodup ∧
      ∃ first, h.made.head? = some first ∧ formulaNames d = formulaNames first ∧
        displayNames d = displayNames first := by
  let studio : Studio Unit := ⟨Catalog.builtin, none, .local⟩
  let actions : List Action := [.submit "use #book".toList, .select "shelf".toList,
    .submit "rename it to \"Shelf\"".toList]
  have alone : studio.mode ≠ .remote := by decide
  have oneLine : ∀ i, .submit i ∈ actions → '\n' ∉ i := by
    intro i mem
    simp only [actions, List.mem_cons, Action.submit.injEq, reduceCtorEq, List.not_mem_nil,
      or_false, false_or] at mem
    rcases mem with rfl | rfl
    · decide
    · decide
  obtain ⟨d, held⟩ : ∃ d, ((History.start ()).run studio actions).session.document = some d :=
    exists_held alone _ (by decide)
  exact ⟨_, rfl, d, held, held_document_shows_something studio alone rfl () actions oneLine d held⟩

end Notebase.Session
