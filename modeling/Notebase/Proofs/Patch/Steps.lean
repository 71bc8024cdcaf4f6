import Notebase.Proofs.Patch.Act
import Notebase.Proofs.Request.Parts

/-!
The steps of a patch. They stand in a fixed order, each with what the request says about it
(`mem_steps`), and each is about an aspect of its own.
-/

namespace Notebase.Patch

open Document

theorem fst_applySteps (t : Text) (ss : List (Step × Edit)) :
    (applySteps t ss).1 = (ss.map Prod.snd).foldl Edit.apply t := by
  induction ss generalizing t with
  | nil => rfl
  | cons s ss ih => exact ih (s.2.apply t)

theorem filterMap_id_cons {α : Type} (o : Option α) (os : List (Option α)) :
    (o :: os).filterMap id = o.toList ++ os.filterMap id := by
  cases o <;> rfl

/-- A step of a patch, with what the request says about it. -/
theorem mem_steps {resolve : Text → Text} {instruction : Text} {r : Request} {step : Step}
    {e : Edit} (mem : (step, e) ∈ steps resolve instruction r) :
    match step with
    | .tag => ∃ tag, Text.given? r.tag = some tag ∧ e = .filter "hasTag".toList tag
    | .folder => ∃ folder, Text.given? r.folder = some folder ∧ e = .filter "inFolder".toList folder
    | .viewType => ∃ kind, Text.given? r.viewType = some kind ∧ e = .viewType kind
    | .add => asksToAdd instruction = true ∧
        e = .addColumns (((Request.addedOf instruction).getD []).map resolve)
    | .remove => asksToRemove instruction = true ∧
        e = .removeColumns (((Request.removedOf instruction).getD []).map resolve)
    | .sort => ∃ s, r.sorting = some s ∧ e = .sort s.property s.direction
    | .groupBy => ∃ property, Text.given? r.groupBy = some property ∧
        e = .groupBy property "ASC".toList
    | .rename => ∃ name, Text.given? r.renameTo = some name ∧ e = .rename name := by
  simp only [steps, filterMap_id_cons, List.mem_append, Option.mem_toList, Option.map_eq_some_iff,
    List.filterMap_nil, List.not_mem_nil, or_false] at mem
  rcases mem with ⟨tag, h, eq⟩ | ⟨folder, h, eq⟩ | ⟨kind, h, eq⟩ | h | h | ⟨s, h, eq⟩ |
    ⟨property, h, eq⟩ | ⟨name, h, eq⟩
  · cases eq
    exact ⟨tag, h, rfl⟩
  · cases eq
    exact ⟨folder, h, rfl⟩
  · cases eq
    exact ⟨kind, h, rfl⟩
  · split at h
    · next asks =>
        cases h
        exact ⟨asks, rfl⟩
    · cases h
  · split at h
    · next asks =>
        cases h
        exact ⟨asks, rfl⟩
    · cases h
  · cases eq
    exact ⟨s, h, rfl⟩
  · cases eq
    exact ⟨property, h, rfl⟩
  · cases eq
    exact ⟨name, h, rfl⟩

/-- The steps of a patch have plain edits. -/
theorem plain_steps (document instruction : Text) {r : Request} (plain : r.Plain) :
    ∀ e ∈ (steps (resolver document) instruction r).map Prod.snd, e.Plain := by
  have refs : ∀ names : Option (List Text),
      Text.Plain ((names.getD []).map (resolver document)) := by
    intro names r hr
    obtain ⟨name, -, rfl⟩ := List.mem_map.mp hr
    exact (tidy_resolver document name).plain
  intro e he
  obtain ⟨⟨step, e⟩, mem, rfl⟩ := List.mem_map.mp he
  have said := mem_steps mem
  cases step with
  | tag =>
      obtain ⟨tag, h, rfl⟩ := said
      exact ⟨by simpa [Text.Plain, Edit.arguments] using plain.tag tag (given?_eq_some h),
        show "hasTag".toList.all isWordChar = true by decide⟩
  | folder =>
      obtain ⟨folder, h, rfl⟩ := said
      exact ⟨by simpa [Text.Plain, Edit.arguments] using plain.folder folder (given?_eq_some h),
        show "inFolder".toList.all isWordChar = true by decide⟩
  | viewType =>
      obtain ⟨kind, h, rfl⟩ := said
      exact ⟨by simpa [Text.Plain, Edit.arguments] using plain.viewType kind (given?_eq_some h), rfl⟩
  | add =>
      obtain ⟨-, rfl⟩ := said
      exact ⟨refs _, rfl⟩
  | remove =>
      obtain ⟨-, rfl⟩ := said
      exact ⟨refs _, rfl⟩
  | sort =>
      obtain ⟨s, h, rfl⟩ := said
      exact ⟨by simpa [Text.Plain, Edit.arguments] using plain.sorting s h, rfl⟩
  | groupBy =>
      obtain ⟨property, h, rfl⟩ := said
      exact ⟨by simpa [Text.Plain, Edit.arguments] using plain.groupBy property (given?_eq_some h),
        rfl⟩
  | rename =>
      obtain ⟨name, h, rfl⟩ := said
      exact ⟨by simpa [Text.Plain, Edit.arguments] using plain.renameTo name (given?_eq_some h), rfl⟩

def Step.all : List Step := [.tag, .folder, .viewType, .add, .remove, .sort, .groupBy, .rename]

/-- What optional steps are about comes in the order of the steps. -/
theorem map_filterMap_id_sublist {α β : Type} {f : α → β} {os : List (Option α)} {bs : List β}
    (h : List.Forall₂ (fun o b => ∀ a ∈ o, f a = b) os bs) :
    ((os.filterMap id).map f).Sublist bs := by
  induction h with
  | nil => exact .slnil
  | @cons o b os bs agree _ ih =>
      cases o with
      | none => exact ih.cons b
      | some a =>
          rw [← agree a rfl]
          exact ih.cons_cons (f a)

/-- The steps of a patch stand in their order. -/
theorem steps_sublist (resolve : Text → Text) (instruction : Text) (r : Request) :
    ((steps resolve instruction r).map Prod.fst).Sublist Step.all := by
  have named : ∀ {α : Type} (s : Step) (f : α → Edit) (o : Option α),
      ∀ p ∈ o.map (fun a => (s, f a)), p.1 = s := by
    intro α s f o p hp
    rw [Option.mem_def, Option.map_eq_some_iff] at hp
    obtain ⟨a, -, rfl⟩ := hp
    rfl
  have asked : ∀ (asks : Bool) (s : Step) (e : Edit),
      ∀ p ∈ if asks then some (s, e) else none, p.1 = s := by
    intro asks s e p hp
    cases asks with
    | true =>
        cases hp
        rfl
    | false => cases hp
  exact map_filterMap_id_sublist <| .cons (named _ _ _) <| .cons (named _ _ _) <|
    .cons (named _ _ _) <| .cons (asked _ _ _) <| .cons (asked _ _ _) <| .cons (named _ _ _) <|
    .cons (named _ _ _) <| .cons (named _ _ _) .nil

def Step.aspect : Step → Option ViewKey
  | .tag => none
  | .folder => none
  | .viewType => some .type
  | .add => some .order
  | .remove => some .order
  | .sort => some .sort
  | .groupBy => some .groupBy
  | .rename => some .name

/-- Every step carries out an edit of its own aspect. -/
theorem aspect_of_mem_steps {resolve : Text → Text} {instruction : Text} {r : Request} {step : Step}
    {e : Edit} (mem : (step, e) ∈ steps resolve instruction r) : e.aspect = step.aspect := by
  have said := mem_steps mem
  cases step with
  | add => rw [said.2]; rfl
  | remove => rw [said.2]; rfl
  | _ =>
      obtain ⟨_, -, rfl⟩ := said
      rfl

end Notebase.Patch
