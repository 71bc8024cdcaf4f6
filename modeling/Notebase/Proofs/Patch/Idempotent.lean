import Notebase.Proofs.Patch.Settle
import Notebase.Proofs.Patch.Steps

/-!
A patch that is made again. The steps of the second patch are those of the first, because no edit
changes what names stand for, and all of them have been made (`patch_idempotent`).
-/

namespace Notebase

open Document

/-! ### Steps that have been made -/

theorem Request.simple_of_isPathChar {value : Text} (h : ∀ c ∈ value, Request.Phrase.isPathChar c = true) :
    Simple value := by
  intro c hc mark
  have marks : ∀ c ∈ "\\\"'()\n".toList, Request.Phrase.isPathChar c = false := by decide
  have notPathChar := marks c mark
  rw [h c hc] at notPathChar
  cases notPathChar

namespace Patch

/-- Steps that change nothing are not reported. -/
theorem applySteps_eq_self {t : Text} {ss : List (Step × Edit)}
    (same : ∀ s ∈ ss, s.2.apply t = t) : applySteps t ss = (t, []) := by
  induction ss with
  | nil => rfl
  | cons s ss ih =>
      have first := same s List.mem_cons_self
      rw [applySteps, first, ih fun s' hs => same s' (List.mem_cons_of_mem _ hs)]
      dsimp only
      rw [if_pos rfl]

section Steps

variable {document instruction : Text} {r : Request}

/-- The edits of usable values settle what they are about. -/
theorem steady_steps (kind : ∀ kind ∈ r.viewType, Flush kind) (tag : ∀ tag ∈ r.tag, Simple tag)
    (folder : ∀ folder ∈ r.folder, '(' ∉ folder ∧ ')' ∉ folder) :
    ∀ e ∈ (steps (resolver document) instruction r).map Prod.snd, e.Steady := by
  have refs : ∀ names : Option (List Text),
      ∀ ref ∈ (names.getD []).map (resolver document), Tidy ref := by
    intro names ref hr
    obtain ⟨name, -, rfl⟩ := List.mem_map.mp hr
    exact tidy_resolver document name
  intro e he
  obtain ⟨⟨step, e⟩, mem, rfl⟩ := List.mem_map.mp he
  have said := mem_steps mem
  cases step with
  | tag =>
      obtain ⟨value, h, rfl⟩ := said
      have simple := tag value (given?_eq_some h)
      exact ⟨simple.not_mem (by decide), simple.not_mem (by decide)⟩
  | folder =>
      obtain ⟨value, h, rfl⟩ := said
      exact folder value (given?_eq_some h)
  | viewType =>
      obtain ⟨value, h, rfl⟩ := said
      exact kind value (given?_eq_some h)
  | add =>
      obtain ⟨-, rfl⟩ := said
      exact refs _
  | remove =>
      obtain ⟨-, rfl⟩ := said
      exact refs _
  | sort =>
      obtain ⟨s, -, rfl⟩ := said
      trivial
  | groupBy =>
      obtain ⟨property, -, rfl⟩ := said
      trivial
  | rename =>
      obtain ⟨name, -, rfl⟩ := said
      trivial

/-- The steps of a patch leave each other's effect alone. -/
theorem apart_steps (resolve : Text → Text) (tag : ∀ tag ∈ r.tag, Simple tag) :
    ((steps resolve instruction r).map Prod.snd).Pairwise Edit.Apart := by
  have order : Step.all.Pairwise fun s s' => s.aspect ≠ s'.aspect ∨
      (s = .tag ∧ s' = .folder ∨ s = .add ∧ s' = .remove) := by decide
  have steps_ := order.sublist (steps_sublist resolve instruction r)
  rw [List.pairwise_map] at steps_ ⊢
  refine steps_.imp_of_mem ?_
  rintro ⟨s, e⟩ ⟨s', e'⟩ mem mem' h
  rcases h with ne | ⟨rfl, rfl⟩ | ⟨rfl, rfl⟩
  · left
    rwa [aspect_of_mem_steps mem, aspect_of_mem_steps mem']
  · obtain ⟨value, h, rfl⟩ := mem_steps mem
    obtain ⟨value', -, rfl⟩ := mem_steps mem'
    exact .inr ⟨_, value, _, value', rfl, rfl, by decide, tag value (given?_eq_some h)⟩
  · obtain ⟨adds, -⟩ := mem_steps mem
    obtain ⟨removes, -⟩ := mem_steps mem'
    rw [asksToAdd, removes] at adds
    simp at adds

end Steps

end Patch

/-! ### Patches that are made again -/

/-- **A patch that is made again changes nothing.** -/
theorem patch_idempotent {document instruction : Text} (distinct : (viewOrder document).Nodup)
    (noSort : opensWith "sort".toList document = false)
    (noGroup : opensWith "groupBy".toList document = false) (plain : '\n' ∉ instruction)
    (folder : ∀ folder ∈ Request.folderOf instruction, '(' ∉ folder ∧ ')' ∉ folder) :
    Patch.patch (Patch.patch document instruction).1 instruction =
      ((Patch.patch document instruction).1, []) := by
  have bare := bare_of_not_opensWith noSort noGroup
  have plainRequest := Request.plain_ofText document plain
  have plains := Patch.plain_steps document instruction plainRequest
  have simple : ∀ tag ∈ Request.tagOf instruction, Simple tag := fun tag h =>
    Request.simple_of_isPathChar (Request.isPathChar_of_mem_tagOf h)
  have kind : ∀ kind ∈ Request.viewTypeOf instruction, Flush kind := by
    have kinds : ∀ kind ∈ ["cards", "list", "map", "table"].map String.toList,
        ∀ c ∈ kind.head?, isSpaceOrTab c = false := by decide
    exact fun kind h => kinds kind (Request.mem_of_viewTypeOf h)
  obtain ⟨-, -, formulas, properties⟩ := outline_foldl_apply plains bare
  have made := apply_foldl_apply plains (Patch.steady_steps kind simple folder)
    (Patch.apart_steps _ simple) bare distinct
  generalize eq : (Patch.patch document instruction).1 = t
  rw [Patch.patch, Patch.patchWith, Patch.fst_applySteps] at eq
  rw [eq] at formulas properties made
  have names := resolver_congr formulas properties
  rw [Patch.patch, Patch.patchWith, names]
  exact Patch.applySteps_eq_self fun s hs => made s.2 (List.mem_map_of_mem hs)

/-- The second time, neither the tag nor the column is new. -/
theorem tag_and_column_once :
    (Patch.patch "views:\n- type: table\n  order:\n    - size".toList
      "tag #work, add author".toList).2 = [.tag, .add] ∧
    Patch.patch (Patch.patch "views:\n- type: table\n  order:\n    - size".toList
        "tag #work, add author".toList).1 "tag #work, add author".toList =
      ((Patch.patch "views:\n- type: table\n  order:\n    - size".toList
        "tag #work, add author".toList).1, []) :=
  ⟨by decide +kernel,
    patch_idempotent (by decide) (by decide) (by decide) (by decide) (by decide)⟩

end Notebase
