import Notebase.Proofs.Patch.Settle
import Notebase.Proofs.Patch.Steps
import Notebase.Proofs.Request.Cue

/-!
Removal before addition. A sentence that mentions a removal never adds a column: no step of the
patch does, and no other step touches the columns, whatever it writes. So the columns of the
patched document are some of those that were there, in their order (`removal_takes_precedence`).
-/

namespace Notebase

open Document

/-! ### Edits that add no columns -/

namespace Document

theorem Panel.columns_removeColumns_sublist (refs : List Text) (p : Panel) :
    (p.removeColumns refs).columns.Sublist p.columns := by
  cases order_eq : p.entry .order with
  | none => rw [removeColumns_of_none order_eq]
  | some e =>
      rw [removeColumns_eq order_eq, columns_of_entry order_eq, columns_of_entry
        (entry_set_self ..)]
      exact (withoutColumns_sublist refs e.children).filterMap listItem?

end Document

/-- An edit that does not add columns keeps some of them, in their order. -/
theorem Edit.columns_act_sublist {e : Edit} (noAdd : ∀ refs, e ≠ .addColumns refs) (o : Outline) :
    (e.act o).columns.Sublist o.columns := by
  rw [Outline.columns, Outline.columns, e.view_act]
  cases o.view with
  | none => exact .refl _
  | some p =>
      show (e.onPanel p).columns.Sublist p.columns
      cases e with
      | addColumns refs => exact absurd rfl (noAdd refs)
      | removeColumns refs => exact p.columns_removeColumns_sublist refs
      | _ => rw [columns_onPanel (by simp [aspect]) p]

/-- And so does a run of such edits. -/
theorem Edit.columns_foldl_act_sublist {es : List Edit}
    (noAdd : ∀ e ∈ es, ∀ refs, e ≠ .addColumns refs) (o : Outline) :
    (es.foldl Edit.act o).columns.Sublist o.columns := by
  induction es generalizing o with
  | nil => exact .refl _
  | cons e es ih =>
      exact (ih (fun e' he => noAdd e' (List.mem_cons_of_mem _ he)) _).trans
        (columns_act_sublist (noAdd e List.mem_cons_self) o)

namespace Patch

/-! ### Sentences that ask to remove -/

/-- A step that is reported has been taken. -/
theorem mem_applySteps {t : Text} {ss : List (Step × Edit)} {step : Step}
    (mem : step ∈ (applySteps t ss).2) : step ∈ ss.map Prod.fst := by
  induction ss generalizing t with
  | nil => cases mem
  | cons s ss ih =>
      rw [applySteps] at mem
      dsimp only at mem
      split at mem
      · exact List.mem_cons_of_mem _ (ih mem)
      · rcases List.mem_cons.mp mem with rfl | mem
        · exact List.mem_cons_self
        · exact List.mem_cons_of_mem _ (ih mem)

section Removal

variable {document instruction : Text} (removes : asksToRemove instruction = true)
include removes

theorem add_not_mem_steps (resolve : Text → Text) (r : Request) (e : Edit) :
    (Step.add, e) ∉ steps resolve instruction r := by
  intro mem
  have asks := (mem_steps mem).1
  rw [asksToAdd, removes, Bool.not_true, Bool.and_false] at asks
  cases asks

/-- No step is an edit that adds columns. -/
theorem noAdd_of_removes (resolve : Text → Text) (r : Request) :
    ∀ e ∈ (steps resolve instruction r).map Prod.snd, ∀ refs, e ≠ .addColumns refs := by
  rintro e he refs rfl
  obtain ⟨⟨step, e⟩, mem, rfl⟩ := List.mem_map.mp he
  have said := mem_steps mem
  cases step with
  | add => exact add_not_mem_steps removes resolve r _ mem
  | remove => cases said.2
  | _ =>
      obtain ⟨_, -, eq⟩ := said
      cases eq

theorem add_not_mem_patchWith (r : Request) : Step.add ∉ (patchWith document instruction r).2 := by
  intro mem
  obtain ⟨⟨step, e⟩, mem, rfl⟩ := List.mem_map.mp (mem_applySteps mem)
  exact add_not_mem_steps removes _ r e mem

theorem viewOrder_patchWith_sublist {r : Request} (plain : r.Plain)
    (bare : (outline document).Bare) :
    (viewOrder (patchWith document instruction r).1).Sublist (viewOrder document) := by
  rw [patchWith, fst_applySteps, viewOrder_eq_columns, viewOrder_eq_columns,
    (outline_foldl_apply (plain_steps document instruction plain) bare).1]
  exact Edit.columns_foldl_act_sublist (noAdd_of_removes removes _ r) _

end Removal

end Patch

/-- **Removal takes precedence over addition.** Where a sentence mentions a removal, a patch adds
no column, and the columns that it leaves stand in their old order, whatever else the sentence or a
request that has been read already asks for. -/
theorem removal_takes_precedence {document instruction : Text}
    (noSort : opensWith "sort".toList document = false)
    (noGroup : opensWith "groupBy".toList document = false) (line : '\n' ∉ instruction)
    (removal : Request.Mentions Request.removeCues instruction) :
    (Patch.Step.add ∉ (Patch.patch document instruction).2 ∧
      (viewOrder (Patch.patch document instruction).1).Sublist (viewOrder document)) ∧
    ∀ r : Request, r.Plain →
      (∀ e, (Patch.Step.add, e) ∉ Patch.steps (Patch.resolver document) instruction r) ∧
      Patch.Step.add ∉ (Patch.patchWith document instruction r).2 ∧
      (viewOrder (Patch.patchWith document instruction r).1).Sublist (viewOrder document) := by
  have removes : Patch.asksToRemove instruction = true :=
    Request.occursIn_of_mentions (by decide) removal
  have bare := bare_of_not_opensWith noSort noGroup
  have plain := Request.plain_ofText document line
  exact ⟨⟨Patch.add_not_mem_patchWith removes _,
      Patch.viewOrder_patchWith_sublist removes plain bare⟩,
    fun r plain => ⟨Patch.add_not_mem_steps removes _ r, Patch.add_not_mem_patchWith removes r,
      Patch.viewOrder_patchWith_sublist removes plain bare⟩⟩

/-- A cue in capital letters is a cue, and what follows it is hidden. -/
theorem hiding_wins_over_adding :
    Patch.Step.add ∉ (Patch.patch "views:\n- type: table\n  order:\n    - size\n    - a".toList
      "add b to #order, but HIDE size and sort by c".toList).2 ∧
    (viewOrder (Patch.patch "views:\n- type: table\n  order:\n    - size\n    - a".toList
      "add b to #order, but HIDE size and sort by c".toList).1).Sublist
        ["size".toList, "a".toList] :=
  (removal_takes_precedence (by decide) (by decide) (by decide)
    ⟨"add b to #order, but ".toList, "HIDE".toList, " size and sort by c".toList, by decide,
      by decide, by decide, by decide⟩).1

end Notebase
