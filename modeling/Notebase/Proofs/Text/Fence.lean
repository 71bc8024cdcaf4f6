import Notebase.Proofs.Request.Neat
import Notebase.Text.Fence

/-!
Fences around a document. A document that opens no fence of its own comes out of a reply as it is,
whether the reply is the document or has it inside a fence (`Holds.stripFence_eq`), and it stays as
it is however often a reader looks for a fence again (`Holds.stripFence_iterate`).
-/

namespace Notebase.Text

/-- A document that can be told from its reply: something is written, without blanks around it, and
it does not open with a fence. -/
structure Unfenced (d : Text) : Prop extends d.Written where
  unfenced : ¬ fence <+: d

/-- A reply that holds a document: the document itself or a fence around it, with any blanks around
either. The line that opens the fence has a tag and spaces or tabs, and a line end may stand in
front of the fence that closes. -/
inductive Holds (d : Text) : Text → Prop where
  | bare {before after : Text} :
      (∀ c ∈ before, isBlank c = true) → (∀ c ∈ after, isBlank c = true) →
      Holds d (before ++ d ++ after)
  | fenced {before tag gap ending after : Text} :
      (∀ c ∈ before, isBlank c = true) → (∀ c ∈ tag, isKeyChar c = true) →
      (∀ c ∈ gap, isSpaceOrTab c = true) → ending = [] ∨ ending = ['\n'] →
      (∀ c ∈ after, isBlank c = true) →
      Holds d (before ++ (fence ++ (tag ++ gap ++ '\n' :: (d ++ ending ++ fence))) ++ after)

/-! ### Parts of a fenced text -/

theorem before?_append (t back : Text) : before? back (t ++ back) = some t := by
  rw [before?, if_pos (List.isSuffixOf_iff_suffix.mpr (List.suffix_append t back)),
    List.length_append, Nat.add_sub_cancel, List.take_left]

theorem before?_eq_none {back t : Text} (out : ¬ back <:+ t) : before? back t = none :=
  if_neg fun suffix_ => out (List.isSuffixOf_iff_suffix.mp suffix_)

theorem after?_eq_none {front t : Text} (out : ¬ front <+: t) : after? front t = none :=
  Option.eq_none_iff_forall_ne_some.mpr fun rest found =>
    out (after?_eq_some_iff.mp found ▸ List.prefix_append front rest)

/-- A text between two texts that are not blank at the outside has no blank at either end. -/
theorem Trimmed.of_ends {front inner back : Text} (ne : front ≠ []) (ne' : back ≠ [])
    (first : front.Trimmed) (last : back.Trimmed) : (front ++ (inner ++ back)).Trimmed := by
  refine ⟨fun c hc => ?_, fun c hc => ?_⟩
  · rw [List.head?_append_of_ne_nil _ ne] at hc
    exact first.first c hc
  · rw [← List.append_assoc, List.getLast?_append_of_ne_nil _ ne'] at hc
    exact last.last c hc

theorem trimmed_fence : fence.Trimmed := trimmed_of_forall (by decide)

/-- **The opening line** of a fence is dropped with its tag and blanks, and nothing after it. -/
theorem afterOpening_append {tag gap : Text} (isTag : ∀ c ∈ tag, isKeyChar c = true)
    (isGap : ∀ c ∈ gap, isSpaceOrTab c = true) (t : Text) :
    afterOpening (tag ++ gap ++ '\n' :: t) = t := by
  have apart : ∀ c, isSpaceOrTab c = true → isKeyChar c = false := by
    intro c spaceOrTab
    rw [isSpaceOrTab, Bool.or_eq_true, beq_iff_eq, beq_iff_eq] at spaceOrTab
    rcases spaceOrTab with rfl | rfl
    · decide
    · decide
  have stop : ∀ c ∈ (gap ++ '\n' :: t).head?, isKeyChar c = false := by
    intro c hc
    cases gap with
    | nil =>
        cases hc
        decide
    | cons d gap =>
        cases hc
        exact apart c (isGap c List.mem_cons_self)
  have stop' : ∀ c ∈ ('\n' :: t).head?, isSpaceOrTab c = false := by
    rintro c ⟨⟩
    decide
  rw [afterOpening, List.append_assoc, dropWhile_append_stop stop,
    List.dropWhile_eq_nil_iff.mpr isTag, List.nil_append, dropWhile_append_stop stop',
    List.dropWhile_eq_nil_iff.mpr isGap, List.nil_append]
  rfl

section Documents

variable {d r : Text} (unfenced : d.Unfenced)
include unfenced

/-- **The closing fence** is dropped with the line end in front of it, and a document keeps what it
ends with, fences included. -/
theorem Unfenced.beforeClosing_append {ending : Text} (ends : ending = [] ∨ ending = ['\n']) :
    beforeClosing (d ++ ending ++ fence) = d := by
  rw [beforeClosing, before?_append]
  dsimp only
  rcases ends with rfl | rfl
  · have open_ : ¬ ['\n'] <:+ d := by
      rintro ⟨front, rfl⟩
      have last : isBlank '\n' = false := unfenced.trimmed.last '\n' List.getLast?_concat
      revert last
      decide
    rw [List.append_nil, before?_eq_none open_, Option.getD_none]
  · rw [before?_append, Option.getD_some]

theorem Unfenced.stripFence_eq : d.stripFence = d := by
  rw [stripFence, unfenced.trimmed.trim_eq, after?_eq_none unfenced.unfenced]

/-- **A document comes out of its reply.** -/
theorem Holds.stripFence_eq (holds : Holds d r) : r.stripFence = d := by
  cases holds with
  | bare blank blank' =>
      rw [stripFence, unfenced.trimmed.trim_around blank blank', after?_eq_none unfenced.unfenced]
  | @fenced before tag gap ending after blank isTag isGap ends blank' =>
      have trimmed : (fence ++ (tag ++ gap ++ '\n' :: (d ++ ending ++ fence))).Trimmed := by
        have ne : fence ≠ [] := by decide
        have whole : (fence ++ (tag ++ gap ++ '\n' :: (d ++ ending) ++ fence)).Trimmed :=
          trimmed_fence.of_ends ne ne trimmed_fence
        rwa [List.append_assoc _ _ fence, List.cons_append] at whole
      rw [stripFence, trimmed.trim_around blank blank', after?_eq_some_iff.mpr rfl]
      dsimp only
      rw [afterOpening_append isTag isGap, unfenced.beforeClosing_append ends,
        unfenced.trimmed.trim_eq]

/-- **However often it is looked for**, no further fence comes off. -/
theorem Holds.stripFence_iterate (holds : Holds d r) (n : Nat) : stripFence^[n + 1] r = d := by
  rw [Function.iterate_succ_apply, holds.stripFence_eq unfenced]
  exact Function.iterate_fixed unfenced.stripFence_eq n

end Documents

end Notebase.Text
