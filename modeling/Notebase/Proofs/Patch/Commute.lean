import Mathlib.Data.List.Nodup
import Notebase.Proofs.Document.Matching
import Notebase.Proofs.Patch.Steps

/-!
Edits of different aspects in any order. What a document says afterwards does not depend on the
order (`inspect_performAll_perm`), so a patch with several parts says what patches with one part
each say, one after another in any order. The search for a test sees the view only if the name of
the test looks behind; any other test has one effect on the filters, whenever it is set.
-/

namespace Notebase

open Document

/-! ### Runs of edits -/

def Edit.performAll (es : List Edit) (t : Text) : Except Regex.Error Text :=
  es.foldlM Edit.perform t

theorem Edit.perform_word {e : Edit} (word : e.testsByWord = true) (t : Text) :
    e.perform t = .ok (e.apply t) := by
  cases e with
  | filter test value => exact setFilterMatching_word value t word
  | _ => rfl

/-- An edit of the view has no test to look for, and succeeds. -/
theorem Edit.perform_of_aspect {e : Edit} (aspect : e.aspect ≠ none) (t : Text) :
    e.perform t = .ok (e.apply t) := by
  cases e with
  | filter test value => exact absurd rfl aspect
  | _ => rfl

/-- A run of plain edits succeeds. -/
theorem Edit.performAll_plain {es : List Edit} (plain : ∀ e ∈ es, e.Plain) (t : Text) :
    performAll es t = .ok (es.foldl Edit.apply t) := by
  induction es generalizing t with
  | nil => rfl
  | cons e es ih =>
      have rest := ih (fun e' he => plain e' (List.mem_cons_of_mem _ he)) (e.apply t)
      rw [performAll, List.foldlM_cons, perform_word (plain e List.mem_cons_self).word]
      exact rest

/-- Whether the test of an edit, if it has one, is named by an expression without groups that looks
behind nowhere. -/
def Edit.TestsForward : Edit → Prop
  | .filter test _ => IsForwardName test
  | _ => True

theorem Edit.Plain.forward {e : Edit} (plain : e.Plain) : e.TestsForward := by
  cases e with
  | filter test value => exact isForwardName_of_word plain.word
  | _ => trivial

/-- Setting predicates, if that leaves these lines above the first key and in the filters. -/
def setTo (leading : List Text) (filters : Option (List Text)) (_ _ : Text) (o : Outline) : Outline :=
  { o with leading, filters }

/-- An edit of the view succeeds and changes nothing but the view. -/
theorem exists_perform_onView {e : Edit} {key : ViewKey} (aspect : e.aspect = some key)
    (plain : Text.Plain e.arguments) {t : Text} (bare : (outline t).Bare) :
    ∃ t', e.perform t = .ok t' ∧ outline t' = (outline t).onView e.onPanel ∧ (outline t').Bare := by
  have word : e.testsByWord = true := by
    cases e with
    | filter => cases aspect
    | _ => rfl
  have acts := outline_apply ⟨plain, word⟩ bare
  refine ⟨e.apply t, Edit.perform_word word t, ?_, ?_⟩
  · rw [acts, Edit.act_eq_onView aspect]
  · rw [acts]
    exact bare_act e bare

/-- A run of edits acts on the outline step by step, if the one predicate that it may set leaves
these lines whatever the view is like. -/
theorem outline_performAll {leading : List Text} {filters : Option (List Text)} {es : List Edit}
    (distinct : (es.map Edit.aspect).Nodup) (plain : ∀ e ∈ es, Text.Plain e.arguments) {t : Text}
    (bare : (outline t).Bare)
    (sets : ∀ test value, Edit.filter test value ∈ es → ∀ t' : Text,
      (outline t').leading = (outline t).leading → (outline t').filters = (outline t).filters →
        ∃ t'', setFilterMatching test value t' = .ok t'' ∧
          outline t'' = { outline t' with leading, filters }) :
    ∃ t', Edit.performAll es t = .ok t' ∧
      outline t' = es.foldl (Edit.actBy (setTo leading filters)) (outline t) := by
  induction es generalizing t with
  | nil => exact ⟨t, rfl, rfl⟩
  | cons e es ih =>
      rw [List.map_cons, List.nodup_cons] at distinct
      obtain ⟨alone, distinct⟩ := distinct
      have rest := @ih distinct fun e' he => plain e' (List.mem_cons_of_mem _ he)
      have first : ∀ {t₁}, e.perform t = .ok t₁ →
          Edit.performAll (e :: es) t = Edit.performAll es t₁ := by
        intro t₁ performed
        rw [Edit.performAll, List.foldlM_cons, performed]
        rfl
      cases aspect_eq : e.aspect with
      | none =>
          cases e with
          | filter test value =>
              obtain ⟨t₁, performed, acts⟩ := sets test value List.mem_cons_self t rfl rfl
              have bare₁ : (outline t₁).Bare := by
                rw [acts]
                exact bare
              -- No other edit sets a predicate.
              obtain ⟨t', run, outline_eq⟩ := rest bare₁ fun test' value' mem =>
                absurd (List.mem_map_of_mem (f := Edit.aspect) mem) alone
              refine ⟨t', (first performed).trans run, ?_⟩
              rw [outline_eq, acts]
              rfl
          | _ => cases aspect_eq
      | some key =>
          obtain ⟨t₁, performed, acts, bare₁⟩ :=
            exists_perform_onView aspect_eq (plain e List.mem_cons_self) bare
          -- The filters are still those that the predicate is to be set in.
          obtain ⟨t', run, outline_eq⟩ := rest bare₁ fun test value mem => by
            rw [acts]
            exact sets test value (List.mem_cons_of_mem _ mem)
          refine ⟨t', (first performed).trans run, ?_⟩
          rw [outline_eq, acts, List.foldl_cons, Edit.actBy_eq_onView aspect_eq]

/-- Acts on distinct aspects can be done in any order. -/
theorem foldl_actBy_perm {es es' : List Edit} (perm : es.Perm es')
    (distinct : (es.map Edit.aspect).Nodup) {set : Text → Text → Outline → Outline}
    (frame : ∀ test value f o, set test value (Outline.onView f o) = (set test value o).onView f)
    (o : Outline) : es.foldl (Edit.actBy set) o = es'.foldl (Edit.actBy set) o := by
  refine perm.foldl_eq' (fun e he e' he' o => ?_) o
  by_cases same : e.aspect = e'.aspect
  · rw [List.inj_on_of_nodup_map distinct he he' same]
  · exact actBy_comm frame (Ne.symm same) o

/-- **What a document says after a run of edits of distinct aspects does not depend on their
order.** -/
theorem inspect_performAll_perm {es es' : List Edit} (perm : es.Perm es')
    (distinct : (es.map Edit.aspect).Nodup) (plain : ∀ e ∈ es, Text.Plain e.arguments) {t : Text}
    (bare : (outline t).Bare)
    (forward : block? "filters".toList t = none ∨ ∀ e ∈ es, e.TestsForward) :
    ∃ t₁ t₂, Edit.performAll es t = .ok t₁ ∧ Edit.performAll es' t = .ok t₂ ∧
      inspect t₁ = inspect t₂ := by
  obtain ⟨leading, filters, sets⟩ : ∃ leading filters, ∀ test value, Edit.filter test value ∈ es →
      ∀ t' : Text, (outline t').leading = (outline t).leading →
        (outline t').filters = (outline t).filters →
          ∃ t'', setFilterMatching test value t' = .ok t'' ∧
            outline t'' = { outline t' with leading, filters } := by
    by_cases none : ∃ test value, Edit.filter test value ∈ es
    · obtain ⟨test, value, mem⟩ := none
      have arguments := plain _ mem
      obtain ⟨leading, filters, sets⟩ := exists_filters (t := t)
        (forward.imp_right fun tests => tests _ mem) (arguments test (by simp [Edit.arguments]))
        (arguments value (by simp [Edit.arguments]))
      refine ⟨leading, filters, fun test' value' mem' => ?_⟩
      cases List.inj_on_of_nodup_map distinct mem mem' rfl
      exact sets
    · exact ⟨[], .none, fun test value mem => absurd ⟨test, value, mem⟩ none⟩
  have distinct' : (es'.map Edit.aspect).Nodup := (perm.map _).nodup_iff.mp distinct
  obtain ⟨t₁, run, acts⟩ := outline_performAll distinct plain bare sets
  obtain ⟨t₂, run', acts'⟩ := outline_performAll distinct' (fun e he => plain e (perm.mem_iff.mpr he))
    bare fun test value mem => sets test value (perm.mem_iff.mpr mem)
  refine ⟨t₁, t₂, run, run', ?_⟩
  rw [inspect_eq_summary, inspect_eq_summary, acts, acts',
    foldl_actBy_perm perm distinct fun _ _ _ _ => rfl]

/-! ### Patches in parts -/

namespace Patch

/-- The requests that carry out one part of a patch each, with the instructions to read columns
from. -/
def parts (instruction : Text) (r : Request) : List (Text × Request) := [
  ([], { tag := r.tag }), ([], { folder := r.folder }), ([], { viewType := r.viewType }),
  (instruction, {}), ([], { sorting := r.sorting }), ([], { groupBy := r.groupBy }),
  ([], { renameTo := r.renameTo })]

def patchAll (t : Text) (ps : List (Text × Request)) : Text :=
  ps.foldl (fun t (instruction, r) => (patchWith t instruction r).1) t

/-- The steps of a patch are the steps of its parts. -/
theorem steps_eq_flatMap (resolve : Text → Text) (instruction : Text) (r : Request) :
    steps resolve instruction r =
      (parts instruction r).flatMap fun (instruction, r) => steps resolve instruction r := by
  have noAdd : asksToAdd [] = false := by decide
  have noRemove : asksToRemove [] = false := by decide
  have none : Text.given? Option.none = Option.none := rfl
  simp only [steps, parts, List.flatMap_cons, List.flatMap_nil, filterMap_id_cons, noAdd, noRemove,
    none, Option.map_none]
  simp

/-- The steps of a patch that sets one filter at most are about distinct aspects. -/
theorem distinct_steps (resolve : Text → Text) (instruction : Text) {r : Request}
    (one : Text.given? r.tag = none ∨ Text.given? r.folder = none) :
    (((steps resolve instruction r).map Prod.snd).map Edit.aspect).Nodup := by
  have distinct : ((steps resolve instruction r).map Prod.fst).Nodup :=
    (steps_sublist resolve instruction r).nodup (by decide)
  rw [List.map_map]
  refine List.Nodup.map_on ?_ (List.Nodup.of_map _ distinct)
  rintro ⟨s, e⟩ mem ⟨s', e'⟩ mem' same
  refine List.inj_on_of_nodup_map distinct mem mem' ?_
  have step : s.aspect = s'.aspect :=
    (aspect_of_mem_steps mem).symm.trans (same.trans (aspect_of_mem_steps mem'))
  have filters : ∀ {e e'}, (Step.tag, e) ∈ steps resolve instruction r →
      (Step.folder, e') ∉ steps resolve instruction r := by
    intro e e' mem mem'
    obtain ⟨tag, hasTag, -⟩ := mem_steps mem
    obtain ⟨folder, hasFolder, -⟩ := mem_steps mem'
    rcases one with h | h
    · cases h.symm.trans hasTag
    · cases h.symm.trans hasFolder
  have columns : ∀ {e e'}, (Step.add, e) ∈ steps resolve instruction r →
      (Step.remove, e') ∉ steps resolve instruction r := by
    intro e e' mem mem'
    obtain ⟨adds, -⟩ := mem_steps mem
    obtain ⟨removes, -⟩ := mem_steps mem'
    rw [asksToAdd, removes] at adds
    simp at adds
  cases s <;> cases s' <;> first
    | rfl
    | exact absurd step (by decide)
    | exact absurd mem' (filters mem)
    | exact absurd mem (filters mem')
    | exact absurd mem' (columns mem)
    | exact absurd mem (columns mem')

/-- A run of patches is the run of all their edits. -/
theorem patchAll_eq {ps : List (Text × Request)} (plain : ∀ p ∈ ps, p.2.Plain) {t : Text}
    (bare : (outline t).Bare) : patchAll t ps =
      ((ps.flatMap fun (instruction, r) => steps (resolver t) instruction r).map Prod.snd).foldl
        Edit.apply t := by
  induction ps generalizing t with
  | nil => rfl
  | cons p ps ih =>
      obtain ⟨instruction, r⟩ := p
      have first := plain_steps t instruction (plain (instruction, r) List.mem_cons_self)
      obtain ⟨-, bare', formulas, properties⟩ := outline_foldl_apply first bare
      have rest := ih (fun p hp => plain p (List.mem_cons_of_mem _ hp)) bare'
      rw [resolver_congr formulas properties] at rest
      rw [List.flatMap_cons, List.map_append, List.foldl_append, ← rest, ← fst_applySteps]
      rfl

/-- The parts of a plain request are plain. -/
theorem plain_parts (instruction : Text) {r : Request} (plain : r.Plain) :
    ∀ p ∈ parts instruction r, p.2.Plain := by
  intro p hp
  simp only [parts, List.mem_cons, List.not_mem_nil, or_false] at hp
  rcases hp with rfl | rfl | rfl | rfl | rfl | rfl | rfl
  · exact ⟨plain.tag, by simp, by simp, by simp, by simp, by simp⟩
  · exact ⟨by simp, plain.folder, by simp, by simp, by simp, by simp⟩
  · exact ⟨by simp, by simp, plain.viewType, by simp, by simp, by simp⟩
  · exact ⟨by simp, by simp, by simp, by simp, by simp, by simp⟩
  · exact ⟨by simp, by simp, by simp, plain.sorting, by simp, by simp⟩
  · exact ⟨by simp, by simp, by simp, by simp, plain.groupBy, by simp⟩
  · exact ⟨by simp, by simp, by simp, by simp, by simp, plain.renameTo⟩

/-- **A patch says what its parts say**, one after another in any order. -/
theorem inspect_patchAll {ps : List (Text × Request)} {instruction : Text} {r : Request}
    (perm : ps.Perm (parts instruction r)) (plain : r.Plain)
    (one : Text.given? r.tag = none ∨ Text.given? r.folder = none) {t : Text}
    (bare : (outline t).Bare) :
    inspect (patchWith t instruction r).1 = inspect (patchAll t ps) := by
  have plain' : ∀ p ∈ ps, p.2.Plain := fun p hp =>
    plain_parts instruction plain p (perm.mem_iff.mp hp)
  have order := (perm.flatMap_right fun (instruction, r) => steps (resolver t) instruction r).map
    Prod.snd
  rw [← steps_eq_flatMap] at order
  have steps_plain := plain_steps t instruction plain
  have parts_plain : ∀ e ∈ (ps.flatMap fun (instruction, r) =>
      steps (resolver t) instruction r).map Prod.snd, e.Plain := fun e he =>
    steps_plain e (order.mem_iff.mp he)
  obtain ⟨t₁, t₂, run, run', same⟩ := inspect_performAll_perm order.symm
    (distinct_steps (resolver t) instruction one) (fun e he => (steps_plain e he).arguments) bare
    (.inr fun e he => (steps_plain e he).forward)
  rw [Edit.performAll_plain steps_plain, Except.ok.injEq] at run
  rw [Edit.performAll_plain parts_plain, Except.ok.injEq] at run'
  rw [patchAll_eq plain' bare, patchWith, fst_applySteps, run, run']
  exact same

end Patch

/-! ### Edits in any order -/

/-- **Edits of distinct aspects commute** in what a document says, and so do the parts of a
patch. -/
theorem distinct_edits_commute {t : Text} (noSort : opensWith "sort".toList t = false)
    (noGroup : opensWith "groupBy".toList t = false) :
    (∀ es es' : List Edit, es.Perm es' → (es.map Edit.aspect).Nodup →
      (∀ e ∈ es, Text.Plain e.arguments) →
        (block? "filters".toList t = none ∨ ∀ e ∈ es, e.TestsForward) →
          ∃ t₁ t₂, Edit.performAll es t = .ok t₁ ∧ Edit.performAll es' t = .ok t₂ ∧
            inspect t₁ = inspect t₂) ∧
    ∀ (instruction : Text) (r : Request) (ps : List (Text × Request)),
      ps.Perm (Patch.parts instruction r) → r.Plain →
        (Text.given? r.tag = none ∨ Text.given? r.folder = none) →
          inspect (Patch.patchWith t instruction r).1 = inspect (Patch.patchAll t ps) := by
  have bare := bare_of_not_opensWith noSort noGroup
  exact ⟨fun es es' perm distinct plain forward =>
    inspect_performAll_perm perm distinct plain bare forward, fun instruction r ps perm plain one =>
    Patch.inspect_patchAll perm plain one bare⟩

/-- A sorting, a name and a test with a dot in it, in two orders. -/
theorem sort_and_name_commute :
    ∃ t₁ t₂, Edit.performAll [.sort "size".toList "ASC".toList, .rename "A".toList,
          .filter "tags.contains".toList "food".toList]
        "filters:\n  and:\n    - file.tags.contains(\"q\")\nviews:\n- type: t\n  order:\n    - a".toList =
          .ok t₁ ∧
      Edit.performAll [.rename "A".toList, .sort "size".toList "ASC".toList,
          .filter "tags.contains".toList "food".toList]
        "filters:\n  and:\n    - file.tags.contains(\"q\")\nviews:\n- type: t\n  order:\n    - a".toList =
          .ok t₂ ∧ inspect t₁ = inspect t₂ :=
  (distinct_edits_commute (by decide) (by decide)).1 _ _ (List.Perm.swap _ _ _) (by decide) (by
    intro e he
    simp only [List.mem_cons, List.not_mem_nil, or_false] at he
    rcases he with rfl | rfl | rfl <;> simp [Text.Plain, Edit.arguments]) (.inr (by
    intro e he
    simp only [List.mem_cons, List.not_mem_nil, or_false] at he
    rcases he with rfl | rfl | rfl
    · trivial
    · trivial
    · exact isForwardName_of_plain (by decide)))

/-- Whether predicates of a test commute with every edit of the view in what a document says. -/
def TestCommutes (test : Text) : Prop :=
  ∀ (t value : Text) (e : Edit), opensWith "sort".toList t = false →
    opensWith "groupBy".toList t = false → e.aspect ≠ none →
      Text.Plain (test :: value :: e.arguments) →
        ∃ t₁ t₂, Edit.performAll [.filter test value, e] t = .ok t₁ ∧
          Edit.performAll [e, .filter test value] t = .ok t₂ ∧ inspect t₁ = inspect t₂

/-- A test does not commute if one document tells the two orders apart. -/
theorem not_testCommutes {test t value : Text} {e : Edit} (noSort : opensWith "sort".toList t = false)
    (noGroup : opensWith "groupBy".toList t = false) (aspect : e.aspect ≠ none)
    (plain : Text.Plain (test :: value :: e.arguments))
    (differ : (Edit.performAll [.filter test value, e] t).toOption.map inspect ≠
      (Edit.performAll [e, .filter test value] t).toOption.map inspect) : ¬ TestCommutes test := by
  intro claim
  obtain ⟨t₁, t₂, run, run', same⟩ := claim t value e noSort noGroup aspect plain
  rw [run, run'] at differ
  exact differ (congrArg some same)

/-- A test that is named by a pattern may match a call without its first group, and then the value
goes before the last character of the document, whatever edit wrote it. A test that looks behind
may see the view, and then it is found or not as the view says. -/
theorem pattern_test_does_not_commute :
    ¬ TestCommutes "(x)?y".toList ∧
      ¬ TestCommutes "(?<=t\\sfilters:\\s  and:\\s    - file\\.)y".toList := by
  constructor
  · let t := "filters: file.y(\"q\")\nviews:\n- type: t\n  order:\n    - a".toList
    let e : Edit := .sort "p".toList "ASC".toList
    exact @not_testCommutes _ t "v".toList e (by decide) (by decide) (by decide)
      (by simp [Text.Plain, Edit.arguments, e]) (by decide +kernel)
  · let t := "views:\n- type: t\nfilters:\n  and:\n    - file.y(\"q\")".toList
    let e : Edit := .viewType "x".toList
    exact @not_testCommutes _ t "v".toList e (by decide) (by decide) (by decide)
      (by simp [Text.Plain, Edit.arguments, e]) (by decide +kernel)

end Notebase
