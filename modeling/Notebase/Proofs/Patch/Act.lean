import Notebase.Proofs.Document.Filters
import Notebase.Proofs.Document.Summary

/-!
Edits as acts on the outline of a document. An edit of the view is local: it writes the entry of
one key and looks at nothing else but which keys there are (`Edit.local_onPanel`). Acts on
different aspects therefore commute (`actBy_comm`).
-/

namespace Notebase

open Document

/-! ### Acts -/

namespace Edit

/-- The aspect of a document that an edit is about: a key of the view, or the filters if it is
`none`. -/
def aspect : Edit → Option ViewKey
  | .filter _ _ => none
  | .viewType _ => some .type
  | .addColumns _ => some .order
  | .removeColumns _ => some .order
  | .sort _ _ => some .sort
  | .groupBy _ _ => some .groupBy
  | .rename _ => some .name

def arguments : Edit → List Text
  | .filter test value => [test, value]
  | .viewType kind => [kind]
  | .addColumns refs => refs
  | .removeColumns refs => refs
  | .sort property direction => [property, direction]
  | .groupBy property direction => [property, direction]
  | .rename name => [name]

def testsByWord : Edit → Bool
  | .filter test _ => test.all isWordChar
  | _ => true

/-- An edit whose arguments have no line ends and whose test is named by a word. -/
structure Plain (e : Edit) : Prop where
  arguments : Text.Plain e.arguments
  word : e.testsByWord = true

def onPanel : Edit → Panel → Panel
  | .filter _ _ => id
  | .viewType kind => Panel.setType kind
  | .addColumns refs => Panel.addColumns refs
  | .removeColumns refs => Panel.removeColumns refs
  | .sort property direction => Panel.put .sort (sortEntry property direction)
  | .groupBy property direction => Panel.put .groupBy (groupEntry property direction)
  | .rename name => Panel.rename name

def act (o : Outline) : Edit → Outline
  | .filter test value => o.setFilter test value
  | edit => o.onView edit.onPanel

/-- An edit acts on the view by its entries. -/
theorem view_act (e : Edit) (o : Outline) : (e.act o).view = o.view.map e.onPanel := by
  cases e with
  | filter test value =>
      show (o.setFilter test value).view = o.view.map id
      rw [Outline.setFilter, Option.map_id]
      split <;> rfl
  | _ => rfl

end Edit

/-! ### Local acts on the view -/

/-- An act that writes the entry of one key only, and looks at that entry, at how deep the view
stands and at which keys there are. -/
structure Local (key : ViewKey) (f : Panel → Panel) : Prop where
  dash : ∀ p, (f p).dash = p.dash
  frame : ∀ p key', key' ≠ key → (f p).entry key' = p.entry key'
  present : ∀ p, (p.entry key).isSome → ((f p).entry key).isSome
  absent : ∀ p, key ∈ [ViewKey.type, ViewKey.order] → p.entry key = none → (f p).entry key = none
  congr : ∀ p q : Panel, p.dash = q.dash → p.entry key = q.entry key →
    (p.entry .type).isSome = (q.entry .type).isSome →
    (p.entry .order).isSome = (q.entry .order).isSome → (f p).entry key = (f q).entry key

namespace Local

variable {key key' : ViewKey} {f g : Panel → Panel}

/-- An action about one entry neither brings in nor takes out an entry that others stand behind. -/
theorem isSome_eq (h : Local key f) (p : Panel) {anchor : ViewKey}
    (isAnchor : anchor ∈ [ViewKey.type, ViewKey.order]) :
    ((f p).entry anchor).isSome = (p.entry anchor).isSome := by
  by_cases same : anchor = key
  · subst same
    cases entry_eq : p.entry anchor with
    | none => rw [h.absent p isAnchor entry_eq]
    | some e => exact h.present p (by rw [entry_eq]; rfl)
  · rw [h.frame p anchor same]

/-- Local acts one after another. -/
theorem comp (hf : Local key f) (hg : Local key g) : Local key fun p => g (f p) where
  dash p := (hg.dash _).trans (hf.dash p)
  frame p key' ne := (hg.frame _ _ ne).trans (hf.frame p _ ne)
  present p h := hg.present _ (hf.present p h)
  absent p isAnchor none := hg.absent _ isAnchor (hf.absent p isAnchor none)
  congr p q dash entry type order := hg.congr _ _ (by rw [hf.dash, hf.dash, dash])
    (hf.congr p q dash entry type order)
    (by rw [hf.isSome_eq p (by simp), hf.isSome_eq q (by simp), type])
    (by rw [hf.isSome_eq p (by simp), hf.isSome_eq q (by simp), order])

theorem id (key : ViewKey) : Local key fun p => p where
  dash _ := rfl
  frame _ _ _ := rfl
  present _ h := h
  absent _ _ none := none
  congr _ _ _ entry _ _ := entry

/-- Local acts on different keys commute. -/
theorem comm (hf : Local key f) (hg : Local key' g) (ne : key ≠ key') (p : Panel) :
    f (g p) = g (f p) := by
  have half : ∀ {key key' : ViewKey} {f g : Panel → Panel}, Local key f → Local key' g →
      key ≠ key' → (f (g p)).entry key = (g (f p)).entry key := by
    intro key key' f g hf hg ne
    rw [hg.frame (f p) key ne]
    exact hf.congr _ _ (hg.dash p) (hg.frame p key ne) (hg.isSome_eq p (by simp))
      (hg.isSome_eq p (by simp))
  have dash : (f (g p)).dash = (g (f p)).dash := by rw [hf.dash, hg.dash, hg.dash, hf.dash]
  have entry : (f (g p)).entry = (g (f p)).entry := by
    funext k
    by_cases first : k = key
    · rw [first]
      exact half hf hg ne
    · by_cases second : k = key'
      · rw [second]
        exact (half hg hf ne.symm).symm
      · rw [hf.frame _ _ first, hg.frame _ _ second, hg.frame _ _ second, hf.frame _ _ first]
  exact Panel.ext dash entry

end Local

/-- An act that sets one entry, if it does anything. -/
theorem local_of_set {key : ViewKey} {f : Panel → Panel}
    (new : Panel → Option Entry)
    (eq : ∀ p, f p = match new p with
      | some e => p.set key e
      | none => p)
    (absent : ∀ p, key ∈ [ViewKey.type, ViewKey.order] → p.entry key = none → new p = none)
    (congr : ∀ p q : Panel, p.dash = q.dash → p.entry key = q.entry key →
      (p.entry .type).isSome = (q.entry .type).isSome →
      (p.entry .order).isSome = (q.entry .order).isSome → new p = new q) : Local key f := by
  have dash : ∀ p, (f p).dash = p.dash := by
    intro p
    rw [eq]
    cases new p <;> rfl
  have entry : ∀ p, (f p).entry key = (new p).or (p.entry key) := by
    intro p
    rw [eq]
    cases new p with
    | none => rfl
    | some e => exact Function.update_self ..
  refine ⟨dash, ?_, ?_, ?_, ?_⟩
  · intro p key' ne
    rw [eq]
    cases new p with
    | none => rfl
    | some e => exact Function.update_of_ne ne ..
  · intro p h
    rw [entry]
    cases new p <;> simp [h]
  · intro p isAnchor none
    rw [entry, absent p isAnchor none, none]
    rfl
  · intro p q hdash hentry type order
    rw [entry, entry, congr p q hdash hentry type order, hentry]

/-- Setting the kind is about the kind alone. -/
theorem local_setType (kind : Text) : Local .type (Panel.setType kind) := by
  refine local_of_set (fun p => (p.entry .type).map (·.withValue kind)) ?_ ?_ ?_
  · intro p
    rw [Panel.setType]
    cases p.entry .type <;> rfl
  · intro p _ none
    rw [none]
    rfl
  · intro p q _ entry _ _
    rw [entry]

/-- Adding columns is about the columns alone. -/
theorem local_addColumns (refs : List Text) : Local .order (Panel.addColumns refs) := by
  refine local_of_set (fun p => (p.entry .order).map fun e => e.withChildren
    (e.children ++ (newColumns e.columns refs).map (columnRow p.dash))) ?_ ?_ ?_
  · intro p
    rw [Panel.addColumns]
    cases p.entry .order <;> rfl
  · intro p _ none
    rw [none]
    rfl
  · intro p q dash entry _ _
    rw [entry, dash]

/-- So is removing one. -/
theorem local_removeColumn (ref : Text) : Local .order (Panel.removeColumn · ref) := by
  refine local_of_set (fun p => (p.entry .order).map fun e =>
    e.withChildren (e.children.eraseP (isColumn ref))) ?_ ?_ ?_
  · intro p
    rw [Panel.removeColumn]
    cases p.entry .order <;> rfl
  · intro p _ none
    rw [none]
    rfl
  · intro p q _ entry _ _
    rw [entry]

theorem local_removeColumns (refs : List Text) : Local .order (Panel.removeColumns refs) := by
  induction refs with
  | nil => exact Local.id .order
  | cons ref refs ih => exact (local_removeColumn ref).comp ih

/-- Putting an entry is about its key alone. -/
theorem local_put {key : ViewKey} (new : Nat → Entry) (late : key ∉ [ViewKey.type, ViewKey.order]) :
    Local key (Panel.put key new) := by
  refine local_of_set (fun p => if (p.entry key).isSome || (p.entry .order).isSome then
    some (new p.dash) else none) ?_ ?_ ?_
  · intro p
    rw [Panel.put]
    split <;> rfl
  · exact fun p isAnchor _ => absurd isAnchor late
  · intro p q dash entry _ order
    rw [entry, order, dash]

/-- Renaming is about the name alone. -/
theorem local_rename (name : Text) : Local .name (Panel.rename name) := by
  refine local_of_set (fun p => match p.entry .name with
    | some e => some (e.withValue (quotedName name))
    | none => if (p.entry .type).isSome then some (nameEntry p.dash name) else none) ?_ ?_ ?_
  · intro p
    rw [Panel.rename]
    cases p.entry .name <;> cases p.entry .type <;> rfl
  · exact fun p isAnchor _ => absurd isAnchor (by decide)
  · intro p q dash entry type _
    rw [entry, type, dash]

/-- **Every edit of the view is local** to its aspect. -/
theorem Edit.local_onPanel {e : Edit} {key : ViewKey} (aspect : e.aspect = some key) :
    Local key e.onPanel := by
  cases e with
  | filter => cases aspect
  | viewType kind =>
      cases aspect
      exact local_setType kind
  | addColumns refs =>
      cases aspect
      exact local_addColumns refs
  | removeColumns refs =>
      cases aspect
      exact local_removeColumns refs
  | sort property direction =>
      cases aspect
      exact local_put _ (by decide)
  | groupBy property direction =>
      cases aspect
      exact local_put _ (by decide)
  | rename name =>
      cases aspect
      exact local_rename name

theorem Edit.act_eq_onView {e : Edit} {key : ViewKey} (aspect : e.aspect = some key) (o : Outline) :
    e.act o = o.onView e.onPanel := by
  cases e with
  | filter => cases aspect
  | _ => rfl

/-- What an edit does to the outline of a document if predicates are set in this way. -/
def Edit.actBy (set : Text → Text → Outline → Outline) (o : Outline) : Edit → Outline
  | .filter test value => set test value o
  | edit => o.onView edit.onPanel

theorem Edit.act_eq_actBy (e : Edit) (o : Outline) :
    e.act o = e.actBy (fun test value o => o.setFilter test value) o := by
  cases e <;> rfl

theorem Edit.actBy_eq_onView {set : Text → Text → Outline → Outline} {e : Edit} {key : ViewKey}
    (aspect : e.aspect = some key) (o : Outline) : e.actBy set o = o.onView e.onPanel := by
  cases e with
  | filter => cases aspect
  | _ => rfl

/-- **Acts on different aspects commute**, however predicates are set, as long as the view is left
alone and not looked at. -/
theorem actBy_comm {set : Text → Text → Outline → Outline}
    (frame : ∀ test value f o, set test value (Outline.onView f o) = (set test value o).onView f)
    {e e' : Edit} (ne : e.aspect ≠ e'.aspect) (o : Outline) :
    e.actBy set (e'.actBy set o) = e'.actBy set (e.actBy set o) := by
  -- An edit without an aspect is one of the filters; all others act on the first view alone.
  cases aspect_eq : e.aspect with
  | none =>
      cases other : e'.aspect with
      | none => exact absurd (aspect_eq.trans other.symm) ne
      | some key' =>
          cases e with
          | filter test value =>
              rw [Edit.actBy_eq_onView other, Edit.actBy_eq_onView other]
              exact frame test value _ o
          | _ => cases aspect_eq
  | some key =>
      cases other : e'.aspect with
      | none =>
          cases e' with
          | filter test value =>
              rw [Edit.actBy_eq_onView aspect_eq, Edit.actBy_eq_onView aspect_eq]
              exact (frame test value _ o).symm
          | _ => cases other
      | some key' =>
          have apart : key ≠ key' := by
            rintro rfl
            exact ne (aspect_eq.trans other.symm)
          rw [Edit.actBy_eq_onView aspect_eq, Edit.actBy_eq_onView aspect_eq,
            Edit.actBy_eq_onView other,
            Edit.actBy_eq_onView other, onView_onView, onView_onView]
          exact congrArg (o.onView ·) (funext fun p =>
            (Edit.local_onPanel aspect_eq).comm (Edit.local_onPanel other) apart p)

theorem setFilter_onView (test value : Text) (f : Panel → Panel) (o : Outline) :
    (o.onView f).setFilter test value = (o.setFilter test value).onView f := by
  rw [Outline.setFilter, Outline.setFilter, Outline.onView]
  cases o.filters <;> rfl

theorem act_comm {e e' : Edit} (ne : e.aspect ≠ e'.aspect) (o : Outline) :
    e.act (e'.act o) = e'.act (e.act o) := by
  simp only [Edit.act_eq_actBy]
  exact actBy_comm setFilter_onView ne o

/-! ### Edits of a document as acts -/

theorem bare_of_local {key : ViewKey} {f : Panel → Panel} (h : Local key f)
    (out : key ∉ [ViewKey.sort, ViewKey.groupBy]) {p : Panel} (bare : p.Bare) : (f p).Bare := by
  intro key' mem e listed
  rw [h.frame p key' fun same => out (same ▸ mem)] at listed
  rw [h.dash]
  exact bare key' mem e listed

/-- An entry that is put with rows of its own does not open with the dash. -/
theorem bare_put {key : ViewKey} {new : Nat → Entry}
    (front : ∀ dash, Text.spaces (dash + 2) <+: (new dash).label) {p : Panel} (bare : p.Bare) :
    (p.put key new).Bare := by
  rw [Panel.put]
  split
  · intro key' mem e listed
    by_cases same : key' = key
    · subst same
      rw [Option.mem_def, Panel.entry_set_self] at listed
      cases listed
      exact not_dashFront_of_spaces (front p.dash)
    · rw [Option.mem_def, p.entry_set_of_ne _ same] at listed
      exact bare key' mem e listed
  · exact bare

/-- No edit lets a sorting or grouping open the view. -/
theorem bare_act (e : Edit) {o : Outline} (bare : o.Bare) : (e.act o).Bare := by
  have onView : ∀ f : Panel → Panel, (∀ p : Panel, p.Bare → (f p).Bare) → (o.onView f).Bare := by
    intro f step p hp
    rw [Outline.onView, Option.mem_def, Option.map_eq_some_iff] at hp
    obtain ⟨p', view_eq, rfl⟩ := hp
    exact step p' (bare p' view_eq)
  cases e with
  | filter test value =>
      have view : (o.setFilter test value).view = o.view := by
        rw [Outline.setFilter]
        split <;> rfl
      intro p hp
      exact bare p (view ▸ hp)
  | viewType kind => exact onView _ fun p => bare_of_local (local_setType kind) (by decide)
  | addColumns refs => exact onView _ fun p => bare_of_local (local_addColumns refs) (by decide)
  | removeColumns refs =>
      exact onView _ fun p => bare_of_local (local_removeColumns refs) (by decide)
  | sort property direction => exact onView _ fun p => bare_put fun _ => List.prefix_append _ _
  | groupBy property direction => exact onView _ fun p => bare_put fun _ => List.prefix_append _ _
  | rename name => exact onView _ fun p => bare_of_local (local_rename name) (by decide)

/-- An edit that arranges nothing acts on the outline of every document. -/
theorem outline_apply_of_aspect {e : Edit} (plain : e.Plain)
    (early : e.aspect ∉ [some ViewKey.sort, some ViewKey.groupBy]) (t : Text) :
    outline (e.apply t) = e.act (outline t) := by
  obtain ⟨arguments, word⟩ := plain
  cases e with
  | filter test value =>
      exact outline_setFilterPredicate (arguments test (by simp [Edit.arguments]))
        (arguments value (by simp [Edit.arguments])) t
  | viewType kind => exact outline_setViewType (arguments kind (by simp [Edit.arguments])) t
  | addColumns refs => exact outline_addColumns arguments t
  | removeColumns refs => exact outline_removeColumns arguments t
  | sort property direction => exact absurd List.mem_cons_self early
  | groupBy property direction =>
      exact absurd (List.mem_cons_of_mem _ List.mem_cons_self) early
  | rename name => exact outline_renameView (arguments name (by simp [Edit.arguments])) t

/-- **An edit of a document acts on its outline.** -/
theorem outline_apply {e : Edit} (plain : e.Plain) {t : Text} (bare : (outline t).Bare) :
    outline (e.apply t) = e.act (outline t) := by
  have arguments := plain.arguments
  cases e with
  | sort property direction =>
      have written := fun dash => sortEntry_written dash
        (arguments property (by simp [Edit.arguments]))
        (arguments direction (by simp [Edit.arguments]))
      exact outline_setViewBlock .sort (renderSort_eq property direction) written
        fun p hp => bare p hp .sort (by simp)
  | groupBy property direction =>
      have written := fun dash => groupEntry_written dash
        (arguments property (by simp [Edit.arguments]))
        (arguments direction (by simp [Edit.arguments]))
      exact outline_setViewBlock .groupBy (renderGroupBy_eq property direction) written
        fun p hp => bare p hp .groupBy (by simp)
  | _ => exact outline_apply_of_aspect plain (by simp [Edit.aspect]) t

/-- What no edit changes in an outline. -/
theorem formulas_act (e : Edit) (o : Outline) :
    (e.act o).formulas = o.formulas ∧ (e.act o).properties = o.properties := by
  cases e with
  | filter test value =>
      rw [show Edit.act o (.filter test value) = o.setFilter test value from rfl, Outline.setFilter]
      split <;> exact ⟨rfl, rfl⟩
  | _ => exact ⟨rfl, rfl⟩

/-- **A run of edits acts on the outline step by step**, and leaves the formulas and the properties
alone. -/
theorem outline_foldl_apply {es : List Edit} (plain : ∀ e ∈ es, e.Plain) {t : Text}
    (bare : (outline t).Bare) :
    outline (es.foldl Edit.apply t) = es.foldl Edit.act (outline t) ∧
      (outline (es.foldl Edit.apply t)).Bare ∧
        (outline (es.foldl Edit.apply t)).formulas = (outline t).formulas ∧
          (outline (es.foldl Edit.apply t)).properties = (outline t).properties := by
  induction es generalizing t with
  | nil => exact ⟨rfl, bare, rfl, rfl⟩
  | cons e es ih =>
      have step := outline_apply (plain e List.mem_cons_self) bare
      have bare' : (outline (e.apply t)).Bare := by
        rw [step]
        exact bare_act e bare
      obtain ⟨run, last, formulas, properties⟩ :=
        ih (fun e' he => plain e' (List.mem_cons_of_mem _ he)) bare'
      obtain ⟨formulas', properties'⟩ := formulas_act e (outline t)
      rw [step] at run formulas properties
      exact ⟨run, last, formulas.trans formulas', properties.trans properties'⟩

end Notebase
