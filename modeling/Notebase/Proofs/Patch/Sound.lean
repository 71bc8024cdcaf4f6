import Notebase.Proofs.Patch.Aspect
import Notebase.Proofs.Patch.Settle

/-!
Documents that show something. Such a document has filters, and its first view has a kind, a name
and columns that are all different. No edit that an instruction can lead to takes any of that away
(`Sound.foldl_apply`). The filters need more than one predicate somewhere: it is one that no
argument of a call can swallow when another value is written there.
-/

namespace Notebase

open Document

/-- Two elements of a list stand one before the other, or they are the same. -/
theorem append_cons_eq_append_cons {α : Type} {a b c d : List α} {x y : α}
    (eq : a ++ x :: b = c ++ y :: d) :
    (∃ m, c = a ++ x :: m ∧ b = m ++ y :: d) ∨ (a = c ∧ x = y ∧ b = d) ∨
      ∃ m, a = c ++ y :: m ∧ d = m ++ x :: b := by
  rcases List.append_eq_append_iff.mp eq with ⟨gap, rfl, same⟩ | ⟨gap, rfl, joined⟩
  · cases gap with
    | nil =>
        obtain ⟨rfl, rfl⟩ := List.cons.inj same
        exact .inr (.inl ⟨(List.append_nil a).symm, rfl, rfl⟩)
    | cons z m =>
        obtain ⟨rfl, rfl⟩ := List.cons.inj same
        exact .inl ⟨m, rfl, rfl⟩
  · cases gap with
    | nil =>
        obtain ⟨rfl, rfl⟩ := List.cons.inj joined
        exact .inr (.inl ⟨List.append_nil c, rfl, rfl⟩)
    | cons z m =>
        obtain ⟨rfl, rfl⟩ := List.cons.inj joined
        exact .inr (.inr ⟨m, rfl, rfl⟩)

namespace Document

/-! ### Filters with a predicate -/

/-- A list item among the lines of the filters that no double quote stands above. -/
def Listed (ls : List Text) : Prop :=
  ∃ above item below, ls = above ++ item :: below ∧ (∀ l ∈ above, '"' ∉ l) ∧
    (listItem? item).isSome

/-- Whether the first list item among some lines is one that no double quote stands above. -/
def listed (ls : List Text) : Bool :=
  (splitFirst? (fun l => (listItem? l).isSome) ls).any fun (above, _) =>
    above.all (!·.contains '"')

theorem Listed.of_listed {ls : List Text} (h : listed ls = true) : Listed ls := by
  rw [listed, Option.any_eq_true] at h
  obtain ⟨⟨above, item, below⟩, split, clear⟩ := h
  obtain ⟨parts, isItem, -⟩ := splitFirst?_eq_some split
  refine ⟨above, item, below, parts, fun l hl => ?_, isItem⟩
  simpa using List.all_eq_true.mp clear l hl

/-- A line is an item exactly if a dash stands behind at least one space. -/
theorem isSome_listItem?_iff {line : Text} :
    (listItem? line).isSome = true ↔ ∃ n, Text.spaces (n + 1) ++ "- ".toList <+: line := by
  rw [listItem?]
  constructor
  · intro h
    split at h
    · next t content_eq =>
        rw [Option.isSome_map, Option.isSome_iff_exists] at h
        obtain ⟨rest, front⟩ := h
        have whole := spaces_append_dropWhile t
        rw [Text.after?_eq_some_iff.mp front] at whole
        refine ⟨Text.indentation t, List.IsPrefix.trans ⟨rest, ?_⟩ (List.takeWhile_prefix (· != '\n'))⟩
        rw [show line.takeWhile (· != '\n') = ' ' :: t from content_eq, Text.spaces,
          List.replicate_succ,
          List.append_assoc, List.cons_append]
        exact congrArg (' ' :: ·) whole
    · cases h
  · rintro ⟨n, rest, rfl⟩
    have plain : '\n' ∉ Text.spaces (n + 1) ++ "- ".toList := by simp [Text.spaces]
    have item : (Text.spaces n ++ "- ".toList ++ Text.content rest).dropWhile (· == ' ') =
        "- ".toList ++ Text.content rest := by
      rw [List.append_assoc, List.dropWhile_append_of_pos (by simp [Text.spaces])]
      rfl
    have eq : Text.content (Text.spaces (n + 1) ++ "- ".toList ++ rest) =
        Text.spaces (n + 1) ++ "- ".toList ++ Text.content rest :=
      List.takeWhile_append_of_pos fun c hc => by simpa using fun h : c = '\n' => plain (h ▸ hc)
    rw [eq, Text.spaces, List.replicate_succ, List.cons_append,
      List.cons_append]
    show ((Text.after? "- ".toList ((Text.spaces n ++ "- ".toList ++ Text.content rest).dropWhile
      (· == ' '))).map (dropEndWhile isSpaceOrTab)).isSome = true
    rw [item, Text.after?_eq_some_iff.mpr rfl]
    rfl

/-- What makes a line a list item stands before any call on it. -/
theorem isSome_listItem?_callFront {test u x x' : Text}
    (h : (listItem? (u ++ callFront test ++ x)).isSome = true) :
    (listItem? (u ++ callFront test ++ x')).isSome = true := by
  rw [isSome_listItem?_iff] at h ⊢
  obtain ⟨n, front⟩ := h
  have out : 'f' ∉ Text.spaces (n + 1) ++ "- ".toList := by simp [Text.spaces]
  have call : ∀ y, u ++ callFront test ++ y =
      u ++ 'f' :: ("ile.".toList ++ test ++ "(\"".toList ++ y) := by simp [callFront_def]
  rw [call, prefix_mark_iff out] at front
  refine ⟨n, ?_⟩
  rw [call, prefix_mark_iff out]
  exact front

/-- A list with an item on it has an entry. -/
theorem Listed.ne_nil {ls : List Text} (h : Listed ls) : (ls.filterMap listItem?).map unquote ≠ [] := by
  obtain ⟨above, item, below, rfl, -, isItem⟩ := h
  obtain ⟨entry, found⟩ := Option.isSome_iff_exists.mp isItem
  have mem : entry ∈ (above ++ item :: below).filterMap listItem? :=
    List.mem_filterMap.mpr ⟨item, by simp, found⟩
  intro none
  rw [List.map_eq_nil_iff] at none
  rw [none] at mem
  cases mem

theorem predicateLine_isItem (predicate line : Text) :
    (listItem? (predicateLine predicate line)).isSome = true := by
  rw [isSome_listItem?_iff]
  refine ⟨Text.indentation line + 1, ?_⟩
  rw [predicateLine, List.append_assoc]
  exact List.prefix_append _ _

/-- **Setting a predicate leaves a list item** that no quote stands above. -/
theorem Listed.setPredicate {test value : Text} {ls : List Text} (noEnd : '\n' ∉ test)
    (plain : '\n' ∉ value) (lines_eq : Text.lines ls.flatten = ls) (block :
    IsBlock "filters".toList ls)
    (h : Listed ls) : Listed (Text.lines (setPredicate test value ls)) := by
  obtain ⟨above, item, below, parts, clear, isItem⟩ := h
  rw [Document.setPredicate]
  split
  · next before rest found =>
      obtain ⟨a, call, -⟩ := splitCall?_eq_some_iff.mp found
      have closed : rest ≠ [] := by
        obtain ⟨r, rfl⟩ := call.closed
        simp
      obtain ⟨front, mid, after, w, x, x', old, new⟩ := Text.lines_exchange before a
        (plain_callFront noEnd) (by simp [callFront_def]) (plain_argumentAfter before plain) closed
      rw [← call.text, lines_eq, parts] at old
      rw [new]
      rcases append_cons_eq_append_cons old with ⟨m, rfl, -⟩ | ⟨rfl, rfl, -⟩ | ⟨m, rfl, -⟩
      · -- The item stands above the line of the call.
        exact ⟨above, item, m ++ (w ++ callFront test ++ x') :: after, by simp, clear, isItem⟩
      · -- The item is the line of the call.
        exact ⟨above, _, after, rfl, clear, isSome_listItem?_callFront isItem⟩
      · -- No call stands above the item, for it would have a quote.
        exact absurd (by simp [callFront_def]) (clear (w ++ callFront test ++ x) (by simp))
  · next none =>
      split
      · rw [lines_eq]
        exact ⟨above, item, below, parts, clear, isItem⟩
      · next before line after split =>
          obtain ⟨parts', join, -⟩ := splitFirst?_eq_some split
          obtain ⟨lines, -, -⟩ := isBlock_insert lines_eq block noEnd plain parts' join
          rw [lines]
          rw [parts] at parts'
          rcases append_cons_eq_append_cons parts' with ⟨m, rfl, -⟩ | ⟨rfl, rfl, -⟩ | ⟨m, rfl, -⟩
          · exact ⟨above, item, m ++ line :: predicateLine (filePredicate test value) line :: after,
              by simp, clear, isItem⟩
          · exact ⟨above, item, _, rfl, clear, isItem⟩
          · -- The new predicate is an item above the old one.
            refine ⟨before ++ [line], predicateLine (filePredicate test value) line, after, by simp,
              fun l hl => clear l ?_, predicateLine_isItem _ line⟩
            rw [List.append_cons]
            exact List.mem_append_left _ hl

/-! ### Documents that show something -/

def viewKinds : List Text := ["table", "cards", "list", "map"].map String.toList

/-- A document with filters, whose first view has a kind, a name and distinct columns, and opens
with no sorting and no grouping. -/
structure Sound (t : Text) : Prop where
  bare : (outline t).Bare
  kind : ∃ kind ∈ viewKinds, viewType? t = some kind
  name : (viewName? t).isSome
  filters : ∃ ls ∈ (outline t).filters, Listed ls
  distinct : (viewOrder t).Nodup

theorem Sound.filterEntries_ne_nil {t : Text} (ok : Sound t) : filterEntries t ≠ [] := by
  obtain ⟨ls, mem, listed⟩ := ok.filters
  rw [filterEntries_eq, mem]
  exact listed.ne_nil

/-- A kind is read back as it was written. -/
theorem said?_withValue_kind {kind : Text} (isKind : kind ∈ viewKinds) (e : Entry) :
    (e.withValue kind).said? = some kind := by
  have unpadded : ∀ kind ∈ viewKinds, Entry.said? ⟨[], kind.dropWhile isSpaceOrTab, []⟩ =
    some kind := by
    decide
  exact unpadded kind isKind

/-- Marks around a name are taken off. -/
theorem unquote_quoted (name : Text) : unquote ('"' :: name ++ ['"']) = name := by
  have whole : Text.trim ('"' :: name ++ ['"']) = '"' :: name ++ ['"'] := by
    rw [Text.trim, Text.trimBy, List.cons_append, List.dropWhile_cons_of_neg (by decide),
      Text.dropEndWhile_eq_rdropWhile, ← List.cons_append,
      List.rdropWhile_concat_neg _ _ _ (by decide)]
  have single : isBetween '\'' ('"' :: name ++ ['"']) = false := by simp [isBetween]
  have last : ('"' :: name ++ ['"']).getLast? = some '"' := List.getLast?_concat
  have double : isBetween '"' ('"' :: name ++ ['"']) = true := by
    rw [isBetween, last]
    simp
  rw [unquote, whole, single, if_neg (by simp), double, if_pos rfl, List.cons_append, List.tail_cons,
    List.dropLast_concat]

theorem isSome_said?_quoted {label name : Text} (children : List Text) (ne : name ≠ []) :
    (Entry.said? ⟨label, '"' :: name ++ ['"'], children⟩).isSome = true := by
  rw [Entry.said?, unquote_quoted]
  cases name with
  | nil => exact absurd rfl ne
  | cons c t => rfl

end Document

/-! ### Edits that keep it so -/

/-- An edit that a request can lead to: its kind is one of a view, its name is written, and its
references can be read off their rows. -/
def Edit.Fit : Edit → Prop
  | .viewType kind => kind ∈ viewKinds
  | .addColumns refs => ∀ ref ∈ refs, Tidy ref
  | .removeColumns refs => ∀ ref ∈ refs, Tidy ref
  | .rename name => name ≠ []
  | _ => True

namespace Document

theorem viewType?_eq (t : Text) :
    viewType? t = ((outline t).entryAt? .type).bind Entry.said? := viewValue?_eq t .type

theorem viewName?_eq (t : Text) :
    viewName? t = ((outline t).entryAt? .name).bind Entry.said? := viewValue?_eq t .name

/-- The entry that an act on the view leaves for a key. -/
theorem entryAt?_onView {o : Outline} {p : Panel} (view : o.view = some p) (f : Panel → Panel)
    (key : ViewKey) : (o.onView f).entryAt? key = (f p).entry key := by
  rw [Outline.entryAt?, Outline.onView, view, Option.map_some, Option.bind_some]

namespace Sound

variable {t : Text} {e : Edit} (ok : Sound t) (plain : e.Plain)
include ok plain

/-- An edit changes what a sound document says about the aspect of the edit only. -/
theorem sameBut : Outline.SameBut e.aspect (outline t) (outline (e.apply t)) := by
  rw [outline_apply plain ok.bare]
  exact e.sameBut_act (outline t)

theorem bare_apply : (outline (e.apply t)).Bare := by
  rw [outline_apply plain ok.bare]
  exact bare_act e ok.bare

/-- After any fitting edit the view has one of the known kinds. -/
theorem kind_apply (fit : e.Fit) : ∃ kind ∈ viewKinds, viewType? (e.apply t) = some kind := by
  obtain ⟨kind, isKind, found⟩ := ok.kind
  by_cases aspect : e.aspect = some .type
  · cases e with
    | viewType kind' =>
        rw [viewType?_eq, Option.bind_eq_some_iff] at found
        obtain ⟨entry, type_eq, -⟩ := found
        obtain ⟨p, view, present⟩ := Option.bind_eq_some_iff.mp type_eq
        refine ⟨kind', fit, ?_⟩
        rw [viewType?_eq, outline_apply plain ok.bare,
          Edit.act_eq_onView aspect, entryAt?_onView view]
        show ((p.setType kind').entry .type).bind Entry.said? = some kind'
        rw [Panel.setType, present]
        dsimp only
        rw [Panel.entry_set_self, Option.bind_some, said?_withValue_kind fit]
    | _ => cases aspect
  · refine ⟨kind, isKind, ?_⟩
    rw [viewType?_eq, (ok.sameBut plain).entry .type aspect, ← viewType?_eq]
    exact found

/-- After any fitting edit the view has a name. -/
theorem name_apply (fit : e.Fit) : (viewName? (e.apply t)).isSome = true := by
  have given := ok.name
  by_cases aspect : e.aspect = some .name
  · cases e with
    | rename name =>
        rw [viewName?_eq, Option.isSome_bind, Option.any_eq_true] at given
        obtain ⟨entry, name_eq, -⟩ := given
        obtain ⟨p, view, found⟩ := Option.bind_eq_some_iff.mp name_eq
        have written : name.replaceChar '"' ['\\', '"'] ≠ [] := by
          cases name with
          | nil => exact absurd rfl fit
          | cons c t =>
              rw [Text.replaceChar, List.flatMap_cons]
              split <;> simp
        rw [viewName?_eq, outline_apply plain ok.bare, Edit.act_eq_onView aspect,
          entryAt?_onView view]
        show (((p.rename name).entry .name).bind Entry.said?).isSome = true
        rw [Panel.rename, found]
        dsimp only
        rw [Panel.entry_set_self, Option.bind_some, Entry.withValue,
          (flush_quotedName name).split.2]
        exact isSome_said?_quoted _ written
    | _ => cases aspect
  · rw [viewName?_eq, (ok.sameBut plain).entry .name aspect, ← viewName?_eq]
    exact given

/-- After any edit the filters list something. -/
theorem filters_apply : ∃ ls ∈ (outline (e.apply t)).filters, Listed ls := by
  obtain ⟨ls, mem, isListed⟩ := ok.filters
  by_cases aspect : e.aspect = none
  · cases e with
    | filter test value =>
        have noEnd : '\n' ∉ test := plain.arguments test (by simp [Edit.arguments])
        have noEnd' : '\n' ∉ value := plain.arguments value (by simp [Edit.arguments])
        have block : IsBlock "filters".toList ls := isBlock_of_blockOf? mem
        refine ⟨_, ?_, isListed.setPredicate noEnd noEnd' (lines_of_filters mem) block⟩
        rw [outline_apply plain ok.bare]
        show ((outline t).setFilter test value).filters = _
        rw [Outline.setFilter, Option.mem_def.mp mem]
    | _ => cases aspect
  · rw [(ok.sameBut plain).filters aspect]
    exact ⟨ls, mem, isListed⟩

/-- After any fitting edit the columns are distinct. -/
theorem distinct_apply (fit : e.Fit) : (viewOrder (e.apply t)).Nodup := by
  by_cases aspect : e.aspect = some .order
  · have steady : e.Steady := by
      cases e with
      | addColumns refs => exact fit
      | removeColumns refs => exact fit
      | _ => cases aspect
    exact nodup_viewOrder_apply plain steady ok.bare ok.distinct
  · rw [viewOrder_eq, (ok.sameBut plain).entry .order aspect, ← viewOrder_eq]
    exact ok.distinct

/-- **An edit keeps a document sound.** -/
theorem apply (fit : e.Fit) : Sound (e.apply t) :=
  ⟨ok.bare_apply plain, ok.kind_apply plain fit, ok.name_apply plain fit, ok.filters_apply plain,
    ok.distinct_apply plain fit⟩

end Sound

/-- **A run of edits keeps a document sound.** -/
theorem Sound.foldl_apply {es : List Edit} (plain : ∀ e ∈ es, e.Plain) (fit : ∀ e ∈ es, e.Fit)
    {t : Text} (ok : Sound t) : Sound (es.foldl Edit.apply t) := by
  induction es generalizing t with
  | nil => exact ok
  | cons e es ih =>
      exact ih (fun e' he => plain e' (List.mem_cons_of_mem _ he))
        (fun e' he => fit e' (List.mem_cons_of_mem _ he))
        (ok.apply (plain e List.mem_cons_self) (fit e List.mem_cons_self))

end Document

/-! ### Patches -/

namespace Patch

/-- The steps of a patch have edits that keep a document sound. -/
theorem fit_steps (document instruction : Text) {r : Request}
    (kind : ∀ kind ∈ r.viewType, kind ∈ viewKinds) :
    ∀ e ∈ (steps (resolver document) instruction r).map Prod.snd, e.Fit := by
  have refs : ∀ names : Option (List Text),
      ∀ ref ∈ (names.getD []).map (resolver document), Tidy ref := by
    intro names ref hr
    obtain ⟨name, -, rfl⟩ := List.mem_map.mp hr
    exact tidy_resolver document name
  intro e he
  obtain ⟨⟨step, e⟩, mem, rfl⟩ := List.mem_map.mp he
  have said := mem_steps mem
  cases step with
  | viewType =>
      obtain ⟨value, h, rfl⟩ := said
      exact kind value (given?_eq_some h)
  | add =>
      obtain ⟨-, rfl⟩ := said
      exact refs _
  | remove =>
      obtain ⟨-, rfl⟩ := said
      exact refs _
  | rename =>
      obtain ⟨name, h, rfl⟩ := said
      show name ≠ []
      rintro rfl
      rw [given?_eq_some h] at h
      cases h
  | _ =>
      obtain ⟨_, -, rfl⟩ := said
      trivial

/-- **A patch keeps a document sound**, and its formulas and properties as they are. -/
theorem sound_patch {document instruction : Text} (oneLine : '\n' ∉ instruction)
    (ok : Sound document) :
    Sound (patch document instruction).1 ∧
      (outline (patch document instruction).1).formulas = (outline document).formulas ∧
      (outline (patch document instruction).1).properties = (outline document).properties := by
  have kinds : ∀ kind ∈ (Request.ofText (resolver document) instruction).viewType,
      kind ∈ viewKinds := by
    have words : ∀ kind ∈ ["cards", "list", "map", "table"].map String.toList,
        kind ∈ viewKinds := by decide
    exact fun kind mem => words kind (Request.mem_of_viewTypeOf mem)
  have plain := plain_steps document instruction (Request.plain_ofText document oneLine)
  have fit := fit_steps document instruction kinds
  rw [patch, patchWith, fst_applySteps]
  obtain ⟨-, -, formulas, properties⟩ := outline_foldl_apply plain ok.bare
  exact ⟨ok.foldl_apply plain fit, formulas, properties⟩

end Patch

end Notebase
