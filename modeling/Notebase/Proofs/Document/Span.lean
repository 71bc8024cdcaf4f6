import Notebase.Document.Span
import Notebase.Proofs.Document.Entry

/-!
Where the parts of a document stand. Each part is cut out of the lines of the document, so its span
goes from one line boundary to another (`Span.onLines_of_lines`), and two parts that are a line with a
run of lines under it each do not overlap unless one of them opens inside the run of the other
(`prefix_of_runs`). So the spans of the blocks, of the first view and of its keys are nested as the
lines are (`spans_are_nested`).
-/

namespace Notebase

/-- Of two elements of a list with a run of further ones after each, one stands before the other
together with its run, if neither of the two belongs to a run. -/
theorem prefix_of_runs {α : Type} {p : α → Bool} {before before' rest rest' : List α} {a a' : α}
    (same : before ++ a :: rest = before' ++ a' :: rest') (ne : a ≠ a') (stop : p a = false)
    (stop' : p a' = false) :
    before ++ a :: rest.takeWhile p <+: before' ∨ before' ++ a' :: rest'.takeWhile p <+: before := by
  have run : ∀ {front back : List α} {b : α}, p b = false →
      (front ++ b :: back).takeWhile p <+: front := by
    intro front back b stop
    rw [takeWhile_append_stop (by simpa using stop)]
    exact List.takeWhile_prefix p
  -- Whichever element comes first, its run stops at the other one, which is outside of the run.
  induction before generalizing before' with
  | nil =>
      cases before' with
      | nil => exact absurd (List.cons.inj same).1 ne
      | cons b before' =>
          simp only [List.nil_append, List.cons_append, List.cons.injEq] at same
          obtain ⟨rfl, rfl⟩ := same
          exact .inl (List.cons_prefix_cons.mpr ⟨rfl, run stop'⟩)
  | cons b before ih =>
      cases before' with
      | nil =>
          simp only [List.nil_append, List.cons_append, List.cons.injEq] at same
          obtain ⟨rfl, rfl⟩ := same
          exact .inr (List.cons_prefix_cons.mpr ⟨rfl, run stop⟩)
      | cons b' before' =>
          simp only [List.cons_append, List.cons.injEq] at same
          obtain ⟨rfl, same⟩ := same
          exact (ih same).imp (fun h => List.cons_prefix_cons.mpr ⟨rfl, h⟩)
            fun h => List.cons_prefix_cons.mpr ⟨rfl, h⟩

namespace Document

open Text

/-! ### Spans -/

/-- A span from one line boundary of a text to a later one: it starts where a line starts, and ends
where a line starts or where the text ends. -/
structure Span.OnLines (t : Text) (s : Span) : Prop where
  start_lt : s.start < s.stop
  stop_le : s.stop ≤ t.length
  start : isLineStart t s.start = true
  stop : isLineStart t s.stop = true ∨ s.stop = t.length

/-- A span inside another one. -/
def Span.Within (s outer : Span) : Prop := outer.start ≤ s.start ∧ s.stop ≤ outer.stop

/-- Two spans that have no position in common. -/
def Span.Apart (s s' : Span) : Prop := s.stop ≤ s'.start ∨ s'.stop ≤ s.start

def KeySpan.span (k : KeySpan) : Span := ⟨k.start, k.stop⟩

/-- A key inside a span: its value comes after the start of its line, and the lines under it come
after its value. -/
structure KeySpan.Inside (k : KeySpan) (outer : Span) : Prop where
  start : outer.start ≤ k.start
  label : k.start < k.valueStart
  value : k.valueStart ≤ k.valueEnd
  children : k.valueEnd ≤ k.stop
  stop : k.stop ≤ outer.stop

theorem isLineStart_append {before : Text} (rest : Text) (complete : Complete before) :
    isLineStart (before ++ rest) before.length = true := by
  rw [isLineStart, List.take_left]
  rcases complete with rfl | ends
  · rfl
  · rw [terminated, beq_iff_eq] at ends
    simp [ends]

/-- What is cut out of a text at line boundaries. -/
theorem Span.onLines_of_cut {t before part after : Text} (text : t = before ++ part ++ after)
    (ne : part ≠ []) (front : Complete before) (back : after ≠ [] → Complete (before ++ part)) :
    Span.OnLines t ⟨before.length, before.length + part.length⟩ := by
  have some := List.length_pos_of_ne_nil ne
  subst text
  refine ⟨by simpa using some, by simp, ?_, ?_⟩
  · rw [List.append_assoc]
    exact isLineStart_append _ front
  · rw [← List.length_append]
    by_cases last : after = []
    · exact .inr (by rw [last, List.append_nil])
    · exact .inl (isLineStart_append _ (back last))

/-- Lines that are cut out of the lines of a text. -/
theorem Span.onLines_of_lines {t : Text} {before parts after : List Text}
    (lines : t.lines = before ++ parts ++ after) (ne : parts ≠ []) :
    Span.OnLines t ⟨before.flatten.length, before.flatten.length + parts.flatten.length⟩ := by
  have text : t = before.flatten ++ parts.flatten ++ after.flatten := by
    rw [← flatten_lines t, lines, List.flatten_append, List.flatten_append]
  obtain ⟨-, -, back⟩ := lines_eq_append lines
  have front := (lines_eq_append (List.append_assoc .. ▸ lines)).2.2
  have apart := (lines_eq_append (lines_eq_append (List.append_assoc .. ▸ lines)).2.1).1
  refine Span.onLines_of_cut text (fun none => ne ?_) (front (by simp [ne])) fun some => ?_
  · rw [← apart, none, lines_nil]
  · rw [← List.flatten_append]
    exact back fun none => some (by rw [none, List.flatten_nil])

/-- Lines that come later stand further on. -/
theorem length_le_of_prefix {before parts before' : List Text} (h : before ++ parts <+: before') :
    before.flatten.length + parts.flatten.length ≤ before'.flatten.length := by
  obtain ⟨more, rfl⟩ := h
  simp only [List.flatten_append, List.length_append]
  omega

/-! ### Keys on several lines -/

/-- Where a search finds something, counted from the start of the lines. -/
theorem firstStart?_eq_some {α : Type} {found? : Text → Option α} {position start : Nat}
    {ls : List Text} {a : α} (h : firstStart? found? position ls = some (start, a)) :
    ∃ above below, ls = above ++ below ∧ below ≠ [] ∧ start = position + above.flatten.length ∧
      found? below.flatten = some a := by
  induction ls generalizing position with
  | nil => cases h
  | cons line rest ih =>
      rw [firstStart?] at h
      split at h
      · next found =>
          cases h
          exact ⟨[], line :: rest, rfl, List.cons_ne_nil _ _, rfl, found⟩
      · obtain ⟨above, below, rfl, ne, rfl, present⟩ := ih h
        refine ⟨line :: above, below, rfl, ne, ?_, present⟩
        rw [List.flatten_cons, List.length_append, Nat.add_assoc]

def reach (p : Text → Bool) (rest : Text) : Text :=
  content rest ++ (ending rest).take 1 ++ ((lines (ending rest).tail).takeWhile p).flatten

def beyond (p : Text → Bool) (rest : Text) : Text :=
  ((lines (ending rest).tail).dropWhile p).flatten

theorem reach_append_beyond (p : Text → Bool) (rest : Text) : reach p rest ++ beyond p rest = rest := by
  have below : ((lines (ending rest).tail).takeWhile p).flatten ++ beyond p rest =
      (ending rest).tail := by
    rw [beyond, ← List.flatten_append, List.takeWhile_append_dropWhile, flatten_lines]
  have take_eq : (ending rest).take 1 ++ (ending rest).tail = ending rest := by
    rw [← List.drop_one, List.take_append_drop]
  rw [reach, List.append_assoc, below, List.append_assoc, take_eq]
  exact List.takeWhile_append_dropWhile

theorem length_reach (p : Text → Bool) (rest : Text) : (reach p rest).length =
    (content rest).length + ((ending rest).take 1).length +
      ((lines (ending rest).tail).takeWhile p).flatten.length := by
  rw [reach, List.length_append, List.length_append]

/-- What reaches to further lines ends with a line end. -/
theorem terminated_reach {p : Text → Bool} {rest : Text} (more : beyond p rest ≠ []) :
    terminated (reach p rest) = true := by
  have cut := (List.takeWhile_append_dropWhile (p := p) (l := lines (ending rest).tail)).symm
  have below := (lines_eq_append cut).2.2 fun none => more (by rw [beyond, none, List.flatten_nil])
  cases ending_eq : ending rest with
  | nil => exact absurd (by rw [beyond, ending_eq]; rfl) more
  | cons c tail =>
      have isEnd : c = '\n' := by
        have first := head?_dropWhile (p := (· != '\n')) (l := rest) c
          (by rw [← ending, ending_eq]; rfl)
        simpa using first
      rw [reach, ending_eq, isEnd]
      rw [ending_eq] at below
      have whole := Complete.append (.inr (terminated_append_newline (content rest))) below
      exact whole.resolve_left (by simp)

/-! ### Blocks -/

theorem onLines_of_block? {key t : Text} {b : Block} (found : block? key t = some b) :
    b.span.OnLines t :=
  Span.onLines_of_lines (lines_of_block? found) (List.cons_ne_nil _ _)

/-- A block stands on whole lines. -/
theorem onLines_of_wideBlockSpan? {key t : Text} {s : Span} (found : wideBlockSpan? key t = some s) :
    s.OnLines t := by
  rw [wideBlockSpan?, Option.map_eq_some_iff] at found
  obtain ⟨⟨start, rest⟩, first, rfl⟩ := found
  obtain ⟨above, below, lines, ne, rfl, written⟩ := firstStart?_eq_some first
  let p : Text → Bool := (!isTopKey ·)
  have text : t = above.flatten ++ (key ++ [':'] ++ reach p rest) ++ beyond p rest := by
    have flatten_eq := after?_eq_some_iff.mp written
    rw [← flatten_lines t, lines, List.flatten_append, flatten_eq, List.append_assoc,
      List.append_assoc,
      List.append_assoc, reach_append_beyond, List.append_assoc]
  have stop : t.length - (beyond p rest).length =
      above.flatten.length + (key ++ [':'] ++ reach p rest).length := by
    rw [text]
    simp only [List.length_append]
    omega
  have cut := Span.onLines_of_cut text (by simp) ((lines_eq_append lines).2.2 ne) fun more => by
    rw [← List.append_assoc]
    exact .inr (terminated_append_of _ (terminated_reach more))
  rw [← stop] at cut
  rw [Nat.zero_add]
  exact cut

theorem onLines_of_blockSpan? {key t : Text} {s : Span} (found : blockSpan? key t = some s) :
    s.OnLines t := by
  rw [blockSpan?] at found
  split at found
  · exact onLines_of_wideBlockSpan? found
  · obtain ⟨b, present, rfl⟩ := Option.map_eq_some_iff.mp found
    exact onLines_of_block? present

/-- A key on one line is looked for line by line. -/
theorem exists_block_of_blockSpan? {key t : Text} {s : Span} (name : isKeyName key = true)
    (found : blockSpan? key t = some s) : ∃ b, block? key t = some b ∧ b.span = s := by
  rw [blockSpan?, if_neg (by simpa using plain_of_isKeyName name)] at found
  exact Option.map_eq_some_iff.mp found

/-- **The blocks of two keys** do not overlap. -/
theorem apart_of_blocks {key key' t : Text} {b b' : Block} (name : isKeyName key = true)
    (name' : isKeyName key' = true) (ne : key ≠ key') (found : block? key t = some b)
    (found' : block? key' t = some b') : b.span.Apart b'.span := by
  rw [block?, Option.map_eq_some_iff] at found found'
  obtain ⟨⟨before, header, rest⟩, split, rfl⟩ := found
  obtain ⟨⟨before', header', rest'⟩, split', rfl⟩ := found'
  obtain ⟨lines, isHeader, -⟩ := splitFirst?_eq_some split
  obtain ⟨lines', isHeader', -⟩ := splitFirst?_eq_some split'
  have other : header ≠ header' := by
    rintro rfl
    exact ne (startsWithKey_unique name name' isHeader isHeader')
  have stop : ∀ {key line : Text}, isKeyName key = true → startsWithKey key line = true →
      (!isTopKey line) = false := fun name passes => by
    rw [isTopKey_of_startsWithKey name passes, Bool.not_true]
  exact (prefix_of_runs (lines.symm.trans lines') other (stop name isHeader)
    (stop name' isHeader')).imp length_le_of_prefix length_le_of_prefix

/-! ### The view and its keys -/

theorem span_keySpan (v : View) (k : Key) : (v.keySpan k).span =
    ⟨(v.before ++ k.before).flatten.length,
      (v.before ++ k.before).flatten.length + (k.line :: k.children).flatten.length⟩ := by
  simp only [View.keySpan, KeySpan.span, Key.line, List.flatten_append, List.flatten_cons,
    List.length_append, Nat.add_assoc]

/-- A key that is found: a line with its label, and the run of deeper lines after it. -/
theorem run_of_key? {v : View} {key : Text} {k : Key} (found : v.key? key = some k) :
    ∃ rest, v.lines = k.before ++ k.line :: rest ∧
      k.children = rest.takeWhile (isDeeper (v.dash + 2)) ∧ IsLabel v.dash key k.label := by
  rw [View.key?, Option.bind_eq_some_iff] at found
  obtain ⟨⟨before, line, rest⟩, split, present⟩ := found
  obtain ⟨⟨label, written⟩, cut, rfl⟩ := Option.map_eq_some_iff.mp present
  have whole : label ++ content written ++ ending written = line := by
    rw [List.append_assoc, content, ending, List.takeWhile_append_dropWhile]
    exact append_of_splitLabel? cut
  rw [Key.line, whole]
  exact ⟨rest, (splitFirst?_eq_some split).1, rfl, (splitLabel?_eq_some_iff.mp cut).1⟩

theorem isKeyRow_line_of_isLabel {k : Key} {dash : Nat} {key : Text}
    (isLabel : IsLabel dash key k.label) : isKeyRow dash key k.line = true := by
  refine isKeyRow_iff.mpr ⟨k.label, isLabel, ?_⟩
  rw [Key.line, List.append_assoc]
  exact List.prefix_append _ _

section Found

variable {t : Text} {v : View} (found : firstView? t = some v)
include found

theorem onLines_of_firstView? : v.span.OnLines t :=
  Span.onLines_of_lines (lines_of_firstView? found) (List.cons_ne_nil _ _)

/-- **The first view** stands in the block of views. -/
theorem within_views : ∃ s, blockSpan? "views".toList t = some s ∧ v.span.Within s := by
  obtain ⟨s, sited⟩ := sited_of_firstView? found
  refine ⟨_, by rw [blockSpan?, if_neg (by decide), sited.block?, Option.map_some], ?_⟩
  rw [Span.Within, View.span, Block.span, Block.lines, sited.before]
  simp only [List.flatten_append, List.flatten_cons, List.length_append]
  omega

/-- A key stands inside its view, on whole lines. -/
theorem nested_of_key? {key : Text} {k : Key} (present : v.key? key = some k) :
    (v.keySpan k).Inside v.span ∧ (v.keySpan k).span.OnLines t := by
  have lines := lines_of_key? present
  obtain ⟨-, -, -, isLabel⟩ := run_of_key? present
  have positive := List.length_pos_of_ne_nil isLabel.ne_nil
  constructor
  · have length := congrArg (fun ls : List Text => ls.flatten.length) lines
    simp only [Key.line, List.flatten_append, List.flatten_cons, List.length_append] at length
    constructor
    all_goals simp only [View.keySpan, View.span]
    all_goals omega
  · have cut : t.lines = (v.before ++ k.before) ++ (k.line :: k.children) ++ (k.after ++ v.after) := by
      rw [lines_of_firstView? found, lines]
      simp only [List.append_assoc, List.cons_append]
    rw [span_keySpan]
    exact Span.onLines_of_lines cut (List.cons_ne_nil _ _)

/-- A key on several lines stands inside its view, on whole lines. -/
theorem nested_of_wideKeySpan? {key : Text} {k : KeySpan} (present : v.wideKeySpan? key = some k) :
    k.Inside v.span ∧ k.span.OnLines t := by
  rw [View.wideKeySpan?, Option.map_eq_some_iff] at present
  obtain ⟨⟨start, label, rest⟩, first, rfl⟩ := present
  obtain ⟨above, below, lines, ne, rfl, written⟩ := firstStart?_eq_some first
  have label_ne := (splitLabel?_eq_some_iff.mp written).1.ne_nil
  have positive := List.length_pos_of_ne_nil label_ne
  have reached := length_reach (isDeeper v.indent) rest
  have label_eq : label ++ reach (isDeeper v.indent) rest ++ beyond (isDeeper v.indent) rest =
      below.flatten := by
    rw [List.append_assoc, reach_append_beyond, append_of_splitLabel? written]
  have ends : beyond (isDeeper v.indent) rest ≠ [] →
      terminated (reach (isDeeper v.indent) rest) = true := terminated_reach
  generalize reach (isDeeper v.indent) rest = under at reached label_eq ends
  generalize beyond (isDeeper v.indent) rest = more at label_eq ends
  constructor
  · have length := congrArg (fun ls : List Text => ls.flatten.length) lines
    simp only [List.flatten_append, ← label_eq, List.length_append] at length
    constructor
    all_goals simp only [View.span]
    all_goals omega
  · have whole := lines_of_firstView? found
    have cut : t.lines = (v.before ++ above) ++ (below ++ v.after) := by
      rw [whole, lines]
      simp only [List.append_assoc]
    have text : t = (v.before ++ above).flatten ++ (label ++ under) ++ (more ++ v.after.flatten) := by
      have rest : (below ++ v.after).flatten = label ++ under ++ more ++ v.after.flatten := by
        rw [List.flatten_append, label_eq]
      rw [← flatten_lines t, cut, List.flatten_append, rest]
      simp only [List.append_assoc]
    -- What follows starts a line: the lines reached end one, or the view ends with them.
    have back : more ++ v.after.flatten ≠ [] →
        Complete ((v.before ++ above).flatten ++ (label ++ under)) := by
      intro some
      by_cases last : more = []
      · rw [last, List.append_nil] at label_eq
        rw [label_eq, ← List.flatten_append, List.append_assoc, ← lines]
        refine (lines_eq_append whole).2.2 fun none => some ?_
        rw [last, none, List.flatten_nil, List.append_nil]
      · rw [← List.append_assoc]
        exact .inr (terminated_append_of _ (ends last))
    have onLines := Span.onLines_of_cut text (by simp [label_ne])
      ((lines_eq_append cut).2.2 (by simp [ne])) back
    simp only [List.flatten_append, List.length_append, reached] at onLines
    simpa only [KeySpan.span, View.span, Nat.add_assoc] using onLines

/-- **A key** stands in the view. -/
theorem nested_of_keySpan? {key : Text} {k : KeySpan} (present : v.keySpan? key = some k) :
    k.Inside v.span ∧ k.span.OnLines t := by
  rw [View.keySpan?] at present
  split at present
  · exact nested_of_wideKeySpan? found present
  · obtain ⟨k, isKey, rfl⟩ := Option.map_eq_some_iff.mp present
    exact nested_of_key? found isKey

end Found

theorem exists_key_of_keySpan? {v : View} {key : Text} {k : KeySpan} (name : isKeyName key = true)
    (found : v.keySpan? key = some k) : ∃ k', v.key? key = some k' ∧ v.keySpan k' = k := by
  rw [View.keySpan?, if_neg (by simpa using plain_of_isKeyName name)] at found
  exact Option.map_eq_some_iff.mp found

/-- **Two keys** of the view do not overlap. -/
theorem apart_of_keys {v : View} {key key' : Text} {k k' : Key} (name : isKeyName key = true)
    (name' : isKeyName key' = true) (ne : key ≠ key') (found : v.key? key = some k)
    (found' : v.key? key' = some k') : (v.keySpan k).span.Apart (v.keySpan k').span := by
  obtain ⟨rest, lines, under, isLabel⟩ := run_of_key? found
  obtain ⟨rest', lines', under', isLabel'⟩ := run_of_key? found'
  have isKey := isKeyRow_line_of_isLabel isLabel
  have isKey' := isKeyRow_line_of_isLabel isLabel'
  have other : k.line ≠ k'.line := fun same =>
    ne (isKeyRow_unique name name' isKey (same ▸ isKey'))
  have runs := prefix_of_runs (lines.symm.trans lines') other (not_isDeeper_of_isKeyRow name isKey)
    (not_isDeeper_of_isKeyRow name' isKey')
  have inView : ∀ {run before : List Text}, run <+: before → v.before ++ run <+: v.before ++ before :=
    fun h => (List.prefix_append_right_inj _).mpr h
  rw [span_keySpan, span_keySpan, under, under']
  refine runs.imp (fun h => length_le_of_prefix ?_) fun h => length_le_of_prefix ?_
  · rw [List.append_assoc]
    exact inView h
  · rw [List.append_assoc]
    exact inView h

/-- **The parts of a document are nested**, whatever its text. Every block, the first view and every
key of the view go from one line boundary to another; the view stands in the block of views and the
keys stand in the view, each with its value between the start of its line and the lines under it; and
two keys that are identifiers have no position in common, be they keys of the top level or keys of
the view. -/
theorem spans_are_nested (t : Text) :
    (∀ key, ∀ s ∈ blockSpan? key t, s.OnLines t) ∧
    (∀ key key', isKeyName key = true → isKeyName key' = true → key ≠ key' →
      ∀ s ∈ blockSpan? key t, ∀ s' ∈ blockSpan? key' t, s.Apart s') ∧
    ∀ v ∈ firstView? t,
      v.span.OnLines t ∧ (∃ s ∈ blockSpan? "views".toList t, v.span.Within s) ∧
      (∀ key, ∀ k ∈ v.keySpan? key, k.Inside v.span ∧ k.span.OnLines t) ∧
      ∀ key key', isKeyName key = true → isKeyName key' = true → key ≠ key' →
        ∀ k ∈ v.keySpan? key, ∀ k' ∈ v.keySpan? key', k.span.Apart k'.span := by
  refine ⟨fun key s found => onLines_of_blockSpan? found, ?_, fun v found =>
    ⟨onLines_of_firstView? found, within_views found, fun key k mem => nested_of_keySpan? found mem,
      ?_⟩⟩
  · intro key key' name name' ne s found s' found'
    obtain ⟨b, present, rfl⟩ := exists_block_of_blockSpan? name found
    obtain ⟨b', present', rfl⟩ := exists_block_of_blockSpan? name' found'
    exact apart_of_blocks name name' ne present present'
  · intro key key' name name' ne k mem k' mem'
    obtain ⟨k, isKey, rfl⟩ := exists_key_of_keySpan? name mem
    obtain ⟨k', isKey', rfl⟩ := exists_key_of_keySpan? name' mem'
    exact apart_of_keys name name' ne isKey isKey'

/-- A block of filters in front of two views, of which the first has two keys. -/
theorem shelf_spans_are_nested :
    let t := "filters:\n  and:\n    - x\nviews:\n- type: table\n  order:\n    - a\n\n- type: map".toList
    ∃ filters ∈ blockSpan? "filters".toList t, ∃ views ∈ blockSpan? "views".toList t,
      filters.Apart views ∧ ∃ v ∈ firstView? t, v.span = ⟨31, 62⟩ ∧ v.span.OnLines t ∧
        ∃ type ∈ v.keySpan? "type".toList, ∃ order ∈ v.keySpan? "order".toList,
          type.Inside v.span ∧ order.span.OnLines t ∧ type.span.Apart order.span := by
  intro t
  obtain ⟨-, blocks, view⟩ := spans_are_nested t
  have filters : blockSpan? "filters".toList t = some ⟨0, 24⟩ := by decide
  have views : blockSpan? "views".toList t = some ⟨24, 74⟩ := by decide
  have spans : (firstView? t).map (fun v =>
      (v.span, v.keySpan? "type".toList, v.keySpan? "order".toList)) =
        some (⟨31, 62⟩, some ⟨31, 39, 44, 45⟩, some ⟨45, 53, 53, 62⟩) := by decide
  obtain ⟨v, found, eq⟩ := Option.map_eq_some_iff.mp spans
  simp only [Prod.mk.injEq] at eq
  obtain ⟨span, type, order⟩ := eq
  obtain ⟨onLines, -, keys, apart⟩ := view v found
  exact ⟨_, filters, _, views, blocks _ _ (by decide) (by decide) (by decide) _ filters _ views,
    v, found, span, onLines, _, type, _, order, (keys _ _ type).1, (keys _ _ order).2,
    apart _ _ (by decide) (by decide) (by decide) _ type _ order⟩

end Document

end Notebase
