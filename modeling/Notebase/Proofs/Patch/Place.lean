import Notebase.Document.Span
import Notebase.Proofs.Document.Matching
import Notebase.Proofs.Patch.Columns
import Notebase.Proofs.Patch.Commute

/-!
Where an edit writes. An edit of the view exchanges the text of the first view for another one, and
an edit of the filters the text of their block. Every character around it stays where it was, also
when the edit removes columns one after another or writes at the end of the document
(`edit_writes_in_place`).
-/

namespace Notebase

open Document

/-! ### Stretches of a document -/

namespace Document

def Span.splice (s : Span) (new t : Text) : Text := t.take s.start ++ new ++ t.drop s.stop

theorem splice_append (a b c new : Text) :
    Span.splice ⟨a.length, a.length + b.length⟩ new (a ++ b ++ c) = a ++ new ++ c := by
  have front : (a ++ b ++ c).take a.length = a := by
    rw [List.append_assoc]
    exact List.take_left
  have back : (a ++ b ++ c).drop (a.length + b.length) = c := List.drop_left' List.length_append
  rw [Span.splice, front, back]

/-- What stands after the stretch stays the end of the text. -/
theorem Span.drop_suffix_splice (s : Span) (new t : Text) : t.drop s.stop <:+ s.splice new t :=
  List.suffix_append _ _

theorem View.replace_eq_splice {t : Text} {v : View} (found : firstView? t = some v) (new : Text) :
    v.replace new = v.span.splice new t := by
  conv_rhs => rw [← replace_lines_of_firstView? found]
  exact (splice_append _ _ _ new).symm

theorem Block.replace_eq_splice {key t : Text} {b : Block} (found : block? key t = some b)
    (new : Text) : b.replace new = b.span.splice new t := by
  conv_rhs => rw [← replace_lines_of_block? found]
  exact (splice_append _ _ _ new).symm

/-! ### Rows that a view is exchanged for -/

/-- Rows that a text says when they are written one below the other. -/
structure Whole (rs : List Text) : Prop where
  plain : Text.Plain rs
  written : rs ≠ []
  last : rs.getLast? ≠ some []

theorem ViewRows.whole {dash : Nat} {rs : List Text} (ok : ViewRows dash rs) : Whole rs :=
  ⟨ok.plain, ok.ne_nil, ok.last⟩

theorem Entry.Valid.whole {dash : Nat} {key : Text} {e : Entry} (valid : e.Valid dash key)
    (plain : Text.Plain e.rows) : Whole e.rows :=
  ⟨plain, List.cons_ne_nil _ _, valid.getLast?_ne []⟩

/-- Some of the rows can be exchanged. -/
theorem Whole.exchange {above old new below : List Text} (ok : Whole (above ++ old ++ below))
    (ok' : Whole new) : Whole (above ++ new ++ below) := by
  refine ⟨?_, ?_, ?_⟩
  · intro r hr
    rcases List.mem_append.mp hr with hr | hr
    · rcases List.mem_append.mp hr with hr | hr
      · exact ok.plain r (List.mem_append_left _ (List.mem_append_left _ hr))
      · exact ok'.plain r hr
    · exact ok.plain r (List.mem_append_right _ hr)
  · simp [ok'.written]
  · intro last
    by_cases none : below = []
    · subst none
      rw [List.append_nil, List.getLast?_append_of_ne_nil _ ok'.written] at last
      exact ok'.last last
    · refine ok.last ?_
      rwa [List.getLast?_append_of_ne_nil _ none] at last ⊢

end Document

section Found

variable {t : Text} {v : View} (found : firstView? t = some v)
include found

/-- A key stands in the view, or it is not found at all. -/
theorem placed_or_absent (key : ViewKey) :
    (∃ e above below, Placed v.dash key.text v.rows e above below) ∨
      (entryAt? v.dash key.text v.rows = none ∧ viewKey? key.text t = none) := by
  cases entry_eq : entryAt? v.dash key.text v.rows with
  | some e =>
      obtain ⟨above, below, placed⟩ := entryAt?_eq_some_iff.mp entry_eq
      exact .inl ⟨e, above, below, placed⟩
  | none =>
      refine .inr ⟨rfl, ?_⟩
      rw [viewKey?, found, Option.bind_some, key?_of_entry?_eq_none found key.plain_text entry_eq,
        Option.map_none]

theorem unchanged_withRows : ∃ rs, Whole rs ∧ t = v.withRows rs :=
  ⟨v.rows, (viewRows_rows found).whole, (withRows_rows found).symm⟩

/-- Rows of a key that are exchanged for others. -/
theorem Document.Placed.whole {key : Text} {e e' : Entry} {above below : List Text}
    (placed : Placed v.dash key v.rows e above below) (valid : e'.Valid v.dash key)
    (plain : Text.Plain e'.rows) : Whole (above ++ e'.rows ++ below) := by
  have ok := (viewRows_rows found).whole
  rw [placed.rows] at ok
  exact ok.exchange (valid.whole plain)

/-- Rows of a new key after those of another one. -/
theorem Document.Placed.whole_insert {key anchor : Text} {e new : Entry} {above below : List Text}
    (placed : Placed v.dash anchor v.rows e above below) (written : new.Written v.dash key) :
    Whole (above ++ e.rows ++ new.rows ++ below) :=
  (viewRows_insert (viewRows_rows found) placed written).whole

theorem Document.Placed.whole_withValue {key : Text} {e : Entry} {above below : List Text}
    {value : Text} (placed : Placed v.dash key v.rows e above below) (name : '\n' ∉ key)
    (plain : '\n' ∉ value) : Whole (above ++ (e.label ++ value) :: e.children ++ below) := by
  rw [← Entry.rows_withValue]
  exact placed.whole found (placed.valid.withValue value) (plain_rows_withValue placed name plain)

/-! ### The edits of the view -/

theorem setViewType_in_view {kind : Text} (plain : '\n' ∉ kind) :
    ∃ rs, Whole rs ∧ setViewType kind t = v.withRows rs := by
  rcases placed_or_absent found .type with ⟨e, above, below, placed⟩ | ⟨-, none⟩
  · exact ⟨_, placed.whole_withValue found (by decide) plain, setViewType_placed found kind placed⟩
  · rw [setViewType_of_none none]
    exact unchanged_withRows found

/-- Renaming writes whole rows in the place of the view. -/
theorem renameView_in_view {name : Text} (plain : '\n' ∉ name) :
    ∃ rs, Whole rs ∧ renameView name t = v.withRows rs := by
  rcases placed_or_absent found .name with ⟨e, above, below, placed⟩ | ⟨absent, noName⟩
  · exact ⟨_, placed.whole_withValue found (by decide) (plain_quotedName plain),
      renameView_placed found name placed⟩
  · rcases placed_or_absent found .type with ⟨e, above, below, placed⟩ | ⟨-, noType⟩
    · exact ⟨_, placed.whole_insert found (nameEntry_written v.dash plain),
        renameView_insert found plain absent placed⟩
    · rw [renameView_of_none noName noType]
      exact unchanged_withRows found

/-- The block of a key is written inside the view, also when the key stands on the line with the
dash. -/
theorem setViewBlock_in_view (key : ViewKey) {block : Nat → Text} {new : Nat → Entry}
    (eq : ∀ dash, block (dash + 2) = Document.unlines (new dash).rows)
    (written : ∀ dash, (new dash).Written dash key.text) :
    ∃ rs, Whole rs ∧ setViewBlock key.text block t = v.withRows rs := by
  rcases placed_or_absent found key with ⟨e, above, below, placed⟩ | ⟨absent, noKey⟩
  · exact ⟨_, placed.whole found (written v.dash).valid (written v.dash).plain,
      setViewBlock_placed found key.plain_text placed (eq v.dash) (written v.dash)⟩
  · rcases placed_or_absent found .order with ⟨e, above, below, placed⟩ | ⟨-, noOrder⟩
    · exact ⟨_, placed.whole_insert found (written v.dash),
        setViewBlock_insert found key.plain_text absent placed (eq v.dash) (written v.dash)⟩
    · rw [setViewBlock_of_none noKey noOrder]
      exact unchanged_withRows found

/-- Other rows under a key. -/
theorem Document.Placed.viewRows_withChildren {key : Text} {e : Entry}
    {above below children : List Text} (placed : Placed v.dash key v.rows e above below)
    (plain : Text.Plain children) (deeper : ∀ r ∈ children, isDeeper (v.dash + 2) r = true) :
    ViewRows v.dash (above ++ e.row :: children ++ below) := by
  exact viewRows_exchange (viewRows_rows found) placed (placed.valid.withChildren deeper)
    (plain_rows_withChildren placed plain) Iff.rfl

theorem addColumns_in_view {refs : List Text} (plain : Text.Plain refs) :
    ∃ rs, Whole rs ∧ addColumns refs t = v.withRows rs := by
  rcases placed_or_absent found .order with ⟨e, above, below, placed⟩ | ⟨-, none⟩
  · obtain ⟨plain', deeper⟩ := rows_with_newColumns placed plain
    exact ⟨_, (placed.viewRows_withChildren found plain' deeper).whole,
      addColumns_placed found plain placed⟩
  · rw [addColumns_of_none none]
    exact unchanged_withRows found

/-- Removing columns writes whole rows in the place of the view. -/
theorem removeColumns_in_view {refs : List Text} (plain : Text.Plain refs) :
    ∃ rs, Whole rs ∧ removeColumns refs t = v.withRows rs := by
  rcases placed_or_absent found .order with ⟨e, above, below, placed⟩ | ⟨-, none⟩
  · have kept := (withoutColumns_sublist refs e.children).subset
    refine ⟨_, (placed.viewRows_withChildren found ?_ ?_).whole,
      removeColumns_placed found plain placed⟩
    · exact fun r hr => plain_rows_of_view placed r (List.mem_cons_of_mem _ (kept hr))
    · exact fun r hr => placed.valid.children r (kept hr)
  · rw [removeColumns_of_none none]
    exact unchanged_withRows found

end Found

/-! ### Edits one by one -/

/-- **An edit of the view exchanges its rows**, and no other line. -/
theorem Edit.apply_in_view {t : Text} {v : View} (found : firstView? t = some v) {e : Edit}
    (aspect : e.aspect ≠ none) (plain : Text.Plain e.arguments) :
    ∃ rs, Whole rs ∧ e.apply t = v.withRows rs := by
  cases e with
  | filter test value => exact absurd rfl aspect
  | viewType kind => exact setViewType_in_view found (plain kind List.mem_cons_self)
  | addColumns refs => exact addColumns_in_view found plain
  | removeColumns refs => exact removeColumns_in_view found plain
  | sort property direction =>
      exact setViewBlock_in_view found .sort (renderSort_eq property direction) fun dash =>
        sortEntry_written dash (plain property (by simp [Edit.arguments]))
          (plain direction (by simp [Edit.arguments]))
  | groupBy property direction =>
      exact setViewBlock_in_view found .groupBy (renderGroupBy_eq property direction) fun dash =>
        groupEntry_written dash (plain property (by simp [Edit.arguments]))
          (plain direction (by simp [Edit.arguments]))
  | rename name => exact renameView_in_view found (plain name List.mem_cons_self)

/-- Without a view, an edit of the view does nothing. -/
theorem Edit.apply_of_no_view {t : Text} (none : firstView? t = none) {e : Edit}
    (aspect : e.aspect ≠ Option.none) : e.apply t = t := by
  have absent : ∀ key : ViewKey, viewKey? key.text t = Option.none := by
    intro key
    rw [viewKey?, none, Option.bind_none]
  cases e with
  | filter test value => exact absurd rfl aspect
  | viewType kind => exact setViewType_of_none (absent .type)
  | addColumns refs => exact addColumns_of_none (absent .order)
  | removeColumns refs => exact removeColumns_of_none (absent .order)
  | sort property direction => exact setViewBlock_of_none (absent .sort) (absent .order)
  | groupBy property direction => exact setViewBlock_of_none (absent .groupBy) (absent .order)
  | rename name => exact renameView_of_none (absent .name) (absent .type)

/-- **Every edit writes in one place.** Around the view or the block that it is about, every
character stays where it was, and the document ends with a line end as before. -/
theorem edit_writes_in_place (t : Text) :
    (∀ e : Edit, e.aspect ≠ none → Text.Plain e.arguments →
      ∃ t', e.perform t = .ok t' ∧ (firstView? t = none → t' = t) ∧
        ∀ v ∈ firstView? t, Text.terminated t' = Text.terminated t ∧
          ∃ new, t' = v.span.splice new t ∧ t'.lines = v.before ++ Text.lines new ++ v.after) ∧
    ∀ test value : Text,
      (block? "filters".toList t = none →
        Edit.perform t (.filter test value) =
          .ok (renderFilters [filePredicate test value] "and".toList ++ "\n\n".toList ++
            t.dropWhile (· == '\n'))) ∧
      ∀ b ∈ block? "filters".toList t, IsTestName test →
        ∃ new, Edit.perform t (.filter test value) = .ok (b.span.splice new t) := by
  refine ⟨fun e aspect plain => ?_, fun test value => ⟨fun none => ?_, fun b found name => ?_⟩⟩
  · refine ⟨_, Edit.perform_of_aspect aspect t, fun none => Edit.apply_of_no_view none aspect,
      fun v found => ?_⟩
    obtain ⟨rs, ok, eq⟩ := Edit.apply_in_view found aspect plain
    rw [eq]
    exact ⟨terminated_withRows found ok.plain ok.written ok.last, _,
      v.replace_eq_splice found _, lines_withRows found rs⟩
  · rw [Edit.perform, setFilterMatching, none]
    dsimp only
    rw [setFilterPredicate, none, prependFilters]
  · obtain ⟨new, eq, -⟩ := setFilterMatching_in_block name value found
    exact ⟨new, by rw [Edit.perform, eq, b.replace_eq_splice found]⟩

/-- All columns are removed, and a tag is exchanged in its block. -/
theorem columns_and_tag_written_in_place :
    (∃ v ∈ firstView? "views:\n- type: table\n  order:\n    - a\n    - b".toList, ∃ new,
      Edit.perform "views:\n- type: table\n  order:\n    - a\n    - b".toList
          (.removeColumns ["a".toList, "b".toList]) =
        .ok (v.span.splice new "views:\n- type: table\n  order:\n    - a\n    - b".toList)) ∧
    ∃ b ∈ block? "filters".toList "filters:\n  and:\n    - file.tags.has(\"a\")\nviews:".toList,
      ∃ new, Edit.perform "filters:\n  and:\n    - file.tags.has(\"a\")\nviews:".toList
          (.filter "tags.has".toList "food".toList) =
        .ok (b.span.splice new "filters:\n  and:\n    - file.tags.has(\"a\")\nviews:".toList) := by
  constructor
  · obtain ⟨t', performed, -, inside⟩ :=
      (edit_writes_in_place "views:\n- type: table\n  order:\n    - a\n    - b".toList).1
        (.removeColumns ["a".toList, "b".toList]) (by decide)
        (by simp [Text.Plain, Edit.arguments])
    obtain ⟨v, found⟩ := Option.isSome_iff_exists.mp
      (show (firstView? "views:\n- type: table\n  order:\n    - a\n    - b".toList).isSome by decide)
    obtain ⟨-, new, rfl, -⟩ := inside v found
    exact ⟨v, found, new, performed⟩
  · obtain ⟨b, found⟩ := Option.isSome_iff_exists.mp
      (show (block? "filters".toList
        "filters:\n  and:\n    - file.tags.has(\"a\")\nviews:".toList).isSome by decide)
    have name : IsTestName "tags.has".toList := isTestName_of_plain (by decide)
    exact ⟨b, found, ((edit_writes_in_place _).2 _ _).2 b found name⟩

/-- A test that is named by a pattern may match a call without its first group. Then the value goes
before the last character of the document, wherever the filters stand. -/
theorem pattern_test_writes_elsewhere :
    ¬ ∀ t test value : Text, ∀ b ∈ block? "filters".toList t, ∃ new,
      Edit.perform t (.filter test value) = .ok (b.span.splice new t) := by
  intro claim
  have stops : (block? "filters".toList
      "filters:\n  and:\n    - file.y(\"q\")\nviews:\n  - type: table".toList).map
        (fun b => b.span.stop) = some 34 := by decide
  have written : (Edit.perform
      "filters:\n  and:\n    - file.y(\"q\")\nviews:\n  - type: table".toList
      (.filter "(x)?y".toList "v".toList)).toOption =
        some "filters:\n  and:\n    - file.y(\"q\")\nviews:\n  - type: tablve".toList := by
    decide +kernel
  obtain ⟨b, found, stop⟩ := Option.map_eq_some_iff.mp stops
  obtain ⟨new, eq⟩ := claim _ "(x)?y".toList "v".toList b found
  rw [eq] at written
  have same := Option.some.inj written
  have kept := b.span.drop_suffix_splice new
    "filters:\n  and:\n    - file.y(\"q\")\nviews:\n  - type: table".toList
  rw [same, stop] at kept
  exact absurd kept (by decide)

end Notebase
