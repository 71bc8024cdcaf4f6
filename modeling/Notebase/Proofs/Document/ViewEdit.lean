import Notebase.Document.Edit
import Notebase.Proofs.Document.Entry

/-!
The edits of a view as exchanges of rows. Each edit finds an entry, and where the entry stands
among the rows says which rows the edited view has. The line ends, which the edits handle case by
case, follow from the rows.
-/

namespace Notebase.Document

open Text

/-! ### Rows that are exchanged -/

/-- A row that can stand in a view below its first row, and be the last one. -/
structure Inner (dash : Nat) (row : Text) : Prop where
  plain : '\n' ∉ row
  written : row ≠ []
  notTop : isTopKey row = false
  notItem : (dashFront dash).isPrefixOf row = false

/-- A row with two more spaces than the dash is inside of the view. -/
theorem inner_of_spaces {dash : Nat} {row : Text} (plain : '\n' ∉ row)
    (front : spaces (dash + 2) <+: row) : Inner dash row := by
  refine ⟨plain, ?_, ?_, ?_⟩
  · rintro rfl
    simp [spaces] at front
  · obtain ⟨rest, rfl⟩ := front
    simp [spaces, List.replicate_succ, isTopKey]
  · by_contra item
    rw [Bool.not_eq_false, List.isPrefixOf_iff_prefix] at item
    exact not_dashFront_of_spaces front item

theorem spaces_prefix_of_isDeeper {depth : Nat} {row : Text} (h : isDeeper depth row = true) :
    spaces depth <+: row := by
  have deep := lt_indentation_of_isDeeper h
  have whole := spaces_append_dropWhile row
  rw [← Nat.add_sub_cancel' (Nat.le_of_lt deep), ← spaces_append_spaces, List.append_assoc] at whole
  exact ⟨_, whole⟩

theorem inner_of_isDeeper {dash : Nat} {row : Text} (plain : '\n' ∉ row)
    (h : isDeeper (dash + 2) row = true) : Inner dash row :=
  inner_of_spaces plain (spaces_prefix_of_isDeeper h)

/-- Rows below the first one can be exchanged for inner rows. -/
theorem ViewRows.exchange {dash : Nat} {above old new below : List Text}
    (ok : ViewRows dash (above ++ old ++ below)) (ne : above ≠ [])
    (inner : ∀ r ∈ new, Inner dash r) (last : new = [] → below = [] → above.getLast? ≠ some []) :
    ViewRows dash (above ++ new ++ below) := by
  obtain ⟨head, tail, rfl⟩ := List.exists_cons_of_ne_nil ne
  refine ⟨?_, ok.head, ?_, ?_⟩
  · intro r hr
    simp only [List.mem_append] at hr
    rcases hr with (h | h) | h
    · exact ok.plain r (List.mem_append_left _ (List.mem_append_left _ h))
    · exact (inner r h).plain
    · exact ok.plain r (List.mem_append_right _ h)
  · intro r hr
    have tails := ok.tail
    simp only [List.cons_append, List.tail_cons, List.mem_append] at hr tails
    rcases hr with (h | h) | h
    · exact tails r (.inl (.inl h))
    · exact ⟨(inner r h).notTop, (inner r h).notItem⟩
    · exact tails r (.inr h)
  · intro h
    by_cases none : below = []
    · subst none
      by_cases noNew : new = []
      · subst noNew
        rw [List.append_nil, List.append_nil] at h
        exact last rfl rfl h
      · rw [List.append_nil, List.getLast?_append_of_ne_nil _ noNew] at h
        exact (inner _ (List.mem_of_getLast? h)).written rfl
    · have lasts := ok.last
      rw [List.getLast?_append_of_ne_nil _ none] at h lasts
      exact lasts h

/-- The first row can be exchanged for another one that opens with the dash. -/
theorem ViewRows.exchange_head {dash : Nat} {row row' : Text} {old new below : List Text}
    (ok : ViewRows dash (row :: old ++ below)) (item : dashFront dash <+: row')
    (plain : '\n' ∉ row') (inner : ∀ r ∈ new, Inner dash r) :
    ViewRows dash (row' :: new ++ below) := by
  have written : row' ≠ [] := by
    rintro rfl
    simp [dashFront] at item
  have step : ViewRows dash ([row'] ++ old ++ below) := by
    refine ⟨?_, ⟨row', rfl, item⟩, ok.tail, ?_⟩
    · intro r hr
      rcases List.mem_cons.mp hr with rfl | hr
      · exact plain
      · exact ok.plain r (List.mem_cons_of_mem _ hr)
    · intro h
      have last := ok.last
      rw [List.append_assoc, List.singleton_append, List.getLast?_cons] at h
      rw [List.cons_append, List.getLast?_cons] at last
      cases final : (old ++ below).getLast? with
      | none =>
          rw [final] at h
          exact written (Option.some.inj h)
      | some r =>
          rw [final] at h last
          exact last h
  refine step.exchange (by simp) inner fun _ _ h => ?_
  exact written (Option.some.inj h)

theorem getLast?_ne_of_inner {dash : Nat} {rs : List Text} (inner : ∀ r ∈ rs, Inner dash r) :
    rs.getLast? ≠ some [] :=
  fun last => (inner [] (List.mem_of_getLast? last)).written rfl

/-! ### Entries that edits write -/

/-- An entry on rows of its own, which open with no dash. -/
structure Entry.Written (dash : Nat) (key : Text) (e : Entry) : Prop where
  valid : e.Valid dash key
  plain : Plain e.rows
  front : spaces (dash + 2) <+: e.label

theorem Entry.Written.inner {dash : Nat} {key : Text} {e : Entry} (ok : e.Written dash key) :
    ∀ r ∈ e.rows, Inner dash r := by
  intro r hr
  have noEnd := ok.plain r hr
  rcases List.mem_cons.mp hr with rfl | hr
  · exact inner_of_spaces noEnd (ok.front.trans (List.prefix_append _ _))
  · exact inner_of_isDeeper noEnd (ok.valid.children r hr)

def nameEntry (dash : Nat) (name : Text) : Entry :=
  ⟨spaces (dash + 2) ++ "name: ".toList, quotedName name, []⟩

def sortEntry (property direction : Text) (dash : Nat) : Entry :=
  ⟨spaces (dash + 2) ++ "sort:".toList, [], [
    spaces (dash + 2) ++ "  - property: ".toList ++ property,
    spaces (dash + 2) ++ "    direction: ".toList ++ direction]⟩

def groupEntry (property direction : Text) (dash : Nat) : Entry :=
  ⟨spaces (dash + 2) ++ "groupBy:".toList, [], [
    spaces (dash + 2) ++ "  property: ".toList ++ property,
    spaces (dash + 2) ++ "  direction: ".toList ++ direction]⟩

def columnRow (dash : Nat) (ref : Text) : Text := spaces (dash + 4) ++ "- ".toList ++ ref

theorem renderSort_eq (property direction : Text) (dash : Nat) :
    renderSort property direction (dash + 2) = unlines (sortEntry property direction dash).rows := by
  simp [renderSort, sortEntry, Entry.rows, Entry.row]

theorem renderGroupBy_eq (property direction : Text) (dash : Nat) :
    renderGroupBy property direction (dash + 2) =
      unlines (groupEntry property direction dash).rows := by
  simp [renderGroupBy, groupEntry, Entry.rows, Entry.row]

theorem content_content (l : Text) : content (content l) = content l :=
  content_row (not_mem_content l)

theorem isLabel_spaces {dash : Nat} {key label : Text} (gap : Text) (label_eq :
    label = spaces (dash + 2) ++ key ++ [':'] ++ gap) (blank : gap.all isSpaceOrTab = true) :
    IsLabel dash key label :=
  ⟨gap, List.all_eq_true.mp blank, .inr label_eq⟩

theorem plain_quotedName {name : Text} (plain : '\n' ∉ name) : '\n' ∉ quotedName name := by
  have inner : '\n' ∉ name.replaceChar '"' ['\\', '"'] := plain_replaceChar plain (by decide)
  simp [quotedName, inner]

theorem flush_quotedName (name : Text) : Flush (quotedName name) := by
  intro c hc
  cases hc
  decide

/-- The entry for a name is written. -/
theorem nameEntry_written (dash : Nat) {name : Text} (plain : '\n' ∉ name) :
    (nameEntry dash name).Written dash "name".toList := by
  have label : IsLabel dash "name".toList (nameEntry dash name).label :=
    isLabel_spaces [' '] (by simp [nameEntry]) (by decide)
  refine ⟨⟨label, ?_, by simp [nameEntry]⟩, ?_, List.prefix_append _ _⟩
  · exact flush_quotedName name
  · intro r hr
    obtain rfl : r = (nameEntry dash name).row := by simpa [nameEntry, Entry.rows] using hr
    rw [Entry.row, List.mem_append, not_or]
    exact ⟨label.plain (by decide), plain_quotedName plain⟩

/-- The entry for a sorting is written. -/
theorem sortEntry_written (dash : Nat) {property direction : Text} (plain : '\n' ∉ property)
    (plain' : '\n' ∉ direction) :
    (sortEntry property direction dash).Written dash "sort".toList := by
  refine ⟨⟨isLabel_spaces [] (by simp [sortEntry]) rfl, by simp [Flush, sortEntry], ?_⟩,
    ?_, List.prefix_append _ _⟩
  · have two : spaces (dash + 2) ++ "  ".toList = spaces (dash + 4) := spaces_append_spaces _ 2
    have four : spaces (dash + 2) ++ "    ".toList = spaces (dash + 6) := spaces_append_spaces _ 4
    intro r hr
    simp only [sortEntry, List.mem_cons, List.not_mem_nil, or_false] at hr
    rcases hr with rfl | rfl
    · rw [show spaces (dash + 2) ++ "  - property: ".toList ++ property =
        (spaces (dash + 2) ++ "  ".toList) ++ '-' :: (" property: ".toList ++ property) by simp, two]
      exact isDeeper_spaces_append _ (by omega) (by decide)
    · rw [show spaces (dash + 2) ++ "    direction: ".toList ++ direction =
        (spaces (dash + 2) ++ "    ".toList) ++ 'd' :: ("irection: ".toList ++ direction) by simp,
        four]
      exact isDeeper_spaces_append _ (by omega) (by decide)
  · simp [Plain, sortEntry, Entry.rows, Entry.row, spaces, plain, plain']

/-- The entry for a grouping is written. -/
theorem groupEntry_written (dash : Nat) {property direction : Text} (plain : '\n' ∉ property)
    (plain' : '\n' ∉ direction) :
    (groupEntry property direction dash).Written dash "groupBy".toList := by
  refine ⟨⟨isLabel_spaces [] (by simp [groupEntry]) rfl, by simp [Flush, groupEntry], ?_⟩,
    ?_, List.prefix_append _ _⟩
  · have two : spaces (dash + 2) ++ "  ".toList = spaces (dash + 4) := spaces_append_spaces _ 2
    intro r hr
    simp only [groupEntry, List.mem_cons, List.not_mem_nil, or_false] at hr
    rcases hr with rfl | rfl
    · rw [show spaces (dash + 2) ++ "  property: ".toList ++ property =
        (spaces (dash + 2) ++ "  ".toList) ++ 'p' :: ("roperty: ".toList ++ property) by simp, two]
      exact isDeeper_spaces_append _ (by omega) (by decide)
    · rw [show spaces (dash + 2) ++ "  direction: ".toList ++ direction =
        (spaces (dash + 2) ++ "  ".toList) ++ 'd' :: ("irection: ".toList ++ direction) by simp, two]
      exact isDeeper_spaces_append _ (by omega) (by decide)
  · simp [Plain, groupEntry, Entry.rows, Entry.row, spaces, plain, plain']

theorem plain_columnRow {dash : Nat} {ref : Text} (plain : '\n' ∉ ref) :
    '\n' ∉ columnRow dash ref := by
  simp [columnRow, spaces, plain]

theorem isDeeper_columnRow (dash : Nat) (ref : Text) :
    isDeeper (dash + 2) (columnRow dash ref) = true := by
  rw [columnRow, show spaces (dash + 4) ++ "- ".toList ++ ref =
    spaces (dash + 4) ++ '-' :: (' ' :: ref) by simp]
  exact isDeeper_spaces_append _ (by omega) (by decide)

/-- The rows of new columns stand under their key. -/
theorem inner_newColumns (dash : Nat) (current : List Text) {refs : List Text} (plain : Plain refs) :
    ∀ r ∈ (newColumns current refs).map (columnRow dash),
      '\n' ∉ r ∧ isDeeper (dash + 2) r = true := by
  intro r hr
  obtain ⟨ref, mem, rfl⟩ := List.mem_map.mp hr
  rw [newColumns, List.mem_eraseDups, List.mem_filter] at mem
  exact ⟨plain_columnRow (plain ref mem.1), isDeeper_columnRow dash ref⟩

/-! ### Lines that are exchanged -/

section Found

variable {t : Text} {v : View} (found : firstView? t = some v)
include found

/-- The lines before and after a cut of the view as rows. Where nothing follows the lines that
are cut out, they end as the view does. -/
theorem segments {a b c : List Text} (parts : v.lines = a ++ b ++ c) (ne : b ≠ []) :
    a.flatten = unlines (a.map content) ∧ c.flatten = ofRows v.closed (c.map content) ∧
      terminated b.flatten = (v.closed || !c.isEmpty) := by
  have lines : Text.lines v.lines.flatten = a ++ b ++ c := (lines_flatten_view found).trans parts
  have lines' : Text.lines v.lines.flatten = a ++ (b ++ c) := by rw [lines, List.append_assoc]
  obtain ⟨hb, -, complete⟩ := lines_eq_append (lines_eq_append lines').2.1
  have written : b.flatten ≠ [] := by
    intro h
    rw [h] at hb
    exact ne hb.symm
  refine ⟨flatten_eq_unlines lines' (by simp [ne]), flatten_eq_ofRows lines, ?_⟩
  by_cases none : c = []
  · subst none
    rw [View.closed, parts, List.append_nil, List.flatten_append, terminated_append _ written]
    simp
  · rw [List.isEmpty_eq_false_iff.mpr none, Bool.not_false, Bool.or_true]
    exact (complete none).resolve_left written

/-- Lines of the view can be exchanged for rows; the last of these has a line end if the last of
the lines has. -/
theorem replace_exchange {a b c new : List Text} (parts : v.lines = a ++ b ++ c) (ne : b ≠ [])
    (ne' : new ≠ []) :
    v.replace (a.flatten ++ ofRows (terminated b.flatten) new ++ c.flatten) =
      v.withRows (a.map content ++ new ++ c.map content) := by
  obtain ⟨before, after, ends⟩ := segments found parts ne
  rw [View.withRows]
  refine congrArg v.replace ?_
  rw [before, ends]
  by_cases none : c = []
  · subst none
    simp [ofRows_append _ _ ne']
  · rw [after, List.isEmpty_eq_false_iff.mpr none, ofRows_append _ _ (by simp [none]),
      unlines_append]
    simp [ofRows]

/-- Lines of the view can be dropped below its first ones. -/
theorem replace_drop {a b c : List Text} (parts : v.lines = a ++ b ++ c) (ne : b ≠ [])
    (ne' : a ≠ []) :
    v.replace ((if terminated b.flatten then a.flatten else a.flatten.dropLast) ++ c.flatten) =
      v.withRows (a.map content ++ c.map content) := by
  obtain ⟨before, after, ends⟩ := segments found parts ne
  rw [View.withRows]
  refine congrArg v.replace ?_
  rw [before, ends]
  by_cases none : c = []
  · subst none
    cases v.closed with
    | true => simp [ofRows]
    | false =>
        rw [unlines_eq_joinLines (by simpa using ne')]
        simp [ofRows]
  · rw [after, List.isEmpty_eq_false_iff.mpr none, ofRows_append _ _ (by simp [none])]
    simp

/-- A block of rows can be written after lines of the view. -/
theorem replace_append {a c new : List Text} (parts : v.lines = a ++ c) (ne : a ≠ [])
    (last : (a.map content).getLast? ≠ some []) (plain : Plain new) (ne' : new ≠ [])
    (last' : new.getLast? ≠ some []) :
    v.replace (appendLines a.flatten (unlines new) ++ c.flatten) =
      v.withRows (a.map content ++ new ++ c.map content) := by
  have lines : Text.lines v.lines.flatten = a ++ c := (lines_flatten_view found).trans parts
  have ofRows_eq : ofRows (terminated a.flatten) (a.map content) = a.flatten := by
    have whole := ofRows_rows a.flatten
    rwa [rows, (lines_eq_append lines).1] at whole
  have noEnd : Plain (a.map content) := by
    intro r hr
    obtain ⟨l, -, rfl⟩ := List.mem_map.mp hr
    exact not_mem_content l
  have block : appendLines a.flatten (unlines new) =
      ofRows (terminated a.flatten) (a.map content ++ new) := by
    rw [← appendLines_ofRows _ noEnd plain (by simpa using ne) ne' last last', ofRows_eq]
  rw [block]
  exact replace_exchange found (a := []) parts ne (by simp [ne'])

/-! ### Values of keys -/

theorem content_line_of_key? {key : Text} {k : Key} (plain : '\n' ∉ key)
    (isKey : v.key? key = some k) : content k.line = k.label ++ k.value := by
  have rows := (placed_of_key? found plain isKey).rows
  rw [View.rows, lines_of_key? isKey] at rows
  simp only [List.map_append, List.map_cons, List.append_assoc, List.append_cancel_left_eq,
    Entry.rows, List.cons_append, List.cons.injEq] at rows
  exact rows.1

/-- The end of a key's line is its line end, if it has one. -/
theorem ending_of_key? {key : Text} {k : Key} (plain : '\n' ∉ key) (isKey : v.key? key = some k) :
    k.ending = if terminated k.line then ['\n'] else [] := by
  have mem : k.line ∈ t.lines := by
    refine mem_lines_of_view found ?_
    rw [lines_of_key? isKey]
    simp
  have row := content_line_of_key? found plain isKey
  obtain ⟨r, noEnd, eq, either⟩ := shape_of_mem_lines mem
  have whole : k.line = r ++ k.ending := by
    rw [← eq, row]
    rfl
  rcases either with line_eq | joined
  · rw [line_eq, terminated_of_plain noEnd, if_neg (by simp)]
    simpa [line_eq] using whole
  · rw [joined, terminated_append_newline, if_pos rfl]
    exact (List.append_cancel_left (whole.symm.trans joined))

/-- Another value on the line of a key. -/
theorem replace_withValue {key : Text} {e : Entry} {above below : List Text} (plain : '\n' ∉ key)
    (placed : Placed v.dash key v.rows e above below) :
    ∃ k, v.key? key = some k ∧ ∀ value, v.replace (k.withValue value) =
      v.withRows (above ++ (e.label ++ value) :: e.children ++ below) := by
  obtain ⟨k, isKey, rfl, rfl, rfl⟩ := exists_key?_of_placed found plain placed
  refine ⟨k, isKey, fun value => ?_⟩
  have parts : v.lines = k.before ++ [k.line] ++ (k.children ++ k.after) := by
    simpa using lines_of_key? isKey
  have exchange := replace_exchange found parts (by simp)
    (List.cons_ne_nil (k.label ++ value) [])
  have line : ofRows (terminated [k.line].flatten) [k.label ++ value] =
      k.label ++ value ++ k.ending := by
    rw [ending_of_key? found plain isKey, List.flatten_singleton]
    cases terminated k.line <;> simp [ofRows]
  rw [line] at exchange
  simpa [Key.withValue, Key.entry] using exchange

theorem setViewType_placed {e : Entry} {above below : List Text} (kind : Text)
    (placed : Placed v.dash "type".toList v.rows e above below) :
    setViewType kind t = v.withRows (above ++ (e.label ++ kind) :: e.children ++ below) := by
  obtain ⟨k, isKey, eq⟩ := replace_withValue found (by decide) placed
  rw [setViewType, viewKey?, found, Option.bind_some, isKey, Option.map_some]
  exact eq kind

theorem renameView_placed {e : Entry} {above below : List Text} (name : Text)
    (placed : Placed v.dash "name".toList v.rows e above below) :
    renameView name t =
      v.withRows (above ++ (e.label ++ quotedName name) :: e.children ++ below) := by
  obtain ⟨k, isKey, eq⟩ := replace_withValue found (by decide) placed
  rw [renameView, viewKey?, found, Option.bind_some, isKey, Option.map_some]
  exact eq (quotedName name)

/-! ### Rows after a key -/

/-- A block of rows after a key. -/
theorem insertAfter_placed {key : Text} {e : Entry} {above below : List Text} (plain : '\n' ∉ key)
    (placed : Placed v.dash key v.rows e above below) :
    ∃ k, v.key? key = some k ∧ ∀ new : List Text, Plain new → new ≠ [] →
      new.getLast? ≠ some [] → insertAfter v k (unlines new) =
        v.withRows (above ++ e.rows ++ new ++ below) := by
  obtain ⟨k, isKey, rfl, rfl, rfl⟩ := exists_key?_of_placed found plain placed
  refine ⟨k, isKey, fun new noEnd ne last => ?_⟩
  have parts : v.lines = (k.before ++ k.line :: k.children) ++ k.after := by
    simpa using lines_of_key? isKey
  have upTo : k.upTo = (k.before ++ k.line :: k.children).flatten := by simp [Key.upTo]
  have rows : (k.before ++ k.line :: k.children).map content =
      k.before.map content ++ k.entry.rows := by
    rw [List.map_append, List.map_cons, content_line_of_key? found plain isKey]
    rfl
  have differs := placed.valid.getLast?_ne (k.before.map content)
  rw [insertAfter, upTo, replace_append found parts (by simp) (by rw [rows]; exact differs) noEnd ne
    last, rows]

/-- A key without an entry is not found. -/
theorem key?_of_entry?_eq_none {key : Text} (plain : '\n' ∉ key)
    (none : entryAt? v.dash key v.rows = none) : v.key? key = Option.none := by
  rwa [entryAt?_rows found plain, Option.map_eq_none_iff] at none

/-- Without a name, the view is renamed behind its kind. -/
theorem renameView_insert {e : Entry} {above below : List Text} {name : Text} (plain : '\n' ∉ name)
    (none : entryAt? v.dash "name".toList v.rows = none)
    (placed : Placed v.dash "type".toList v.rows e above below) :
    renameView name t = v.withRows (above ++ e.rows ++ (nameEntry v.dash name).rows ++ below) := by
  have written := nameEntry_written v.dash plain
  obtain ⟨k, isKey, eq⟩ := insertAfter_placed found (by decide) placed
  have block := eq (nameEntry v.dash name).rows written.plain (by simp [Entry.rows])
    (written.valid.getLast?_ne [])
  rw [renameView, viewKey?, viewKey?, found, Option.bind_some, Option.bind_some,
    key?_of_entry?_eq_none found (by decide) none, isKey, Option.map_some, Option.map_none]
  simpa [nameEntry, Entry.rows, Entry.row, View.indent] using block

/-- A block in the place of the key that it is about. -/
theorem setViewBlock_placed {key : Text} {e new : Entry} {above below : List Text}
    {block : Nat → Text} (plain : '\n' ∉ key) (placed : Placed v.dash key v.rows e above below)
    (eq : block (v.dash + 2) = unlines new.rows) (written : new.Written v.dash key) :
    setViewBlock key block t = v.withRows (above ++ new.rows ++ below) := by
  obtain ⟨k, isKey, rfl, rfl, rfl⟩ := exists_key?_of_placed found plain placed
  have parts : v.lines = k.before ++ (k.line :: k.children) ++ k.after := by
    simpa using lines_of_key? isKey
  have text_eq : k.text = (k.line :: k.children).flatten := by simp [Key.text]
  have lines : Text.lines k.text = k.line :: k.children := by
    have whole := (lines_flatten_view found).trans parts
    rw [text_eq]
    exact (lines_eq_append (lines_eq_append (List.append_assoc .. ▸ whole)).2.1).1
  have rows : Text.rows k.text = k.entry.rows := by
    rw [Text.rows, lines, List.map_cons, content_line_of_key? found plain isKey]
    rfl
  have inPlace : inPlaceOf k.text (unlines new.rows) = ofRows (terminated k.text) new.rows := by
    have block := inPlaceOf_ofRows (terminated k.text) (plain_rows k.text) written.plain
      (by simp [rows, Entry.rows]) (by simp [Entry.rows])
      (by rw [rows]; exact placed.valid.getLast?_ne []) (written.valid.getLast?_ne [])
    rwa [ofRows_rows] at block
  have exchange := replace_exchange found parts (by simp) (List.cons_ne_nil new.row new.children)
  rw [← text_eq] at exchange
  rw [setViewBlock, viewKey?, found, Option.bind_some, isKey, Option.map_some]
  dsimp only
  rw [View.indent, eq, inPlace]
  exact exchange

/-- A block of a key that the view does not have goes after the columns. -/
theorem setViewBlock_insert {key : Text} {e new : Entry} {above below : List Text}
    {block : Nat → Text} (plain : '\n' ∉ key) (none : entryAt? v.dash key v.rows = none)
    (placed : Placed v.dash "order".toList v.rows e above below)
    (eq : block (v.dash + 2) = unlines new.rows) (written : new.Written v.dash key) :
    setViewBlock key block t = v.withRows (above ++ e.rows ++ new.rows ++ below) := by
  obtain ⟨k, isKey, insert⟩ := insertAfter_placed found (by decide) placed
  have block := insert new.rows written.plain (by simp [Entry.rows]) (written.valid.getLast?_ne [])
  rw [setViewBlock, viewKey?, viewKey?, found, Option.bind_some, Option.bind_some,
    key?_of_entry?_eq_none found plain none, isKey, Option.map_some, Option.map_none]
  dsimp only
  rw [View.indent, eq]
  exact block

/-! ### Columns -/

def Entry.columns (e : Entry) : List Text := e.children.filterMap listItem?

theorem viewOrder_placed {e : Entry} {above below : List Text}
    (placed : Placed v.dash "order".toList v.rows e above below) : viewOrder t = e.columns := by
  obtain ⟨k, isKey, rfl, -, -⟩ := exists_key?_of_placed found (by decide) placed
  rw [viewOrder, viewChildren, viewKey?, found, Option.bind_some, isKey, Option.map_some]
  dsimp only [Key.entry, Entry.columns]
  rw [List.filterMap_map]
  refine List.filterMap_congr fun l _ => ?_
  rw [Function.comp_apply, listItem?, listItem?, content_content]

/-- Columns are added behind those that there are. -/
theorem addColumns_placed {e : Entry} {above below : List Text} {refs : List Text}
    (plain : Plain refs) (placed : Placed v.dash "order".toList v.rows e above below) :
    addColumns refs t = v.withRows (above ++
      e.row :: (e.children ++ (newColumns e.columns refs).map (columnRow v.dash)) ++ below) := by
  obtain ⟨k, isKey, insert⟩ := insertAfter_placed found (by decide) placed
  rw [addColumns, viewKey?, found, Option.bind_some, isKey, Option.map_some]
  dsimp only
  rw [viewOrder_placed found placed]
  cases new : newColumns e.columns refs with
  | nil =>
      rw [List.map_nil, List.append_nil]
      exact (withRows_placed found placed).symm
  | cons ref rest =>
      have inner : ∀ r ∈ (ref :: rest).map (columnRow v.dash), Inner v.dash r := by
        intro r hr
        rw [← new] at hr
        obtain ⟨noEnd, deeper⟩ := inner_newColumns v.dash e.columns plain r hr
        exact inner_of_isDeeper noEnd deeper
      have rows : above ++ e.row :: (e.children ++ (ref :: rest).map (columnRow v.dash)) ++ below =
          above ++ e.rows ++ (ref :: rest).map (columnRow v.dash) ++ below := by
        simp [Entry.rows]
      rw [rows]
      exact insert _ (fun r hr => (inner r hr).plain) (by simp) (getLast?_ne_of_inner inner)

/-- A column is taken out of the rows below the key. -/
theorem removeColumn_placed {e : Entry} {above below : List Text} {ref : Text}
    (plain : '\n' ∉ ref) (placed : Placed v.dash "order".toList v.rows e above below) :
    removeColumn t ref =
      v.withRows (above ++ e.row :: e.children.eraseP (isColumn ref) ++ below) := by
  obtain ⟨k, isKey, rfl, rfl, rfl⟩ := exists_key?_of_placed found (by decide) placed
  have parts : v.lines = k.before ++ k.line :: k.children ++ k.after := lines_of_key? isKey
  have content_eq : ∀ l, isColumn ref (content l) = isColumn ref l := fun l => by
    rw [isColumn, isColumn, content_content]
  rw [removeColumn, viewKey?, found, Option.bind_some, isKey, Option.map_some]
  dsimp only
  rw [splitColumn?, if_neg (by simpa using plain), Key.entry, List.eraseP_map]
  cases split : splitFirst? (isColumn ref) k.children with
  | none =>
      have none := splitFirst?_eq_none.mp split
      rw [List.eraseP_of_forall_not fun l hl => by simp [content_eq l, none l hl], Option.map_none]
      dsimp only
      conv_lhs => rw [← withRows_rows found, placed.rows]
      rfl
  | some pieces =>
      obtain ⟨before, line, after⟩ := pieces
      obtain ⟨children, isOwn, none⟩ := splitFirst?_eq_some split
      have cut : v.lines = (k.before ++ k.line :: before) ++ [line] ++ (after ++ k.after) := by
        rw [parts, children]
        simp
      have drop := replace_drop found cut (by simp) (by simp)
      rw [children, List.eraseP_append_right _ fun l hl => by simp [content_eq l, none l hl],
        List.eraseP_cons_of_pos (by simp [content_eq line, isOwn])]
      simp only [List.map_append, List.map_cons, List.flatten_append, List.flatten_cons,
        List.flatten_nil, List.append_nil, content_line_of_key? found (by decide) isKey,
        List.append_assoc] at drop
      simpa [Entry.row] using drop

end Found

end Notebase.Document
