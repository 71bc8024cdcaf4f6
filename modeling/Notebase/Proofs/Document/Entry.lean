import Notebase.Proofs.Document.View

/-!
The keys of a view as rows. An entry is a key with its value and the rows under it, and `Placed`
says where it stands. Rows of a view can be exchanged without any effect on an entry as long as
its own rows are not among them (`entryAt?_exchange`).
-/

namespace Notebase

namespace Document

open Text

/-! ### Rows of keys and rows under them -/

theorem spaces_append_spaces (m n : Nat) : spaces m ++ spaces n = spaces (m + n) :=
  List.replicate_append_replicate

theorem indentation_spaces_append (n : Nat) {c : Char} (t : Text) (h : c ≠ ' ') :
    indentation (spaces n ++ c :: t) = n := by
  rw [indentation, takeWhile_append_stop (by simpa using h),
    List.takeWhile_eq_self_iff.mpr (by simp [spaces])]
  simp [spaces]

theorem isDeeper_spaces_append {depth n : Nat} {c : Char} (t : Text) (deep : depth < n)
    (written : isBlank c = false) : isDeeper depth (spaces n ++ c :: t) = true := by
  have notSpace : c ≠ ' ' := by
    rintro rfl
    exact absurd written (by decide)
  rw [isDeeper, indentation_spaces_append n t notSpace, List.dropWhile_append_of_pos
    (by simp [spaces]), List.dropWhile_cons_of_neg (by simpa using notSpace)]
  simp [written, deep]

theorem lt_indentation_of_isDeeper {depth : Nat} {row : Text} (h : isDeeper depth row = true) :
    depth < indentation row := by
  unfold isDeeper at h
  split at h
  · cases h
  · simp only [Bool.and_eq_true, decide_eq_true_eq] at h
    exact h.2

theorem isDeeper_append_newline (depth : Nat) (r : Text) :
    isDeeper depth (r ++ ['\n']) = isDeeper depth r := by
  rw [isDeeper, isDeeper, dropSpaces_append_newline, indentation_append_newline]
  cases r.dropWhile (· == ' ') with
  | nil => simp [show isBlank '\n' = true by decide]
  | cons c t => rfl

/-- What a row with this key says up to its value. -/
def IsLabel (dash : Nat) (key label : Text) : Prop :=
  ∃ gap, (∀ c ∈ gap, isSpaceOrTab c = true) ∧
    (label = dashFront dash ++ key ++ [':'] ++ gap ∨
      label = spaces (dash + 2) ++ key ++ [':'] ++ gap)

/-- A text that cannot be split any further as the gap before a value. -/
def Flush (value : Text) : Prop := ∀ c ∈ value.head?, isSpaceOrTab c = false

instance (value : Text) : Decidable (Flush value) :=
  inferInstanceAs (Decidable (∀ c ∈ value.head?, isSpaceOrTab c = false))

theorem flush_dropWhile (t : Text) : Flush (t.dropWhile isSpaceOrTab) := head?_dropWhile

theorem IsLabel.plain {dash : Nat} {key label : Text} (h : IsLabel dash key label)
    (plain : '\n' ∉ key) : '\n' ∉ label := by
  obtain ⟨gap, blank, eq⟩ := h
  have noEnd : '\n' ∉ gap := fun mem => absurd (blank _ mem) (by decide)
  rcases eq with rfl | rfl
  · simp [dashFront, spaces, plain, noEnd]
  · simp [spaces, plain, noEnd]

/-- Blanks behind a label are part of it. -/
theorem IsLabel.append {dash : Nat} {key label : Text} (h : IsLabel dash key label) {gap : Text}
    (blank : ∀ c ∈ gap, isSpaceOrTab c = true) : IsLabel dash key (label ++ gap) := by
  obtain ⟨gap', blank', eq⟩ := h
  refine ⟨gap' ++ gap, fun c hc => ?_, ?_⟩
  · rcases List.mem_append.mp hc with h | h
    · exact blank' c h
    · exact blank c h
  · rcases eq with rfl | rfl
    · exact .inl (by simp)
    · exact .inr (by simp)

theorem IsLabel.ne_nil {dash : Nat} {key label : Text} (h : IsLabel dash key label) : label ≠ [] := by
  obtain ⟨gap, -, rfl | rfl⟩ := h
  · simp
  · simp

/-- A label comes in two forms, and no row starts with both. -/
theorem not_dashFront_of_spaces {dash : Nat} {row : Text} (h : spaces (dash + 2) <+: row) :
    ¬ dashFront dash <+: row := by
  rintro ⟨rest, rfl⟩
  obtain ⟨rest', eq⟩ := h
  rw [← spaces_append_spaces, dashFront, List.append_assoc, List.append_assoc] at eq
  simp [spaces] at eq

/-- A row is split where its label ends. -/
theorem splitLabel?_eq_some_iff {dash : Nat} {key row label value : Text} :
    splitLabel? dash key row = some (label, value) ↔
      IsLabel dash key label ∧ Flush value ∧ row = label ++ value := by
  have gaps : ∀ {gap rest : Text}, (∀ c ∈ gap, isSpaceOrTab c = true) → Flush rest →
      (gap ++ rest).takeWhile isSpaceOrTab = gap ∧
        (gap ++ rest).dropWhile isSpaceOrTab = rest := by
    intro gap rest blank flush
    rw [takeWhile_append_stop flush, dropWhile_append_stop flush,
      List.takeWhile_eq_self_iff.mpr blank, List.dropWhile_eq_nil_iff.mpr blank]
    exact ⟨rfl, rfl⟩
  have after_front : ∀ front gap rest : Text, after? front (front ++ gap ++ rest) = some (gap ++
    rest) :=
    fun front gap rest => after?_eq_some_iff.mpr (List.append_assoc front gap rest)
  unfold splitLabel?
  constructor
  · intro h
    have whole : label ++ value = row := append_of_splitLabel? h
    refine ⟨?_, ?_, whole.symm⟩
    all_goals
      simp only at h
      split at h
      · next pair first =>
          cases h
          rw [Option.map_eq_some_iff] at first
          obtain ⟨rest, -, eq⟩ := first
          cases eq
          first
            | exact ⟨_, fun c hc => List.mem_takeWhile_imp hc, .inl rfl⟩
            | exact flush_dropWhile _
      · rw [Option.map_eq_some_iff] at h
        obtain ⟨rest, -, eq⟩ := h
        cases eq
        first
          | exact ⟨_, fun c hc => List.mem_takeWhile_imp hc, .inr rfl⟩
          | exact flush_dropWhile _
  · rintro ⟨⟨gap, blank, rfl | rfl⟩, flush, rfl⟩
    · simp only
      rw [after_front, Option.map_some, (gaps blank flush).1, (gaps blank flush).2]
    · have other : after? (dashFront dash ++ key ++ [':'])
          (spaces (dash + 2) ++ key ++ [':'] ++ gap ++ value) = none := by
        rw [Option.eq_none_iff_forall_ne_some]
        intro rest h
        have notItem : ¬ dashFront dash <+: spaces (dash + 2) ++ key ++ [':'] ++ gap ++ value :=
          not_dashFront_of_spaces ⟨key ++ [':'] ++ gap ++ value, by simp⟩
        refine notItem ?_
        rw [after?_eq_some_iff] at h
        refine ⟨key ++ [':'] ++ rest, ?_⟩
        simpa using h.symm
      simp only
      rw [other, Option.map_none]
      simp only
      rw [after_front, Option.map_some, (gaps blank flush).1, (gaps blank flush).2]

def isKeyRow (dash : Nat) (key row : Text) : Bool := (splitLabel? dash key row).isSome

theorem splitLabel?_append {dash : Nat} {key label : Text} (isLabel : IsLabel dash key label)
    (value : Text) : splitLabel? dash key (label ++ value) =
      some (label ++ value.takeWhile isSpaceOrTab, value.dropWhile isSpaceOrTab) := by
  rw [splitLabel?_eq_some_iff]
  refine ⟨isLabel.append fun c hc => List.mem_takeWhile_imp hc, flush_dropWhile value, ?_⟩
  rw [List.append_assoc, List.takeWhile_append_dropWhile]

/-- A row has a key exactly if a label of the key stands in front of it. -/
theorem isKeyRow_iff {dash : Nat} {key row : Text} :
    isKeyRow dash key row = true ↔ ∃ label, IsLabel dash key label ∧ label <+: row := by
  rw [isKeyRow, Option.isSome_iff_exists]
  constructor
  · rintro ⟨⟨label, value⟩, split⟩
    obtain ⟨isLabel, -, rfl⟩ := splitLabel?_eq_some_iff.mp split
    exact ⟨label, isLabel, List.prefix_append _ _⟩
  · rintro ⟨label, isLabel, value, rfl⟩
    exact ⟨_, splitLabel?_append isLabel value⟩

/-- A label is split off in the same way from a line with its end. -/
theorem splitLabel?_append_newline {dash : Nat} {key : Text} (r : Text) (plain : '\n' ∉ key) :
    splitLabel? dash key (r ++ ['\n']) =
      (splitLabel? dash key r).map fun (label, value) => (label, value ++ ['\n']) := by
  have ends : ∀ value : Text, Flush (value ++ ['\n']) ↔ Flush value := by
    intro value
    cases value with
    | nil => simp [Flush, isSpaceOrTab]
    | cons c t => rfl
  cases split : splitLabel? dash key r with
  | some pair =>
      obtain ⟨isLabel, flush, rfl⟩ := splitLabel?_eq_some_iff.mp split
      exact splitLabel?_eq_some_iff.mpr ⟨isLabel, (ends _).mpr flush, by simp⟩
  | none =>
      rw [Option.map_none, Option.eq_none_iff_forall_ne_some]
      rintro ⟨label, value⟩ found
      obtain ⟨isLabel, flush, eq⟩ := splitLabel?_eq_some_iff.mp found
      rcases List.prefix_concat_iff.mp ⟨value, eq.symm⟩ with whole | ⟨value', rfl⟩
      · exact isLabel.plain plain (by simp [whole])
      · rw [List.append_assoc, List.append_cancel_left_eq] at eq
        rw [← eq, ends] at flush
        rw [splitLabel?_eq_some_iff.mpr ⟨isLabel, flush, rfl⟩] at split
        cases split

/-- The row of a key stands less deep than the rows under it. -/
theorem IsLabel.indentation_le {dash : Nat} {key label : Text} (name : isKeyName key = true)
    (h : IsLabel dash key label) (value : Text) : indentation (label ++ value) ≤ dash + 2 := by
  obtain ⟨gap, -, rfl | rfl⟩ := h
  · rw [dashFront, show spaces dash ++ "- ".toList ++ key ++ [':'] ++ gap ++ value =
      spaces dash ++ '-' :: (' ' :: key ++ [':'] ++ gap ++ value) by simp,
      indentation_spaces_append _ _ (by decide)]
    omega
  · cases key with
    | nil => cases name
    | cons c key =>
        have notSpace : c ≠ ' ' := by
          rintro rfl
          simp [isKeyName] at name
        rw [show spaces (dash + 2) ++ c :: key ++ [':'] ++ gap ++ value =
          spaces (dash + 2) ++ c :: (key ++ [':'] ++ gap ++ value) by simp,
          indentation_spaces_append _ _ notSpace]

theorem not_isDeeper_of_isKeyRow {dash : Nat} {key row : Text} (name : isKeyName key = true)
    (h : isKeyRow dash key row = true) : isDeeper (dash + 2) row = false := by
  obtain ⟨label, isLabel, value, rfl⟩ := isKeyRow_iff.mp h
  have shallow := isLabel.indentation_le name value
  by_contra deeper
  have deep := lt_indentation_of_isDeeper (by simpa using deeper)
  omega

theorem not_isKeyRow_of_isDeeper {dash : Nat} {key row : Text} (name : isKeyName key = true)
    (h : isDeeper (dash + 2) row = true) : isKeyRow dash key row = false := by
  by_contra other
  rw [not_isDeeper_of_isKeyRow name (by simpa using other)] at h
  cases h

/-- A row has one key at most. -/
theorem isKeyRow_unique {dash : Nat} {key key' row : Text} (name : isKeyName key = true)
    (name' : isKeyName key' = true) (h : isKeyRow dash key row = true)
    (h' : isKeyRow dash key' row = true) : key = key' := by
  have mark : ∀ {front gap gap' rest rest' : Text},
      front ++ key ++ [':'] ++ gap ++ rest = front ++ key' ++ [':'] ++ gap' ++ rest' →
        key = key' := by
    intro front gap gap' rest rest' eq
    simp only [List.append_assoc, List.append_cancel_left_eq, List.singleton_append] at eq
    exact eq_of_append_mark (colon_not_mem_of_isKeyName name) (colon_not_mem_of_isKeyName name') eq
  have fronts : ∀ {key key' gap gap' rest rest' : Text},
      dashFront dash ++ key ++ [':'] ++ gap ++ rest ≠
        spaces (dash + 2) ++ key' ++ [':'] ++ gap' ++ rest' := by
    intro key key' gap gap' rest rest' eq
    have notItem : ¬ dashFront dash <+: spaces (dash + 2) ++ key' ++ [':'] ++ gap' ++ rest' :=
      not_dashFront_of_spaces ⟨key' ++ [':'] ++ gap' ++ rest', by simp⟩
    refine notItem ?_
    exact ⟨key ++ [':'] ++ gap ++ rest, by simpa using eq⟩
  obtain ⟨label, ⟨gap, -, label_eq⟩, rest, rfl⟩ := isKeyRow_iff.mp h
  obtain ⟨label', ⟨gap', -, label_eq'⟩, rest', eq⟩ := isKeyRow_iff.mp h'
  rcases label_eq with rfl | rfl <;> rcases label_eq' with rfl | rfl
  · exact mark eq.symm
  · exact absurd eq.symm fronts
  · exact absurd eq fronts
  · exact mark eq.symm

/-! ### Entries -/

/-- A key of a view as rows: what its row says up to its value, the value, and the rows under
it. -/
structure Entry where
  label : Text
  value : Text
  children : List Text
deriving DecidableEq, Repr

namespace Entry

def row (e : Entry) : Text := e.label ++ e.value

def rows (e : Entry) : List Text := e.row :: e.children

/-- Rows that can be those of a key. -/
structure Valid (dash : Nat) (key : Text) (e : Entry) : Prop where
  label : IsLabel dash key e.label
  flush : Flush e.value
  children : ∀ r ∈ e.children, isDeeper (dash + 2) r = true

end Entry

def entryAt? (dash : Nat) (key : Text) (rs : List Text) : Option Entry :=
  (splitFirst? (isKeyRow dash key) rs).bind fun (_, row, rest) =>
    (splitLabel? dash key row).map fun (label, value) =>
      ⟨label, value, rest.takeWhile (isDeeper (dash + 2))⟩

/-- An entry with the rows around it. -/
structure Placed (dash : Nat) (key : Text) (rs : List Text) (e : Entry)
    (above below : List Text) : Prop where
  rows : rs = above ++ e.rows ++ below
  valid : e.Valid dash key
  above : ∀ r ∈ above, isKeyRow dash key r = false
  below : ∀ r ∈ below.head?, isDeeper (dash + 2) r = false

theorem Entry.Valid.isKeyRow {dash : Nat} {key : Text} {e : Entry} (valid : e.Valid dash key) :
    isKeyRow dash key e.row = true :=
  isKeyRow_iff.mpr ⟨e.label, valid.label, List.prefix_append _ _⟩

theorem Entry.Valid.splitLabel? {dash : Nat} {key : Text} {e : Entry} (valid : e.Valid dash key) :
    splitLabel? dash key e.row = some (e.label, e.value) :=
  splitLabel?_eq_some_iff.mpr ⟨valid.label, valid.flush, rfl⟩

/-- The last row of an entry has something written on it. -/
theorem Entry.Valid.getLast?_ne {dash : Nat} {key : Text} {e : Entry} (valid : e.Valid dash key)
    (above : List Text) : (above ++ e.rows).getLast? ≠ some [] := by
  rw [List.getLast?_append_of_ne_nil _ (by simp [Entry.rows]), Entry.rows, List.getLast?_cons]
  intro h
  cases final : e.children.getLast? with
  | none =>
      rw [final] at h
      exact valid.label.ne_nil (List.append_eq_nil_iff.mp (Option.some.inj h)).1
  | some r =>
      rw [final, Option.getD_some, Option.some.injEq] at h
      have deep := valid.children r (List.mem_of_getLast? final)
      rw [h] at deep
      cases deep

/-- An entry that is placed is the one that is found. -/
theorem Placed.entryAt? {dash : Nat} {key : Text} {rs above below : List Text} {e : Entry}
    (placed : Placed dash key rs e above below) : entryAt? dash key rs = some e := by
  obtain ⟨rfl, valid, noKey, stop⟩ := placed
  rw [Document.entryAt?, Entry.rows, List.append_assoc, List.cons_append,
    splitFirst?_of_split noKey valid.isKeyRow, Option.bind_some]
  dsimp only
  rw [valid.splitLabel?, takeWhile_append_stop stop,
    List.takeWhile_eq_self_iff.mpr valid.children]
  rfl

/-- An entry is found exactly where it stands. -/
theorem entryAt?_eq_some_iff {dash : Nat} {key : Text} {rs : List Text} {e : Entry} :
    entryAt? dash key rs = some e ↔ ∃ above below, Placed dash key rs e above below := by
  constructor
  · intro h
    rw [entryAt?, Option.bind_eq_some_iff] at h
    obtain ⟨⟨above, row, rest⟩, split, h⟩ := h
    rw [Option.map_eq_some_iff] at h
    obtain ⟨⟨label, value⟩, cut, rfl⟩ := h
    obtain ⟨rfl, -, noKey⟩ := splitFirst?_eq_some split
    obtain ⟨isLabel, flush, rfl⟩ := splitLabel?_eq_some_iff.mp cut
    refine ⟨above, rest.dropWhile (isDeeper (dash + 2)), ?_,
      ⟨isLabel, flush, fun r hr => List.mem_takeWhile_imp hr⟩, noKey, head?_dropWhile⟩
    simp [Entry.rows, Entry.row, List.takeWhile_append_dropWhile]
  · rintro ⟨above, below, placed⟩
    exact placed.entryAt?

/-- An entry stands in one place. -/
theorem Placed.unique {dash : Nat} {key : Text} {rs above below above' below' : List Text}
    {e e' : Entry} (placed : Placed dash key rs e above below)
    (placed' : Placed dash key rs e' above' below') : e = e' ∧ above = above' ∧ below = below' := by
  have same : e = e' := Option.some.inj (placed.entryAt?.symm.trans placed'.entryAt?)
  subst same
  have split : splitFirst? (isKeyRow dash key) (above ++ e.row :: (e.children ++ below)) = _ :=
    splitFirst?_of_split placed.above placed.valid.isKeyRow
  have split' : splitFirst? (isKeyRow dash key) (above' ++ e.row :: (e.children ++ below')) = _ :=
    splitFirst?_of_split placed'.above placed'.valid.isKeyRow
  have rows : above ++ e.row :: (e.children ++ below) =
      above' ++ e.row :: (e.children ++ below') := by
    simpa [Entry.rows] using placed.rows.symm.trans placed'.rows
  rw [rows, split'] at split
  simp only [Option.some.injEq, Prod.mk.injEq, List.append_cancel_left_eq, true_and] at split
  exact ⟨rfl, split.1.symm, split.2.symm⟩

/-- No entry is found exactly if no row has the key. -/
theorem entryAt?_eq_none_iff {dash : Nat} {key : Text} {rs : List Text} :
    entryAt? dash key rs = none ↔ ∀ r ∈ rs, isKeyRow dash key r = false := by
  rw [← splitFirst?_eq_none, entryAt?, Option.bind_eq_none_iff]
  constructor
  · intro h
    rw [Option.eq_none_iff_forall_ne_some]
    rintro ⟨above, row, rest⟩ split
    have isKey := (splitFirst?_eq_some split).2.1
    rw [isKeyRow, Option.isSome_iff_exists] at isKey
    obtain ⟨pair, isLabel⟩ := isKey
    have none := h _ split
    simp only [isLabel, Option.map_some] at none
    cases none
  · intro h pair split
    rw [h] at split
    cases split

/-- Rows that stand after the head of a view without being a row of the key `key`, and that
end the rows under a key before them. -/
def Aside (dash : Nat) (key : Text) (rs : List Text) : Prop :=
  (∀ r ∈ rs, isKeyRow dash key r = false) ∧ ∀ r ∈ rs.head?, isDeeper (dash + 2) r = false

/-- Exchanging rows that are not those of a key leaves its entry as it was. -/
theorem entryAt?_exchange {dash : Nat} {key : Text} {above old new below : List Text}
    (hold : Aside dash key old) (hnew : Aside dash key new)
    (stop : ∀ r ∈ below.head?, isDeeper (dash + 2) r = false) :
    entryAt? dash key (above ++ old ++ below) = entryAt? dash key (above ++ new ++ below) := by
  have heads : ∀ rs, Aside dash key rs → ∀ r ∈ (rs ++ below).head?,
      isDeeper (dash + 2) r = false := by
    intro rs aside r hr
    cases rs with
    | nil => exact stop r hr
    | cons first rest => exact aside.2 r hr
  rw [List.append_assoc, List.append_assoc]
  cases split : splitFirst? (isKeyRow dash key) above with
  | none =>
      have none := splitFirst?_eq_none.mp split
      rw [entryAt?, entryAt?, splitFirst?_append_of_none _ none, splitFirst?_append_of_none _ none,
        splitFirst?_append_of_none _ hold.1, splitFirst?_append_of_none _ hnew.1]
      cases splitFirst? (isKeyRow dash key) below <;> rfl
  | some found =>
      obtain ⟨front, row, rest⟩ := found
      obtain ⟨rfl, isKey, none⟩ := splitFirst?_eq_some split
      rw [entryAt?, entryAt?, List.append_assoc, List.append_assoc, List.cons_append,
        List.cons_append, splitFirst?_of_split none isKey, splitFirst?_of_split none isKey,
        Option.bind_some, Option.bind_some]
      dsimp only
      rw [takeWhile_append_stop (heads old hold), takeWhile_append_stop (heads new hnew)]

/-- The rows of a key are aside for every other key. -/
theorem Entry.Valid.aside {dash : Nat} {key key' : Text} {e : Entry} (valid : e.Valid dash key)
    (name : isKeyName key = true) (name' : isKeyName key' = true) (ne : key ≠ key') :
    Aside dash key' e.rows := by
  refine ⟨fun r hr => ?_, fun r hr => ?_⟩
  · rcases List.mem_cons.mp hr with rfl | hr
    · by_contra h
      exact ne (isKeyRow_unique name name' valid.isKeyRow (by simpa using h))
    · exact not_isKeyRow_of_isDeeper name' (valid.children r hr)
  · rw [Entry.rows, List.head?_cons, Option.mem_some_iff] at hr
    rw [← hr]
    exact not_isDeeper_of_isKeyRow name valid.isKeyRow

theorem aside_nil (dash : Nat) (key : Text) : Aside dash key [] := by
  constructor <;> simp

/-! ### Keys of a view that is found -/

def Key.entry (k : Key) : Entry := ⟨k.label, k.value, k.children.map content⟩

section Found

variable {t : Text} {v : View} (found : firstView? t = some v)
include found

/-- Writing the rows of an entry again leaves the document as it is. -/
theorem withRows_placed {key : Text} {e : Entry} {above below : List Text}
    (placed : Placed v.dash key v.rows e above below) :
    v.withRows (above ++ e.rows ++ below) = t := by
  rw [← placed.rows]
  exact withRows_rows found

theorem mem_lines_of_view {l : Text} (h : l ∈ v.lines) : l ∈ t.lines := by
  rw [lines_of_firstView? found]
  exact List.mem_append_left _ (List.mem_append_right _ h)

/-- A row of the view, with its line end or without. -/
theorem splitLabel?_line {key l : Text} (plain : '\n' ∉ key) (h : l ∈ v.lines) :
    splitLabel? v.dash key l =
      (splitLabel? v.dash key (content l)).map fun (label, value) => (label, value ++ ending l) := by
  obtain ⟨r, noEnd, eq, rfl | rfl⟩ := shape_of_mem_lines (mem_lines_of_view found h)
  · have none : ending l = [] := by
      rw [ending, List.dropWhile_eq_nil_iff]
      intro c hc
      simpa using fun h : c = '\n' => noEnd (h ▸ hc)
    rw [eq, none]
    simp
  · have some : ending (r ++ ['\n']) = ['\n'] := by
      rw [ending, List.dropWhile_append_of_pos fun c hc => by
        simpa using fun h : c = '\n' => noEnd (h ▸ hc)]
      rfl
    rw [eq, some, splitLabel?_append_newline r plain]

theorem isKeyRow_line {key l : Text} (plain : '\n' ∉ key) (h : l ∈ v.lines) :
    isKeyRow v.dash key (content l) = (splitLabel? v.dash key l).isSome := by
  rw [splitLabel?_line found plain h, Option.isSome_map]
  rfl

theorem isDeeper_line {l : Text} (depth : Nat) (h : l ∈ v.lines) :
    isDeeper depth (content l) = isDeeper depth l := by
  obtain ⟨r, -, eq, rfl | rfl⟩ := shape_of_mem_lines (mem_lines_of_view found h)
  · rw [eq]
  · rw [eq, isDeeper_append_newline]

/-- A key that is found stands among the rows of the view. -/
theorem placed_of_key? {key : Text} {k : Key} (plain : '\n' ∉ key) (h : v.key? key = some k) :
    Placed v.dash key v.rows k.entry (k.before.map content) (k.after.map content) := by
  rw [View.key?, Option.bind_eq_some_iff] at h
  obtain ⟨⟨before, line, rest⟩, split, h⟩ := h
  rw [Option.map_eq_some_iff] at h
  obtain ⟨⟨label, written⟩, cut, rfl⟩ := h
  obtain ⟨parts, -, noKey⟩ := splitFirst?_eq_some split
  have mem : ∀ l ∈ before ++ line :: rest, l ∈ v.lines := fun l hl => parts ▸ hl
  rw [splitLabel?_line found plain (mem line (by simp)), Option.map_eq_some_iff] at cut
  obtain ⟨⟨label', value⟩, cut, eq⟩ := cut
  cases eq
  obtain ⟨isLabel, flush, row⟩ := splitLabel?_eq_some_iff.mp cut
  have noEnd : '\n' ∉ value := fun h =>
    not_mem_content line (row ▸ List.mem_append_right _ h)
  have value_eq : content (value ++ ending line) = value := by
    have stop : ∀ c ∈ (ending line).head?, (c != '\n') = false := head?_dropWhile
    rw [content, takeWhile_append_stop stop]
    exact content_row noEnd
  -- How deep a line is does not depend on its line end.
  have deeper : ∀ l ∈ rest, isDeeper v.indent l = isDeeper v.indent (content l) := fun l hl =>
    (isDeeper_line found _ (mem l (by simp [hl]))).symm
  dsimp only [Key.entry]
  rw [value_eq]
  refine ⟨?_, ⟨isLabel, flush, ?_⟩, ?_, ?_⟩
  · rw [View.rows, parts, List.map_append, List.map_cons, row, Entry.rows, List.append_assoc,
      List.cons_append, ← List.map_append, List.takeWhile_append_dropWhile]
    rfl
  · intro r hr
    obtain ⟨l, hl, rfl⟩ := List.mem_map.mp hr
    have deep := List.mem_takeWhile_imp hl
    rwa [deeper l ((List.takeWhile_prefix _).subset hl)] at deep
  · intro r hr
    obtain ⟨l, hl, rfl⟩ := List.mem_map.mp hr
    rw [isKeyRow_line found plain (mem l (by simp [hl]))]
    exact noKey l hl
  · intro r hr
    rw [List.head?_map, Option.mem_def, Option.map_eq_some_iff] at hr
    obtain ⟨l, hl, rfl⟩ := hr
    have stop := head?_dropWhile l hl
    rwa [deeper l ((List.dropWhile_suffix _).subset (List.mem_of_mem_head? hl))] at stop

/-- A key is found in the lines of the view as its entry is in the rows. -/
theorem entryAt?_rows {key : Text} (plain : '\n' ∉ key) :
    entryAt? v.dash key v.rows = (v.key? key).map Key.entry := by
  cases h : v.key? key with
  | some k => exact (placed_of_key? found plain h).entryAt?
  | none =>
      rw [Option.map_none, entryAt?_eq_none_iff]
      intro r hr
      obtain ⟨l, hl, rfl⟩ := List.mem_map.mp hr
      rw [isKeyRow_line found plain hl]
      by_contra isKey
      rw [Bool.not_eq_false, Option.isSome_iff_exists] at isKey
      obtain ⟨pair, cut⟩ := isKey
      rw [View.key?, Option.bind_eq_none_iff] at h
      cases split : splitFirst? (fun line => (splitLabel? v.dash key line).isSome) v.lines with
      | none =>
          have := splitFirst?_eq_none.mp split l hl
          simp [cut] at this
      | some parts =>
          have none := h parts split
          have isKey := (splitFirst?_eq_some split).2.1
          simp only [Option.map_eq_none_iff] at none
          simp [none] at isKey

/-- A key is found where its entry stands. -/
theorem exists_key?_of_placed {key : Text} {e : Entry} {above below : List Text}
    (plain : '\n' ∉ key) (placed : Placed v.dash key v.rows e above below) :
    ∃ k, v.key? key = some k ∧ k.entry = e ∧ k.before.map content = above ∧
      k.after.map content = below := by
  have present := placed.entryAt?
  rw [entryAt?_rows found plain, Option.map_eq_some_iff] at present
  obtain ⟨k, isKey, -⟩ := present
  obtain ⟨same, before, after⟩ := (placed_of_key? found plain isKey).unique placed
  exact ⟨k, isKey, same, before, after⟩

end Found

end Document

end Notebase
