import Mathlib.Logic.Function.Basic
import Notebase.Patch
import Notebase.Proofs.Document.ViewEdit

/-!
What the edits see of a document. The outline keeps the blocks that are read, and the entries of
the first view without the order in which they stand. Every edit acts on the outline alone
(`outline_apply`), so what a run of edits does can be said and proved there.
-/

namespace Notebase.Document

open Text

/-! ### Entries by their keys -/

inductive ViewKey where
  | type
  | name
  | order
  | sort
  | groupBy
deriving DecidableEq, Repr

def ViewKey.text : ViewKey → Text
  | .type => "type".toList
  | .name => "name".toList
  | .order => "order".toList
  | .sort => "sort".toList
  | .groupBy => "groupBy".toList

theorem ViewKey.isKeyName_text (key : ViewKey) : isKeyName key.text = true := by
  cases key <;> decide

theorem ViewKey.plain_text (key : ViewKey) : '\n' ∉ key.text := by
  cases key <;> decide

theorem ViewKey.text_inj {key key' : ViewKey} (h : key.text = key'.text) : key = key' := by
  revert h
  cases key <;> cases key' <;> decide

/-- The entries of a view whose dash stands `dash` spaces deep. -/
@[ext]
structure Panel where
  dash : Nat
  entry : ViewKey → Option Entry

namespace Panel

def ofRows (dash : Nat) (rs : List Text) : Panel := ⟨dash, fun key => entryAt? dash key.text rs⟩

def set (p : Panel) (key : ViewKey) (e : Entry) : Panel :=
  { p with entry := Function.update p.entry key (some e) }

@[simp] theorem dash_set (p : Panel) (key : ViewKey) (e : Entry) : (p.set key e).dash = p.dash := rfl

@[simp] theorem entry_set_self (p : Panel) (key : ViewKey) (e : Entry) :
    (p.set key e).entry key = some e := Function.update_self ..

theorem entry_set_of_ne (p : Panel) {key key' : ViewKey} (e : Entry) (ne : key' ≠ key) :
    (p.set key e).entry key' = p.entry key' := Function.update_of_ne ne ..

end Panel

/-- Exchanging the rows of an entry changes that entry alone. -/
theorem panel_exchange {dash : Nat} {key : ViewKey} {rs above below : List Text} {e e' : Entry}
    (placed : Placed dash key.text rs e above below) (valid : e'.Valid dash key.text) :
    Panel.ofRows dash (above ++ e'.rows ++ below) = (Panel.ofRows dash rs).set key e' := by
  refine congrArg (Panel.mk dash) (funext fun key' => ?_)
  by_cases same : key' = key
  · subst same
    rw [Function.update_self]
    exact Placed.entryAt? ⟨rfl, valid, placed.above, placed.below⟩
  · have ne : key.text ≠ key'.text := fun h => same (ViewKey.text_inj h).symm
    rw [Function.update_of_ne same, placed.rows]
    exact entryAt?_exchange (valid.aside key.isKeyName_text key'.isKeyName_text ne)
      (placed.valid.aside key.isKeyName_text key'.isKeyName_text ne) placed.below

/-- Rows of a new entry after another entry change the new entry alone. -/
theorem panel_insert {dash : Nat} {key anchor : ViewKey} {rs above below : List Text}
    {e new : Entry} (none : entryAt? dash key.text rs = none)
    (placed : Placed dash anchor.text rs e above below) (valid : new.Valid dash key.text) :
    Panel.ofRows dash (above ++ e.rows ++ new.rows ++ below) =
      (Panel.ofRows dash rs).set key new := by
  have noKey := entryAt?_eq_none_iff.mp none
  refine congrArg (Panel.mk dash) (funext fun key' => ?_)
  by_cases same : key' = key
  · subst same
    rw [Function.update_self]
    refine Placed.entryAt? ⟨rfl, valid, fun r hr => noKey r ?_, placed.below⟩
    rw [placed.rows]
    exact List.mem_append_left _ hr
  · have ne : key.text ≠ key'.text := fun h => same (ViewKey.text_inj h).symm
    have exchange : entryAt? dash key'.text (above ++ e.rows ++ new.rows ++ below) =
        entryAt? dash key'.text (above ++ e.rows ++ [] ++ below) :=
      entryAt?_exchange (valid.aside key.isKeyName_text key'.isKeyName_text ne)
        (aside_nil dash key'.text) placed.below
    rw [Function.update_of_ne same]
    simpa [Panel.ofRows, placed.rows] using exchange

/-! ### Rows of a view whose entries change -/

/-- Only a label with a dash makes a row open with the dash. -/
theorem IsLabel.dashFront_iff {dash : Nat} {key label : Text} (h : IsLabel dash key label)
    (value : Text) : dashFront dash <+: label ++ value ↔ dashFront dash <+: label := by
  obtain ⟨gap, -, rfl | rfl⟩ := h
  · constructor
    · exact fun _ => ⟨key ++ [':'] ++ gap, by simp⟩
    · exact fun _ => ⟨key ++ [':'] ++ gap ++ value, by simp⟩
  · constructor
    · intro item
      exact absurd item (not_dashFront_of_spaces ⟨key ++ [':'] ++ gap ++ value, by simp⟩)
    · intro item
      exact absurd item (not_dashFront_of_spaces ⟨key ++ [':'] ++ gap, by simp⟩)

theorem IsLabel.spaces_prefix {dash : Nat} {key label : Text} (h : IsLabel dash key label)
    (bare : ¬ dashFront dash <+: label) : spaces (dash + 2) <+: label := by
  obtain ⟨gap, -, rfl | rfl⟩ := h
  · exact absurd ⟨key ++ [':'] ++ gap, by simp⟩ bare
  · exact ⟨key ++ [':'] ++ gap, by simp⟩

/-- An entry opens the view exactly if its label has the dash. -/
theorem Placed.above_eq_nil_iff {dash : Nat} {key : Text} {rs above below : List Text} {e : Entry}
    (placed : Placed dash key rs e above below) (ok : ViewRows dash rs) :
    above = [] ↔ dashFront dash <+: e.label := by
  rw [← placed.valid.label.dashFront_iff e.value]
  constructor
  · rintro rfl
    obtain ⟨r, isHead, item⟩ := ok.head
    rw [placed.rows] at isHead
    obtain rfl : e.row = r := by simpa [Entry.rows] using isHead
    exact item
  · intro item
    by_contra ne
    obtain ⟨head, tail, rfl⟩ := List.exists_cons_of_ne_nil ne
    have inTail : e.row ∈ rs.tail := by
      rw [placed.rows]
      simp [Entry.rows]
    have notItem := (ok.tail _ inTail).2
    rw [Entry.row, List.isPrefixOf_iff_prefix.mpr item] at notItem
    cases notItem

/-- Rows of a view stay rows of a view when an entry is exchanged for another. -/
theorem viewRows_exchange {dash : Nat} {key : Text} {rs above below : List Text} {e e' : Entry}
    (ok : ViewRows dash rs) (placed : Placed dash key rs e above below)
    (valid : e'.Valid dash key) (plain : Plain e'.rows)
    (front : dashFront dash <+: e'.label ↔ dashFront dash <+: e.label) :
    ViewRows dash (above ++ e'.rows ++ below) := by
  have children : ∀ r ∈ e'.children, Inner dash r := fun r hr =>
    inner_of_isDeeper (plain r (List.mem_cons_of_mem _ hr)) (valid.children r hr)
  have opens := placed.above_eq_nil_iff ok
  rw [placed.rows] at ok
  by_cases first : above = []
  · subst first
    have item := front.mpr (opens.mp rfl)
    exact ok.exchange_head ((valid.label.dashFront_iff _).mpr item) (plain _ List.mem_cons_self)
      children
  · have bare : ¬ dashFront dash <+: e'.label := fun item => first (opens.mpr (front.mp item))
    have written : e'.Written dash key := ⟨valid, plain, valid.label.spaces_prefix bare⟩
    exact ok.exchange first written.inner fun none => absurd none (List.cons_ne_nil _ _)

theorem viewRows_insert {dash : Nat} {key anchor : Text} {rs above below : List Text}
    {e new : Entry} (ok : ViewRows dash rs) (placed : Placed dash anchor rs e above below)
    (written : new.Written dash key) : ViewRows dash (above ++ e.rows ++ new.rows ++ below) := by
  have viewRows : ViewRows dash ((above ++ e.rows) ++ [] ++ below) := by
    rwa [List.append_nil, ← placed.rows]
  exact viewRows.exchange (by simp [Entry.rows]) written.inner fun none =>
    absurd none (List.cons_ne_nil _ _)

/-! ### The outline -/

/-- The lines of a document before its first key of the top level, without empty ones at the
start. -/
def leading (t : Text) : List Text := (t.lines.dropWhile isEmptyLine).takeWhile (!isTopKey ·)

structure Outline where
  leading : List Text
  filters : Option (List Text)
  formulas : Option (List Text)
  properties : Option (List Text)
  view : Option Panel

def View.panel (v : View) : Panel := Panel.ofRows v.dash v.rows

def outline (t : Text) : Outline where
  leading := leading t
  filters := blockOf? "filters".toList t.lines
  formulas := blockOf? "formulas".toList t.lines
  properties := blockOf? "properties".toList t.lines
  view := (firstView? t).map View.panel

/-- What leads a document ends with the first line that has a key, whatever follows it. -/
theorem leading_eq_of_lines {t t' : Text} {above rest rest' : List Text} {header header' : Text}
    (lines : t.lines = above ++ header :: rest) (lines' : t'.lines = above ++ header' :: rest')
    (top : isTopKey header = true) (top' : isTopKey header' = true) : leading t' = leading t := by
  have lead : ∀ (header : Text) (rest : List Text), isTopKey header = true →
      ((above ++ header :: rest).dropWhile isEmptyLine).takeWhile (!isTopKey ·) =
        (above.dropWhile isEmptyLine).takeWhile (!isTopKey ·) := by
    intro header rest top
    have written : isEmptyLine header = false := by
      by_contra empty
      rw [isTopKey_of_isEmptyLine (by simpa using empty)] at top
      cases top
    rw [dropWhile_append_stop (by simp [written]), takeWhile_append_stop (by simp [top])]
  rw [leading, leading, lines, lines', lead _ _ top, lead _ _ top']

/-- A view with other rows has other entries; the rest of the outline stays. -/
theorem outline_withRows {t : Text} {v : View} (found : firstView? t = some v) {rs : List Text}
    (ok : ViewRows v.dash rs) :
    outline (v.withRows rs) = { outline t with view := some (Panel.ofRows v.dash rs) } := by
  obtain ⟨v', found', dash, rows, -⟩ := firstView?_withRows found ok
  obtain ⟨s, sited⟩ := sited_of_firstView? found
  have lines : t.lines = s.above ++ s.header :: (s.skipped ++ v.lines ++ v.after) := by
    rw [sited.lines, sited.before]
    simp
  have lines' : (v.withRows rs).lines =
      s.above ++ s.header :: (s.skipped ++ (ofRows v.closed rs).lines ++ v.after) := by
    rw [lines_withRows found, sited.before]
    simp
  have top := isTopKey_of_startsWithKey (by decide) sited.header
  have lead := leading_eq_of_lines lines lines' top top
  rw [outline, outline, found', lead, blockOf?_withRows found ok (by decide) (by decide),
    blockOf?_withRows found ok (by decide) (by decide),
    blockOf?_withRows found ok (by decide) (by decide), Option.map_some, View.panel, dash, rows]

def Outline.entryAt? (o : Outline) (key : ViewKey) : Option Entry := o.view.bind (·.entry key)

def Outline.onView (f : Panel → Panel) (o : Outline) : Outline := { o with view := o.view.map f }

/-- A key without an entry is not found in the document. -/
theorem viewKey?_eq_none {t : Text} {key : ViewKey} (none : (outline t).entryAt? key = none) :
    viewKey? key.text t = Option.none := by
  cases found : firstView? t with
  | none => rw [viewKey?, found, Option.bind_none]
  | some v =>
      have absent : entryAt? v.dash key.text v.rows = Option.none := by
        simpa [Outline.entryAt?, outline, found, View.panel, Panel.ofRows] using none
      rw [viewKey?, found, Option.bind_some, key?_of_entry?_eq_none found key.plain_text absent,
        Option.map_none]

/-- An entry of the outline stands in the first view. -/
theorem exists_placed {t : Text} {key : ViewKey} {e : Entry}
    (present : (outline t).entryAt? key = some e) :
    ∃ v above below, firstView? t = some v ∧ Placed v.dash key.text v.rows e above below := by
  cases found : firstView? t with
  | none => simp [Outline.entryAt?, outline, found] at present
  | some v =>
      have reads : entryAt? v.dash key.text v.rows = some e := by
        simpa [Outline.entryAt?, outline, found, View.panel, Panel.ofRows] using present
      obtain ⟨above, below, placed⟩ := entryAt?_eq_some_iff.mp reads
      exact ⟨v, above, below, rfl, placed⟩

/-! ### Edits of the first view -/

section Absent

variable {t : Text}

/-! An edit whose keys are not found leaves the document alone. -/

theorem setViewType_of_none {kind : Text} (none : viewKey? ViewKey.type.text t = none) :
    setViewType kind t = t := by
  rw [setViewType, show "type".toList = ViewKey.type.text from rfl, none]

theorem renameView_of_none {name : Text} (none : viewKey? ViewKey.name.text t = none)
    (noType : viewKey? ViewKey.type.text t = Option.none) : renameView name t = t := by
  rw [renameView, show "name".toList = ViewKey.name.text from rfl, none,
    show "type".toList = ViewKey.type.text from rfl, noType]

theorem addColumns_of_none {refs : List Text} (none : viewKey? ViewKey.order.text t = none) :
    addColumns refs t = t := by
  rw [addColumns, show "order".toList = ViewKey.order.text from rfl, none]

theorem removeColumn_of_none {ref : Text} (none : viewKey? ViewKey.order.text t = none) :
    removeColumn t ref = t := by
  rw [removeColumn, show "order".toList = ViewKey.order.text from rfl, none]

theorem removeColumns_of_none {refs : List Text} (none : viewKey? ViewKey.order.text t = none) :
    removeColumns refs t = t :=
  List.foldl_fixed' (fun _ => removeColumn_of_none none) refs

theorem setViewBlock_of_none {key : Text} {block : Nat → Text} (none : viewKey? key t = none)
    (noOrder : viewKey? ViewKey.order.text t = Option.none) : setViewBlock key block t = t := by
  rw [setViewBlock, none, show "order".toList = ViewKey.order.text from rfl, noOrder]

end Absent

theorem Flush.split {value : Text} (flush : Flush value) :
    value.takeWhile isSpaceOrTab = [] ∧ value.dropWhile isSpaceOrTab = value := by
  cases value with
  | nil => exact ⟨rfl, rfl⟩
  | cons c t =>
      have first : ¬ isSpaceOrTab c = true := by simp [flush c rfl]
      exact ⟨List.takeWhile_cons_of_neg first, List.dropWhile_cons_of_neg first⟩

namespace Entry

def withValue (e : Entry) (value : Text) : Entry :=
  ⟨e.label ++ value.takeWhile isSpaceOrTab, value.dropWhile isSpaceOrTab, e.children⟩

def withChildren (e : Entry) (children : List Text) : Entry := { e with children }

theorem row_withValue (e : Entry) (value : Text) : (e.withValue value).row = e.label ++ value := by
  rw [row, withValue, List.append_assoc, List.takeWhile_append_dropWhile]

theorem withValue_of_flush (e : Entry) {value : Text} (flush : Flush value) :
    e.withValue value = ⟨e.label, value, e.children⟩ := by
  rw [withValue, flush.split.1, flush.split.2, List.append_nil]

theorem rows_withValue (e : Entry) (value : Text) :
    (e.withValue value).rows = (e.label ++ value) :: e.children := by
  rw [rows, row_withValue]
  rfl

variable {dash : Nat} {key : Text} {e : Entry}

theorem Valid.withValue (valid : e.Valid dash key) (value : Text) :
    (e.withValue value).Valid dash key :=
  ⟨valid.label.append fun _ hc => List.mem_takeWhile_imp hc, flush_dropWhile value, valid.children⟩

theorem Valid.dashFront_withValue (valid : e.Valid dash key) (value : Text) :
    dashFront dash <+: (e.withValue value).label ↔ dashFront dash <+: e.label :=
  valid.label.dashFront_iff _

theorem Valid.withChildren (valid : e.Valid dash key) {children : List Text}
    (deeper : ∀ r ∈ children, isDeeper (dash + 2) r = true) :
    (e.withChildren children).Valid dash key :=
  ⟨valid.label, valid.flush, deeper⟩

end Entry

namespace Panel

def setType (kind : Text) (p : Panel) : Panel :=
  match p.entry .type with
  | none => p
  | some e => p.set .type (e.withValue kind)

/-- The view with another name; one without a name gets it if it has a kind. -/
def rename (name : Text) (p : Panel) : Panel :=
  match p.entry .name, p.entry .type with
  | some e, _ => p.set .name (e.withValue (quotedName name))
  | none, some _ => p.set .name (nameEntry p.dash name)
  | none, none => p

def addColumns (refs : List Text) (p : Panel) : Panel :=
  match p.entry .order with
  | none => p
  | some e => p.set .order (e.withChildren
      (e.children ++ (newColumns e.columns refs).map (columnRow p.dash)))

def removeColumn (p : Panel) (ref : Text) : Panel :=
  match p.entry .order with
  | none => p
  | some e => p.set .order (e.withChildren (e.children.eraseP (isColumn ref)))

def removeColumns (refs : List Text) (p : Panel) : Panel := refs.foldl removeColumn p

/-- The view with this entry for a key, if it has the key or columns to write it after. -/
def put (key : ViewKey) (new : Nat → Entry) (p : Panel) : Panel :=
  if (p.entry key).isSome || (p.entry .order).isSome then p.set key (new p.dash) else p

/-- No sorting and no grouping opens the view on the line with its dash. -/
def Bare (p : Panel) : Prop :=
  ∀ key ∈ [ViewKey.sort, ViewKey.groupBy], ∀ e ∈ p.entry key, ¬ dashFront p.dash <+: e.label

end Panel

/-- No sorting and no grouping opens the first view. -/
def Outline.Bare (o : Outline) : Prop := ∀ p ∈ o.view, p.Bare

def opensWith (key t : Text) : Bool :=
  (firstView? t).any fun v => (dashFront v.dash ++ key ++ [':']).isPrefixOf v.head

/-- A key that does not open the view stands on a row without the dash. -/
theorem label_of_not_opensWith {t : Text} (key : ViewKey) (closed : opensWith key.text t = false) :
    ∀ p ∈ (outline t).view, ∀ e ∈ p.entry key, ¬ dashFront p.dash <+: e.label := by
  intro p hp e mem item
  rw [outline, Option.mem_def, Option.map_eq_some_iff] at hp
  obtain ⟨v, found, rfl⟩ := hp
  obtain ⟨above, below, placed⟩ := entryAt?_eq_some_iff.mp mem
  have ok := viewRows_rows found
  have first := (placed.above_eq_nil_iff ok).mpr item
  subst first
  have opens : opensWith key.text t = true := by
    have head : content v.head = e.row := (List.cons.inj placed.rows).1
    have front : dashFront v.dash ++ key.text ++ [':'] <+: e.label := by
      obtain ⟨gap, -, eq | eq⟩ := placed.valid.label
      · exact ⟨gap, eq.symm⟩
      · refine absurd item (not_dashFront_of_spaces ?_)
        exact ⟨key.text ++ [':'] ++ gap, by simp [eq, View.panel, Panel.ofRows]⟩
    rw [opensWith, found, Option.any_some, List.isPrefixOf_iff_prefix]
    refine (front.trans (List.prefix_append _ e.value)).trans ?_
    rw [show e.label ++ e.value = content v.head from head.symm]
    exact List.takeWhile_prefix _
  rw [opens] at closed
  cases closed

theorem bare_of_not_opensWith {t : Text} (noSort : opensWith "sort".toList t = false)
    (noGroup : opensWith "groupBy".toList t = false) : (outline t).Bare := by
  intro p hp key mem
  simp only [List.mem_cons, List.not_mem_nil, or_false] at mem
  rcases mem with rfl | rfl
  · exact label_of_not_opensWith .sort noSort p hp
  · exact label_of_not_opensWith .groupBy noGroup p hp

theorem plain_rows_of_view {v : View} {key : Text} {e : Entry} {above below : List Text}
    (placed : Placed v.dash key v.rows e above below) : Plain e.rows := by
  intro r hr
  have mem : r ∈ v.rows := by
    rw [placed.rows]
    simp [hr]
  obtain ⟨l, -, rfl⟩ := List.mem_map.mp mem
  exact not_mem_content l

/-- An entry with a plain value has rows without line ends. -/
theorem plain_rows_withValue {v : View} {key value : Text} {e : Entry} {above below : List Text}
    (placed : Placed v.dash key v.rows e above below) (name : '\n' ∉ key) (plain : '\n' ∉ value) :
    Plain (e.withValue value).rows := by
  intro r hr
  rw [Entry.rows_withValue] at hr
  rcases List.mem_cons.mp hr with rfl | hr
  · rw [List.mem_append, not_or]
    exact ⟨placed.valid.label.plain name, plain⟩
  · exact plain_rows_of_view placed r (List.mem_cons_of_mem _ hr)

theorem plain_rows_withChildren {v : View} {key : Text} {e : Entry} {above below : List Text}
    (placed : Placed v.dash key v.rows e above below) {children : List Text}
    (plain : Plain children) : Plain (e.withChildren children).rows := by
  intro r hr
  rcases List.mem_cons.mp hr with rfl | hr
  · exact plain_rows_of_view placed _ List.mem_cons_self
  · exact plain r hr

/-- The rows of new columns can stand under a key after the ones that are there. -/
theorem rows_with_newColumns {v : View} {key : Text} {e : Entry} {above below refs : List Text}
    (placed : Placed v.dash key v.rows e above below) (plain : Plain refs) :
    Plain (e.children ++ (newColumns e.columns refs).map (columnRow v.dash)) ∧
      ∀ r ∈ e.children ++ (newColumns e.columns refs).map (columnRow v.dash),
        isDeeper (v.dash + 2) r = true := by
  have added := inner_newColumns v.dash e.columns plain
  refine ⟨Plain.append (fun r hr => plain_rows_of_view placed r (List.mem_cons_of_mem _ hr))
    fun r hr => (added r hr).1, fun r hr => ?_⟩
  rcases List.mem_append.mp hr with hr | hr
  · exact placed.valid.children r hr
  · exact (added r hr).2

/-- Another entry in the place of one of the view, as the outline sees it. -/
theorem outline_exchange {t : Text} {v : View} {key : ViewKey} {e e' : Entry}
    {above below : List Text} (found : firstView? t = some v)
    (placed : Placed v.dash key.text v.rows e above below) (valid : e'.Valid v.dash key.text)
    (plain : Plain e'.rows) (front : dashFront v.dash <+: e'.label ↔ dashFront v.dash <+: e.label) :
    outline (v.withRows (above ++ e'.rows ++ below)) =
      (outline t).onView fun p => p.set key e' := by
  rw [outline_withRows found (viewRows_exchange (viewRows_rows found) placed valid plain front),
    panel_exchange placed valid, Outline.onView, outline, found, Option.map_some, Option.map_some,
    View.panel]

/-- A new entry after one of the view, as the outline sees it. -/
theorem outline_insert {t : Text} {v : View} {key anchor : ViewKey} {e new : Entry}
    {above below : List Text} (found : firstView? t = some v)
    (none : entryAt? v.dash key.text v.rows = none)
    (placed : Placed v.dash anchor.text v.rows e above below)
    (written : new.Written v.dash key.text) :
    outline (v.withRows (above ++ e.rows ++ new.rows ++ below)) =
      (outline t).onView fun p => p.set key new := by
  rw [outline_withRows found (viewRows_insert (viewRows_rows found) placed written),
    panel_insert none placed written.valid, Outline.onView, outline, found, Option.map_some,
    Option.map_some, View.panel]

/-- Another value on the row of a key, as the outline sees it. -/
theorem outline_withValue {t : Text} {v : View} {key : ViewKey} {e : Entry}
    {above below : List Text} {value : Text} (found : firstView? t = some v)
    (placed : Placed v.dash key.text v.rows e above below) (plain : '\n' ∉ value) :
    outline (v.withRows (above ++ (e.label ++ value) :: e.children ++ below)) =
      (outline t).onView fun p => p.set key (e.withValue value) := by
  rw [← Entry.rows_withValue]
  exact outline_exchange found placed (placed.valid.withValue value)
    (plain_rows_withValue placed key.plain_text plain) (placed.valid.dashFront_withValue value)

/-- Other rows under a key, as the outline sees it. -/
theorem outline_withChildren {t : Text} {v : View} {key : ViewKey} {e : Entry}
    {above below children : List Text} (found : firstView? t = some v)
    (placed : Placed v.dash key.text v.rows e above below) (plain : Plain children)
    (deeper : ∀ r ∈ children, isDeeper (v.dash + 2) r = true) :
    outline (v.withRows (above ++ e.row :: children ++ below)) =
      (outline t).onView fun p => p.set key (e.withChildren children) := by
  exact outline_exchange found placed (placed.valid.withChildren deeper)
    (plain_rows_withChildren placed plain) Iff.rfl

/-- The outline of a view that an act leaves alone. -/
theorem outline_onView_id {t : Text} {f : Panel → Panel}
    (same : ∀ v, firstView? t = some v → f v.panel = v.panel) : (outline t).onView f = outline t := by
  cases found : firstView? t with
  | none => simp [Outline.onView, outline, found]
  | some v => simp [Outline.onView, outline, found, same v found]

theorem outline_onView_congr {t : Text} {v : View} (found : firstView? t = some v)
    {f g : Panel → Panel} (same : f v.panel = g v.panel) :
    (outline t).onView f = (outline t).onView g := by
  simp [Outline.onView, outline, found, same]

theorem entryAt?_of_found {t : Text} {v : View} (found : firstView? t = some v) (key : ViewKey) :
    (outline t).entryAt? key = v.panel.entry key := by
  simp [Outline.entryAt?, outline, found]

/-- **Setting the kind** of the view. -/
theorem outline_setViewType {kind : Text} (plain : '\n' ∉ kind) (t : Text) :
    outline (setViewType kind t) = (outline t).onView (Panel.setType kind) := by
  cases type_eq : (outline t).entryAt? .type with
  | none =>
      rw [setViewType_of_none (viewKey?_eq_none type_eq), outline_onView_id]
      intro v found
      rw [entryAt?_of_found found] at type_eq
      rw [Panel.setType, type_eq]
  | some e =>
      obtain ⟨v, above, below, found, placed⟩ := exists_placed type_eq
      rw [setViewType_placed found kind placed, outline_withValue found placed plain]
      refine outline_onView_congr found ?_
      rw [entryAt?_of_found found] at type_eq
      rw [Panel.setType, type_eq]

/-- **Naming** the view. -/
theorem outline_renameView {name : Text} (plain : '\n' ∉ name) (t : Text) :
    outline (renameView name t) = (outline t).onView (Panel.rename name) := by
  cases name_eq : (outline t).entryAt? .name with
  | some e =>
      obtain ⟨v, above, below, found, placed⟩ := exists_placed name_eq
      rw [renameView_placed found name placed,
        outline_withValue found placed (plain_quotedName plain)]
      refine outline_onView_congr found ?_
      rw [entryAt?_of_found found] at name_eq
      rw [Panel.rename, name_eq]
  | none =>
      cases kind : (outline t).entryAt? .type with
      | none =>
          rw [renameView_of_none (viewKey?_eq_none name_eq) (viewKey?_eq_none kind),
            outline_onView_id]
          intro v found
          rw [entryAt?_of_found found] at name_eq kind
          rw [Panel.rename, name_eq, kind]
      | some e =>
          obtain ⟨v, above, below, found, placed⟩ := exists_placed kind
          rw [entryAt?_of_found found] at name_eq kind
          rw [renameView_insert found plain name_eq placed,
            outline_insert found name_eq placed (nameEntry_written v.dash plain)]
          refine outline_onView_congr found ?_
          rw [Panel.rename, name_eq, kind]
          rfl

/-- **Adding columns** to the view. -/
theorem outline_addColumns {refs : List Text} (plain : Plain refs) (t : Text) :
    outline (addColumns refs t) = (outline t).onView (Panel.addColumns refs) := by
  cases order_eq : (outline t).entryAt? .order with
  | none =>
      rw [addColumns_of_none (viewKey?_eq_none order_eq), outline_onView_id]
      intro v found
      rw [entryAt?_of_found found] at order_eq
      rw [Panel.addColumns, order_eq]
  | some e =>
      obtain ⟨v, above, below, found, placed⟩ := exists_placed order_eq
      obtain ⟨plain', deeper⟩ := rows_with_newColumns placed plain
      rw [addColumns_placed found plain placed, outline_withChildren found placed plain' deeper]
      refine outline_onView_congr found ?_
      rw [entryAt?_of_found found] at order_eq
      rw [Panel.addColumns, order_eq]
      rfl

/-- **Removing a column** from the view. -/
theorem outline_removeColumn {ref : Text} (plain : '\n' ∉ ref) (t : Text) :
    outline (removeColumn t ref) = (outline t).onView (Panel.removeColumn · ref) := by
  cases order_eq : (outline t).entryAt? .order with
  | none =>
      rw [removeColumn_of_none (viewKey?_eq_none order_eq), outline_onView_id]
      intro v found
      rw [entryAt?_of_found found] at order_eq
      rw [Panel.removeColumn, order_eq]
  | some e =>
      obtain ⟨v, above, below, found, placed⟩ := exists_placed order_eq
      rw [removeColumn_placed found plain placed, outline_withChildren found placed]
      · refine outline_onView_congr found ?_
        rw [entryAt?_of_found found] at order_eq
        rw [Panel.removeColumn, order_eq]
      · exact fun r hr => plain_rows_of_view placed r
          (List.mem_cons_of_mem _ (List.eraseP_subset hr))
      · exact fun r hr => placed.valid.children r (List.eraseP_subset hr)

theorem onView_onView (f g : Panel → Panel) (o : Outline) :
    (o.onView f).onView g = o.onView fun p => g (f p) := by
  simp [Outline.onView, Option.map_map, Function.comp_def]

/-- **Removing columns** one after another. -/
theorem outline_removeColumns {refs : List Text} (plain : Plain refs) (t : Text) :
    outline (removeColumns refs t) = (outline t).onView (Panel.removeColumns refs) := by
  induction refs generalizing t with
  | nil => exact (outline_onView_id fun _ _ => rfl).symm
  | cons ref refs ih =>
      have rest := ih (fun r hr => plain r (List.mem_cons_of_mem _ hr)) (removeColumn t ref)
      rw [outline_removeColumn (plain ref List.mem_cons_self), onView_onView] at rest
      exact rest

/-- **Writing the block** of a key that opens no view. -/
theorem outline_setViewBlock {t : Text} (key : ViewKey) {block : Nat → Text} {new : Nat → Entry}
    (eq : ∀ dash, block (dash + 2) = unlines (new dash).rows)
    (written : ∀ dash, (new dash).Written dash key.text)
    (bare : ∀ p ∈ (outline t).view, ∀ e ∈ p.entry key, ¬ dashFront p.dash <+: e.label) :
    outline (setViewBlock key.text block t) = (outline t).onView (Panel.put key new) := by
  cases entry_eq : (outline t).entryAt? key with
  | some e =>
      obtain ⟨v, above, below, found, placed⟩ := exists_placed entry_eq
      rw [entryAt?_of_found found] at entry_eq
      have noDash : ¬ dashFront v.dash <+: e.label :=
        bare v.panel (by simp [outline, found]) e entry_eq
      have noDash' := not_dashFront_of_spaces (written v.dash).front
      rw [setViewBlock_placed found key.plain_text placed (eq v.dash) (written v.dash),
        outline_exchange found placed (written v.dash).valid (written v.dash).plain
          (iff_of_false noDash' noDash)]
      refine outline_onView_congr found ?_
      rw [Panel.put, entry_eq]
      rfl
  | none =>
      cases order : (outline t).entryAt? .order with
      | none =>
          rw [setViewBlock_of_none (viewKey?_eq_none entry_eq) (viewKey?_eq_none order),
            outline_onView_id]
          intro v found
          rw [entryAt?_of_found found] at entry_eq order
          rw [Panel.put, entry_eq, order]
          rfl
      | some e =>
          obtain ⟨v, above, below, found, placed⟩ := exists_placed order
          rw [entryAt?_of_found found] at entry_eq order
          rw [setViewBlock_insert found key.plain_text entry_eq placed (eq v.dash) (written v.dash),
            outline_insert found entry_eq placed (written v.dash)]
          refine outline_onView_congr found ?_
          rw [Panel.put, entry_eq, order]
          rfl

end Notebase.Document
