import Notebase.Proofs.Document.Page

/-!
Layouts of new documents. A layout says which sections stand above the view and what the view has;
its text is what the renderers write. Each edit of the view writes the text of the layout with the
edited field, so patching a new document is the same as rendering it anew.
-/

namespace Notebase.Document

open Text

/-- What a new document has: the rows of the sections above the view, its kind, its name and limit
as they are written, its columns, how it is arranged, and the rows of its summaries. -/
structure Layout where
  sections : List (List Text)
  kind : Text
  name : Text
  limit : Option Text
  columns : List Text
  sort : Option (Text × Text)
  groupBy : Option (Text × Text)
  summaries : List Text

namespace Layout

def orderEntry (columns : List Text) : Entry :=
  ⟨"    order:".toList, [], columns.map (columnRow 2)⟩

def arranged (key : ViewKey) (entry : Text → Text → Nat → Entry) (o : Option (Text × Text)) :
    List (Text × Entry) :=
  o.toList.map fun (property, direction) => (key.text, entry property direction 2)

def front (l : Layout) : List (Text × Entry) :=
  ("name".toList, ⟨"    name: ".toList, l.name, []⟩) ::
    l.limit.toList.map fun value =>
      ("limit".toList, (⟨"    limit: ".toList, [], []⟩ : Entry).withValue value)

def back (l : Layout) : List (Text × Entry) :=
  if l.summaries.isEmpty then []
  else [("summaries".toList, ⟨"    summaries:".toList, [], l.summaries⟩)]

def entries (l : Layout) : List (Text × Entry) :=
  l.front ++ (ViewKey.order.text, orderEntry l.columns) ::
    (arranged .sort sortEntry l.sort ++ arranged .groupBy groupEntry l.groupBy ++ l.back)

def text (l : Layout) : Text := page (sectionsText l.sections) l.kind l.entries

/-- A layout whose fields have no line ends. -/
structure Ok (l : Layout) : Prop where
  sections : ∀ rs ∈ l.sections, rs ≠ [] ∧ NoViews rs
  kind : '\n' ∉ l.kind
  name : '\n' ∉ l.name ∧ Flush l.name
  limit : ∀ value ∈ l.limit, '\n' ∉ value
  columns : Plain l.columns
  sort : ∀ o ∈ l.sort, '\n' ∉ o.1 ∧ '\n' ∉ o.2
  groupBy : ∀ o ∈ l.groupBy, '\n' ∉ o.1 ∧ '\n' ∉ o.2
  summaries : ∀ r ∈ l.summaries, '\n' ∉ r ∧ isDeeper 4 r = true

/-- An entry is written if its label is and all rows below are deeper. -/
theorem written_leaf {key label value : Text} {children : List Text} (plain : '\n' ∉ key)
    (isLabel : IsLabel 2 key label) (front : spaces 4 <+: label) (value_ : '\n' ∉ value)
    (flush : Flush value) (rows : ∀ r ∈ children, '\n' ∉ r ∧ isDeeper 4 r = true) :
    (⟨label, value, children⟩ : Entry).Written 2 key := by
  refine ⟨⟨isLabel, flush, fun r hr => (rows r hr).2⟩, ?_, front⟩
  intro r hr
  rcases List.mem_cons.mp hr with rfl | hr
  · rw [Entry.row, List.mem_append, not_or]
    exact ⟨isLabel.plain plain, value_⟩
  · exact (rows r hr).1

theorem arranged_some (key : ViewKey) (entry : Text → Text → Nat → Entry) (o : Text × Text) :
    arranged key entry (some o) = [(key.text, entry o.1 o.2 2)] := rfl

theorem arranged_none (key : ViewKey) (entry : Text → Text → Nat → Entry) :
    arranged key entry none = [] := rfl

theorem keys_arranged (key : ViewKey) (entry : Text → Text → Nat → Entry)
    (o : Option (Text × Text)) : ((arranged key entry o).map Prod.fst).Sublist [key.text] := by
  cases o with
  | none => exact List.nil_sublist _
  | some pair => exact .refl _

theorem keys_back (l : Layout) : (l.back.map Prod.fst).Sublist ["summaries".toList] := by
  rw [back]
  split
  · exact List.nil_sublist _
  · exact .refl _

theorem keys_front (l : Layout) :
    (l.front.map Prod.fst).Sublist ["name".toList, "limit".toList] := by
  rw [front]
  refine .cons_cons _ ?_
  cases l.limit with
  | none => exact List.nil_sublist _
  | some value => exact .refl _

theorem keys_entries (l : Layout) : ("type".toList :: l.entries.map Prod.fst).Sublist
    (["type", "name", "limit", "order", "sort", "groupBy", "summaries"].map String.toList) := by
  rw [entries, List.map_append, List.map_cons, List.map_append, List.map_append]
  exact (l.keys_front.append (((((keys_arranged .sort sortEntry l.sort).append
    (keys_arranged .groupBy groupEntry l.groupBy)).append l.keys_back)).cons_cons _)).cons_cons _

variable {l : Layout} (ok : l.Ok)
include ok

/-- Every entry of a sound layout is written. -/
theorem Ok.written : ∀ x ∈ l.entries, x.2.Written 2 x.1 := by
  have name : IsLabel 2 "name".toList "    name: ".toList := ⟨[' '], by decide, .inr (by decide)⟩
  have limit : IsLabel 2 "limit".toList "    limit: ".toList := ⟨[' '], by decide, .inr (by decide)⟩
  have order : IsLabel 2 "order".toList "    order:".toList := ⟨[], by decide, .inr (by decide)⟩
  have summaries : IsLabel 2 "summaries".toList "    summaries:".toList :=
    ⟨[], by decide, .inr (by decide)⟩
  have plain : '\n' ∉ "name".toList ∧ '\n' ∉ "limit".toList ∧ '\n' ∉ "order".toList ∧
      '\n' ∉ "summaries".toList := by decide
  have fronts : spaces 4 <+: "    name: ".toList ∧ spaces 4 <+: "    limit: ".toList ∧
      spaces 4 <+: "    order:".toList ∧ spaces 4 <+: "    summaries:".toList := by decide
  have flush : Flush [] := by simp [Flush]
  intro x hx
  simp only [entries, List.mem_append, List.mem_cons] at hx
  -- The entries in their order: the name and the limit, the columns, the arrangements and the rest.
  rcases hx with hx | rfl | (hx | hx) | hx
  · rw [front, List.mem_cons, List.mem_map] at hx
    rcases hx with rfl | ⟨value, mem, rfl⟩
    · exact written_leaf plain.1 name fronts.1 ok.name.1 ok.name.2 (List.forall_mem_nil _)
    · have noEnd := ok.limit value (Option.mem_toList.mp mem)
      exact written_leaf plain.2.1 (limit.append fun _ hc => List.mem_takeWhile_imp hc)
        (fronts.2.1.trans (List.prefix_append _ _))
        (fun mem => noEnd ((List.dropWhile_sublist _).subset mem)) (flush_dropWhile value)
        (List.forall_mem_nil _)
  · refine written_leaf plain.2.2.1 order fronts.2.2.1 List.not_mem_nil flush fun r hr => ?_
    obtain ⟨ref, mem, rfl⟩ := List.mem_map.mp hr
    exact ⟨plain_columnRow (ok.columns ref mem), isDeeper_columnRow 2 ref⟩
  · obtain ⟨⟨property, direction⟩, mem, rfl⟩ := List.mem_map.mp hx
    obtain ⟨noEnd, noEnd'⟩ := ok.sort _ (Option.mem_toList.mp mem)
    exact sortEntry_written 2 noEnd noEnd'
  · obtain ⟨⟨property, direction⟩, mem, rfl⟩ := List.mem_map.mp hx
    obtain ⟨noEnd, noEnd'⟩ := ok.groupBy _ (Option.mem_toList.mp mem)
    exact groupEntry_written 2 noEnd noEnd'
  · rw [back] at hx
    split at hx
    · cases hx
    · rw [List.mem_singleton] at hx
      subst hx
      exact written_leaf plain.2.2.2 summaries fronts.2.2.2 List.not_mem_nil flush ok.summaries

/-- A layout is a page. -/
theorem Ok.isPage : IsPage (sectionsText l.sections) l.kind l.entries where
  complete := complete_unlines _
  noViews := noViews_sectionsText fun rs hr => (ok.sections rs hr).2
  plain := ok.kind
  names x hx := by
    have names : ∀ key ∈ ["type", "name", "limit", "order", "sort", "groupBy", "summaries"].map
        String.toList, isKeyName key = true := by decide
    exact names x.1 (l.keys_entries.subset (List.mem_cons_of_mem _ (List.mem_map_of_mem hx)))
  written := ok.written
  distinct := l.keys_entries.nodup (by decide)

/-! ### The text of a layout -/

omit ok in
def block (render : Text → Text → Nat → Text) (o : Option (Text × Text)) : Text :=
  match o with
  | none => []
  | some (property, direction) => render property direction 4

omit ok in
def viewText (l : Layout) : Text :=
  unlines (["views:".toList, "  - type: ".toList ++ l.kind, "    name: ".toList ++ l.name] ++
    l.limit.toList.map (fun value => "    limit: ".toList ++ value) ++
    "    order:".toList :: l.columns.map fun ref => "      - ".toList ++ ref) ++
  block renderSort l.sort ++ block renderGroupBy l.groupBy ++
  unlines (if l.summaries.isEmpty then [] else "    summaries:".toList :: l.summaries)

omit ok in
/-- The rows of an arrangement are what is rendered for it. -/
theorem unlines_arranged {key : ViewKey} {entry : Text → Text → Nat → Entry}
    {render : Text → Text → Nat → Text}
    (eq : ∀ property direction, render property direction 4 = unlines (entry property direction 2).rows)
    (o : Option (Text × Text)) : unlines (entryRows (arranged key entry o)) = block render o := by
  cases o with
  | none => rfl
  | some o =>
      rw [arranged_some, entryRows_cons, entryRows_nil, List.append_nil]
      exact (eq o.1 o.2).symm

omit ok in
theorem entryRows_option (key label : Text) (o : Option Text) :
    entryRows (o.toList.map fun value => (key, (⟨label, [], []⟩ : Entry).withValue value)) =
      o.toList.map fun value => label ++ value := by
  cases o with
  | none => rfl
  | some value =>
      simp only [Option.toList_some, List.map_cons, List.map_nil, entryRows_cons, entryRows_nil,
        Entry.rows_withValue, List.append_nil]

omit ok in
theorem rows_leaf (label value : Text) : (⟨label, value, []⟩ : Entry).rows = [label ++ value] := rfl

omit ok in
theorem rows_bare (label : Text) (rows : List Text) :
    (⟨label, [], rows⟩ : Entry).rows = label :: rows := by
  rw [Entry.rows, Entry.row, List.append_nil]

omit ok in
theorem entryRows_back (l : Layout) : entryRows l.back =
    if l.summaries.isEmpty then [] else "    summaries:".toList :: l.summaries := by
  rw [Layout.back]
  split
  · rfl
  · rw [entryRows_cons, entryRows_nil, List.append_nil, rows_bare]

omit ok in
/-- The rows of the columns are a line for the key and one for each column. -/
theorem rows_orderEntry (columns : List Text) : (orderEntry columns).rows =
    "    order:".toList :: columns.map fun ref => "      - ".toList ++ ref := by
  have dash : spaces 6 ++ "- ".toList = "      - ".toList := by decide
  have column : ∀ ref, columnRow 2 ref = "      - ".toList ++ ref := by
    intro ref
    rw [← dash, columnRow]
  have rows : columns.map (columnRow 2) = columns.map fun ref => "      - ".toList ++ ref :=
    List.map_congr_left fun ref _ => column ref
  rw [← rows]
  exact rows_bare _ _

omit ok in
/-- The block of views, whatever entries stand where the columns do. -/
theorem unlines_pageRows (l : Layout) (columns : List (Text × Entry)) :
    unlines ("views:".toList :: pageRows l.kind (l.front ++ (columns ++
      (arranged .sort sortEntry l.sort ++ arranged .groupBy groupEntry l.groupBy ++ l.back)))) =
    unlines (["views:".toList, "  - type: ".toList ++ l.kind, "    name: ".toList ++ l.name] ++
      l.limit.toList.map (fun value => "    limit: ".toList ++ value) ++ entryRows columns) ++
    block renderSort l.sort ++ block renderGroupBy l.groupBy ++
    unlines (if l.summaries.isEmpty then [] else "    summaries:".toList :: l.summaries) := by
  have sort : unlines (entryRows (arranged .sort sortEntry l.sort)) = block renderSort l.sort :=
    unlines_arranged (fun p d => renderSort_eq p d 2) l.sort
  have groupBy : unlines (entryRows (arranged .groupBy groupEntry l.groupBy)) =
      block renderGroupBy l.groupBy :=
    unlines_arranged (fun p d => renderGroupBy_eq p d 2) l.groupBy
  rw [pageRows, front, entryRows_cons, rows_typeEntry, entryRows_append, entryRows_cons, rows_leaf,
    entryRows_option, entryRows_append, entryRows_append, entryRows_append, entryRows_back, ← sort,
    ← groupBy]
  generalize "  - type: ".toList ++ l.kind = kind
  generalize "    name: ".toList ++ l.name = name
  generalize "views:".toList = views
  simp only [unlines_append, unlines_cons, List.append_assoc, List.cons_append, List.nil_append]

omit ok in
theorem viewText_eq (l : Layout) :
    l.viewText = unlines ("views:".toList :: pageRows l.kind l.entries) := by
  have whole := l.unlines_pageRows [(ViewKey.order.text, orderEntry l.columns)]
  rw [entryRows_cons, entryRows_nil, List.append_nil, rows_orderEntry] at whole
  exact whole.symm

/-- **The sections and the view are the text of the layout.** -/
theorem Ok.join_eq_text : Text.join "\n\n".toList
    (l.sections.map joinLines ++ [dropFinalNewlines l.viewText]) = l.text := by
  rw [viewText_eq]
  exact ok.isPage.join_eq fun rs hr => (ok.sections rs hr).1

/-! ### A view without columns -/

omit ok in
/-- The entries that a form is rendered with: one for the columns only if there are any. -/
def shown (l : Layout) : List (Text × Entry) :=
  l.front ++ ((if l.columns.isEmpty then [] else [(ViewKey.order.text, orderEntry l.columns)]) ++
    (arranged .sort sortEntry l.sort ++ arranged .groupBy groupEntry l.groupBy ++ l.back))

omit ok in
theorem shown_of_ne_nil (ne : l.columns ≠ []) : l.shown = l.entries := by
  rw [shown, if_neg (by simpa using ne)]
  rfl

omit ok in
theorem shown_sublist (l : Layout) : l.shown.Sublist l.entries := by
  have columns : (if l.columns.isEmpty then [] else
      [(ViewKey.order.text, orderEntry l.columns)]).Sublist
        [(ViewKey.order.text, orderEntry l.columns)] := by
    split
    · exact List.nil_sublist _
    · exact .refl _
  exact (List.Sublist.refl l.front).append (columns.append (.refl _))

/-- A layout is a page without an entry for no columns, too. -/
theorem Ok.isPage_shown : IsPage (sectionsText l.sections) l.kind l.shown :=
  ok.isPage.sublist l.shown_sublist

omit ok in
/-- The page of a layout, part by part. -/
theorem unlines_shown (l : Layout) :
    unlines ("views:".toList :: pageRows l.kind l.shown) =
    unlines (["views:".toList, "  - type: ".toList ++ l.kind, "    name: ".toList ++ l.name] ++
      l.limit.toList.map (fun value => "    limit: ".toList ++ value) ++
      (if l.columns.isEmpty then [] else
        "    order:".toList :: l.columns.map fun ref => "      - ".toList ++ ref)) ++
    block renderSort l.sort ++ block renderGroupBy l.groupBy ++
    unlines (if l.summaries.isEmpty then [] else "    summaries:".toList :: l.summaries) := by
  rw [shown, unlines_pageRows]
  split
  · rfl
  · rw [entryRows_cons, entryRows_nil, List.append_nil, rows_orderEntry]

omit ok in
/-- A view without columns has no entry with their key. -/
theorem order_not_mem_shown (none : l.columns = []) : ∀ x ∈ l.shown, x.1 ≠ ViewKey.order.text := by
  have keys : (l.shown.map Prod.fst).Sublist
      (["name", "limit", "sort", "groupBy", "summaries"].map String.toList) := by
    rw [shown, none, List.isEmpty_nil, if_pos rfl, List.nil_append, List.map_append,
      List.map_append, List.map_append]
    exact l.keys_front.append (((keys_arranged .sort sortEntry l.sort).append
      (keys_arranged .groupBy groupEntry l.groupBy)).append l.keys_back)
  have others : ∀ key ∈ ["name", "limit", "sort", "groupBy", "summaries"].map String.toList,
      key ≠ ViewKey.order.text := by decide
  exact fun x hx => others x.1 (keys.subset (List.mem_map_of_mem hx))

/-! ### Edits of a layout -/

/-- **Setting the kind** of a new document. -/
theorem Ok.setViewType (flush : Flush l.kind) (kind : Text) :
    setViewType kind l.text = text { l with kind } :=
  ok.isPage.setViewType flush kind

/-- **Naming** the view of a new document. -/
theorem Ok.renameView (name : Text) :
    renameView name l.text = text { l with name := quotedName name } :=
  @IsPage.renameView (sectionsText l.sections) l.kind [] l.entries.tail l.name name ok.isPage

/-- Writing a block in the place of one. -/
theorem Ok.setBlock {key : ViewKey} {block : Nat → Text} {new : Nat → Entry} {e : Entry}
    {before after : List (Text × Entry)} (entries : l.entries = before ++ (key.text, e) :: after)
    (eq : ∀ dash, block (dash + 2) = unlines (new dash).rows)
    (written : (new 2).Written 2 key.text) : setViewBlock key.text block l.text =
      page (sectionsText l.sections) l.kind (before ++ (key.text, new 2) :: after) := by
  have isPage := ok.isPage
  rw [entries] at isPage
  rw [text, entries]
  exact isPage.setViewBlock eq written key.plain_text

/-- Writing a block that is not there after the columns. -/
theorem Ok.insertBlock {key : ViewKey} {block : Nat → Text} {new : Nat → Entry}
    (other : key ≠ .type) (out : ∀ x ∈ l.entries, x.1 ≠ key.text)
    (eq : ∀ dash, block (dash + 2) = unlines (new dash).rows)
    (written : (new 2).Written 2 key.text) : setViewBlock key.text block l.text =
      page (sectionsText l.sections) l.kind (l.front ++ (ViewKey.order.text, orderEntry l.columns) ::
        (key.text, new 2) :: (arranged .sort sortEntry l.sort ++
          arranged .groupBy groupEntry l.groupBy ++ l.back)) := by
  have isPage := ok.isPage
  rw [Layout.entries] at isPage out
  rw [text, Layout.entries]
  exact isPage.insertBlock eq written key.isKeyName_text (fun same => other (ViewKey.text_inj same))
    key.plain_text out

omit ok in
theorem key_mem_of_arranged {key : ViewKey} {entry : Text → Text → Nat → Entry}
    {o : Option (Text × Text)} {x : Text × Entry} (hx : x ∈ arranged key entry o) :
    x.1 = key.text ∧ o.isSome = true := by
  obtain ⟨pair, mem, rfl⟩ := List.mem_map.mp hx
  exact ⟨rfl, Option.isSome_of_mem (Option.mem_toList.mp mem)⟩

omit ok in
/-- A layout that is not arranged has no entry for it. -/
theorem not_mem_entries {key : ViewKey} (listed : key ∈ [ViewKey.sort, ViewKey.groupBy])
    (noSort : key = .sort → l.sort = none) (noGroup : key = .groupBy → l.groupBy = none) :
    ∀ x ∈ l.entries, x.1 ≠ key.text := by
  intro x hx same
  simp only [entries, List.mem_append, List.mem_cons] at hx
  have late : ∀ key' ∈ ["name".toList, "limit".toList] ++ ["order".toList, "summaries".toList],
      key' ≠ key.text := by
    revert listed
    cases key <;> decide
  rcases hx with hx | rfl | (hx | hx) | hx
  · have mem := l.keys_front.subset (List.mem_map_of_mem hx)
    exact late x.1 (List.mem_append_left _ mem) same
  · exact late "order".toList (List.mem_append_right _ List.mem_cons_self) same
  · obtain ⟨eq, sorted⟩ := key_mem_of_arranged hx
    rw [noSort (ViewKey.text_inj (same.symm.trans eq))] at sorted
    cases sorted
  · obtain ⟨eq, grouped⟩ := key_mem_of_arranged hx
    rw [noGroup (ViewKey.text_inj (same.symm.trans eq))] at grouped
    cases grouped
  · have mem := l.keys_back.subset (List.mem_map_of_mem hx)
    exact late x.1 (List.mem_append_right _ (List.mem_cons_of_mem _ mem)) same

omit ok in
/-- Another sorting or grouping changes its own entry alone. -/
theorem text_arranged (sort groupBy : Option (Text × Text)) : text { l with sort, groupBy } =
    page (sectionsText l.sections) l.kind (l.front ++ (ViewKey.order.text, orderEntry l.columns) ::
      (arranged .sort sortEntry sort ++ arranged .groupBy groupEntry groupBy ++ l.back)) := rfl

/-- **Sorting** a new document. -/
theorem Ok.setSort {property direction : Text} (plain : '\n' ∉ property) (plain' : '\n' ∉ direction) :
    setSort property direction l.text = text { l with sort := some (property, direction) } := by
  have written : (sortEntry property direction 2).Written 2 ViewKey.sort.text :=
    sortEntry_written 2 plain plain'
  have eq := renderSort_eq property direction
  show setViewBlock ViewKey.sort.text (renderSort property direction) l.text = _
  refine Eq.trans ?_ (text_arranged (some (property, direction)) l.groupBy).symm
  rw [arranged_some]
  cases sort_eq : l.sort with
  | some o =>
      have entries : l.entries = (l.front ++ [(ViewKey.order.text, orderEntry l.columns)]) ++
          (ViewKey.sort.text, sortEntry o.1 o.2 2) ::
            (arranged .groupBy groupEntry l.groupBy ++ l.back) := by
        rw [Layout.entries, sort_eq, arranged_some]
        simp only [List.append_assoc, List.cons_append, List.nil_append]
      rw [ok.setBlock entries eq written]
      simp only [List.append_assoc, List.cons_append, List.nil_append]
  | none =>
      rw [ok.insertBlock (by decide) (not_mem_entries (by decide) (fun _ => sort_eq) (by simp)) eq
        written, sort_eq, arranged_none]
      simp only [List.cons_append, List.nil_append]

/-- **Grouping** a new document that is grouped or not sorted. -/
theorem Ok.setGroupBy {property direction : Text} (plain : '\n' ∉ property)
    (plain' : '\n' ∉ direction) (place : l.groupBy.isSome = true ∨ l.sort = none) :
    setGroupBy property direction l.text =
      text { l with groupBy := some (property, direction) } := by
  have written : (groupEntry property direction 2).Written 2 ViewKey.groupBy.text :=
    groupEntry_written 2 plain plain'
  have eq := renderGroupBy_eq property direction
  show setViewBlock ViewKey.groupBy.text (renderGroupBy property direction) l.text = _
  refine Eq.trans ?_ (text_arranged l.sort (some (property, direction))).symm
  rw [arranged_some]
  cases groupBy_eq : l.groupBy with
  | some o =>
      have entries : l.entries = (l.front ++ (ViewKey.order.text, orderEntry l.columns) ::
          arranged .sort sortEntry l.sort) ++ (ViewKey.groupBy.text, groupEntry o.1 o.2 2) ::
            l.back := by
        rw [Layout.entries, groupBy_eq, arranged_some]
        simp only [List.append_assoc, List.cons_append, List.nil_append]
      rw [ok.setBlock entries eq written]
      simp only [List.append_assoc, List.cons_append, List.nil_append]
  | none =>
      have noSort : l.sort = none := by
        rcases place with grouped | none
        · rw [groupBy_eq] at grouped
          cases grouped
        · exact none
      rw [ok.insertBlock (by decide) (not_mem_entries (by decide) (by simp) (fun _ =>
        groupBy_eq)) eq
        written, groupBy_eq, noSort, arranged_none, arranged_none]
      simp only [List.cons_append, List.nil_append]

end Layout

end Notebase.Document
