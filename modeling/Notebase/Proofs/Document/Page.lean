import Notebase.Proofs.Document.Outline

/-!
Documents as they are written. A page is a text above the block of views, and one view in it: its
kind, and entries below it whose keys are all different. The edits of a view write on a page what
the page with another entry has there, character by character.
-/

namespace Notebase.Document

open Text

/-! ### Entries one after another -/

def entryRows (es : List (Text × Entry)) : List Text := es.flatMap fun (_, e) => e.rows

@[simp] theorem entryRows_nil : entryRows [] = [] := rfl

@[simp] theorem entryRows_append (es es' : List (Text × Entry)) :
    entryRows (es ++ es') = entryRows es ++ entryRows es' := List.flatMap_append

@[simp] theorem entryRows_cons (key : Text) (e : Entry) (es : List (Text × Entry)) :
    entryRows ((key, e) :: es) = e.rows ++ entryRows es := rfl

/-- Entries that can stand in a view. -/
def ValidEntries (dash : Nat) (es : List (Text × Entry)) : Prop :=
  ∀ x ∈ es, isKeyName x.1 = true ∧ x.2.Valid dash x.1

section Entries

variable {dash : Nat} {es : List (Text × Entry)}

theorem not_isKeyRow_of_entryRows {key : Text} (valid : ValidEntries dash es)
    (name : isKeyName key = true) (out : ∀ x ∈ es, x.1 ≠ key) :
    ∀ r ∈ entryRows es, isKeyRow dash key r = false := by
  intro r hr
  obtain ⟨⟨key', e⟩, mem, hr⟩ := List.mem_flatMap.mp hr
  obtain ⟨name', isValid⟩ := valid _ mem
  exact (isValid.aside name' name (out _ mem)).1 r hr

/-- The first row of entries is at their own depth. -/
theorem head?_entryRows (valid : ValidEntries dash es) :
    ∀ r ∈ (entryRows es).head?, isDeeper (dash + 2) r = false := by
  intro r hr
  cases es with
  | nil => cases hr
  | cons x es =>
      obtain ⟨name, isValid⟩ := valid x List.mem_cons_self
      cases hr
      exact not_isDeeper_of_isKeyRow name isValid.isKeyRow

/-- An entry stands after those before it and before those after it. -/
theorem placed_of_entries {key : Text} {e : Entry} {before after : List (Text × Entry)}
    (valid : ValidEntries dash (before ++ (key, e) :: after)) (out : ∀ x ∈ before, x.1 ≠ key) :
    Placed dash key (entryRows (before ++ (key, e) :: after)) e (entryRows before)
      (entryRows after) := by
  obtain ⟨name, isValid⟩ := valid (key, e) (by simp)
  refine ⟨by simp, isValid, ?_, ?_⟩
  · exact not_isKeyRow_of_entryRows (fun x hx => valid x (List.mem_append_left _ hx)) name out
  · exact head?_entryRows fun x hx => valid x (by simp [hx])

theorem entryAt?_of_entries {key : Text} (valid : ValidEntries dash es) (name : isKeyName key = true)
    (out : ∀ x ∈ es, x.1 ≠ key) : entryAt? dash key (entryRows es) = none :=
  entryAt?_eq_none_iff.mpr (not_isKeyRow_of_entryRows valid name out)

end Entries

/-! ### Pages -/

def typeEntry (kind : Text) : Entry := Entry.withValue ⟨"  - type: ".toList, [], []⟩ kind

theorem rows_typeEntry (kind : Text) : (typeEntry kind).rows = ["  - type: ".toList ++ kind] :=
  Entry.rows_withValue _ kind

/-- The row of the kind starts the view. -/
theorem dashFront_typeRow (kind : Text) : dashFront 2 <+: "  - type: ".toList ++ kind := by
  have front : "  - type: ".toList = dashFront 2 ++ "type: ".toList := by decide
  rw [front, List.append_assoc]
  exact List.prefix_append _ _

def pageRows (kind : Text) (es : List (Text × Entry)) : List Text :=
  entryRows (("type".toList, typeEntry kind) :: es)

def page (above kind : Text) (es : List (Text × Entry)) : Text :=
  above ++ joinLines ("views:".toList :: pageRows kind es)

/-- What can stand on a page. -/
structure IsPage (above kind : Text) (es : List (Text × Entry)) : Prop where
  complete : Complete above
  noViews : ∀ l ∈ lines above, startsWithKey "views".toList l = false
  plain : '\n' ∉ kind
  names : ∀ x ∈ es, isKeyName x.1 = true
  written : ∀ x ∈ es, x.2.Written 2 x.1
  distinct : ("type".toList :: es.map Prod.fst).Nodup

def bareView (above : Text) : View :=
  ⟨lines above ++ ["views:\n".toList], "  - ".toList, [], [], 2⟩

namespace IsPage

variable {above kind : Text} {es : List (Text × Entry)} (ok : IsPage above kind es)
include ok

theorem valid : ValidEntries 2 (("type".toList, typeEntry kind) :: es) := by
  have label : IsLabel 2 "type".toList "  - type: ".toList := ⟨[' '], by decide, .inl (by decide)⟩
  have bare : Entry.Valid 2 "type".toList ⟨"  - type: ".toList, [], []⟩ :=
    ⟨label, by simp [Flush], List.forall_mem_nil _⟩
  intro x hx
  rcases List.mem_cons.mp hx with rfl | hx
  · exact ⟨ViewKey.type.isKeyName_text, bare.withValue kind⟩
  · exact ⟨ok.names x hx, (ok.written x hx).valid⟩

theorem inner : ∀ r ∈ entryRows es, Inner 2 r := by
  intro r hr
  obtain ⟨x, mem, hr⟩ := List.mem_flatMap.mp hr
  exact (ok.written x mem).inner r hr

/-- The rows of a page are rows of a view. -/
theorem viewRows : ViewRows 2 (pageRows kind es) := by
  have item := dashFront_typeRow kind
  have noEnd : '\n' ∉ "  - type: ".toList ++ kind := by
    rw [List.mem_append, not_or]
    exact ⟨by decide, ok.plain⟩
  have rows : pageRows kind es = ["  - type: ".toList ++ kind] ++ entryRows es ++ [] := by
    rw [List.append_nil, pageRows, entryRows_cons, rows_typeEntry]
  generalize "  - type: ".toList ++ kind = row at item noEnd rows
  have written : row ≠ [] := by
    rintro rfl
    simp [dashFront] at item
  have first : ViewRows 2 ([row] ++ [] ++ []) := by
    refine ⟨?_, ⟨row, rfl, item⟩, by simp, by simpa using written⟩
    simp [Plain, noEnd]
  rw [rows]
  exact first.exchange (by simp) ok.inner fun _ _ => by simpa using written

/-- The rows of the block of views end with a row on which something is written. -/
theorem rows_views : Plain ("views:".toList :: pageRows kind es) ∧
    ("views:".toList :: pageRows kind es).getLast? ≠ some [] := by
  have view := ok.viewRows
  refine ⟨fun r hr => ?_, ?_⟩
  · rcases List.mem_cons.mp hr with rfl | hr
    · decide
    · exact view.plain r hr
  · rw [List.getLast?_cons_of_ne_nil view.ne_nil]
    exact view.last

/-- The view on a page is the first one, and nothing follows it. -/
theorem firstView? : ∃ v, Document.firstView? (page above kind es) = some v ∧ v.dash = 2 ∧
    v.rows = pageRows kind es ∧
      ∀ rs, rs ≠ [] → v.withRows rs = above ++ joinLines ("views:".toList :: rs) := by
  -- The page is one whose view is a bare dash, with other rows in the place of the dash.
  have bare : Document.firstView? (above ++ "views:\n  - ".toList) = some (bareView above) := by
    have lines_eq : lines "views:\n  - ".toList = ["views:\n".toList, "  - ".toList] := by decide
    have header : startsWithKey "views".toList "views:\n".toList = true := by decide
    have head : isTopKey "  - ".toList = false ∧ isItem "  - ".toList = true ∧
        2 = indentation "  - ".toList := by decide
    refine View.Sited.firstView? (s := ⟨lines above, "views:\n".toList, [], [], [], []⟩) ?_
    refine ⟨?_, rfl, rfl, ok.noViews, header, by simp, head, by simp [bareView], by simp [bareView],
      by simp, by simp, by simp⟩
    rw [lines_append _ ok.complete, lines_eq]
    simp [bareView, View.lines]
  have withRows : ∀ v : View, v.before = (bareView above).before → v.after = [] →
      v.closed = false → ∀ rs, rs ≠ [] →
        v.withRows rs = above ++ joinLines ("views:".toList :: rs) := by
    intro v before after closed rs ne
    have header : "views:\n".toList = "views:".toList ++ ['\n'] := by decide
    rw [View.withRows, View.replace, before, after, closed, joinLines_cons _ ne, bareView, header]
    simp [ofRows]
  have rows := ok.viewRows
  obtain ⟨v, found, dash, rows', before, after, closed⟩ := firstView?_withRows bare rows
  have open_ : terminated ["  - ".toList].flatten = false := by decide
  have text := withRows (bareView above) rfl rfl open_ _ rows.ne_nil
  exact ⟨v, by rwa [page, ← text], dash, rows', withRows v before after closed⟩

/-- Another kind. -/
theorem setViewType (flush : Flush kind) (kind' : Text) :
    setViewType kind' (page above kind es) = page above kind' es := by
  obtain ⟨v, found, dash, rows, withRows⟩ := ok.firstView?
  have placed := @placed_of_entries 2 "type".toList (typeEntry kind) [] es ok.valid (by simp)
  have placed' : Placed v.dash "type".toList v.rows (typeEntry kind) [] (entryRows es) := by
    rw [dash, rows]
    exact placed
  have label : (typeEntry kind).label = "  - type: ".toList := by
    rw [typeEntry, Entry.withValue, flush.split.1, List.append_nil]
  rw [setViewType_placed found kind' placed', withRows _ (by simp), page, pageRows, entryRows_cons,
    rows_typeEntry, label]
  rfl

/-- No two entries of a page have one key. -/
theorem ne_before {key : Text} {e : Entry} {before after : List (Text × Entry)}
    (parts : ("type".toList, typeEntry kind) :: es = before ++ (key, e) :: after) :
    ∀ x ∈ before, x.1 ≠ key := by
  have keys : ((("type".toList, typeEntry kind) :: es).map Prod.fst).Nodup := ok.distinct
  rw [parts, List.map_append, List.map_cons, List.nodup_append] at keys
  exact fun x hx => keys.2.2 x.1 (List.mem_map_of_mem hx) key List.mem_cons_self

/-- An entry of a page is found on it. -/
theorem entryAt?_outline (key : ViewKey) {e : Entry}
    (mem : (key.text, e) ∈ ("type".toList, typeEntry kind) :: es) :
    (outline (page above kind es)).entryAt? key = some e := by
  obtain ⟨v, found, dash, rows, -⟩ := ok.firstView?
  obtain ⟨before, after, parts⟩ := List.append_of_mem mem
  have valid := ok.valid
  rw [parts] at valid
  have placed := placed_of_entries valid (ok.ne_before parts)
  rw [entryAt?_of_found found]
  show entryAt? v.dash key.text v.rows = some e
  rw [dash, rows, pageRows, parts]
  exact placed.entryAt?

/-- An entry that is not on a page is not found on it. -/
theorem entryAt?_outline_eq_none (key : ViewKey)
    (out : ∀ x ∈ ("type".toList, typeEntry kind) :: es, x.1 ≠ key.text) :
    (outline (page above kind es)).entryAt? key = none := by
  obtain ⟨v, found, dash, rows, -⟩ := ok.firstView?
  rw [entryAt?_of_found found]
  show entryAt? v.dash key.text v.rows = none
  rw [dash, rows]
  exact entryAt?_of_entries ok.valid key.isKeyName_text out

/-- A page may lose entries. -/
theorem sublist {es' : List (Text × Entry)} (sub : es'.Sublist es) : IsPage above kind es' :=
  { ok with
    names := fun x hx => ok.names x (sub.subset hx)
    written := fun x hx => ok.written x (sub.subset hx)
    distinct := ((sub.map Prod.fst).cons_cons _).nodup ok.distinct }

/-- The kind alone stands on the line with the dash. -/
theorem bare : (outline (page above kind es)).Bare := by
  intro p hp key late e mem item
  obtain ⟨v, found, dash, rows, -⟩ := ok.firstView?
  have view : v.panel = p := by simpa [outline, found] using hp
  subst view
  obtain ⟨above', below, placed⟩ := entryAt?_eq_some_iff.mp mem
  have first := (placed.above_eq_nil_iff (viewRows_rows found)).mpr item
  subst first
  have head : (typeEntry kind).row = e.row := by
    have whole := placed.rows
    rw [rows, pageRows, entryRows_cons] at whole
    exact (List.cons.inj whole).1
  have isType := (ok.valid _ List.mem_cons_self).2.isKeyRow
  have isKey := placed.valid.isKeyRow
  rw [← head, dash] at isKey
  have same := isKeyRow_unique key.isKeyName_text ViewKey.type.isKeyName_text isKey isType
  rw [ViewKey.text_inj same] at late
  revert late
  decide

end IsPage

section Edits

variable {above kind : Text} {before after : List (Text × Entry)} {e : Entry}

/-- On a page, an entry is placed where it was written. -/
theorem IsPage.placed {key : Text} (ok : IsPage above kind (before ++ (key, e) :: after)) :
    ∃ v, Document.firstView? (page above kind (before ++ (key, e) :: after)) = some v ∧
      v.dash = 2 ∧ v.rows = pageRows kind (before ++ (key, e) :: after) ∧
      Placed v.dash key v.rows e (pageRows kind before) (entryRows after) ∧
      ∀ rs, v.withRows (pageRows kind before ++ rs ++ entryRows after) =
        above ++ joinLines ("views:".toList :: (pageRows kind before ++ rs ++ entryRows after)) := by
  obtain ⟨v, found, dash, rows, withRows⟩ := ok.firstView?
  have isPlaced : Placed 2 key (pageRows kind (before ++ (key, e) :: after)) e
    (pageRows kind before)
      (entryRows after) :=
    @placed_of_entries 2 key e (("type".toList, typeEntry kind) :: before) after ok.valid
      (ok.ne_before rfl)
  refine ⟨v, found, dash, rows, by rw [dash, rows]; exact isPlaced, fun rs => withRows _ ?_⟩
  simp [pageRows, Entry.rows]

/-- Another name. -/
theorem IsPage.renameView {value : Text} (name : Text)
    (ok : IsPage above kind (before ++
      ("name".toList, ⟨(nameEntry 2 name).label, value, []⟩) :: after)) :
    renameView name (page above kind (before ++
      ("name".toList, ⟨(nameEntry 2 name).label, value, []⟩) :: after)) =
        page above kind (before ++ ("name".toList, nameEntry 2 name) :: after) := by
  obtain ⟨v, found, dash, rows, placed, withRows⟩ := ok.placed
  have text := withRows (nameEntry 2 name).rows
  rw [renameView_placed found name placed]
  simpa [page, pageRows, Entry.rows, Entry.row, nameEntry] using text

variable {key : Text} {block : Nat → Text} {new : Nat → Entry}
  (eq : ∀ dash, block (dash + 2) = unlines (new dash).rows) (written : (new 2).Written 2 key)
include eq written

/-- Another block in the place of one. -/
theorem IsPage.setViewBlock (ok : IsPage above kind (before ++ (key, e) :: after))
    (plain : '\n' ∉ key) : setViewBlock key block (page above kind (before ++ (key, e) :: after)) =
      page above kind (before ++ (key, new 2) :: after) := by
  obtain ⟨v, found, dash, rows, placed, withRows⟩ := ok.placed
  have text := withRows (new 2).rows
  rw [← dash] at written
  rw [setViewBlock_placed found plain placed (eq v.dash) written, dash, text]
  simp [page, pageRows]

/-- A new block, after the columns. -/
theorem IsPage.insertBlock (ok : IsPage above kind (before ++ ("order".toList, e) :: after))
    (name : isKeyName key = true) (other : key ≠ "type".toList) (plain : '\n' ∉ key)
    (out : ∀ x ∈ before ++ ("order".toList, e) :: after, x.1 ≠ key) :
    Document.setViewBlock key block (page above kind (before ++ ("order".toList, e) :: after)) =
      page above kind (before ++ ("order".toList, e) :: (key, new 2) :: after) := by
  obtain ⟨v, found, dash, rows, placed, withRows⟩ := ok.placed
  have text := withRows (e.rows ++ (new 2).rows)
  have absent : entryAt? v.dash key v.rows = none := by
    rw [dash, rows]
    refine entryAt?_of_entries ok.valid name fun x hx => ?_
    rcases List.mem_cons.mp hx with rfl | hx
    · exact other.symm
    · exact out x hx
  rw [← dash] at written
  rw [setViewBlock_insert found plain absent placed (eq v.dash) written, dash,
    List.append_assoc (pageRows kind before), text]
  simp [page, pageRows]

end Edits

/-! ### Sections above the view -/

def sectionsText (sections : List (List Text)) : Text := unlines (sections.flatMap (· ++ [[]]))

/-- Sections joined by empty rows are sections with an empty row after each. -/
theorem join_sections {sections : List (List Text)} (ne : ∀ rs ∈ sections, rs ≠ []) (t : Text) :
    Text.join "\n\n".toList (sections.map joinLines ++ [t]) = sectionsText sections ++ t := by
  induction sections with
  | nil => simp [sectionsText, Text.join]
  | cons rs sections ih =>
      have rest := ih fun rs hr => ne rs (List.mem_cons_of_mem _ hr)
      have first := unlines_eq_joinLines (ne rs List.mem_cons_self)
      have step : Text.join "\n\n".toList (joinLines rs :: (sections.map joinLines ++ [t])) =
          joinLines rs ++ "\n\n".toList ++
            Text.join "\n\n".toList (sections.map joinLines ++ [t]) := by
        simp [Text.join, List.intercalate_cons_of_ne_nil]
      rw [List.map_cons, List.cons_append, step, rest, sectionsText, sectionsText,
        List.flatMap_cons, unlines_append, unlines_append, first]
      simp

/-- **Sections and a view** are put together to a page. -/
theorem IsPage.join_eq {sections : List (List Text)} {kind : Text} {es : List (Text × Entry)}
    (ok : IsPage (sectionsText sections) kind es) (ne : ∀ rs ∈ sections, rs ≠ []) :
    Text.join "\n\n".toList (sections.map joinLines ++
      [dropFinalNewlines (unlines ("views:".toList :: pageRows kind es))]) =
        page (sectionsText sections) kind es := by
  obtain ⟨plain, last⟩ := ok.rows_views
  rw [join_sections ne, dropFinalNewlines_unlines plain (List.cons_ne_nil _ _) last]
  rfl

/-- Rows that open no block of views. -/
def NoViews (rs : List Text) : Prop :=
  ∀ r ∈ rs, '\n' ∉ r ∧ startsWithKey "views".toList r = false

/-- No section opens the views. -/
theorem noViews_sectionsText {sections : List (List Text)} (h : ∀ rs ∈ sections, NoViews rs) :
    ∀ l ∈ lines (sectionsText sections), startsWithKey "views".toList l = false := by
  have rows : NoViews (sections.flatMap (· ++ [[]])) := by
    intro r hr
    obtain ⟨rs, mem, hr⟩ := List.mem_flatMap.mp hr
    rcases List.mem_append.mp hr with hr | hr
    · exact h rs mem r hr
    · rw [List.mem_singleton.mp hr]
      exact ⟨by simp, by decide⟩
  intro l hl
  rw [sectionsText, lines_unlines fun r hr => (rows r hr).1] at hl
  obtain ⟨r, hr, rfl⟩ := List.mem_map.mp hl
  rw [startsWithKey, isPrefixOf_append_newline r (by decide)]
  exact (rows r hr).2

end Notebase.Document
