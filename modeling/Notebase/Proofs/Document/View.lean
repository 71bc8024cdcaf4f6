import Notebase.Proofs.Document.Block

/-!
The first view in a document that changes. Where the view stands is said in all detail
(`sited_of_firstView?`, `View.Sited.firstView?`), so a view whose rows are exchanged for other rows
of a view is found again at the same place with those rows (`firstView?_withRows`), and no other
block of the document notices (`blockOf?_withRows`).
-/

namespace Notebase

/-- What is dropped from the end satisfies the condition. -/
theorem forall_mem_drop_dropEndWhile {α : Type} (p : α → Bool) (l : List α) :
    ∀ a ∈ l.drop (dropEndWhile p l).length, p a = true := by
  have whole := dropEndWhile_append_drop p l
  have split := List.rdropWhile_append_rtakeWhile (p := p) (l := l)
  rw [Text.dropEndWhile_eq_rdropWhile] at whole ⊢
  intro a ha
  rw [List.append_cancel_left (whole.trans split.symm)] at ha
  exact List.mem_rtakeWhile_imp ha

theorem dropEndWhile_append_of_all {α : Type} {p : α → Bool} {kept dropped : List α}
    (all : ∀ a ∈ dropped, p a = true) (last : ∀ a ∈ kept.getLast?, p a = false) :
    dropEndWhile p (kept ++ dropped) = kept := by
  rw [Text.dropEndWhile_eq_rdropWhile]
  induction dropped using List.reverseRecOn with
  | nil =>
      rw [List.append_nil, List.rdropWhile_eq_self_iff]
      intro ne h
      have := last _ (List.getLast?_eq_some_getLast ne)
      rw [h] at this
      cases this
  | append_singleton dropped a ih =>
      rw [← List.append_assoc, List.rdropWhile_concat_pos _ _ _ (all a (by simp))]
      exact ih fun b hb => all b (List.mem_append_left _ hb)

namespace Document

open Text

/-! ### Where the view stands -/

/-- The parts of a document around its first view: the lines above the block of views, its
header, the lines that come before the first item, the empty lines after the view, the other
views, and the lines below the block. -/
structure Site where
  above : List Text
  header : Text
  skipped : List Text
  gap : List Text
  others : List Text
  below : List Text

/-- The view stands in the document with these parts around it. -/
structure View.Sited (v : View) (s : Site) (t : Text) : Prop where
  lines : t.lines = v.before ++ v.lines ++ v.after
  before : v.before = s.above ++ s.header :: s.skipped
  after : v.after = s.gap ++ s.others ++ s.below
  above : ∀ l ∈ s.above, startsWithKey "views".toList l = false
  header : startsWithKey "views".toList s.header = true
  skipped : ∀ l ∈ s.skipped, isTopKey l = false ∧ isItem l = false
  head : isTopKey v.head = false ∧ isItem v.head = true ∧ v.dash = indentation v.head
  body : ∀ l ∈ v.body, isTopKey l = false ∧ (dashFront v.dash).isPrefixOf l = false
  last : ∀ l ∈ v.body.getLast?, isEmptyLine l = false
  gap : ∀ l ∈ s.gap, isEmptyLine l = true
  others : (∀ l ∈ s.others, isTopKey l = false) ∧
    ∀ l ∈ s.others.head?, (dashFront v.dash).isPrefixOf l = true
  below : ∀ l ∈ s.below.head?, isTopKey l = true

theorem isEmptyLine_eq {l : Text} (h : isEmptyLine l = true) : l = ['\n'] := by
  simpa [isEmptyLine] using h

theorem isTopKey_of_isEmptyLine {l : Text} (h : isEmptyLine l = true) : isTopKey l = false := by
  rw [isEmptyLine_eq h]
  decide

theorem isPrefixOf_of_isEmptyLine {l : Text} (dash : Nat) (h : isEmptyLine l = true) :
    (dashFront dash).isPrefixOf l = false := by
  rw [isEmptyLine_eq h]
  cases dash with
  | zero => decide
  | succ n => simp [dashFront, spaces, List.replicate_succ, List.isPrefixOf]

theorem spaces_append_dropWhile (line : Text) :
    spaces (indentation line) ++ line.dropWhile (· == ' ') = line := by
  have front : line.takeWhile (· == ' ') = spaces (indentation line) :=
    List.eq_replicate_iff.mpr ⟨rfl, fun c hc => by simpa using List.mem_takeWhile_imp hc⟩
  rw [← front, List.takeWhile_append_dropWhile]

theorem isItem_iff {line : Text} :
    isItem line = true ↔ dashFront (indentation line) <+: line := by
  have whole := spaces_append_dropWhile line
  rw [isItem, List.isPrefixOf_iff_prefix, dashFront]
  generalize indentation line = n at whole ⊢
  generalize line.dropWhile (· == ' ') = rest at whole ⊢
  rw [← whole, List.prefix_append_right_inj]

theorem indentation_of_dashFront {dash : Nat} {line : Text} (h : dashFront dash <+: line) :
    indentation line = dash := by
  obtain ⟨rest, rfl⟩ := h
  rw [dashFront, List.append_assoc, indentation, takeWhile_append_stop (by simp),
    List.takeWhile_eq_self_iff.mpr (by simp [spaces])]
  simp [spaces]

theorem isItem_of_dashFront {dash : Nat} {line : Text} (h : dashFront dash <+: line) :
    isItem line = true := by
  rw [isItem_iff, indentation_of_dashFront h]
  exact h

theorem isTopKey_of_dashFront {dash : Nat} {line : Text} (h : dashFront dash <+: line) :
    isTopKey line = false := by
  obtain ⟨rest, rfl⟩ := h
  cases dash with
  | zero => simp [dashFront, spaces, isTopKey]
  | succ n => simp [dashFront, spaces, List.replicate_succ, isTopKey]

/-- A view that is found stands where the search has passed. -/
theorem sited_of_firstView? {t : Text} {v : View} (found : firstView? t = some v) :
    ∃ s : Site, v.Sited s t := by
  have lines := lines_of_firstView? found
  unfold firstView? at found
  rw [Option.bind_eq_some_iff] at found
  obtain ⟨b, block, found⟩ := found
  rw [Option.map_eq_some_iff] at found
  obtain ⟨⟨skipped, head, rest⟩, split, rfl⟩ := found
  unfold block? at block
  rw [Option.map_eq_some_iff] at block
  obtain ⟨⟨above, header, under⟩, split', rfl⟩ := block
  obtain ⟨-, isHeader, noHeader⟩ := splitFirst?_eq_some split'
  obtain ⟨parts, isHead, noItem⟩ := splitFirst?_eq_some split
  dsimp only at lines parts ⊢
  have inside : ∀ l ∈ skipped ++ head :: rest, isTopKey l = false := by
    intro l hl
    rw [← parts] at hl
    simpa using List.mem_takeWhile_imp hl
  have inRest : ∀ l ∈ rest, isTopKey l = false := fun l hl =>
    inside l (List.mem_append_right _ (List.mem_cons_of_mem _ hl))
  refine ⟨⟨above, header, skipped, _, _, _⟩, lines, rfl, rfl, noHeader, isHeader,
    fun l hl => ⟨inside l (List.mem_append_left _ hl), noItem l hl⟩,
    ⟨inside head (by simp), isHead, rfl⟩, ?_, ?_, ?_, ⟨?_, ?_⟩, ?_⟩
  · intro l hl
    rw [dropEndWhile_eq_rdropWhile] at hl
    have taken := (List.rdropWhile_prefix _ _).subset hl
    exact ⟨inRest l ((List.takeWhile_prefix _).subset taken),
      by simpa using List.mem_takeWhile_imp taken⟩
  · intro l hl
    rw [dropEndWhile_eq_rdropWhile] at hl
    have ne : List.rdropWhile isEmptyLine
        (rest.takeWhile fun l => !(dashFront (indentation head)).isPrefixOf l) ≠ [] := by
      intro h
      rw [h] at hl
      cases hl
    have last := List.rdropWhile_last_not _ _ ne
    rw [List.getLast?_eq_some_getLast ne, Option.mem_some_iff] at hl
    rw [← hl]
    simpa using last
  · exact forall_mem_drop_dropEndWhile _ _
  · exact fun l hl => inRest l ((List.dropWhile_suffix _).subset hl)
  · intro l hl
    simpa using head?_dropWhile l hl
  · intro l hl
    simpa using head?_dropWhile l hl

/-- The block of views around a view. -/
theorem View.Sited.block? {t : Text} {v : View} {s : Site} (sited : v.Sited s t) :
    block? "views".toList t = some
      ⟨s.above, s.header, s.skipped ++ v.lines ++ s.gap ++ s.others, s.below⟩ := by
  obtain ⟨lines, before, after, above, header, skipped, ⟨notTop, -, -⟩, body, -, gap,
    ⟨others, -⟩, below⟩ := sited
  have inside : ∀ l ∈ s.skipped ++ v.lines ++ s.gap ++ s.others, (!isTopKey l) = true := by
    intro l hl
    simp only [View.lines, List.mem_append, List.mem_cons] at hl
    rcases hl with ((h | rfl | h) | h) | h
    · simp [(skipped l h).1]
    · simp [notTop]
    · simp [(body l h).1]
    · simp [isTopKey_of_isEmptyLine (gap l h)]
    · simp [others l h]
  have stop : ∀ l ∈ s.below.head?, (!isTopKey l) = false := fun l hl => by
    simp [below l hl]
  unfold Document.block?
  rw [lines, before, after]
  rw [show s.above ++ s.header :: s.skipped ++ v.lines ++ (s.gap ++ s.others ++ s.below) =
      s.above ++ s.header :: ((s.skipped ++ v.lines ++ s.gap ++ s.others) ++ s.below) by simp,
    splitFirst?_of_split above header, Option.map_some]
  dsimp only
  rw [takeWhile_append_stop stop, dropWhile_append_stop stop,
    List.takeWhile_eq_self_iff.mpr inside, List.dropWhile_eq_nil_iff.mpr inside, List.nil_append]

/-- A view is found wherever it stands. -/
theorem View.Sited.firstView? {t : Text} {v : View} {s : Site} (sited : v.Sited s t) :
    firstView? t = some v := by
  have block := sited.block?
  obtain ⟨before, head, body, after, dash⟩ := v
  obtain ⟨-, rfl, rfl, -, -, skipped, ⟨-, item, depth⟩, body', last, gap, ⟨-, next⟩, -⟩ := sited
  dsimp only [View.lines] at *
  subst depth
  have noSibling : ∀ l ∈ body ++ s.gap,
      (!(dashFront (indentation head)).isPrefixOf l) = true := by
    intro l hl
    rcases List.mem_append.mp hl with h | h
    · simp [(body' l h).2]
    · simp [isPrefixOf_of_isEmptyLine _ (gap l h)]
  have nextSibling : ∀ l ∈ s.others.head?,
      (!(dashFront (indentation head)).isPrefixOf l) = false := fun l hl => by
    simp [next l hl]
  unfold Document.firstView?
  rw [block, Option.bind_some]
  simp only
  rw [show s.skipped ++ head :: body ++ s.gap ++ s.others =
      s.skipped ++ head :: ((body ++ s.gap) ++ s.others) by simp,
    splitFirst?_of_split (fun l hl => (skipped l hl).2) item, Option.map_some,
    takeWhile_append_stop nextSibling, dropWhile_append_stop nextSibling,
    List.takeWhile_eq_self_iff.mpr noSibling, List.dropWhile_eq_nil_iff.mpr noSibling,
    dropEndWhile_append_of_all gap last]
  simp

/-! ### The view as rows -/

/-- Rows that a view can have whose dash stands `dash` spaces deep. -/
structure ViewRows (dash : Nat) (rs : List Text) : Prop where
  plain : Plain rs
  head : ∃ r ∈ rs.head?, dashFront dash <+: r
  tail : ∀ r ∈ rs.tail, isTopKey r = false ∧ (dashFront dash).isPrefixOf r = false
  last : rs.getLast? ≠ some []

theorem ViewRows.ne_nil {dash : Nat} {rs : List Text} (ok : ViewRows dash rs) : rs ≠ [] := by
  obtain ⟨r, hr, -⟩ := ok.head
  rintro rfl
  cases hr

/-- No row of a view starts with a key of the document. -/
theorem ViewRows.notTopKey {dash : Nat} {rs : List Text} (ok : ViewRows dash rs) :
    ∀ r ∈ rs, isTopKey r = false := by
  obtain ⟨head, isHead, item⟩ := ok.head
  cases rs with
  | nil => cases isHead
  | cons r rs =>
      obtain rfl : r = head := by simpa using isHead
      intro r' hr
      rcases List.mem_cons.mp hr with rfl | hr
      · exact isTopKey_of_dashFront item
      · exact (ok.tail r' hr).1

namespace View

def rows (v : View) : List Text := v.lines.map content

def closed (v : View) : Bool := terminated v.lines.flatten

def withRows (v : View) (rs : List Text) : Text := v.replace (ofRows v.closed rs)

end View

section Found

variable {t : Text} {v : View} (found : firstView? t = some v)
include found

theorem lines_flatten_view : Text.lines v.lines.flatten = v.lines := by
  have lines := lines_of_firstView? found
  rw [List.append_assoc] at lines
  exact (lines_eq_append (lines_eq_append lines).2.1).1

theorem rows_flatten_view : Text.rows v.lines.flatten = v.rows := by
  rw [Text.rows, lines_flatten_view found]
  rfl

/-- The view ends at a line boundary unless nothing follows it. -/
theorem closed_of_after (some : v.after ≠ []) : v.closed = true := by
  have lines := lines_of_firstView? found
  rw [List.append_assoc] at lines
  rcases (lines_eq_append (lines_eq_append lines).2.1).2.2 some with h | h
  · have none := lines_flatten_view found
    rw [h] at none
    cases none
  · exact h

theorem complete_before : Complete v.before.flatten := by
  have lines := lines_of_firstView? found
  rw [List.append_assoc] at lines
  exact (lines_eq_append lines).2.2 (by simp [View.lines])

theorem withRows_rows : v.withRows v.rows = t := by
  rw [View.withRows, View.closed, ← rows_flatten_view found, ofRows_rows]
  exact replace_lines_of_firstView? found

/-- A view with other rows stands between the same lines. -/
theorem lines_withRows (rs : List Text) :
    (v.withRows rs).lines = v.before ++ (ofRows v.closed rs).lines ++ v.after := by
  have lines := lines_of_firstView? found
  have hbefore := (lines_eq_append (List.append_assoc .. ▸ lines)).1
  have hafter := (lines_eq_append lines).2.1
  rw [View.withRows, View.replace, List.append_assoc, lines_append _ (complete_before found),
    hbefore, List.append_assoc]
  congr 1
  by_cases none : v.after = []
  · simp [none]
  · have complete : Complete (ofRows v.closed rs) := by
      rw [closed_of_after found none]
      exact complete_unlines rs
    rw [lines_append _ complete, hafter]

theorem view_flatten_ne_nil : v.lines.flatten ≠ [] := by
  intro h
  have none := lines_flatten_view found
  rw [h] at none
  cases none

/-- The last line of a document keeps its end when the rows of the view change. -/
theorem terminated_withRows {rs : List Text} (plain : Plain rs) (ne : rs ≠ [])
    (last : rs.getLast? ≠ some []) : terminated (v.withRows rs) = terminated t := by
  have some : ofRows v.closed rs ≠ [] := by
    intro h
    have same := rows_ofRows v.closed plain last
    rw [h] at same
    exact ne same.symm
  conv_rhs => rw [← replace_lines_of_firstView? found]
  unfold View.withRows View.replace
  by_cases none : v.after.flatten = []
  · rw [none, List.append_nil, List.append_nil, terminated_append _ some,
      terminated_append _ (view_flatten_ne_nil found), terminated_ofRows plain ne last]
    rfl
  · rw [terminated_append _ none, terminated_append _ none]

/-- **A view with other rows is found again**, with those rows and at the same place. -/
theorem firstView?_withRows {rs : List Text} (ok : ViewRows v.dash rs) :
    ∃ v', firstView? (v.withRows rs) = some v' ∧ v'.dash = v.dash ∧ v'.rows = rs ∧
      v'.before = v.before ∧ v'.after = v.after ∧ v'.closed = v.closed := by
  obtain ⟨s, sited⟩ := sited_of_firstView? found
  have same : (Text.lines (ofRows v.closed rs)).map content = rs := rows_ofRows _ ok.plain ok.last
  cases split : Text.lines (ofRows v.closed rs) with
  | nil =>
      rw [split] at same
      exact absurd same.symm ok.ne_nil
  | cons head body =>
      rw [split, List.map_cons] at same
      have content_mem : ∀ l ∈ head :: body, l ∈ Text.lines (ofRows v.closed rs) := fun l hl => by
        rw [split]
        exact hl
      have front : ∀ l ∈ head :: body,
          (dashFront v.dash).isPrefixOf l = (dashFront v.dash).isPrefixOf (content l) := by
        intro l hl
        obtain ⟨r, -, eq, rfl | rfl⟩ := shape_of_mem_lines (content_mem l hl)
        · rw [eq]
        · rw [eq, isPrefixOf_append_newline r (by simp [dashFront, spaces])]
      have isHead : dashFront v.dash <+: head := by
        obtain ⟨r, hr, item⟩ := ok.head
        rw [← same, List.head?_cons, Option.mem_some_iff] at hr
        rw [← List.isPrefixOf_iff_prefix, front head List.mem_cons_self, hr,
          List.isPrefixOf_iff_prefix]
        exact item
      let v' : View := ⟨v.before, head, body, v.after, v.dash⟩
      have lines' : v'.lines = Text.lines (ofRows v.closed rs) := split.symm
      have flat : v'.lines.flatten = ofRows v.closed rs := by
        rw [lines', flatten_lines]
      refine ⟨v', View.Sited.firstView? (s := s) ?_, rfl, ?_, rfl, rfl, ?_⟩
      · refine ⟨?_, sited.before, sited.after, sited.above, sited.header, sited.skipped,
          ⟨isTopKey_of_dashFront isHead, isItem_of_dashFront isHead,
            (indentation_of_dashFront isHead).symm⟩, ?_, ?_, sited.gap, sited.others, sited.below⟩
        · rw [lines_withRows found rs, ← lines']
        · intro l hl
          have row : content l ∈ rs.tail := by
            rw [← same]
            exact List.mem_map_of_mem hl
          rw [front l (List.mem_cons_of_mem _ hl),
            ← isTopKey_content (content_mem l (List.mem_cons_of_mem _ hl))]
          exact ok.tail _ row
        · intro l hl
          by_contra empty
          rw [Bool.not_eq_false] at empty
          have last : rs.getLast? = some (content l) := by
            rw [← same, List.getLast?_cons, List.getLast?_map, Option.mem_def.mp hl]
            rfl
          rw [isEmptyLine_eq empty] at last
          exact ok.last last
      · rw [View.rows, lines']
        exact rows_ofRows _ ok.plain ok.last
      · rw [View.closed, flat, terminated_ofRows ok.plain ok.ne_nil ok.last]

/-- A view that is found again: other rows in its place are other rows in the place of the view
that was there at first. -/
theorem exists_again {rs : List Text} (ok : ViewRows v.dash rs) :
    ∃ v', firstView? (v.withRows rs) = some v' ∧ v'.dash = v.dash ∧ v'.rows = rs ∧
      ∀ rs', v'.withRows rs' = v.withRows rs' := by
  obtain ⟨v', found', dash, rows, before, after, closed⟩ := firstView?_withRows found ok
  refine ⟨v', found', dash, rows, fun rs' => ?_⟩
  rw [View.withRows, View.withRows, View.replace, View.replace, before, after, closed]

/-- The rows of a view that is found are rows that a view can have. -/
theorem viewRows_rows : ViewRows v.dash v.rows := by
  obtain ⟨s, sited⟩ := sited_of_firstView? found
  have line : ∀ l ∈ v.lines, l ∈ t.lines := fun l hl => by
    rw [sited.lines]
    exact List.mem_append_left _ (List.mem_append_right _ hl)
  have front : ∀ l ∈ v.lines,
      (dashFront v.dash).isPrefixOf (content l) = (dashFront v.dash).isPrefixOf l := by
    intro l hl
    obtain ⟨r, -, eq, rfl | rfl⟩ := shape_of_mem_lines (line l hl)
    · rw [eq]
    · rw [eq, isPrefixOf_append_newline r (by simp [dashFront, spaces])]
  have isHead : dashFront v.dash <+: content v.head := by
    rw [← List.isPrefixOf_iff_prefix, front v.head List.mem_cons_self,
      List.isPrefixOf_iff_prefix, sited.head.2.2, ← isItem_iff]
    exact sited.head.2.1
  refine ⟨?_, ⟨content v.head, rfl, isHead⟩, ?_, ?_⟩
  · intro r hr
    obtain ⟨l, -, rfl⟩ := List.mem_map.mp hr
    exact not_mem_content l
  · intro r hr
    obtain ⟨l, hl, rfl⟩ := List.mem_map.mp hr
    have mem : l ∈ v.lines := List.mem_cons_of_mem _ hl
    rw [front l mem, isTopKey_content (line l mem)]
    exact sited.body l hl
  · intro last
    rw [View.rows, View.lines, List.map_cons, List.getLast?_cons, Option.some.injEq] at last
    cases h : v.body.getLast? with
    | none =>
        rw [List.getLast?_map, h] at last
        rw [Option.map_none, Option.getD_none] at last
        rw [last] at isHead
        simp [dashFront] at isHead
    | some l =>
        rw [List.getLast?_map, h, Option.map_some, Option.getD_some] at last
        have mem : l ∈ v.body := List.mem_of_getLast? h
        obtain ⟨r, -, eq, rfl | rfl⟩ := shape_of_mem_lines (line l (List.mem_cons_of_mem _ mem))
        · rw [last] at eq
          exact absurd eq.symm (ne_nil_of_mem_lines (line l (List.mem_cons_of_mem _ mem)))
        · rw [last] at eq
          subst eq
          exact absurd (sited.last _ h) (by decide)

/-- A view with other rows leaves every other block of the document as it was. -/
theorem blockOf?_withRows {rs : List Text} (ok : ViewRows v.dash rs) {key : Text}
    (name : isKeyName key = true) (other : key ≠ "views".toList) :
    blockOf? key (v.withRows rs).lines = blockOf? key t.lines := by
  obtain ⟨s, sited⟩ := sited_of_firstView? found
  have foreign : ∀ ls : List Text, (∀ l ∈ ls, isTopKey l = false) →
      Foreign key (s.header :: (s.skipped ++ ls ++ s.gap ++ s.others)) := by
    intro ls notTop
    refine ⟨⟨_, _, rfl, isTopKey_of_startsWithKey (by decide) sited.header⟩, fun l hl => ?_⟩
    rcases List.mem_cons.mp hl with rfl | hl
    · by_contra h
      exact other (startsWithKey_unique name (by decide) (by simpa using h) sited.header)
    · refine not_startsWithKey name ?_
      simp only [List.mem_append] at hl
      rcases hl with ((h | h) | h) | h
      · exact (sited.skipped l h).1
      · exact notTop l h
      · exact isTopKey_of_isEmptyLine (sited.gap l h)
      · exact sited.others.1 l h
  have old : ∀ l ∈ v.lines, isTopKey l = false := by
    intro l hl
    rcases List.mem_cons.mp hl with rfl | hl
    · exact sited.head.1
    · exact (sited.body l hl).1
  have new : ∀ l ∈ (ofRows v.closed rs).lines, isTopKey l = false := by
    intro l hl
    rw [← isTopKey_content hl]
    refine ok.notTopKey _ ?_
    rw [← rows_ofRows v.closed ok.plain ok.last]
    exact List.mem_map_of_mem hl
  have swap := blockOf?_swap (a := s.above) s.below (foreign _ new) (foreign _ old)
  rw [lines_withRows found, sited.lines, sited.before, sited.after]
  simpa using swap

end Found

end Document

end Notebase
