import Notebase.Proofs.Document.Filters
import Notebase.Proofs.Document.Page
import Notebase.Proofs.Document.Summary

/-!
Sections of a page. The sections above the view open with a key each and stand deeper below it, so
the readers of a block find the first section with its key, and nothing else of the page, whatever
the rows of the view say (`IsPage.blockOf?_eq`).
-/

namespace Notebase.Document

open Text

/-! ### Rows and lines -/

theorem listItem?_append_newline {r : Text} (plain : '\n' ∉ r) :
    listItem? (r ++ ['\n']) = listItem? r := by
  rw [listItem?, listItem?, content_row_append [] plain, content_row plain]

/-- The name of a formula is read off a line with its end or without it. -/
theorem formulaName?_append_newline (r : Text) : formulaName? (r ++ ['\n']) = formulaName? r := by
  rw [formulaName?, formulaName?, after?_append_newline r (by decide)]
  cases after? "  ".toList r with
  | none => rfl
  | some t =>
      rw [Option.map_some, Option.bind_some, Option.bind_some,
        takeWhile_append_stop (by simp; decide), dropWhile_append_stop (by simp; decide)]
      cases t.dropWhile isWordChar with
      | nil => cases t.takeWhile isWordChar <;> rfl
      | cons d rest => rfl

/-! ### Sections -/

/-- The rows of a section: its key alone on the first one, and the others deeper. -/
structure IsSection (key : Text) (rs : List Text) : Prop where
  name : isKeyName key = true
  rows : ∃ body, rs = (key ++ [':']) :: body ∧ ∀ r ∈ body, '\n' ∉ r ∧ r.head? = some ' '

def sectionLines (rs : List Text) : List Text := (rs ++ [[]]).map (· ++ ['\n'])

def findSection? (key : Text) (sections : List (List Text)) : Option (List Text) :=
  sections.find? fun rs => rs.head? == some (key ++ [':'])

section Sections

variable {key : Text} {rs : List Text}

theorem IsSection.plain (h : IsSection key rs) : Plain rs := by
  obtain ⟨name, body, rfl, deeper⟩ := h
  intro r hr
  rcases List.mem_cons.mp hr with rfl | hr
  · rw [List.mem_append, not_or]
    exact ⟨plain_of_isKeyName name, by decide⟩
  · exact (deeper r hr).1

theorem IsSection.ne_nil (h : IsSection key rs) : rs ≠ [] := by
  obtain ⟨body, rfl, -⟩ := h.rows
  exact List.cons_ne_nil _ _

/-- Rows that stand deeper open no block. -/
theorem isTopKey_of_head? {r : Text} (head : r.head? = some ' ') : isTopKey r = false := by
  cases r with
  | nil => cases head
  | cons c r =>
      cases head
      rfl

/-- A section with another key opens no block of views. -/
theorem IsSection.noViews (h : IsSection key rs) (other : key ≠ "views".toList) : NoViews rs := by
  have plain := h.plain
  obtain ⟨name, body, rfl, deeper⟩ := h
  have header : startsWithKey key (key ++ [':']) = true :=
    List.isPrefixOf_iff_prefix.mpr (List.prefix_refl _)
  refine fun r hr => ⟨plain r hr, ?_⟩
  rcases List.mem_cons.mp hr with rfl | hr
  · by_contra opens
    exact other (startsWithKey_unique name (by decide) header (by simpa using opens))
  · exact not_startsWithKey (by decide) (isTopKey_of_head? (deeper r hr).2)

/-- A section is a block of its key. -/
theorem IsSection.isBlock (h : IsSection key rs) : IsBlock key (sectionLines rs) := by
  obtain ⟨name, body, rfl, deeper⟩ := h
  refine ⟨key ++ [':'] ++ ['\n'], (body ++ [[]]).map (· ++ ['\n']), rfl, ?_, fun l hl => ?_⟩
  · rw [startsWithKey, List.isPrefixOf_iff_prefix]
    exact List.prefix_append _ _
  · obtain ⟨r, mem, rfl⟩ := List.mem_map.mp hl
    rcases List.mem_append.mp mem with mem | mem
    · rw [isTopKey_append_newline]
      exact isTopKey_of_head? (deeper r mem).2
    · rw [List.mem_singleton.mp mem]
      decide

theorem IsSection.findSection?_cons (h : IsSection key rs) (sections : List (List Text)) :
    findSection? key (rs :: sections) = some rs := by
  obtain ⟨body, rows, -⟩ := h.rows
  rw [findSection?, List.find?_cons, rows, List.head?_cons, beq_self_eq_true]

/-- A section with another key is passed over. -/
theorem IsSection.findSection?_cons_of_ne {key' : Text} (h : IsSection key' rs) (ne : key' ≠ key)
    (sections : List (List Text)) :
    findSection? key (rs :: sections) = findSection? key sections := by
  obtain ⟨body, rows, -⟩ := h.rows
  have other : (some (key' ++ [':']) == some (key ++ [':'])) = false := by
    rw [beq_eq_false_iff_ne, ne_eq, Option.some.injEq]
    exact fun eq => ne (List.append_cancel_right eq)
  rw [findSection?, List.find?_cons, rows, List.head?_cons, other]
  rfl

/-- The lines of sections are those of the first and of the others. -/
theorem lines_sectionsText {sections : List (List Text)} (plain : Plain rs) (below : Text) :
    lines (sectionsText (rs :: sections) ++ below) =
      sectionLines rs ++ lines (sectionsText sections ++ below) := by
  have rows : Plain (rs ++ [[]]) := by
    refine plain.append fun r hr => ?_
    rw [List.mem_singleton.mp hr]
    exact List.not_mem_nil
  have first : sectionsText (rs :: sections) = unlines (rs ++ [[]]) ++ sectionsText sections := by
    rw [sectionsText, List.flatMap_cons, unlines_append]
    rfl
  rw [first, List.append_assoc, lines_append _ (complete_unlines _), lines_unlines rows]
  rfl

/-- **Sections are found by their keys.** Below sections, where no line has the key and the first
one opens another block, the block of a key is the first section that opens with it. -/
theorem blockOf?_sectionsText {sections : List (List Text)} {below : Text}
    (areSections : ∀ rs ∈ sections, ∃ key', IsSection key' rs) (name : isKeyName key = true)
    (top : ∀ l ∈ (lines below).head?, isTopKey l = true)
    (none : ∀ l ∈ lines below, startsWithKey key l = false) :
    blockOf? key (lines (sectionsText sections ++ below)) =
      (findSection? key sections).map sectionLines := by
  -- Every section is followed by a line that opens a block: the next section, or what is below.
  have stop : ∀ sections : List (List Text), (∀ rs ∈ sections, ∃ key', IsSection key' rs) →
      ∀ l ∈ (lines (sectionsText sections ++ below)).head?, isTopKey l = true := by
    intro sections areSections l hl
    cases sections with
    | nil => exact top l hl
    | cons rs sections =>
        obtain ⟨key', isSection'⟩ := areSections rs List.mem_cons_self
        obtain ⟨header, rest, eq, opens, -⟩ := isSection'.isBlock
        rw [lines_sectionsText isSection'.plain, eq] at hl
        cases hl
        exact isTopKey_of_startsWithKey isSection'.name opens
  induction sections with
  | nil =>
      have split := splitFirst?_eq_none.mpr none
      rw [blockOf?, show sectionsText [] ++ below = below from rfl, split]
      rfl
  | cons rs sections ih =>
      obtain ⟨key', isSection⟩ := areSections rs List.mem_cons_self
      have rest := fun rs' hr => areSections rs' (List.mem_cons_of_mem rs hr)
      have lines : lines (sectionsText (rs :: sections) ++ below) =
          sectionLines rs ++ lines (sectionsText sections ++ below) :=
        lines_sectionsText isSection.plain below
      by_cases same : key' = key
      · subst same
        obtain ⟨b, found, -, block, -⟩ := isSection.isBlock.exists_block? (a := []) lines
          (List.forall_mem_nil _) (stop sections rest)
        rw [blockOf?_of_block? found, block, isSection.findSection?_cons]
        rfl
      · rw [lines, isSection.findSection?_cons_of_ne same,
          blockOf?_append_of_none _ (isSection.isBlock.foreign isSection.name name same).2]
        exact ih rest

theorem filterMap_sectionLines {β : Type} {f : Text → Option β} (empty : f ['\n'] = none)
    (same : ∀ r, '\n' ∉ r → f (r ++ ['\n']) = f r) (plain : Plain rs) :
    (sectionLines rs).filterMap f = rs.filterMap f := by
  have last : List.filterMap (f ∘ (· ++ ['\n'])) [[]] = [] := by simp [empty]
  rw [sectionLines, List.filterMap_map, List.filterMap_append, last, List.append_nil]
  exact List.filterMap_congr fun r hr => same r (plain r hr)

end Sections

/-! ### Sections of a page -/

section Pages

variable {sections : List (List Text)} {kind : Text} {es : List (Text × Entry)}

/-- The lines of the view on a page open no block but the one of the views. -/
theorem IsPage.lines_below {above : Text} (ok : IsPage above kind es) :
    ∃ ls, lines (joinLines ("views:".toList :: pageRows kind es)) = "views:\n".toList :: ls ∧
      ∀ l ∈ ls, isTopKey l = false := by
  have rows := ok.viewRows
  refine ⟨lines (joinLines (pageRows kind es)), ?_, fun l hl => ?_⟩
  · rw [joinLines_cons _ rows.ne_nil, lines_row_append _ (by decide)]
    rfl
  · rw [← isTopKey_content hl]
    refine rows.notTopKey _ ?_
    rw [← rows_joinLines rows.plain rows.last]
    exact List.mem_map_of_mem hl

/-- **A block of a page** other than that of the views is the first section with its key. -/
theorem IsPage.blockOf?_eq (ok : IsPage (sectionsText sections) kind es)
    (areSections : ∀ rs ∈ sections, ∃ key, IsSection key rs) {key : Text} (name : isKeyName key =
    true)
    (other : key ≠ "views".toList) :
    blockOf? key (lines (page (sectionsText sections) kind es)) =
      (findSection? key sections).map sectionLines := by
  obtain ⟨ls, below, notTop⟩ := ok.lines_below
  have header : startsWithKey "views".toList "views:\n".toList = true := by decide
  have none : ∀ l ∈ "views:\n".toList :: ls, startsWithKey key l = false := by
    intro l hl
    rcases List.mem_cons.mp hl with rfl | hl
    · by_contra opens
      exact other (startsWithKey_unique name (by decide) (by simpa using opens) header)
    · exact not_startsWithKey name (notTop l hl)
  refine blockOf?_sectionsText areSections name ?_ ?_
  · rw [below]
    rintro l ⟨⟩
    decide
  · rwa [below]

/-- **What is read off a block of a page** is read off the rows of the section with its key. -/
theorem IsPage.filterMap_blockOf? (ok : IsPage (sectionsText sections) kind es)
    (areSections : ∀ rs ∈ sections, ∃ key, IsSection key rs) {key : Text} (name : isKeyName key =
    true)
    (other : key ≠ "views".toList) {β : Type} {f : Text → Option β} (empty : f ['\n'] = none)
    (same : ∀ r, '\n' ∉ r → f (r ++ ['\n']) = f r) :
    ((blockOf? key (lines (page (sectionsText sections) kind es))).getD []).filterMap f =
      ((findSection? key sections).getD []).filterMap f := by
  rw [ok.blockOf?_eq areSections name other]
  cases isSection : findSection? key sections with
  | none => rfl
  | some rs =>
      obtain ⟨key', isSection'⟩ := areSections rs (List.mem_of_find?_eq_some isSection)
      exact filterMap_sectionLines empty same isSection'.plain

theorem IsPage.filterEntries_eq (ok : IsPage (sectionsText sections) kind es)
    (areSections : ∀ rs ∈ sections, ∃ key, IsSection key rs) :
    filterEntries (page (sectionsText sections) kind es) =
      (((findSection? "filters".toList sections).getD []).filterMap listItem?).map unquote := by
  rw [Document.filterEntries_eq]
  exact congrArg (List.map unquote) (ok.filterMap_blockOf? areSections (by decide) (by decide)
    (by decide)
    fun r plain => listItem?_append_newline plain)

theorem IsPage.formulaNames_eq (ok : IsPage (sectionsText sections) kind es)
    (areSections : ∀ rs ∈ sections, ∃ key, IsSection key rs) :
    formulaNames (page (sectionsText sections) kind es) =
      ((findSection? "formulas".toList sections).getD []).filterMap formulaName? := by
  rw [Document.formulaNames_eq]
  exact ok.filterMap_blockOf? areSections (by decide) (by decide) (by decide)
    fun r _ => formulaName?_append_newline r

end Pages

end Notebase.Document
