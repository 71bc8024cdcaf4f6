import Notebase.Proofs.Patch.Frame
import Notebase.Proofs.ReadBack
import Notebase.Proofs.Request.Usable

/-!
Sortings and groupings that a sentence asks for. The property of a request may have several words,
and all of them are written; the readers stop at the first one (`lead_word_of_arrangement_is_read`).
So an arrangement is read back as it was written exactly when its property is a single word, in a
new document and in one that is patched.
-/

namespace Notebase

open Document

/-! ### Properties with several words -/

/-- A property that is written out, with no blanks in it but spaces. -/
structure Text.Spaced (t : Text) : Prop extends t.Written where
  space : ∀ c ∈ t, isBlank c = true → c = ' '

namespace Text.Spaced

variable {t : Text} (spaced : t.Spaced)
include spaced

theorem onRow : t.OnRow where
  ne_nil := spaced.ne_nil
  first := spaced.trimmed.first
  whole c hc := by
    by_contra brk
    rw [Bool.not_eq_false] at brk
    rw [spaced.space c hc (isBlank_of_isLineBreak brk)] at brk
    exact absurd brk (by decide)

/-- The first word is the whole property if there is no space in it. -/
theorem leadWord_eq_self : t.leadWord = t ↔ ' ' ∉ t := by
  rw [Text.leadWord_eq_self]
  constructor
  · intro filled mem
    exact absurd (filled _ mem) (by decide)
  · intro single c hc
    by_contra blank
    rw [Bool.not_eq_false] at blank
    rw [spaced.space c hc blank] at hc
    exact single hc

end Text.Spaced

/-- The words of a name have one space between them in the reference it stands for. -/
theorem Property.spaced_resolve {name : Text} (written : name.Written) : (resolve name).Spaced where
  toWritten := written_resolve written
  space c hc blank := by
    rcases resolve_cases name with ⟨pair, mem, eq⟩ | eq
    · rw [eq] at hc
      rw [(word_of_mem_commonNames pair mem).2 c hc] at blank
      cases blank
    · rw [eq] at hc
      exact Text.eq_space_of_mem_unwords (fun w hw => (Text.mem_words hw).2) hc blank

namespace Request

theorem spaced_sorting {t : Text} : ∀ s ∈ (ofText Property.resolve t).sorting,
    s.property.Spaced := by
  intro s mem
  obtain ⟨s', named, rfl⟩ := Option.map_eq_some_iff.mp mem
  obtain ⟨name, last, rfl⟩ := Option.map_eq_some_iff.mp named
  exact Property.spaced_resolve (written_lastName last)

theorem spaced_groupBy {t : Text} : ∀ property ∈ (ofText Property.resolve t).groupBy,
    property.Spaced := by
  intro property mem
  obtain ⟨name, last, rfl⟩ := Option.map_eq_some_iff.mp mem
  exact Property.spaced_resolve (written_lastName last)

end Request

/-- A direction is a single word. -/
theorem unbroken_of_mem_directions : ∀ direction ∈ Form.directions, Text.Unbroken direction := by
  have filled : ∀ direction ∈ Form.directions,
      direction ≠ [] ∧ ∀ c ∈ direction, isBlank c = false := by decide
  exact fun direction mem => ⟨(filled direction mem).1, (filled direction mem).2⟩

/-! ### New documents -/

namespace Document.Layout

variable {l : Layout} {property direction : Text}

/-- The sorting on a page is read with the first word of its property. -/
theorem Ok.viewSort_shown (ok : l.Ok) (sort : l.sort = some (property, direction))
    (isProperty : property.OnRow) (isDirection : direction.Unbroken) :
    viewSort (page (sectionsText l.sections) l.kind l.shown) =
      [[("property".toList, property.leadWord), ("direction".toList, direction)]] := by
  have mem : (ViewKey.sort.text, sortEntry property direction 2) ∈ l.shown := by
    rw [shown, sort, arranged_some]
    simp
  rw [viewSort_eq, ok.isPage_shown.entryAt?_outline .sort (List.mem_cons_of_mem _ mem),
    Option.map_some, Option.getD_some, sorting_sortEntry_onRow isProperty isDirection.onRow,
    isDirection.leadWord_eq]

/-- The grouping on a page is read with the first word of its property. -/
theorem Ok.viewGroupBy?_shown (ok : l.Ok) (groupBy : l.groupBy = some (property, direction))
    (isProperty : property.OnRow) (isDirection : direction.Unbroken) :
    viewGroupBy? (page (sectionsText l.sections) l.kind l.shown) =
      some [("property".toList, property.leadWord), ("direction".toList, direction)] := by
  have mem : (ViewKey.groupBy.text, groupEntry property direction 2) ∈ l.shown := by
    rw [shown, groupBy, arranged_some]
    simp
  rw [viewGroupBy?_eq, ok.isPage_shown.entryAt?_outline .groupBy (List.mem_cons_of_mem _ mem),
    Option.bind_some, grouping?_groupEntry_onRow isProperty isDirection.onRow,
    isDirection.leadWord_eq]

end Document.Layout

/-! ### Patched documents -/

namespace Document

/-- A block with a new key stands in the view after its columns. -/
theorem entryAt?_setViewBlock {t : Text} (key : ViewKey) {block : Nat → Text} {new : Nat → Entry}
    (eq : ∀ dash, block (dash + 2) = unlines (new dash).rows)
    (written : ∀ dash, (new dash).Written dash key.text)
    (order : (viewKey? "order".toList t).isSome) (absent : viewKey? key.text t = none) :
    ∃ dash, (outline (setViewBlock key.text block t)).entryAt? key = some (new dash) := by
  have none : (outline t).entryAt? key = none := by
    rw [entryAt?_eq_map, absent, Option.map_none]
  -- A key that is not there cannot stand on the line with the dash, so no dash is written over.
  have bare : ∀ p ∈ (outline t).view, ∀ e ∈ p.entry key, ¬ dashFront p.dash <+: e.label := by
    intro p hp e mem
    rw [Outline.entryAt?, Option.mem_def.mp hp, Option.bind_some, Option.mem_def.mp mem] at none
    cases none
  rw [outline_setViewBlock key eq written bare]
  exact entryAt?_onView_put new (place_of_viewKey? key (.inl order))

section Edits

variable {t property direction : Text} (order : (viewKey? "order".toList t).isSome)
  (isProperty : property.OnRow) (isDirection : direction.Unbroken)
include order isProperty isDirection

/-- A sorting that is set anew is read with the first word of its property. -/
theorem viewSort_setSort (absent : viewKey? "sort".toList t = none) :
    viewSort (setSort property direction t) =
      [[("property".toList, property.leadWord), ("direction".toList, direction)]] := by
  obtain ⟨dash, sort_eq⟩ := entryAt?_setViewBlock .sort (renderSort_eq property direction)
    (fun dash => sortEntry_written dash isProperty.plain isDirection.plain) order absent
  have found : (outline (setSort property direction t)).entryAt? .sort =
      some (sortEntry property direction dash) := sort_eq
  rw [viewSort_eq, found, Option.map_some, Option.getD_some,
    sorting_sortEntry_onRow isProperty isDirection.onRow, isDirection.leadWord_eq]

/-- A grouping that is set anew is read with the first word of its property. -/
theorem viewGroupBy?_setGroupBy (absent : viewKey? "groupBy".toList t = none) :
    viewGroupBy? (setGroupBy property direction t) =
      some [("property".toList, property.leadWord), ("direction".toList, direction)] := by
  obtain ⟨dash, groupBy_eq⟩ := entryAt?_setViewBlock .groupBy (renderGroupBy_eq property direction)
    (fun dash => groupEntry_written dash isProperty.plain isDirection.plain) order absent
  have found : (outline (setGroupBy property direction t)).entryAt? .groupBy =
      some (groupEntry property direction dash) := groupBy_eq
  rw [viewGroupBy?_eq, found, Option.bind_some,
    grouping?_groupEntry_onRow isProperty isDirection.onRow, isDirection.leadWord_eq]

end Edits

end Document

/-! ### Requests -/

/-- **Of an arrangement the first word of its property is read**, whether the sentence makes a new
document or the property is written into one that has columns and no such arrangement. It is the
property itself exactly if there is no space in it. -/
theorem lead_word_of_arrangement_is_read {t : Text} (oneLine : '\n' ∉ t) :
    let r := Request.ofText Property.resolve t
    (∀ s ∈ r.sorting, (s.property.leadWord = s.property ↔ ' ' ∉ s.property) ∧
      viewSort (Draft.ofText t) =
        [[("property".toList, s.property.leadWord), ("direction".toList, s.direction)]] ∧
      ∀ d, (viewKey? "order".toList d).isSome → viewKey? "sort".toList d = none →
        ∃ d', Edit.perform d (.sort s.property s.direction) = .ok d' ∧ viewSort d' =
          [[("property".toList, s.property.leadWord), ("direction".toList, s.direction)]]) ∧
    ∀ property ∈ r.groupBy, (property.leadWord = property ↔ ' ' ∉ property) ∧
      viewGroupBy? (Draft.ofText t) =
        some [("property".toList, property.leadWord), ("direction".toList, "ASC".toList)] ∧
      ∀ d, (viewKey? "order".toList d).isSome → viewKey? "groupBy".toList d = none →
        ∃ d', Edit.perform d (.groupBy property "ASC".toList) = .ok d' ∧ viewGroupBy? d' =
          some [("property".toList, property.leadWord), ("direction".toList, "ASC".toList)] := by
  intro r
  have plain : r.Plain := Request.plain_ofText [] oneLine
  obtain ⟨ok, page⟩ := Draft.ofRequest_eq_page plain (Draft.plain_columns Request.tidy_properties)
  refine ⟨fun s mem => ?_, fun property listed => ?_⟩
  · have spaced := Request.spaced_sorting s mem
    have direction := unbroken_of_mem_directions _ ((Request.neat_ofText t).sorting s mem).2
    refine ⟨spaced.leadWord_eq_self, ?_, fun d order absent => ⟨_, rfl, ?_⟩⟩
    · rw [Draft.ofText, page]
      exact ok.viewSort_shown (by rw [Draft.layout, Option.mem_def.mp mem]; rfl) spaced.onRow
        direction
    · exact viewSort_setSort order spaced.onRow direction absent
  · have spaced := Request.spaced_groupBy property listed
    have direction := unbroken_of_mem_directions "ASC".toList (by decide)
    refine ⟨spaced.leadWord_eq_self, ?_, fun d order absent => ⟨_, rfl, ?_⟩⟩
    · rw [Draft.ofText, page]
      refine ok.viewGroupBy?_shown ?_ spaced.onRow direction
      rw [Draft.layout, Option.mem_def.mp listed]
      dsimp only
      rw [given?_of_ne_nil spaced.ne_nil]
      rfl
    · exact viewGroupBy?_setGroupBy order spaced.onRow direction absent

/-- Both names of this sentence have two words. -/
theorem ofText_shelf_sentence :
    Request.ofText Property.resolve "sort by shelf mark, group by old owner".toList =
      { sorting := some ⟨"shelf mark".toList, "ASC".toList⟩
        groupBy := some "old owner".toList } := by
  decide +kernel

/-- Of the shelf mark only the shelf is read, and of the old owner only that it is old. -/
theorem shelf_of_shelf_mark_is_read :
    viewSort (Draft.ofText "sort by shelf mark, group by old owner".toList) =
      [[("property".toList, "shelf".toList), ("direction".toList, "ASC".toList)]] ∧
    viewGroupBy? (Draft.ofText "sort by shelf mark, group by old owner".toList) =
      some [("property".toList, "old".toList), ("direction".toList, "ASC".toList)] ∧
    (∃ d, Edit.perform "views:\n- type: table\n  order:\n    - a".toList
        (.sort "shelf mark".toList "ASC".toList) = .ok d ∧
      viewSort d = [[("property".toList, "shelf".toList), ("direction".toList, "ASC".toList)]]) ∧
    ∃ d, Edit.perform "views:\n- type: table\n  order:\n    - a".toList
        (.groupBy "old owner".toList "ASC".toList) = .ok d ∧
      viewGroupBy? d =
        some [("property".toList, "old".toList), ("direction".toList, "ASC".toList)] := by
  have order :
      (viewKey? "order".toList "views:\n- type: table\n  order:\n    - a".toList).isSome := by
    decide
  obtain ⟨sort, groupBy⟩ := lead_word_of_arrangement_is_read
    (t := "sort by shelf mark, group by old owner".toList) (by decide)
  rw [ofText_shelf_sentence] at sort groupBy
  obtain ⟨-, sorted, sortEdit⟩ := sort _ rfl
  obtain ⟨-, grouped, groupEdit⟩ := groupBy _ rfl
  exact ⟨sorted, grouped, sortEdit _ order (by decide +kernel),
    groupEdit _ order (by decide +kernel)⟩

/-- The second word of a property is written and not read. -/
theorem second_word_is_not_read :
    (¬ ∀ t : Text, '\n' ∉ t → ∀ s ∈ (Request.ofText Property.resolve t).sorting,
      viewSort (Draft.ofText t) =
        [[("property".toList, s.property), ("direction".toList, s.direction)]]) ∧
    ¬ ∀ t : Text, '\n' ∉ t → ∀ property ∈ (Request.ofText Property.resolve t).groupBy,
      viewGroupBy? (Draft.ofText t) =
        some [("property".toList, property), ("direction".toList, "ASC".toList)] := by
  constructor
  · intro claim
    have read := claim "sort by shelf mark, group by old owner".toList (by decide)
    rw [Draft.ofText, ofText_shelf_sentence] at read
    have sort := read _ rfl
    revert sort
    decide +kernel
  · intro claim
    have read := claim "sort by shelf mark, group by old owner".toList (by decide)
    rw [Draft.ofText, ofText_shelf_sentence] at read
    have groupBy := read _ rfl
    revert groupBy
    decide +kernel

end Notebase
