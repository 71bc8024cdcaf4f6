import Notebase.Form
import Notebase.Proofs.Document.Overwrite
import Notebase.Proofs.Patch.Commute

/-!
The last of several edits of one kind. A conversation may set a tag, a kind, a name or an
arrangement over and over; the document is then the one that the last edit alone would have made
(`last_write_wins`), to the character.
-/

namespace Notebase

open Document

/-- Carrying out the edit after the other one is carrying it out alone. -/
def Edit.Overwrites (t : Text) (e' e : Edit) : Prop :=
  ∃ t', e'.perform t = .ok t' ∧ Edit.performAll [e, e'] t = .ok t'

theorem Edit.overwrites {t : Text} {e e' : Edit} (word : e.testsByWord = true)
    (word' : e'.testsByWord = true) (same : e'.apply (e.apply t) = e'.apply t) :
    e'.Overwrites t e := by
  refine ⟨e'.apply t, perform_word word' t, ?_⟩
  rw [performAll, List.foldlM_cons, perform_word word]
  show [e'].foldlM Edit.perform (e.apply t) = _
  rw [List.foldlM_cons, perform_word word', same]
  rfl

/-- **The last edit of a kind wins**: whatever stands in the document, an edit leaves nothing of
an earlier one of its kind. A value may not start with the parenthesis that would close its call,
and a kind may not start with blanks. -/
theorem last_write_wins (t : Text) :
    (∀ test old new : Text, test.all isWordChar = true → '\n' ∉ old → old.head? ≠ some ')' →
      Edit.Overwrites t (.filter test new) (.filter test old)) ∧
    (∀ old new : Text, '\n' ∉ old → Flush old → Edit.Overwrites t (.viewType new) (.viewType old)) ∧
    (∀ old new : Text, '\n' ∉ old → '\n' ∉ new → Edit.Overwrites t (.rename new) (.rename old)) ∧
    (opensWith "sort".toList t = false → ∀ property direction property' direction' : Text,
      '\n' ∉ property → '\n' ∉ direction → '\n' ∉ property' → '\n' ∉ direction' →
        Edit.Overwrites t (.sort property' direction') (.sort property direction)) ∧
    (opensWith "groupBy".toList t = false → ∀ property direction property' direction' : Text,
      '\n' ∉ property → '\n' ∉ direction → '\n' ∉ property' → '\n' ∉ direction' →
        Edit.Overwrites t (.groupBy property' direction') (.groupBy property direction)) := by
  refine ⟨fun test old new word plain open? => ?_, fun old new plain flush => ?_,
    fun old new plain plain' => ?_, fun closed property direction property' direction' => ?_,
    fun closed property direction property' direction' => ?_⟩
  · exact Edit.overwrites word word
      (setFilterPredicate_setFilterPredicate word plain open? new t)
  · exact Edit.overwrites rfl rfl (setViewType_setViewType plain flush new t)
  · exact Edit.overwrites rfl rfl (renameView_renameView plain plain' t)
  · intro plain plainDirection plain' plainDirection'
    exact Edit.overwrites rfl rfl (setSort_setSort plain plainDirection plain' plainDirection'
      (label_of_not_opensWith .sort closed))
  · intro plain plainDirection plain' plainDirection'
    exact Edit.overwrites rfl rfl (setGroupBy_setGroupBy plain plainDirection plain'
      plainDirection' (label_of_not_opensWith .groupBy closed))

/-- Values with marks and brackets of all kinds. -/
theorem second_tag_and_name_win :
    Edit.Overwrites "views:\n- type: table\n  order:\n    - a".toList
      (.filter "hasTag".toList "b)".toList) (.filter "hasTag".toList "it's \"a\" \\".toList) ∧
    Edit.Overwrites "views:\n- type: table\n  order:\n    - a".toList
      (.viewType "list".toList) (.viewType "cards".toList) ∧
    Edit.Overwrites "views:\n- type: table\n  order:\n    - a".toList
      (.rename "B".toList) (.rename "\"A\" \\1".toList) ∧
    Edit.Overwrites "views:\n- type: table\n  order:\n    - a".toList
      (.sort "size".toList "ASC".toList) (.sort "".toList "DESC".toList) ∧
    Edit.Overwrites "views:\n- type: table\n  order:\n    - a".toList
      (.groupBy "size".toList "ASC".toList) (.groupBy "a: b".toList "DESC".toList) := by
  obtain ⟨filter, kind, name, sort, group⟩ :=
    last_write_wins "views:\n- type: table\n  order:\n    - a".toList
  exact ⟨filter _ _ _ (by decide) (by decide) (by decide),
    kind _ _ (by decide) (by decide), name _ _ (by decide) (by decide),
    sort (by decide) _ _ _ _ (by decide) (by decide) (by decide) (by decide),
    group (by decide) _ _ _ _ (by decide) (by decide) (by decide) (by decide)⟩

/-- Every kind of view is one that can be written over. -/
example : ∀ kind ∈ Form.viewTypes, '\n' ∉ kind ∧ Flush kind := by decide

end Notebase
