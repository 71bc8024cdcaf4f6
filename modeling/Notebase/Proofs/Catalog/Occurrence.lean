import Notebase.Catalog.Builtin
import Notebase.Proofs.Catalog.FirstBest
import Notebase.Proofs.Text.Sigma

/-!
Keywords that are written in a text. The table looks for a keyword in lower case, where a capital
sigma at an end of the keyword may take another shape than in the text, and only then a keyword that
is written in the text goes without a score (`written_keyword_counts`). A category that owns all the
keywords found in a text is the one that is chosen.
-/

namespace Notebase

namespace KeywordTable

variable {table : KeywordTable} {t : Text}

/-! ### Scores -/

/-- Some keyword scores if it is found in the text, both in lower case. -/
theorem score_pos_iff {keywords : List Text} :
    0 < score keywords t ↔ ∃ keyword ∈ keywords, keyword.lower <:+: t.lower := by
  rw [score, List.length_filter_pos_iff]
  simp only [Text.occursIn_iff]

/-- One keyword scores once or not at all. -/
theorem score_singleton_eq_one_iff {keyword : Text} :
    score [keyword] t = 1 ↔ keyword.lower <:+: t.lower := by
  have most : score [keyword] t ≤ 1 := List.length_filter_le _ _
  have some := @score_pos_iff t [keyword]
  simp only [List.mem_singleton, exists_eq_left] at some
  rw [← some]
  omega

theorem mem_ranking {e : Text × List Text} (mem : e ∈ table) :
    (e.1, score e.2 t) ∈ table.ranking t := List.mem_map.mpr ⟨e, mem, rfl⟩

/-- Where a keyword is found, a category is chosen. -/
theorem classify_ne_none {e : Text × List Text} (mem : e ∈ table) (scores : 0 < score e.2 t) :
    table.classify t ≠ none := by
  intro unchosen
  have zero := bestAbove_eq_none_iff.mp unchosen _ (mem_ranking mem)
  exact absurd scores (Nat.not_lt.mpr zero)

/-- **The owner of all keywords that are found** is chosen. -/
theorem classify_of_owner {c : Text} (found : ∃ e ∈ table, 0 < score e.2 t)
    (owner : ∀ e ∈ table, 0 < score e.2 t → e.1 = c) : table.classify t = some c := by
  obtain ⟨e, mem, scores⟩ := found
  obtain ⟨c', chosen⟩ := Option.ne_none_iff_exists'.mp (classify_ne_none mem scores)
  obtain ⟨n, some, first⟩ := bestAbove_eq_some_iff.mp chosen
  obtain ⟨e', mem', eq⟩ := List.mem_map.mp first.mem
  cases eq
  rw [chosen, owner e' mem' some]

/-! ### Keywords as they are written -/

/-- **A keyword that is written in a text counts.** This holds of a keyword in every text exactly if
each capital sigma in it has its shape from the keyword itself, and of any keyword where it stands
apart; then its category scores, and some category is chosen. If only one category has keywords that
are found in a text in lower case, that one is chosen. -/
theorem written_keyword_counts (l r : KeywordTable) (category : Text) {keywords : List Text}
    {keyword : Text} (key : keyword ∈ keywords) :
    let table := l ++ (category, keywords) :: r
    ((∀ t : Text, keyword <:+: t → score [keyword] t = 1) ↔ keyword.isSettled = true) ∧
    (∀ before after : Text, keyword.isSettled = true ∨ Text.Apart before after →
      let t := before ++ keyword ++ after
      0 < score keywords t ∧ table.classify t ≠ none ∧
        (category ∉ r.map Prod.fst →
          (table.scores t).get? category = some (score keywords t))) ∧
    ∀ t : Text, (∃ e ∈ table, 0 < score e.2 t) →
      (∀ e ∈ table, (∃ keyword ∈ e.2, keyword.lower <:+: t.lower) → e.1 = category) →
      table.classify t = some category := by
  intro table
  refine ⟨?_, ?_, fun t found owner => ?_⟩
  · simp only [score_singleton_eq_one_iff]
    exact Text.lower_infix_iff
  · intro before after kept t
    -- Nothing around a settled keyword, or around this place, changes how it is lowered.
    have infix_ : keyword.lower <:+: Text.lower t := by
      rcases kept with settled | apart
      · exact Text.lower_infix_of_isSettled settled before after
      · exact Text.lower_infix_of_apart apart keyword
    have scores : 0 < score keywords t := score_pos_iff.mpr ⟨keyword, key, infix_⟩
    have entry : (category, keywords) ∈ table := List.mem_append_right l List.mem_cons_self
    refine ⟨scores, classify_ne_none entry scores, fun last => ?_⟩
    rw [KeywordTable.scores, List.map_append, List.map_cons]
    refine Dict.get?_ofList_of_last _ ?_
    rwa [List.map_map]
  · exact classify_of_owner found fun e mem scores => owner e mem (score_pos_iff.mp scores)

/-- A keyword with a sigma at its end counts where it is a word of its own. One with a sigma inside
counts in a longer word, and its category is chosen if no other keyword is found. -/
theorem sigma_keyword_counts :
    0 < score ["ΟΔΟΣ".toList] ("Η ".toList ++ "ΟΔΟΣ".toList ++ " ΜΟΥ".toList) ∧
    classify [("way".toList, ["ΠΟΣΑ".toList])] ("Α".toList ++ "ΠΟΣΑ".toList ++ "Σ".toList) ≠ none ∧
    classify [("way".toList, ["ΠΟΣΑ".toList]), ("trip".toList, ["map".toList])] "ΑΠΟΣΑΣ".toList =
      some "way".toList := by
  obtain ⟨-, word, -⟩ := written_keyword_counts [] [] "way".toList
    (@List.mem_cons_self _ "ΟΔΟΣ".toList [])
  obtain ⟨-, part, -⟩ := written_keyword_counts [] [] "way".toList
    (@List.mem_cons_self _ "ΠΟΣΑ".toList [])
  obtain ⟨-, -, owns⟩ := written_keyword_counts [] [("trip".toList, ["map".toList])] "way".toList
    (@List.mem_cons_self _ "ΠΟΣΑ".toList [])
  have found : ∃ e ∈ [("way".toList, ["ΠΟΣΑ".toList]), ("trip".toList, ["map".toList])],
      0 < score e.2 "ΑΠΟΣΑΣ".toList := by decide
  have owned : ∀ e ∈ [("way".toList, ["ΠΟΣΑ".toList]), ("trip".toList, ["map".toList])],
      0 < score e.2 "ΑΠΟΣΑΣ".toList → e.1 = "way".toList := by decide
  refine ⟨(word "Η ".toList " ΜΟΥ".toList (.inr (by decide))).1,
    (part "Α".toList "Σ".toList (.inl (by decide))).2.1, ?_⟩
  exact owns _ found fun e mem some => owned e mem (score_pos_iff.mpr some)

/-- The sigma that ends a keyword has its final shape there, and another one inside a longer word. So
the keyword is written in the text, and nothing is found. -/
theorem keyword_before_letter_is_missed :
    (¬ ∀ (table : KeywordTable) (t : Text), ∀ e ∈ table, ∀ keyword ∈ e.2, keyword <:+: t →
      0 < score e.2 t) ∧
    classify [("way".toList, ["ΑΣ".toList])] "ΑΣΑ".toList = none := by
  refine ⟨fun claim => ?_, by decide⟩
  have counts := claim [("way".toList, ["ΑΣ".toList])] "ΑΣΑ".toList _ List.mem_cons_self "ΑΣ".toList
    List.mem_cons_self (by decide)
  revert counts
  decide

end KeywordTable

/-! ### The built-in table -/

namespace Catalog.Builtin

/-- Every built-in keyword is settled, for none has a sigma in it. -/
theorem isSettled_of_mem_keywords :
    ∀ e ∈ keywords, ∀ keyword ∈ e.2, keyword.isSettled = true := by decide

/-- A built-in keyword counts wherever it is written. -/
theorem score_pos_of_infix {e : Text × List Text} (mem : e ∈ keywords) {keyword t : Text}
    (key : keyword ∈ e.2) (written : keyword <:+: t) : 0 < KeywordTable.score e.2 t :=
  KeywordTable.score_pos_iff.mpr
    ⟨keyword, key, Text.lower_infix_iff.mpr (isSettled_of_mem_keywords e mem keyword key) t written⟩

end Catalog.Builtin

end Notebase
