import Notebase.Proofs.Text.Trim

/-!
Words of a text. The words are what stands between blanks, so a blank cuts a text in two without
cutting a word (`words_append_cons`), and everything else about them follows. Words that are put one
space apart are the words of the text that they make (`words_unwords`), which is trimmed
(`written_unwords`), has no blanks but spaces (`eq_space_of_mem_unwords`) and is no longer than a
text that the words come from (`length_unwords_le`).
-/

namespace Notebase.Text

/-! ### Pieces between separators -/

section Pieces

variable {sep : Char} {p : Char → Bool}

/-- A piece between separators has no separator in it. -/
theorem forall_of_mem_splitOnP {t piece : Text} (h : piece ∈ t.splitOnP p) :
    ∀ c ∈ piece, p c = false := by
  induction t generalizing piece with
  | nil =>
      rw [List.splitOnP_nil, List.mem_singleton] at h
      simp [h]
  | cons c t ih =>
      rw [List.splitOnP_cons_eq_if_modifyHead] at h
      cases here : p c with
      | true =>
          rw [here, if_pos rfl] at h
          rcases List.mem_cons.mp h with rfl | h
          · simp
          · exact ih h
      | false =>
          obtain ⟨first, rest, eq⟩ := List.exists_cons_of_ne_nil (List.splitOnP_ne_nil p t)
          rw [here, if_neg (by simp), eq, List.modifyHead_cons] at h
          rw [eq] at ih
          rcases List.mem_cons.mp h with rfl | h
          · intro d hd
            rcases List.mem_cons.mp hd with rfl | hd
            · exact here
            · exact ih List.mem_cons_self d hd
          · exact ih (List.mem_cons_of_mem _ h)

/-- A piece is made of characters of the text. -/
theorem mem_of_mem_splitOnP {t piece : Text} (mem : piece ∈ t.splitOnP p) : piece ⊆ t := by
  induction t generalizing piece with
  | nil =>
      rw [List.splitOnP_nil, List.mem_singleton] at mem
      exact mem ▸ List.Subset.refl []
  | cons c t ih =>
      obtain ⟨first, rest, pieces⟩ := List.exists_cons_of_ne_nil (List.splitOnP_ne_nil p t)
      rw [List.splitOnP_cons_eq_if_modifyHead] at mem
      split at mem
      · rcases List.mem_cons.mp mem with rfl | mem
        · exact List.nil_subset _
        · exact List.subset_cons_of_subset c (ih mem)
      · rw [pieces, List.modifyHead_cons] at mem
        rw [pieces] at ih
        rcases List.mem_cons.mp mem with rfl | mem
        · exact List.cons_subset_cons c (ih List.mem_cons_self)
        · exact List.subset_cons_of_subset c (ih (List.mem_cons_of_mem first mem))

/-- A character of joined texts is the separator or stands in one of them. -/
theorem mem_join {ws : List Text} {c : Char} (mem : c ∈ join [sep] ws) :
    c = sep ∨ ∃ w ∈ ws, c ∈ w := by
  induction ws with
  | nil => cases mem
  | cons w ws ih =>
      by_cases last : ws = []
      · subst last
        exact .inr ⟨w, List.mem_cons_self, by simpa [join] using mem⟩
      · rw [join_cons w last, List.mem_append, List.mem_cons] at mem
        rcases mem with mem | rfl | mem
        · exact .inr ⟨w, List.mem_cons_self, mem⟩
        · exact .inl rfl
        · refine (ih mem).imp_right ?_
          rintro ⟨w', hw, listed⟩
          exact ⟨w', List.mem_cons_of_mem w hw, listed⟩

/-- Pieces that are put together again with another separator. -/
theorem join_splitOnP_eq_map (t : Text) :
    join [sep] (t.splitOnP p) = t.map fun c => if p c then sep else c := by
  induction t with
  | nil => rfl
  | cons c t ih =>
      obtain ⟨piece, rest, pieces⟩ := List.exists_cons_of_ne_nil (List.splitOnP_ne_nil p t)
      rw [List.splitOnP_cons_eq_if_modifyHead, List.map_cons]
      split
      · rw [join_cons [] (List.splitOnP_ne_nil p t), ih]
        rfl
      · rw [pieces] at ih ⊢
        rw [List.modifyHead_cons, ← ih]
        by_cases last : rest = []
        · subst last
          simp [join]
        · rw [join_cons _ last, join_cons _ last, List.cons_append]

/-- Fewer pieces make a shorter text. -/
theorem length_join_le {ws ws' : List Text} (sub : ws.Sublist ws') :
    (join [sep] ws).length ≤ (join [sep] ws').length := by
  induction sub with
  | slnil => exact Nat.le_refl _
  | @cons ws ws' w sub ih =>
      by_cases last : ws' = []
      · rw [last] at sub
        rw [List.sublist_nil.mp sub]
        exact Nat.zero_le _
      · rw [join_cons w last, List.length_append, List.length_cons]
        omega
  | @cons_cons ws ws' w sub ih =>
      by_cases last : ws' = []
      · rw [last] at sub
        rw [List.sublist_nil.mp sub, last]
      · rw [join_cons w last, List.length_append, List.length_cons]
        by_cases only : ws = []
        · subst only
          simp [join]
        · rw [join_cons w only, List.length_append, List.length_cons]
          omega

end Pieces

/-! ### Words -/

theorem mem_words {t w : Text} (h : w ∈ words t) : w ≠ [] ∧ ∀ c ∈ w, isBlank c = false := by
  rw [words, List.mem_filter] at h
  exact ⟨by simpa using h.2, forall_of_mem_splitOnP h.1⟩

/-- Something without blanks is one word. -/
theorem words_of_word {w : Text} (written : w ≠ []) (filled : ∀ c ∈ w, isBlank c = false) :
    words w = [w] := by
  rw [words, List.splitOnP_eq_singleton filled, List.filter_cons_of_pos (by simpa using written)]
  rfl

theorem words_append_cons {c : Char} (blank : isBlank c = true) (t u : Text) :
    words (t ++ c :: u) = words t ++ words u := by
  rw [words, List.splitOnP_append_cons t u blank, List.filter_append]
  rfl

/-- Blanks in front of a text belong to no word. -/
theorem words_blank_append {gap : Text} (blank : ∀ c ∈ gap, isBlank c = true) (t : Text) :
    words (gap ++ t) = words t := by
  induction gap with
  | nil => rfl
  | cons c gap ih =>
      have first : words ([] ++ c :: (gap ++ t)) = words [] ++ words (gap ++ t) :=
        words_append_cons (blank c List.mem_cons_self) [] (gap ++ t)
      exact first.trans (ih fun d hd => blank d (List.mem_cons_of_mem c hd))

/-- Blanks between two texts end the words of the first one. -/
theorem words_append_blank_append {gap : Text} (ne : gap ≠ []) (blank : ∀ c ∈ gap, isBlank c = true)
    (t u : Text) : words (t ++ gap ++ u) = words t ++ words u := by
  obtain ⟨c, gap, rfl⟩ := List.exists_cons_of_ne_nil ne
  have rest : words (gap ++ u) = words u :=
    words_blank_append (fun d hd => blank d (List.mem_cons_of_mem c hd)) u
  rw [List.append_assoc, List.cons_append, words_append_cons (blank c List.mem_cons_self), rest]

theorem words_append_blank {gap : Text} (blank : ∀ c ∈ gap, isBlank c = true) (t : Text) :
    words (t ++ gap) = words t := by
  by_cases none : gap = []
  · rw [none, List.append_nil]
  · have split := words_append_blank_append none blank t []
    rwa [List.append_nil, show words [] = [] from rfl, List.append_nil] at split

/-! ### Words one space apart -/

theorem unwords_cons (w : Text) {ws : List Text} (ne : ws ≠ []) :
    unwords (w :: ws) = w ++ ' ' :: unwords ws := join_cons w ne

/-- Words with a space between them are the words of the text that they make. -/
theorem words_unwords {ws : List Text} (h : ∀ w ∈ ws, w ≠ [] ∧ ∀ c ∈ w, isBlank c = false) :
    words (unwords ws) = ws := by
  induction ws with
  | nil => rfl
  | cons w ws ih =>
      obtain ⟨written, filled⟩ := h w List.mem_cons_self
      have words_eq := words_of_word written filled
      by_cases last : ws = []
      · rw [last]
        simpa [unwords, join] using words_eq
      · rw [unwords_cons w last, words_append_cons (by decide), words_eq,
          ih fun w' hw => h w' (List.mem_cons_of_mem w hw)]
        rfl

theorem words_unwords_words (t : Text) : words (unwords (words t)) = words t :=
  words_unwords fun _ hw => mem_words hw

/-- A character of words of a text, put one space apart, is one of the text, or a space. -/
theorem mem_of_mem_unwords {ws : List Text} {t : Text} (sub : ws ⊆ words t) {c : Char}
    (mem : c ∈ unwords ws) : c = ' ' ∨ c ∈ t := by
  rcases mem_join mem with space | ⟨w, hw, listed⟩
  · exact .inl space
  · exact .inr (mem_of_mem_splitOnP (List.mem_filter.mp (sub hw)).1 listed)

theorem eq_space_of_mem_unwords {ws : List Text} (filled : ∀ w ∈ ws, ∀ c ∈ w, isBlank c = false)
    {c : Char} (mem : c ∈ unwords ws) (blank : isBlank c = true) : c = ' ' := by
  rcases mem_join mem with space | ⟨w, hw, listed⟩
  · exact space
  · rw [filled w hw c listed] at blank
    cases blank

/-- **Some of the words of a text**, one space apart, are no longer than the text. -/
theorem length_unwords_le {ws : List Text} {t : Text} (sub : ws.Sublist (words t)) :
    (unwords ws).length ≤ t.length := by
  have pieces : ws.Sublist (t.splitOnP isBlank) := sub.trans List.filter_sublist
  calc (unwords ws).length ≤ (join [' '] (t.splitOnP isBlank)).length := length_join_le pieces
    _ = t.length := by rw [join_splitOnP_eq_map, List.length_map]

/-! ### Written texts -/

/-- A text in which something is written, without blanks around it. -/
structure Written (t : Text) : Prop where
  ne_nil : t ≠ []
  trimmed : t.Trimmed

theorem trimmed_of_forall {t : Text} (h : ∀ c ∈ t, isBlank c = false) : t.Trimmed :=
  ⟨fun c hc => h c (List.mem_of_mem_head? hc), fun c hc => h c (List.mem_of_getLast? hc)⟩

/-- Words with spaces between them start with the first word and end with the last. -/
theorem written_unwords {ws : List Text} (ne : ws ≠ [])
    (h : ∀ w ∈ ws, w ≠ [] ∧ ∀ c ∈ w, isBlank c = false) : (unwords ws).Written := by
  induction ws with
  | nil => exact absurd rfl ne
  | cons w ws ih =>
      obtain ⟨written, filled⟩ := h w List.mem_cons_self
      have first := trimmed_of_forall filled
      by_cases none : ws = []
      · subst none
        simpa [unwords, join] using Written.mk written first
      · have rest := ih none fun w' hw => h w' (List.mem_cons_of_mem w hw)
        rw [unwords_cons w none]
        refine ⟨List.append_ne_nil_of_left_ne_nil written _, fun c hc => ?_, fun c hc => ?_⟩
        · rw [List.head?_append_of_ne_nil _ written] at hc
          exact first.first c hc
        · rw [List.getLast?_append_of_ne_nil _ (List.cons_ne_nil _ _),
            List.getLast?_cons_of_ne_nil rest.ne_nil] at hc
          exact rest.trimmed.last c hc

/-- A text in which something is written has words. -/
theorem Written.words_ne_nil {t : Text} (h : t.Written) : words t ≠ [] := by
  cases t with
  | nil => exact absurd rfl h.ne_nil
  | cons c t =>
      have filled : isBlank c = false := h.trimmed.first c rfl
      obtain ⟨piece, rest, split⟩ :=
        List.exists_cons_of_ne_nil (List.splitOnP_ne_nil isBlank t)
      have pieces : (c :: t).splitOnP isBlank = (c :: piece) :: rest := by
        rw [List.splitOnP_cons_eq_if_modifyHead, if_neg (by simp [filled]), split,
          List.modifyHead_cons]
      rw [words, pieces, List.filter_cons_of_pos rfl]
      exact List.cons_ne_nil _ _

end Notebase.Text
