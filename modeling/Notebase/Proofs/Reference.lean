import Mathlib.Logic.Relation
import Notebase.Proofs.Patch.Resolver

/-!
References as the normal forms of names. The reference of a name depends on the words of the name
alone (`resolve_congr`), and a reference stands for itself (`resolve_resolve`). Two names have the
same reference exactly if they have the same words, or if both are names of one built-in property
(`resolve_eq_iff`).
-/

namespace Notebase

/-! ### Other blanks in a name -/

namespace Property

open Text

/-- The same name with other blanks: one gap between words is written in another way, or blanks are
put around the name. -/
inductive Respaced : Text → Text → Prop where
  | between {front gap gap' back : Text} : gap ≠ [] → gap' ≠ [] → (∀ c ∈ gap, isBlank c = true) →
      (∀ c ∈ gap', isBlank c = true) → Respaced (front ++ gap ++ back) (front ++ gap' ++ back)
  | around {front name back : Text} : (∀ c ∈ front, isBlank c = true) →
      (∀ c ∈ back, isBlank c = true) → Respaced name (front ++ name ++ back)

variable {name name' : Text}

theorem Respaced.words_eq (h : Respaced name name') : words name' = words name := by
  cases h with
  | between ne ne' blank blank' =>
      rw [words_append_blank_append ne blank, words_append_blank_append ne' blank']
  | around blank blank' => rw [words_append_blank blank', words_blank_append blank]

/-- However often its blanks are changed, a name keeps its words. -/
theorem words_eq_of_respacings (h : Relation.EqvGen Respaced name name') :
    words name' = words name := by
  induction h with
  | rel _ _ step => exact step.words_eq
  | refl _ => rfl
  | symm _ _ _ ih => exact ih.symm
  | trans _ _ _ _ _ ih ih' => exact ih'.trans ih

/-! ### References of names -/

/-- A name as it is looked up: its words in lower case, with a space between them. -/
def spoken (name : Text) : Text := (unwords (words name)).lower

theorem resolve_of_alias {ref : Text} (known : aliases.get? (spoken name) = some ref) :
    resolve name = ref := by
  have resolve_eq : resolve name = (aliases.get? (spoken name)).getD (unwords (words name)) := rfl
  rw [resolve_eq, known, Option.getD_some]

theorem resolve_of_no_alias (unknown : aliases.get? (spoken name) = none) :
    resolve name = unwords (words name) := by
  have resolve_eq : resolve name = (aliases.get? (spoken name)).getD (unwords (words name)) := rfl
  rw [resolve_eq, unknown, Option.getD_none]

/-- **The words of a name** are all that its reference depends on. -/
theorem resolve_congr (same : words name' = words name) : resolve name' = resolve name := by
  rw [resolve, resolve, same]

/-- **The references in the table** stand for themselves. -/
theorem aliases_closed : ∀ pair ∈ commonNames,
    aliases.get? (Text.lower pair.2.toList) = some pair.2.toList := by decide

/-- A reference in the table is looked up under itself. -/
theorem alias_of_reference {key ref : Text} (known : aliases.get? key = some ref) :
    aliases.get? ref.lower = some ref := by
  obtain ⟨pair, mem, rfl⟩ := mem_of_alias known
  exact aliases_closed pair mem

theorem spoken_of_reference {key ref : Text} (known : aliases.get? key = some ref) :
    spoken ref = ref.lower := by
  obtain ⟨pair, mem, rfl⟩ := mem_of_alias known
  obtain ⟨written, filled⟩ := word_of_mem_commonNames pair mem
  have single : unwords [pair.2.toList] = pair.2.toList := by simp [unwords, join]
  rw [spoken, words_of_word written filled, single]

/-- **A reference stands for itself.** -/
theorem resolve_resolve (name : Text) : resolve (resolve name) = resolve name := by
  cases known : aliases.get? (spoken name) with
  | some ref =>
      rw [resolve_of_alias known]
      exact resolve_of_alias (spoken_of_reference known ▸ alias_of_reference known)
  | none =>
      rw [resolve_of_no_alias known, resolve_congr (words_unwords_words name),
        resolve_of_no_alias known]

/-- A name whose words make a reference in the table is in the table itself. -/
theorem alias_of_unwords_eq {key ref : Text} (known : aliases.get? key = some ref)
    (same : unwords (words name) = ref) : aliases.get? (spoken name) = some ref := by
  rw [spoken, same]
  exact alias_of_reference known

/-- **Two names have the same reference** exactly if their words are the same or both are in the
table with this reference. -/
theorem resolve_eq_iff : resolve name' = resolve name ↔ words name' = words name ∨
    ∃ ref, aliases.get? (spoken name) = some ref ∧ aliases.get? (spoken name') = some ref := by
  constructor
  · intro same
    cases known : aliases.get? (spoken name) with
    | some ref =>
        refine .inr ⟨ref, rfl, ?_⟩
        rw [resolve_of_alias known] at same
        cases known' : aliases.get? (spoken name') with
        | some ref' => rw [← same, resolve_of_alias known']
        | none =>
            rw [resolve_of_no_alias known'] at same
            exact known'.symm.trans (alias_of_unwords_eq known same)
    | none =>
        rw [resolve_of_no_alias known] at same
        cases known' : aliases.get? (spoken name') with
        | some ref' =>
            rw [resolve_of_alias known'] at same
            cases known.symm.trans (alias_of_unwords_eq known' same.symm)
        | none =>
            rw [resolve_of_no_alias known'] at same
            exact .inl (by rw [← words_unwords_words name', same, words_unwords_words])
  · rintro (same | ⟨ref, known, known'⟩)
    · exact resolve_congr same
    · rw [resolve_of_alias known, resolve_of_alias known']

/-- **Resolving a name comes to a normal form.** A reference stands for itself; other blanks in a
name or around it change nothing; names that are looked up alike and found have one reference, which
is that of a property of the file; and two names have the same reference only if they have the same
words or are both found with it. -/
theorem reference_is_normal_form (name : Text) :
    resolve (resolve name) = resolve name ∧
    (∀ name', Relation.EqvGen Respaced name name' → resolve name' = resolve name) ∧
    (∀ name', spoken name' = spoken name → aliases.get? (spoken name) ≠ none →
      ∃ ref, "file.".toList <+: ref ∧ resolve name = ref ∧ resolve name' = ref) ∧
    ∀ name', resolve name' = resolve name ↔ words name' = words name ∨
      ∃ ref, aliases.get? (spoken name) = some ref ∧ aliases.get? (spoken name') = some ref := by
  have ofFile : ∀ pair ∈ commonNames, "file.".toList <+: pair.2.toList := by decide
  refine ⟨resolve_resolve name, fun name' changes => ?_, fun name' same found => ?_,
    fun name' => resolve_eq_iff⟩
  · exact resolve_congr (words_eq_of_respacings changes)
  · obtain ⟨ref, known⟩ := Option.ne_none_iff_exists'.mp found
    obtain ⟨pair, mem, eq⟩ := mem_of_alias known
    exact ⟨ref, eq ▸ ofFile pair mem, resolve_of_alias known,
      resolve_of_alias (same.symm ▸ known)⟩

/-- The size of a file is found under either of its names, with any blanks and in any letter case. -/
theorem file_size_is_normal_form :
    let name := "File  Size".toList
    let name' := " File\tSize ".toList
    let name'' := "FILE SIZE".toList
    resolve (resolve name) = resolve name ∧ resolve name' = resolve name ∧
      resolve name'' = "file.size".toList := by
  intro name name' name''
  obtain ⟨again, respaced, found, -⟩ := reference_is_normal_form name
  have gap : Respaced name "File\tSize".toList :=
    @Respaced.between "File".toList "  ".toList "\t".toList "Size".toList (by decide) (by decide)
      (by decide) (by decide)
  have around : Respaced "File\tSize".toList name' :=
    @Respaced.around " ".toList "File\tSize".toList " ".toList (by decide) (by decide)
  have changes : Relation.EqvGen Respaced name name' := .trans _ _ _ (.rel _ _ gap) (.rel _ _ around)
  have resolve_eq : resolve name = "file.size".toList := by decide
  obtain ⟨ref, -, first, second⟩ := found name'' (by decide) (by decide)
  exact ⟨again, respaced name' changes, second.trans (first.symm.trans resolve_eq)⟩

end Property

end Notebase
