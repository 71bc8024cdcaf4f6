import Notebase.Patch
import Notebase.Proofs.Dict
import Notebase.Proofs.Document.Summary
import Notebase.Proofs.Text.Words

/-!
References that names stand for. A document that gives names of its own to references gives none
with a line end in it or with a blank at its end, and neither does any name (`tidy_resolver`). So
a reference can be written on a row and read off it again.
-/

namespace Notebase

/-! ### Tidy references -/

/-- A reference without a line end in it or a blank at its end. -/
structure Tidy (ref : Text) : Prop where
  plain : '\n' ∉ ref
  last : ∀ c ∈ ref.getLast?, isSpaceOrTab c = false

instance (ref : Text) : Decidable (Tidy ref) :=
  decidable_of_iff ('\n' ∉ ref ∧ ∀ c ∈ ref.getLast?, isSpaceOrTab c = false)
    ⟨fun ⟨plain, last⟩ => ⟨plain, last⟩, fun tidy => ⟨tidy.plain, tidy.last⟩⟩

theorem not_isSpaceOrTab {c : Char} (written : isBlank c = false) : isSpaceOrTab c = false := by
  by_contra blank
  rw [Bool.not_eq_false, isSpaceOrTab, Bool.or_eq_true, beq_iff_eq, beq_iff_eq] at blank
  rcases blank with rfl | rfl
  · exact absurd written (by decide)
  · exact absurd written (by decide)

theorem tidy_of_forall {ref : Text} (h : ∀ c ∈ ref, isBlank c = false) : Tidy ref := by
  have out : ∀ c, isBlank c = true → c ∉ ref := by
    intro c blank mem
    rw [h c mem] at blank
    cases blank
  exact ⟨out _ (by decide), fun c hc => not_isSpaceOrTab (h c (List.mem_of_getLast? hc))⟩

theorem Text.tidy_unwords {ws : List Text}
    (h : ∀ w ∈ ws, w ≠ [] ∧ ∀ c ∈ w, isBlank c = false) : Tidy (unwords ws) := by
  by_cases none : ws = []
  · exact ⟨by simp [none, unwords, join], by simp [none, unwords, join]⟩
  · have trimmed := (written_unwords none h).trimmed
    refine ⟨fun brk => ?_, fun c hc => not_isSpaceOrTab (trimmed.last c hc)⟩
    exact absurd (eq_space_of_mem_unwords (fun w hw => (h w hw).2) brk (by decide)) (by decide)

/-! ### References of a document -/

namespace Property

/-- The reference of a built-in property is a word. -/
theorem word_of_mem_commonNames : ∀ pair ∈ commonNames,
    pair.2.toList ≠ [] ∧ ∀ c ∈ pair.2.toList, isBlank c = false := by decide

/-- What the table leads to is the reference of a built-in property. -/
theorem mem_of_alias {key ref : Text} (known : aliases.get? key = some ref) :
    ∃ pair ∈ commonNames, ref = pair.2.toList := by
  have mem := Dict.mem_of_get?_ofList known
  simp only [List.mem_append, List.mem_map] at mem
  rcases mem with ⟨pair, hp, eq⟩ | ⟨pair, hp, eq⟩
  · exact ⟨pair, hp, (Prod.mk.inj eq).2.symm⟩
  · exact ⟨pair, hp, (Prod.mk.inj eq).2.symm⟩

/-- A name stands for the reference of a built-in property, or for its own words. -/
theorem resolve_cases (name : Text) :
    (∃ pair ∈ commonNames, resolve name = pair.2.toList) ∨
      resolve name = Text.unwords (Text.words name) := by
  rw [resolve]
  cases found : aliases.get? (Text.unwords (Text.words name)).lower with
  | none => exact .inr rfl
  | some ref => exact .inl (mem_of_alias found)

end Property

theorem tidy_resolve (name : Text) : Tidy (Property.resolve name) := by
  rcases Property.resolve_cases name with ⟨pair, mem, eq⟩ | eq
  · rw [eq]
    exact tidy_of_forall (Property.word_of_mem_commonNames pair mem).2
  · rw [eq]
    exact Text.tidy_unwords fun w hw => Text.mem_words hw

open Document in
/-- A reference with a shown name stands on a line of its own. -/
theorem mem_shownNamesFrom {skip : Nat} {ls : List Text} {ref name : Text}
    (h : (ref, name) ∈ shownNamesFrom skip ls) : ∃ l, propertyLine? l = some ref := by
  induction ls generalizing skip with
  | nil => cases skip <;> cases h
  | cons l ls ih =>
      cases skip with
      | succ skip => exact ih h
      | zero =>
          rw [shownNamesFrom] at h
          split at h
          · exact ih h
          · next ref' found =>
              split at h
              · exact ih h
              · rcases List.mem_cons.mp h with eq | h
                · cases eq
                  exact ⟨l, found⟩
                · exact ih h

open Document in
/-- The reference on a line has no blanks around it. -/
theorem tidy_propertyLine? {l ref : Text} (h : propertyLine? l = some ref) : Tidy ref := by
  rw [propertyLine?, Option.bind_eq_some_iff] at h
  obtain ⟨t, -, h⟩ := h
  dsimp only at h
  split at h
  · next c ref' before =>
      split at h
      · cases h
        refine tidy_of_forall fun d hd => ?_
        rw [Text.before?] at before
        split at before
        · have prefix_ := Option.some.inj before
          have mem : d ∈ t.takeWhile (!isBlank ·) := by
            rw [← prefix_] at hd
            exact List.mem_of_mem_take hd
          simpa using List.mem_takeWhile_imp mem
        · cases before
      · cases h
  · cases h

open Document in
/-- The name of a formula has no blanks around it. -/
theorem tidy_formulaName? {l name : Text} (h : formulaName? l = some name) :
    Tidy ("formula.".toList ++ name) := by
  rw [formulaName?, Option.bind_eq_some_iff] at h
  obtain ⟨t, -, h⟩ := h
  split at h
  · next c rest word _ =>
      cases h
      have all : ∀ d ∈ c :: rest, isWordChar d = true := by
        rw [← word]
        exact fun d hd => List.mem_takeWhile_imp hd
      have out : ∀ d, isWordChar d = false → d ∉ c :: rest := by
        intro d other mem
        rw [all d mem] at other
        cases other
      refine ⟨?_, fun d hd => ?_⟩
      · rw [List.mem_append, not_or]
        exact ⟨by decide, out _ (by decide)⟩
      · rw [List.getLast?_append_of_ne_nil _ (List.cons_ne_nil _ _)] at hd
        have word := all d (List.mem_of_getLast? hd)
        by_contra blank
        rw [Bool.not_eq_false, isSpaceOrTab, Bool.or_eq_true, beq_iff_eq, beq_iff_eq] at blank
        rcases blank with rfl | rfl
        · exact absurd word (by decide)
        · exact absurd word (by decide)
  · cases h

open Document in
/-- A name that is shown leads to a tidy reference. -/
theorem tidy_displayNames {t name ref : Text} (h : (displayNames t).get? name = some ref) :
    Tidy ref := by
  rw [displayNames] at h
  split at h
  · cases h
  · have mem := Dict.mem_of_get?_ofList h
    rw [List.mem_filterMap] at mem
    obtain ⟨⟨ref', written⟩, listed, eq⟩ := mem
    obtain ⟨l, isLine⟩ := mem_shownNamesFrom listed
    dsimp only at eq
    split at eq
    · cases eq
    · cases eq
      exact tidy_propertyLine? isLine

open Document in
theorem tidy_formulaNames {t formula : Text} (h : formula ∈ formulaNames t) :
    Tidy ("formula.".toList ++ formula) := by
  rw [formulaNames] at h
  split at h
  · cases h
  · obtain ⟨l, -, found⟩ := List.mem_filterMap.mp h
    exact tidy_formulaName? found

/-- **Every reference is tidy.** -/
theorem tidy_resolver (document name : Text) : Tidy (Patch.resolver document name) := by
  rw [Patch.resolver]
  split
  · next ref shown => exact tidy_displayNames shown
  · split
    · next formula found =>
        have mem := Dict.mem_of_get?_ofList found
        rw [List.mem_map] at mem
        obtain ⟨formula', listed, eq⟩ := mem
        obtain ⟨-, rfl⟩ := Prod.mk.inj eq
        exact tidy_formulaNames listed
    · exact tidy_resolve name

open Document in
/-- References depend on the formulas and the properties of a document alone. -/
theorem resolver_congr {t t' : Text} (formulas : (outline t').formulas = (outline t).formulas)
    (properties : (outline t').properties = (outline t).properties) :
    Patch.resolver t' = Patch.resolver t := by
  funext name
  rw [Patch.resolver, Patch.resolver, formulaNames_eq, formulaNames_eq, displayNames_eq,
    displayNames_eq, formulas, properties]

end Notebase
