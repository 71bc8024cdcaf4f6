import Mathlib.Data.List.Count
import Notebase.Proofs.ReadBack
import Notebase.Proofs.Text.Fence

/-!
Names that formulas are shown under. The column of a formula is shown under the words of the
formula's name, and a name that somebody types is looked up in the document with its words one space
apart. So the shown name leads back to the formula exactly if words stand around every underscore of
the formula's name (`shown_name_is_found_iff`): an underscore too many shows as a blank too many,
and the lookup drops that.
-/

namespace Notebase

open Document

/-! ### Pieces -/

namespace Text

section Pieces

variable {sep : Char} {p : Char → Bool}

/-- A front without separators is part of the first piece. -/
theorem splitOnP_append_of_forall {front : Text} (apart : ∀ c ∈ front, p c = false) (t : Text) :
    (front ++ t).splitOnP p = (t.splitOnP p).modifyHead (front ++ ·) := by
  obtain ⟨piece, rest, pieces⟩ := List.exists_cons_of_ne_nil (List.splitOnP_ne_nil p t)
  induction front with
  | nil => rw [pieces]; simpa using pieces
  | cons c front ih =>
      rw [List.cons_append, List.splitOnP_cons_eq_if_modifyHead,
        if_neg (by simp [apart c List.mem_cons_self]),
        ih fun d hd => apart d (List.mem_cons_of_mem c hd), pieces]
      rfl

/-- The pieces of a text put together again are the text. -/
theorem join_splitOnP {t : Text} (only : ∀ c ∈ t, p c = true → c = sep) :
    join [sep] (t.splitOnP p) = t := by
  have same : ∀ c ∈ t, (if p c then sep else c) = id c := by
    intro c hc
    split
    · next isSep => exact (only c hc isSep).symm
    · rfl
  rw [join_splitOnP_eq_map, List.map_congr_left same, List.map_id]

/-- Between pieces there is one separator less than there are pieces. -/
theorem count_join {ws : List Text} (apart : ∀ w ∈ ws, sep ∉ w) :
    (join [sep] ws).count sep = ws.length - 1 := by
  induction ws with
  | nil => rfl
  | cons w ws ih =>
      have first := List.count_eq_zero.mpr (apart w List.mem_cons_self)
      by_cases last : ws = []
      · subst last
        simpa [join] using first
      · have some := List.length_pos_iff.mpr last
        rw [join_cons w last, List.count_append, first, List.count_cons_self,
          ih fun w' hw => apart w' (List.mem_cons_of_mem w hw), List.length_cons]
        omega

theorem count_splitOnP {t : Text} (isSep : p sep = true) (only : ∀ c ∈ t, p c = true → c = sep) :
    t.count sep = (t.splitOnP p).length - 1 := by
  have apart : ∀ piece ∈ t.splitOnP p, sep ∉ piece := by
    intro piece mem inside
    rw [forall_of_mem_splitOnP mem sep inside] at isSep
    cases isSep
  rw [← count_join apart, join_splitOnP only]

end Pieces

/-! ### Words one space apart -/

section Words

variable {t : Text} (only : ∀ c ∈ t, isBlank c = true → c = ' ')
include only

/-- A text with words around every blank has its words one space apart. -/
theorem unwords_words_of_pieces (filled : [] ∉ t.splitOnP isBlank) : unwords (words t) = t := by
  have all : words t = t.splitOnP isBlank :=
    List.filter_eq_self.mpr fun piece mem => by
      cases piece with
      | nil => exact absurd mem filled
      | cons c piece => rfl
  rw [unwords, all, join_splitOnP only]

/-- A blank too many is dropped where the words are put one space apart. -/
theorem count_unwords_words_lt (ne : t ≠ []) (gap : [] ∈ t.splitOnP isBlank) :
    (unwords (words t)).count ' ' < t.count ' ' := by
  have fewer : (words t).length < (t.splitOnP isBlank).length :=
    List.length_filter_lt_length_iff_exists.mpr ⟨[], gap, by simp⟩
  have several : 2 ≤ (t.splitOnP isBlank).length := by
    by_contra one
    obtain ⟨piece, pieces⟩ : ∃ piece, t.splitOnP isBlank = [piece] := by
      have pos := List.length_pos_iff.mpr (List.splitOnP_ne_nil isBlank t)
      exact List.length_eq_one_iff.mp (by omega)
    have whole := join_splitOnP only
    rw [pieces, List.mem_singleton] at gap
    rw [pieces, ← gap] at whole
    exact ne whole.symm
  have apart : ∀ w ∈ words t, ' ' ∉ w := by
    intro w hw inside
    exact absurd ((mem_words hw).2 ' ' inside) (by decide)
  rw [unwords, count_join apart, count_splitOnP (p := isBlank) (by decide) only]
  omega

end Words

/-- A character that is written as a new one is counted as that. -/
theorem count_replaceChar {c d : Char} {t : Text} (out : d ∉ t) :
    (t.replaceChar c [d]).count d = t.count c := by
  induction t with
  | nil => rfl
  | cons a t ih =>
      rw [List.mem_cons, not_or] at out
      rw [replaceChar, List.flatMap_cons, List.count_append, List.count_cons, ← replaceChar,
        ih out.2, Nat.add_comm]
      by_cases same : a = c
      · simp [same]
      · simp [same, Ne.symm out.1]

end Text

/-! ### Shown names -/

namespace Form

/-- The name of a formula with words around every underscore: none stands at an end of the name or
next to another one. -/
def IsWorded (name : Text) : Prop := [] ∉ name.splitOnP (· == '_')

instance (name : Text) : Decidable (IsWorded name) := inferInstanceAs (Decidable (¬ _))

/-- Capitalizing brings in no characters but the capitals of letters. -/
theorem mem_capitalize {prev : Option Char} {t : Text} {d : Char} (mem : d ∈ capitalize prev t) :
    d ∈ t ∨ ∃ c ∈ t, isWordChar c = true ∧ d ∈ upperChar c := by
  induction t generalizing prev with
  | nil => cases mem
  | cons c t ih =>
      rw [capitalize, List.mem_append] at mem
      rcases mem with mem | mem
      · split at mem
        · next starts =>
            rw [Bool.and_eq_true] at starts
            exact .inr ⟨c, List.mem_cons_self, starts.1, mem⟩
        · exact .inl (List.mem_singleton.mp mem ▸ List.mem_cons_self)
      · refine (ih mem).imp (List.mem_cons_of_mem c) ?_
        rintro ⟨c', hc, both⟩
        exact ⟨c', List.mem_cons_of_mem c hc, both⟩

/-- No blank is the capital of a letter. -/
theorem not_isBlank_of_mem_upperChar {c d : Char} (word : isWordChar c = true)
    (mem : d ∈ upperChar c) : isBlank d = false := by
  have none : ∀ range ∈ blankRanges, NoCapitals range := by decide +kernel
  rw [Bool.eq_false_iff]
  intro blank
  obtain ⟨range, known, held⟩ := exists_of_has blank
  exact not_holds_of_isWordChar word range known
    ((none range known).holds_of_mem_upperChar mem held)

section Names

variable {name : Text} (word : name.all isWordChar = true)
include word

/-- The blanks of a shown name are spaces. -/
theorem eq_space_of_mem_shownName : ∀ c ∈ shownName name, isBlank c = true → c = ' ' := by
  have spaced : ∀ c ∈ name.replaceChar '_' [' '], isWordChar c = true ∨ c = ' ' := by
    intro c hc
    obtain ⟨d, hd, mem⟩ := List.mem_flatMap.mp hc
    split at mem
    · exact .inr (List.mem_singleton.mp mem)
    · exact .inl (List.mem_singleton.mp mem ▸ List.all_eq_true.mp word d hd)
  intro c hc blank
  rcases mem_capitalize hc with listed | ⟨d, -, isWord, capital⟩
  · rcases spaced c listed with isWord | space
    · rw [not_isBlank_of_isWordChar isWord] at blank
      cases blank
    · exact space
  · rw [not_isBlank_of_mem_upperChar isWord capital] at blank
    cases blank

theorem dot_not_mem_shownName : '.' ∉ shownName name := by
  refine not_mem_capitalize (noCapitals_mark _ (by decide)) fun mem => ?_
  obtain ⟨d, hd, mem⟩ := List.mem_flatMap.mp mem
  split at mem
  · exact absurd mem (by decide)
  · rw [← List.mem_singleton.mp mem] at hd
    exact absurd (List.all_eq_true.mp word _ hd) (by decide)

omit word in
theorem underscore_not_mem_shownName : '_' ∉ shownName name := by
  refine not_mem_capitalize (noCapitals_mark _ (by decide)) fun mem => ?_
  obtain ⟨d, -, mem⟩ := List.mem_flatMap.mp mem
  split at mem
  · exact absurd mem (by decide)
  · next other => exact other (List.mem_singleton.mp mem).symm

omit word in
theorem isEmpty_modifyHead {front : Text} (ne : front ≠ []) (pieces : List Text) :
    (pieces.modifyHead (front ++ ·)).map List.isEmpty =
      (pieces.map List.isEmpty).modifyHead fun _ => false := by
  cases pieces with
  | nil => rfl
  | cons piece pieces => simp [ne]

/-- **The pieces of a shown name** between its blanks are empty where those of the name between its
underscores are. -/
theorem isEmpty_pieces_shownName : ((shownName name).splitOnP isBlank).map List.isEmpty =
    (name.splitOnP (· == '_')).map List.isEmpty := by
  rw [shownName]
  generalize (none : Option Char) = prev
  induction name generalizing prev with
  | nil => rfl
  | cons c name ih =>
      rw [List.all_cons, Bool.and_eq_true] at word
      obtain ⟨wordChar, word⟩ := word
      rw [List.splitOnP_cons_eq_if_modifyHead, Text.replaceChar, List.flatMap_cons]
      by_cases underscore : c = '_'
      · have space : isWordChar ' ' = false := by decide
        rw [if_pos underscore, if_pos (beq_iff_eq.mpr underscore), List.singleton_append,
          capitalize, if_neg (by simp [space]), List.singleton_append,
          List.splitOnP_cons_eq_if_modifyHead, if_pos (by decide), List.map_cons, List.map_cons,
          ← ih word]
        rfl
      · rw [if_neg underscore, if_neg (by simpa using underscore), List.singleton_append,
          capitalize]
        -- The letter is written as it is or as a capital, and that is not empty.
        have written : ∀ front : Text, front ≠ [] → (∀ d ∈ front, isBlank d = false) →
            ((front ++ capitalize (some c) (Text.replaceChar name '_' [' '])).splitOnP isBlank).map
              List.isEmpty = ((name.splitOnP (· == '_')).modifyHead ([c] ++ ·)).map
              List.isEmpty := by
          intro front ne apart
          rw [Text.splitOnP_append_of_forall apart, isEmpty_modifyHead ne, ih word,
            isEmpty_modifyHead (List.cons_ne_nil c [])]
        refine written _ ?_ ?_
        · split
          · exact upperChar_ne_nil c
          · exact List.cons_ne_nil c []
        · split
          · exact fun d hd => not_isBlank_of_mem_upperChar wordChar hd
          · intro d hd
            rw [List.mem_singleton.mp hd]
            exact not_isBlank_of_isWordChar wordChar

/-- So the shown name has words around every blank exactly if the name has them around every
underscore. -/
theorem isWorded_iff : IsWorded name ↔ [] ∉ (shownName name).splitOnP isBlank := by
  have empty : ∀ pieces : List Text, [] ∈ pieces ↔ true ∈ pieces.map List.isEmpty := by
    intro pieces
    simp
  rw [IsWorded, empty, empty, isEmpty_pieces_shownName word]

/-- A shown name has a space for every underscore. -/
theorem count_shownName : (shownName name).count ' ' = name.count '_' := by
  have pieces := congrArg List.length (isEmpty_pieces_shownName word)
  rw [List.length_map, List.length_map] at pieces
  rw [Text.count_splitOnP (p := isBlank) (by decide) (eq_space_of_mem_shownName word), pieces,
    Text.count_splitOnP (p := (· == '_')) (by decide) fun c _ passes => beq_iff_eq.mp passes]

end Names

/-- A name is shown as something. -/
theorem shownName_ne_nil {name : Text} (ne : name ≠ []) : shownName name ≠ [] := by
  cases name with
  | nil => exact absurd rfl ne
  | cons c name =>
      rw [shownName, Text.replaceChar, List.flatMap_cons]
      split
      · rw [List.singleton_append, capitalize]
        refine List.append_ne_nil_of_left_ne_nil ?_ _
        split
        · exact upperChar_ne_nil _
        · exact List.cons_ne_nil _ _
      · rw [List.singleton_append, capitalize]
        refine List.append_ne_nil_of_left_ne_nil ?_ _
        split
        · exact upperChar_ne_nil _
        · exact List.cons_ne_nil _ _

end Form

/-! ### The settings of properties -/

namespace Document

/-- The row of a formula is read as a reference to it. -/
theorem propertyLine?_row {name : Text} (word : name.all isWordChar = true) :
    propertyLine? ("  formula.".toList ++ name ++ [':'] ++ ['\n']) =
      some ("formula.".toList ++ name) := by
  have row : "  formula.".toList ++ name ++ [':'] ++ ['\n'] =
      "  ".toList ++ ("formula.".toList ++ name ++ [':'] ++ ['\n']) := by simp
  have stop : ∀ c ∈ ['\n'].head?, (!isBlank c) = false := by decide
  have all : ∀ c ∈ "formula.".toList ++ name ++ [':'], (!isBlank c) = true := by
    have fixed : ∀ c ∈ "formula.".toList, isBlank c = false := by decide
    intro c hc
    rw [List.mem_append, List.mem_append, List.mem_singleton] at hc
    rw [Bool.not_eq_true']
    rcases hc with (hc | hc) | rfl
    · exact fixed c hc
    · exact not_isBlank_of_isWordChar (List.all_eq_true.mp word c hc)
    · decide
  rw [propertyLine?, row, Text.after?_eq_some_iff.mpr rfl, Option.bind_some]
  dsimp only
  rw [takeWhile_append_stop stop, List.takeWhile_eq_self_iff.mpr all, Text.before?_append,
    List.drop_left]
  exact if_pos (by decide)

/-- The row of a shown name is read with its marks. -/
theorem shownName?_row (name : Text) (ls : List Text) :
    shownName? (("    displayName: \"".toList ++ name ++ ['"'] ++ ['\n']) :: ls) =
      some ('"' :: name ++ ['"'], 1) := by
  have row : "    displayName: \"".toList ++ name ++ ['"'] ++ ['\n'] =
      Text.spaces 4 ++ ("displayName:".toList ++ ([' '] ++ ('"' :: name ++ ['"']) ++ ['\n'])) := by
    simp [Text.spaces, List.replicate]
  have key : Text.after? "displayName:".toList
      (("    displayName: \"".toList ++ name ++ ['"'] ++ ['\n']).dropWhile isBlank) =
        some ([' '] ++ ('"' :: name ++ ['"']) ++ ['\n']) := by
    rw [row, dropWhile_isBlank_spaces, Text.after?_eq_some_iff]
    exact List.dropWhile_cons_of_neg (by decide)
  have filled : ∀ front back : Text,
      Text.isBlankText (front ++ ('"' :: name ++ ['"']) ++ back) = false := by
    intro front back
    rw [Text.isBlankText, List.all_eq_false]
    exact ⟨'"', by simp, by decide⟩
  have quoted : Text.Trimmed ('"' :: name ++ ['"']) :=
    Text.Trimmed.of_ends (show ['"'] ≠ [] by simp) (show ['"'] ≠ [] by simp)
      (Text.trimmed_of_forall (by decide)) (Text.trimmed_of_forall (by decide))
  have none : (("    displayName: \"".toList ++ name ++ ['"'] ++ ['\n']) :: ls).takeWhile
      Text.isBlankText = [] := by
    have whole := filled "    displayName: ".toList ['\n']
    exact List.takeWhile_cons_of_neg (by simpa using whole)
  rw [shownName?]
  dsimp only
  rw [none, List.length_nil, List.drop_zero]
  dsimp only
  rw [key, Option.map_some, filled, if_neg Bool.false_ne_true,
    quoted.trim_around (by decide) (by decide)]

end Document

namespace Form

def shownRows (formulas : List Formula) : List Text :=
  formulas.flatMap fun f =>
    ["  formula.".toList ++ f.name ++ [':'],
      "    displayName: \"".toList ++ shownName f.name ++ ['"']]

/-- These rows are read as the names. -/
theorem shownNamesFrom_shownRows {formulas : List Formula}
    (word : ∀ f ∈ formulas, f.name.all isWordChar = true) :
    shownNamesFrom 0 (sectionLines (shownRows formulas)) =
      formulas.map fun f => ("formula.".toList ++ f.name, '"' :: shownName f.name ++ ['"']) := by
  induction formulas with
  | nil => decide
  | cons f formulas ih =>
      have found := propertyLine?_row (word f List.mem_cons_self)
      have rows : sectionLines (shownRows (f :: formulas)) =
          ("  formula.".toList ++ f.name ++ [':'] ++ ['\n']) ::
            ("    displayName: \"".toList ++ shownName f.name ++ ['"'] ++ ['\n']) ::
              sectionLines (shownRows formulas) := rfl
      rw [rows, shownNamesFrom, found]
      dsimp only
      rw [shownName?_row, List.map_cons, ← ih fun f' hf => word f' (List.mem_cons_of_mem f hf)]
      rfl

section Forms

variable {form : Form} {formulas : List Formula} {d : Text}

/-- The properties of a form show its formulas. -/
theorem findSection?_properties (line : form.OneLine) (check : form.check = .ok ())
    (kept : keptFormulas form.formulas = .ok formulas) :
    findSection? "properties".toList (form.sections formulas) =
      if formulas = [] then none else some ("properties:".toList :: shownRows formulas) := by
  have skipped : findSection? "properties".toList (form.sections formulas) =
      findSection? "properties".toList (formulaSections formulas) := by
    rw [sections]
    split
    · rfl
    · rw [List.singleton_append, (isSection_filterRows line.predicates
        (plain_logic_of_check check)).findSection?_cons_of_ne (by decide)]
  rw [skipped]
  split
  · next none => rw [none]; rfl
  · next some =>
      obtain ⟨declared, named, sections, first, second, -⟩ :=
        isSection_formulaSections some (of_mem_keptFormulas kept line.formulas)
      have rows : named = "properties:".toList :: shownRows formulas := by
        have both := sections
        rw [formulaSections, if_neg (by simpa using some)] at both
        exact (List.cons.inj (List.cons.inj both).2).1.symm
      rw [sections, first.findSection?_cons_of_ne (by decide), second.findSection?_cons, rows]

/-- **The shown names of a rendered form** lead to its formulas. -/
theorem OneLine.displayNames_eq (line : form.OneLine) (rendered : form.render = .ok d) :
    displayNames d = Dict.ofList (form.keptNames.map fun name =>
      ((shownName name).lower, "formula.".toList ++ name)) := by
  obtain ⟨check, formulas, sortDirection, groupDirection, read, rfl⟩ :=
    line.render_eq_page_iff.mp rendered
  have plainFormulas := of_mem_keptFormulas read.formulas line.formulas
  have isPage : IsPage (sectionsText (form.sections formulas)) form.viewType
      (form.layout formulas sortDirection groupDirection).shown :=
    (line.layout check read).isPage_shown
  have sections : ∀ rs ∈ form.sections formulas, ∃ key, IsSection key rs := fun rs hr =>
    (line.isSection_sections check read.formulas rs hr).imp fun _ => And.right
  have header : propertyLine? "properties:\n".toList = none := by decide
  have names := map_name_keptFormulas read.formulas
  have shown : ∀ f ∈ formulas, shownName f.name ≠ [] := fun f mem =>
    shownName_ne_nil (ne_nil_of_mem_keptNames _ (names ▸ List.mem_map_of_mem mem))
  have block : (outline (page (sectionsText (form.sections formulas)) form.viewType
      (form.layout formulas sortDirection groupDirection).shown)).properties =
        (findSection? "properties".toList (form.sections formulas)).map sectionLines :=
    isPage.blockOf?_eq sections (by decide) (by decide)
  rw [Document.displayNames_eq, block, findSection?_properties line check read.formulas, shownNames,
    ← names, List.map_map]
  refine congrArg Dict.ofList ?_
  split
  · next none =>
      rw [none]
      rfl
  · rw [Option.map_some, Option.getD_some]
    have rows : sectionLines ("properties:".toList :: shownRows formulas) =
        "properties:\n".toList :: sectionLines (shownRows formulas) := rfl
    rw [rows, shownNamesFrom, header]
    dsimp only
    rw [shownNamesFrom_shownRows fun f hf => (plainFormulas f hf).1, List.filterMap_map,
      ← List.filterMap_eq_map]
    refine List.filterMap_congr fun f mem => ?_
    rw [Function.comp_apply, Function.comp_apply]
    dsimp only
    rw [unquote_quoted]
    split
    · next none => exact absurd none (shown f mem)
    · rfl

theorem isWord_of_mem_keptNames (line : form.OneLine) (rendered : form.render = .ok d) :
    ∀ name ∈ form.keptNames, name.all isWordChar = true := by
  obtain ⟨check, formulas, sortDirection, groupDirection, read, -⟩ :=
    line.render_eq_page_iff.mp rendered
  rw [← map_name_keptFormulas read.formulas]
  intro name mem
  obtain ⟨f, listed, rfl⟩ := List.mem_map.mp mem
  exact (of_mem_keptFormulas read.formulas line.formulas f listed).1

end Forms

end Form

/-! ### The lookup of a shown name -/

/-- A name stands for what is shown under it, for a formula, or for a property. -/
theorem resolver_cases (t name : Text) :
    (∃ ref, (displayNames t).get? (Text.unwords (Text.words name)).lower = some ref ∧
      Patch.resolver t name = ref) ∨
    (∃ formula ∈ formulaNames t,
      formula.lower = (Text.unwords (Text.words name)).lower.replaceChar ' ' ['_'] ∧
        Patch.resolver t name = "formula.".toList ++ formula) ∨
    Patch.resolver t name = Property.resolve name := by
  rw [Patch.resolver]
  split
  · next ref shown => exact .inl ⟨ref, shown, rfl⟩
  · split
    · next formula found =>
        obtain ⟨formula', mem, eq⟩ := List.mem_map.mp (Dict.mem_of_get?_ofList found)
        obtain ⟨lower, rfl⟩ := Prod.mk.inj eq
        exact .inr (.inl ⟨formula', mem, lower, rfl⟩)
    · exact .inr (.inr rfl)

/-- No common name of a property stands for a formula. -/
theorem not_formula_of_mem_commonNames : ∀ pair ∈ Property.commonNames,
    ¬ "formula.".toList <+: pair.2.toList := by decide

section Lookup

variable {form : Form} {d : Text} (line : form.OneLine) (rendered : form.render = .ok d) {name : Text}
  (kept : name ∈ form.keptNames)
include line rendered kept

/-- With a blank too many in a shown name, nothing that the lookup compares has as many separators
as it should. -/
theorem resolver_shownName_ne (gap : [] ∈ (Form.shownName name).splitOnP isBlank) :
    Patch.resolver d (Form.shownName name) ≠ "formula.".toList ++ name := by
  intro found
  have word := Form.isWord_of_mem_keptNames line rendered name kept
  have fewer := Text.count_unwords_words_lt (Form.eq_space_of_mem_shownName word)
    (Form.shownName_ne_nil (Form.ne_nil_of_mem_keptNames name kept)) gap
  have space : Caseless ' ' := caseless_separator _ (by decide)
  have underscore : Caseless '_' := caseless_separator _ (by decide)
  rcases resolver_cases d (Form.shownName name) with
    ⟨ref, shown, eq⟩ | ⟨formula, -, lower, eq⟩ | eq
  · -- The name is declared: two shown names with other numbers of spaces would be the same.
    rw [line.displayNames_eq rendered] at shown
    obtain ⟨other, -, pair⟩ := List.mem_map.mp (Dict.mem_of_get?_ofList shown)
    obtain ⟨lower, rfl⟩ := Prod.mk.inj pair
    obtain rfl : other = name := List.append_cancel_left (eq.symm.trans found)
    have counts := congrArg (List.count ' ') lower
    rw [space.count_lower, space.count_lower] at counts
    omega
  · -- A formula has the name: it would have fewer underscores than it has.
    obtain rfl : formula = name := List.append_cancel_left (eq.symm.trans found)
    have none : '_' ∉ (Text.unwords (Text.words (Form.shownName formula))).lower := by
      rw [← List.count_eq_zero, underscore.count_lower, List.count_eq_zero]
      intro mem
      rcases Text.mem_of_mem_unwords (List.Subset.refl _) mem with eq | mem
      · cases eq
      · exact Form.underscore_not_mem_shownName mem
    have counts := congrArg (List.count '_') lower
    rw [underscore.count_lower, Text.count_replaceChar none, space.count_lower,
      ← Form.count_shownName word] at counts
    omega
  · -- The name is a common one or stands for itself: neither has `formula.` before it.
    rw [found] at eq
    rcases Property.resolve_cases (Form.shownName name) with ⟨pair, mem, ref⟩ | words
    · refine not_formula_of_mem_commonNames pair mem ?_
      rw [← ref, ← eq]
      exact List.prefix_append _ _
    · have dot : '.' ∈ Text.unwords (Text.words (Form.shownName name)) := by
        rw [← words, ← eq]
        exact List.mem_append_left _ (by decide)
      rcases Text.mem_of_mem_unwords (List.Subset.refl _) dot with eq | mem
      · cases eq
      · exact Form.dot_not_mem_shownName word mem

/-- A shown name with words around every blank is looked up as it is declared. -/
theorem resolver_shownName_eq
    (distinct : (form.keptNames.map fun name => (Form.shownName name).lower).Nodup)
    (filled : [] ∉ (Form.shownName name).splitOnP isBlank) :
    Patch.resolver d (Form.shownName name) = "formula.".toList ++ name := by
  have word := Form.isWord_of_mem_keptNames line rendered name kept
  have mem : ((Form.shownName name).lower, "formula.".toList ++ name) ∈
      form.keptNames.map fun name => ((Form.shownName name).lower, "formula.".toList ++ name) :=
    List.mem_map_of_mem kept
  have found := Dict.get?_ofList_of_mem (by rwa [List.map_map]) mem
  rw [Patch.resolver, Text.unwords_words_of_pieces (Form.eq_space_of_mem_shownName word) filled,
    line.displayNames_eq rendered]
  simp only [found]

end Lookup

/-- **A shown name leads to its formula exactly if words stand around every underscore of the
formula's name.** The shown names of the form differ in lower case. -/
theorem shown_name_is_found_iff {form : Form} {d : Text} (line : form.OneLine)
    (rendered : form.render = .ok d)
    (distinct : (form.keptNames.map fun name => (Form.shownName name).lower).Nodup) {name : Text}
    (kept : name ∈ form.keptNames) :
    Patch.resolver d (Form.shownName name) = "formula.".toList ++ name ↔ Form.IsWorded name := by
  rw [Form.isWorded_iff (Form.isWord_of_mem_keptNames line rendered name kept)]
  exact ⟨fun found gap => resolver_shownName_ne line rendered kept gap found,
    resolver_shownName_eq line rendered kept distinct⟩

/-- Words stand around the underscore of `due_date`, and none before the one of `_size`. -/
theorem shown_due_date_is_found :
    ∃ (form : Form) (d : Text), form.render = .ok d ∧
      form.keptNames = ["due_date".toList, "_size".toList] ∧
      Patch.resolver d "Due Date".toList = "formula.due_date".toList ∧
      Patch.resolver d " Size".toList ≠ "formula._size".toList := by
  let form : Form := {
    formulas := [
      ⟨"due_date".toList, "created + \"1d\"".toList⟩, ⟨" _size".toList, "file.size".toList⟩] }
  have plain : form.Plain := by constructor <;> decide
  have distinct : (form.keptNames.map fun name => (Form.shownName name).lower).Nodup := by
    decide
  obtain ⟨d, rendered⟩ := form.exists_render (by decide)
  have found := shown_name_is_found_iff plain.oneLine rendered distinct
    (show "due_date".toList ∈ form.keptNames by decide)
  have lost := shown_name_is_found_iff plain.oneLine rendered distinct
    (show "_size".toList ∈ form.keptNames by decide)
  have shown : Form.shownName "due_date".toList = "Due Date".toList ∧
      Form.shownName "_size".toList = " Size".toList := by decide
  rw [shown.1] at found
  rw [shown.2] at lost
  exact ⟨form, d, rendered, by decide, found.mpr (by decide), fun eq =>
    absurd (lost.mp eq) (by decide)⟩

/-- The column of `_size` is shown as a blank and `Size`, and that is looked up as `Size`, which is
a property of every note. -/
theorem shown_size_is_not_found :
    ¬ ∀ (form : Form) (d : Text), form.Plain → form.render = .ok d →
      (form.keptNames.map fun name => (Form.shownName name).lower).Nodup →
      ∀ name ∈ form.keptNames,
        Patch.resolver d (Form.shownName name) = "formula.".toList ++ name := by
  intro claim
  let form : Form := { formulas := [⟨"_size".toList, "1".toList⟩] }
  have found := claim form _ (by constructor <;> decide) rfl (by decide) "_size".toList
    (by decide)
  revert found
  decide

end Notebase
