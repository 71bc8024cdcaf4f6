import Notebase.Draft
import Notebase.Form
import Notebase.Proofs.Document.Layout
import Notebase.Proofs.Document.Section
import Notebase.Proofs.Request.Parts
import Notebase.Proofs.Text.Letters
import Notebase.Proofs.Text.Trim

/-!
New documents and their layouts. The document of a form and the document of a request are the texts
of layouts, so patching such a document is the same as editing the fields and rendering it anew
(`patching_refines_rendering`).
-/

namespace Notebase

open Document

/-! ### Texts on one line -/

/-- Capitals put no character in a text that no other character has for a capital. -/
theorem not_mem_capitalize {d : Char} (none : NoCapitals (d.toNat, d.toNat)) {prev : Option Char}
    {t : Text} (out : d ∉ t) : d ∉ Form.capitalize prev t := by
  induction t generalizing prev with
  | nil => simp [Form.capitalize]
  | cons c t ih =>
      rw [List.mem_cons, not_or] at out
      rw [Form.capitalize, List.mem_append, not_or]
      refine ⟨?_, ih out.2⟩
      split
      · exact none.not_mem_upperChar out.1
      · simpa using out.1

/-- A number is written on one line. -/
theorem plain_ofInt (n : Int) : '\n' ∉ Text.ofInt n := by
  have digits : ∀ n, '\n' ∉ Text.ofNat n := by
    intro n mem
    have digit := Nat.isDigit_of_mem_toDigits (by decide) (by decide) mem
    exact absurd digit (by decide)
  cases n with
  | ofNat n => exact digits n
  | negSucc n =>
      rw [Text.ofInt, List.mem_cons, not_or]
      exact ⟨by decide, digits _⟩

theorem plain_of_word {t : Text} (word : t.all isWordChar = true) : '\n' ∉ t :=
  fun mem => absurd (List.all_eq_true.mp word _ mem) (by decide)

/-- A name as it is asked for: something is written, on one line and with no blank around it. -/
structure IsName (name : Text) : Prop where
  ne_nil : name ≠ []
  trim_eq : name.trim = name
  plain : '\n' ∉ name

/-! ### Sections -/

def filterRows (predicates : List Text) (conjunction : Text) : List Text :=
  "filters:".toList :: ("  ".toList ++ conjunction ++ ":".toList) ::
    predicates.map fun p => "    - ".toList ++ quotePredicate p

/-- The filters are a section of their own. -/
theorem isSection_filterRows {predicates : List Text} {conjunction : Text}
    (plain : Text.Plain predicates) (plain' : '\n' ∉ conjunction) :
    IsSection "filters".toList (filterRows predicates conjunction) := by
  refine ⟨by decide, _, rfl, fun r hr => ?_⟩
  rcases List.mem_cons.mp hr with rfl | hr
  · simp only [List.mem_append, not_or]
    exact ⟨⟨⟨by decide, plain'⟩, by decide⟩, rfl⟩
  · obtain ⟨p, mem, rfl⟩ := List.mem_map.mp hr
    rw [List.mem_append, not_or]
    exact ⟨⟨by decide, plain_quotePredicate (plain p mem)⟩, rfl⟩

namespace Form

/-! ### The layout of a form -/

/-- A form whose texts are written on one line each. -/
structure Plain (form : Form) : Prop where
  tags : Text.Plain form.tags
  folder : ∀ folder ∈ form.folder, '\n' ∉ folder
  logic : '\n' ∉ form.logic
  formulas : ∀ f ∈ form.formulas, '\n' ∉ f.name ∧ '\n' ∉ f.expression
  properties : Text.Plain form.properties
  customProperties : Text.Plain form.customProperties
  viewType : '\n' ∉ form.viewType
  viewName : ∀ name ∈ form.viewName, '\n' ∉ name
  sortBy : ∀ property ∈ form.sortBy, '\n' ∉ property
  sortDirection : ∀ direction ∈ form.sortDirection, '\n' ∉ direction
  groupBy : ∀ property ∈ form.groupBy, '\n' ∉ property
  groupDirection : ∀ direction ∈ form.groupDirection, '\n' ∉ direction
  summaries : ∀ s ∈ form.summaries, '\n' ∉ s.property ∧ '\n' ∉ s.summary

/-- A form whose texts are written on one line each once they are trimmed. The choices among those
offered are words, and so are the names of the formulas that are kept. -/
structure OneLine (form : Form) : Prop where
  tags : Text.Plain (entries form.tags)
  folder : '\n' ∉ text form.folder
  formulas : ∀ f ∈ form.formulas, '\n' ∉ f.expression.trim
  properties : Text.Plain (entries form.properties)
  customProperties : Text.Plain (entries form.customProperties)
  viewName : '\n' ∉ text form.viewName
  sortBy : ∀ property ∈ form.sortBy, '\n' ∉ property.trim
  groupBy : ∀ property ∈ form.groupBy, '\n' ∉ property.trim
  summaries : ∀ s ∈ form.summaries, '\n' ∉ s.property.trim

/-- How a view is arranged: by a property, if the direction is given too. -/
def arrangement (property direction : Option Text) : Option (Text × Text) :=
  match Text.given? property, direction with
  | some property, some direction => some (property.trim, direction)
  | _, _ => none

def formulaSections (formulas : List Formula) : List (List Text) :=
  if formulas.isEmpty then []
  else [
    "formulas:".toList :: formulas.map fun f =>
      "  ".toList ++ f.name ++ ": ".toList ++ quoteFormula f.expression,
    "properties:".toList :: formulas.flatMap fun f =>
      ["  formula.".toList ++ f.name ++ [':'],
        "    displayName: \"".toList ++ shownName f.name ++ ['"']]]

def sections (form : Form) (formulas : List Formula) : List (List Text) :=
  (if form.predicates.isEmpty then [] else [filterRows form.predicates form.logic]) ++
    formulaSections formulas

/-- The layout of a form whose formulas and directions have been read. -/
def layout (form : Form) (formulas : List Formula) (sortDirection groupDirection : Option Text) :
    Layout where
  sections := form.sections formulas
  kind := form.viewType
  name := Document.quotedName form.resolvedViewName
  limit := form.limit.map Text.ofInt
  columns := form.columns formulas
  sort := arrangement form.sortBy sortDirection
  groupBy := arrangement form.groupBy groupDirection
  summaries := (form.summaries.filter fun s => !s.property.trim.isEmpty).map fun s =>
    "      ".toList ++ s.property.trim ++ ": ".toList ++ s.summary

/-- The sections of a form are the blocks that are rendered for it. -/
theorem map_joinLines_sections (form : Form) (formulas : List Formula) :
    (form.sections formulas).map joinLines =
      (if form.predicates.isEmpty then []
        else [renderFilters form.predicates form.logic]) ++ formulaBlocks formulas := by
  rw [sections, List.map_append, formulaSections, formulaBlocks]
  congr 1
  · split
    · rfl
    · rfl
  · split
    · rfl
    · rfl

/-- The block of an arrangement is the one that is rendered. -/
theorem block_arrangement (render : Text → Text → Nat → Text) (property direction : Option Text) :
    Layout.block render (arrangement property direction) =
      arrangementBlock render property direction := by
  unfold arrangement arrangementBlock
  cases Text.given? property with
  | none => rfl
  | some property =>
      cases direction with
      | none => rfl
      | some direction => rfl

/-- The view of a form is written from its layout, which has no entry for no columns. -/
theorem viewBlock_eq_shown (form : Form) (formulas : List Formula)
    (sortDirection groupDirection : Option Text) :
    form.viewBlock formulas sortDirection groupDirection = Text.dropFinalNewlines
      (unlines ("views:".toList :: pageRows form.viewType
        (form.layout formulas sortDirection groupDirection).shown)) := by
  have shown := (form.layout formulas sortDirection groupDirection).unlines_shown
  rw [layout] at shown
  rw [viewBlock, layout, shown]
  cases form.limit with
  | none => simp only [block_arrangement, List.isEmpty_map, Option.map_none, Option.toList_none,
      List.map_nil]
  | some n => simp only [block_arrangement, List.isEmpty_map, Option.map_some, Option.toList_some,
      List.map_cons, List.map_nil]

/-- The view of a request is the text of its layout. -/
theorem viewBlock_eq (form : Form) {formulas : List Formula}
    (sortDirection groupDirection : Option Text) (ne : form.columns formulas ≠ []) :
    form.viewBlock formulas sortDirection groupDirection =
      Text.dropFinalNewlines (form.layout formulas sortDirection groupDirection).viewText := by
  have shown : (form.layout formulas sortDirection groupDirection).shown =
      (form.layout formulas sortDirection groupDirection).entries := Layout.shown_of_ne_nil ne
  rw [viewBlock_eq_shown, shown, Layout.viewText_eq]
  rfl

/-! ### Layouts of forms have no line ends -/

theorem plain_entries {items : List Text} (plain : Text.Plain items) :
    Text.Plain (entries items) := by
  intro t ht
  obtain ⟨item, mem, rfl⟩ := List.mem_map.mp (List.mem_filter.mp ht).1
  exact Text.plain_trim (plain item mem)

theorem plain_text {field : Option Text} (plain : ∀ value ∈ field, '\n' ∉ value) :
    '\n' ∉ text field := by
  cases field with
  | none => decide
  | some value => exact Text.plain_trim (plain value rfl)

/-- A form without line ends is one whose fields are on one line. -/
theorem Plain.oneLine {form : Form} (plain : form.Plain) : form.OneLine where
  tags := plain_entries plain.tags
  folder := plain_text plain.folder
  formulas f hf := Text.plain_trim (plain.formulas f hf).2
  properties := plain_entries plain.properties
  customProperties := plain_entries plain.customProperties
  viewName := plain_text plain.viewName
  sortBy property hp := Text.plain_trim (plain.sortBy property hp)
  groupBy property hp := Text.plain_trim (plain.groupBy property hp)
  summaries s hs := Text.plain_trim (plain.summaries s hs).1

/-- The predicates of a form on one line are plain. -/
theorem OneLine.predicates {form : Form} (line : form.OneLine) : Text.Plain form.predicates := by
  intro p hp
  rw [Form.predicates, List.mem_append] at hp
  rcases hp with hp | hp
  · obtain ⟨tag, mem, rfl⟩ := List.mem_map.mp hp
    exact plain_filePredicate (by decide) fun mem' =>
      line.tags tag mem ((List.dropWhile_sublist _).subset mem')
  · split at hp
    · cases hp
    · rw [List.mem_singleton.mp hp]
      exact plain_filePredicate (by decide) line.folder

theorem plain_quoteFormula {expression : Text} (plain : '\n' ∉ expression) :
    '\n' ∉ quoteFormula expression := by
  rw [quoteFormula]
  split
  · simp [Document.singleQuoted, plain_doubleQuotes plain]
  · simp [Text.plain_replaceChar plain]

/-- The formulas that are kept have words for names and one line for an expression. -/
theorem of_mem_keptFormulas {all kept : List Formula} (h : keptFormulas all = .ok kept)
    (line : ∀ f ∈ all, '\n' ∉ f.expression.trim) :
    ∀ f ∈ kept, f.name.all isWordChar = true ∧ '\n' ∉ f.expression := by
  induction all generalizing kept with
  | nil =>
      cases h
      exact List.forall_mem_nil _
  | cons f all ih =>
      have rest := fun f' hf => line f' (List.mem_cons_of_mem f hf)
      rw [keptFormulas] at h
      split at h
      · exact ih h rest
      · split at h
        · cases h
        · next word =>
            cases keptFormulas_eq : keptFormulas all with
            | error e =>
                rw [keptFormulas_eq] at h
                cases h
            | ok kept' =>
                rw [keptFormulas_eq] at h
                cases h
                intro f' hf
                rcases List.mem_cons.mp hf with rfl | hf
                · exact ⟨by simpa using word, line f List.mem_cons_self⟩
                · exact ih keptFormulas_eq rest f' hf

/-- The sections for formulas: one that declares them and one that names them. -/
theorem isSection_formulaSections {formulas : List Formula} (ne : formulas ≠ [])
    (plainFormulas : ∀ f ∈ formulas, f.name.all isWordChar = true ∧ '\n' ∉ f.expression) :
    ∃ declared named, formulaSections formulas = [declared, named] ∧
      IsSection "formulas".toList declared ∧ IsSection "properties".toList named ∧
      declared = "formulas:".toList :: formulas.map fun f =>
        "  ".toList ++ f.name ++ ": ".toList ++ quoteFormula f.expression := by
  rw [formulaSections, if_neg (by simpa using ne)]
  refine ⟨_, _, rfl, ⟨by decide, _, rfl, fun r hr => ?_⟩, ⟨by decide, _, rfl, fun r hr => ?_⟩, rfl⟩
  · obtain ⟨f, mem, rfl⟩ := List.mem_map.mp hr
    obtain ⟨word, plain⟩ := plainFormulas f mem
    simp only [List.mem_append, not_or]
    exact ⟨⟨⟨⟨by decide, plain_of_word word⟩, by decide⟩, plain_quoteFormula plain⟩, rfl⟩
  · obtain ⟨f, mem, hr⟩ := List.mem_flatMap.mp hr
    have name := plain_of_word (plainFormulas f mem).1
    have shown : '\n' ∉ shownName f.name :=
      not_mem_capitalize (noCapitals_mark _ (by decide)) (Text.plain_replaceChar name (by decide))
    rcases List.mem_cons.mp hr with rfl | hr
    · simp only [List.mem_append, not_or]
      exact ⟨⟨⟨by decide, name⟩, by decide⟩, rfl⟩
    · rw [List.mem_singleton.mp hr]
      simp only [List.mem_append, not_or]
      exact ⟨⟨⟨by decide, shown⟩, by decide⟩, rfl⟩

/-- A direction that is accepted is there exactly if the field is, and is plain. -/
theorem of_direction? {arrangement : Arrangement} {field direction : Option Text}
    (h : direction? arrangement field = .ok direction) :
    direction.isSome = (Text.given? field).isSome ∧ ∀ d ∈ direction, '\n' ∉ d := by
  have known : ∀ d ∈ directions, '\n' ∉ d := by decide
  rw [direction?] at h
  split at h
  · next absent =>
      cases h
      rw [absent]
      exact ⟨rfl, by simp⟩
  · next value given =>
      dsimp only at h
      split at h
      · next mem =>
          cases h
          rw [given]
          refine ⟨rfl, ?_⟩
          rintro d ⟨⟩
          exact known _ (List.contains_iff_mem.mp mem)
      · cases h

/-- The parts of an arrangement are plain if the fields are. -/
theorem plain_arrangement {property direction : Option Text}
    (line : ∀ p ∈ property, '\n' ∉ p.trim) (plain' : ∀ d ∈ direction, '\n' ∉ d) :
    ∀ o ∈ arrangement property direction, '\n' ∉ o.1 ∧ '\n' ∉ o.2 := by
  intro o ho
  unfold arrangement at ho
  split at ho
  · next p d given =>
      cases ho
      exact ⟨line p (given?_eq_some given), plain' d rfl⟩
  · cases ho

theorem exists_render (form : Form) (accepted : form.render.toOption.isSome = true) :
    ∃ d, form.render = .ok d := by
  cases rendered : form.render with
  | error e =>
      rw [rendered] at accepted
      cases accepted
  | ok d => exact ⟨d, rfl⟩

structure Read (form : Form) (formulas : List Formula) (sortDirection groupDirection : Option Text) :
    Prop where
  formulas : keptFormulas form.formulas = .ok formulas
  sortDirection : direction? .sort form.sortDirection = .ok sortDirection
  groupDirection : direction? .group form.groupDirection = .ok groupDirection

section Layouts

variable {form : Form} {formulas : List Formula} {sortDirection groupDirection : Option Text}

/-- A form is rendered exactly if its choices can be read and are among those offered. -/
theorem render_eq_ok_iff {d : Text} : form.render = .ok d ↔
    form.check = .ok () ∧ ∃ formulas sortDirection groupDirection,
      form.Read formulas sortDirection groupDirection ∧
        d = Text.join "\n\n".toList ((form.sections formulas).map joinLines ++
          [form.viewBlock formulas sortDirection groupDirection]) := by
  have bind_eq_ok : ∀ {α β : Type} (x : Except Error α) (f : α → Except Error β) (b : β),
      x >>= f = .ok b ↔ ∃ a, x = .ok a ∧ f a = .ok b := by
    intro α β x f b
    cases x with
    | error e => simp [bind, Except.bind]
    | ok a => simp [bind, Except.bind]
  rw [render]
  simp only [bind_eq_ok, map_joinLines_sections, List.append_assoc]
  constructor
  · rintro ⟨⟨⟩, check, formulas, kept, sortDirection, sort, groupDirection, group, eq⟩
    exact ⟨check, formulas, sortDirection, groupDirection, ⟨kept, sort, group⟩,
      (Except.ok.inj eq).symm⟩
  · rintro ⟨check, formulas, sortDirection, groupDirection, ⟨kept, sort, group⟩, rfl⟩
    exact ⟨(), check, formulas, kept, sortDirection, sort, groupDirection, group, rfl⟩

theorem logic_mem_of_check (check : form.check = .ok ()) : form.logic ∈ logics := by
  rw [Form.check] at check
  split at check
  · cases check
  · next known => simpa using known

theorem viewType_mem_of_check (check : form.check = .ok ()) : form.viewType ∈ viewTypes := by
  rw [Form.check] at check
  split at check
  · cases check
  · split at check
    · cases check
    · next known => simpa using known

/-- The summaries of a sound form are known. -/
theorem summary_mem_of_check (check : form.check = .ok ()) :
    ∀ s ∈ form.summaries, s.summary ∈ summaryTypes := by
  rw [Form.check] at check
  split at check
  · cases check
  · split at check
    · cases check
    · split at check
      · cases check
      · split at check
        · cases check
        · next known =>
            intro s hs
            simpa using List.find?_eq_none.mp known s hs

/-- The word that joins the predicates of a checked form is on one line. -/
theorem plain_logic_of_check (check : form.check = .ok ()) : '\n' ∉ form.logic := by
  have plain : ∀ logic ∈ logics, '\n' ∉ logic := by decide
  exact plain _ (logic_mem_of_check check)

/-- Every part in front of the views is a section with another key. -/
theorem OneLine.isSection_sections (line : form.OneLine) (check : form.check = .ok ())
    (kept : keptFormulas form.formulas = .ok formulas) :
    ∀ rs ∈ form.sections formulas, ∃ key, key ≠ "views".toList ∧ IsSection key rs := by
  have plainFormulas := of_mem_keptFormulas kept line.formulas
  intro rs hrs
  rcases List.mem_append.mp hrs with hrs | hrs
  · split at hrs
    · cases hrs
    · rw [List.mem_singleton.mp hrs]
      exact ⟨_, by decide, isSection_filterRows line.predicates (plain_logic_of_check check)⟩
  · by_cases none : formulas = []
    · rw [none] at hrs
      cases hrs
    · obtain ⟨declared, named, sections, first, second, -⟩ :=
        isSection_formulaSections none plainFormulas
      rw [sections, List.mem_pair] at hrs
      rcases hrs with rfl | rfl
      · exact ⟨_, by decide, first⟩
      · exact ⟨_, by decide, second⟩

/-- The layout of a sound form is sound. -/
theorem OneLine.layout (line : form.OneLine) (check : form.check = .ok ())
    (read : form.Read formulas sortDirection groupDirection) :
    (form.layout formulas sortDirection groupDirection).Ok where
  sections rs hrs := by
    obtain ⟨key, other, isSection⟩ := line.isSection_sections check read.formulas rs hrs
    exact ⟨isSection.ne_nil, isSection.noViews other⟩
  kind := by
    have plain : ∀ kind ∈ viewTypes, '\n' ∉ kind := by decide
    exact plain _ (viewType_mem_of_check check)
  name := by
    have name : '\n' ∉ form.resolvedViewName := by
      rw [resolvedViewName]
      split
      · decide
      · exact line.viewName
    exact ⟨plain_quotedName name, flush_quotedName _⟩
  limit value hv := by
    obtain ⟨n, -, rfl⟩ := Option.map_eq_some_iff.mp hv
    exact plain_ofInt n
  columns := by
    intro ref hr
    rcases List.mem_append.mp hr with hr | hr
    · rcases List.mem_append.mp hr with hr | hr
      · exact line.properties ref hr
      · exact line.customProperties ref hr
    · obtain ⟨f, mem, rfl⟩ := List.mem_map.mp hr
      have name := plain_of_word
        (of_mem_keptFormulas read.formulas line.formulas f mem).1
      rw [List.mem_append, not_or]
      exact ⟨by decide, name⟩
  sort := plain_arrangement line.sortBy (of_direction? read.sortDirection).2
  groupBy := plain_arrangement line.groupBy (of_direction? read.groupDirection).2
  summaries := by
    intro r hr
    obtain ⟨s, mem, rfl⟩ := List.mem_map.mp hr
    obtain ⟨mem, written⟩ := List.mem_filter.mp mem
    have plain : ∀ summary ∈ summaryTypes, '\n' ∉ summary := by decide
    have summary := plain _ (summary_mem_of_check check s mem)
    refine ⟨?_, ?_⟩
    · simp only [List.mem_append, not_or]
      exact ⟨⟨⟨by decide, line.summaries s mem⟩, by decide⟩, summary⟩
    · have depth : "      ".toList = Text.spaces 6 := by decide
      -- A property that is kept is not blank, so that its row is no deeper than its blanks.
      have head : ∀ c ∈ s.property.trim.head?, isBlank c = false :=
        (Text.trimmed_trim s.property).first
      rw [depth]
      cases trim_eq : s.property.trim with
      | nil => simp [trim_eq] at written
      | cons c t =>
          rw [trim_eq] at head
          rw [List.append_assoc, List.append_assoc]
          exact isDeeper_spaces_append _ (by decide) (head c rfl)

/-- **The document of a form is the page of its layout.** -/
theorem OneLine.render_eq_page_iff (line : form.OneLine) {d : Text} : form.render = .ok d ↔
    form.check = .ok () ∧ ∃ formulas sortDirection groupDirection,
      form.Read formulas sortDirection groupDirection ∧
        d = page (sectionsText (form.sections formulas)) form.viewType
          (form.layout formulas sortDirection groupDirection).shown := by
  have text : form.check = .ok () → ∀ formulas sortDirection groupDirection,
      form.Read formulas sortDirection groupDirection →
        Text.join "\n\n".toList ((form.sections formulas).map joinLines ++
          [form.viewBlock formulas sortDirection groupDirection]) =
            page (sectionsText (form.sections formulas)) form.viewType
              (form.layout formulas sortDirection groupDirection).shown := by
    intro check formulas sortDirection groupDirection read
    have ok := line.layout check read
    rw [viewBlock_eq_shown]
    exact ok.isPage_shown.join_eq fun rs hr => (ok.sections rs hr).1
  rw [Form.render_eq_ok_iff]
  constructor
  · rintro ⟨check, formulas, sortDirection, groupDirection, read, rfl⟩
    exact ⟨check, formulas, sortDirection, groupDirection, read,
      text check formulas sortDirection groupDirection read⟩
  · rintro ⟨check, formulas, sortDirection, groupDirection, read, rfl⟩
    exact ⟨check, formulas, sortDirection, groupDirection, read,
      (text check formulas sortDirection groupDirection read).symm⟩

/-- With columns, the document of a form is the text of its layout. -/
theorem OneLine.render_eq_ok_iff (line : form.OneLine)
    (columns : ∀ formulas, keptFormulas form.formulas = .ok formulas → form.columns formulas ≠ [])
    {d : Text} : form.render = .ok d ↔
      form.check = .ok () ∧ ∃ formulas sortDirection groupDirection,
        form.Read formulas sortDirection groupDirection ∧
          d = (form.layout formulas sortDirection groupDirection).text := by
  have text : ∀ formulas sortDirection groupDirection,
      form.Read formulas sortDirection groupDirection →
        page (sectionsText (form.sections formulas)) form.viewType
          (form.layout formulas sortDirection groupDirection).shown =
            (form.layout formulas sortDirection groupDirection).text := fun formulas _ _ read =>
    congrArg (page _ _) (Layout.shown_of_ne_nil (columns formulas read.formulas))
  rw [line.render_eq_page_iff]
  refine and_congr_right fun _ => exists_congr fun formulas => exists_congr fun _ =>
    exists_congr fun _ => and_congr_right fun read => ?_
  rw [text formulas _ _ read]

/-! ### Edited forms -/

def arranges (property direction : Option Text) : Bool :=
  (Text.given? property).isSome && (Text.given? direction).isSome

/-- A form arranges exactly if both fields are given. -/
theorem isSome_arrangement {a : Arrangement} {property field direction : Option Text}
    (h : direction? a field = .ok direction) :
    (arrangement property direction).isSome = arranges property field := by
  rw [arranges, ← (of_direction? h).1]
  unfold arrangement
  cases Text.given? property with
  | none => rfl
  | some property =>
      cases direction with
      | none => rfl
      | some direction => rfl

theorem direction?_of_mem (a : Arrangement) {direction : Text} (mem : direction ∈ directions) :
    direction? a (some direction) = .ok (some direction) := by
  rcases List.mem_cons.mp mem with rfl | mem
  · rfl
  · rw [List.mem_singleton.mp mem]
    rfl

theorem arrangement_of_isName {property : Text} (direction : Text) (name : IsName property) :
    arrangement (some property) (some direction) = some (property, direction) := by
  unfold arrangement
  rw [given?_of_ne_nil name.ne_nil]
  dsimp only
  rw [name.trim_eq]

theorem resolvedViewName_of_isName {name : Text} (isName : IsName name) :
    { form with viewName := some name }.resolvedViewName = name := by
  have text_ : text (some name) = name := isName.trim_eq
  rw [resolvedViewName]
  dsimp only
  rw [text_, if_neg (by simpa using isName.ne_nil)]

/-- A sound form stays sound with another kind. -/
theorem check_viewType {kind : Text} (check : form.check = .ok ()) (mem : kind ∈ viewTypes) :
    { form with viewType := kind }.check = .ok () := by
  have known : viewTypes.contains kind = true := List.contains_iff_mem.mpr mem
  have known' : viewTypes.contains form.viewType = true :=
    List.contains_iff_mem.mpr (viewType_mem_of_check check)
  rw [Form.check] at check ⊢
  dsimp only at check ⊢
  rw [known]
  rwa [known'] at check

theorem flush_of_mem_viewTypes {kind : Text} (mem : kind ∈ viewTypes) : Flush kind := by
  have heads : ∀ kind ∈ viewTypes, ∀ c ∈ kind.head?, isSpaceOrTab c = false := by decide
  exact heads kind mem

/-- What a rendered form is edited under: its texts are written on one line each, and the view
has columns. -/
structure Editable (form : Form) : Prop where
  plain : form.Plain
  columns : ∀ formulas, keptFormulas form.formulas = .ok formulas → form.columns formulas ≠ []

variable {d : Text} (editable : form.Editable) (rendered : form.render = .ok d)
include editable rendered

/-- Setting the kind of a rendered form renders it with that kind. -/
theorem Editable.setViewType {kind : Text} (mem : kind ∈ viewTypes) :
    { form with viewType := kind }.render = .ok (Document.setViewType kind d) := by
  have kinds : ∀ kind ∈ viewTypes, '\n' ∉ kind := by decide
  have plain' : { form with viewType := kind }.Plain :=
    { editable.plain with viewType := kinds kind mem }
  obtain ⟨check, formulas, sortDirection, groupDirection, read, rfl⟩ :=
    (editable.plain.oneLine.render_eq_ok_iff editable.columns).mp rendered
  have flush : Flush form.viewType := flush_of_mem_viewTypes (viewType_mem_of_check check)
  rw [(editable.plain.oneLine.layout check read).setViewType flush]
  exact (plain'.oneLine.render_eq_ok_iff editable.columns).mpr ⟨check_viewType check mem, formulas,
    sortDirection, groupDirection, ⟨read.formulas, read.sortDirection, read.groupDirection⟩, rfl⟩

/-- Renaming a rendered form renders it with that name. -/
theorem Editable.renameView {name : Text} (isName : IsName name) :
    { form with viewName := some name }.render = .ok (Document.renameView name d) := by
  have plain' : { form with viewName := some name }.Plain :=
    { editable.plain with viewName := fun _ h => Option.mem_some.mp h ▸ isName.plain }
  obtain ⟨check, formulas, sortDirection, groupDirection, read, rfl⟩ :=
    (editable.plain.oneLine.render_eq_ok_iff editable.columns).mp rendered
  have layout : { form with viewName := some name }.layout formulas sortDirection groupDirection =
      { form.layout formulas sortDirection groupDirection with
        name := Document.quotedName name } := by
    rw [Form.layout, resolvedViewName_of_isName isName]
    rfl
  rw [(editable.plain.oneLine.layout check read).renameView, ← layout]
  exact (plain'.oneLine.render_eq_ok_iff editable.columns).mpr ⟨check, formulas, sortDirection,
    groupDirection, ⟨read.formulas, read.sortDirection, read.groupDirection⟩, rfl⟩

/-- Sorting a rendered form renders it with that sorting. -/
theorem Editable.setSort {property direction : Text} (isName : IsName property)
    (mem : direction ∈ directions) :
    { form with sortBy := some property, sortDirection := some direction }.render =
      .ok (Document.setSort property direction d) := by
  have plains : ∀ direction ∈ directions, '\n' ∉ direction := by decide
  have plain' : { form with sortBy := some property, sortDirection := some direction }.Plain :=
    { editable.plain with
      sortBy := fun _ h => Option.mem_some.mp h ▸ isName.plain
      sortDirection := fun _ h => Option.mem_some.mp h ▸ plains direction mem }
  obtain ⟨check, formulas, sortDirection, groupDirection, read, rfl⟩ :=
    (editable.plain.oneLine.render_eq_ok_iff editable.columns).mp rendered
  have layout : { form with sortBy := some property, sortDirection := some direction }.layout
      formulas (some direction) groupDirection =
        { form.layout formulas sortDirection groupDirection with
          sort := some (property, direction) } := by
    rw [Form.layout, arrangement_of_isName direction isName]
    rfl
  rw [(editable.plain.oneLine.layout check read).setSort isName.plain (plains direction mem),
    ← layout]
  exact (plain'.oneLine.render_eq_ok_iff editable.columns).mpr ⟨check, formulas, some direction,
    groupDirection, ⟨read.formulas, direction?_of_mem .sort mem, read.groupDirection⟩, rfl⟩

/-- Grouping a rendered form renders it with that grouping, if it stands where it would be written.
-/
theorem Editable.setGroupBy {property direction : Text} (isName : IsName property)
    (mem : direction ∈ directions) (place : arranges form.groupBy form.groupDirection = true ∨
      arranges form.sortBy form.sortDirection = false) :
    { form with groupBy := some property, groupDirection := some direction }.render =
      .ok (Document.setGroupBy property direction d) := by
  have plains : ∀ direction ∈ directions, '\n' ∉ direction := by decide
  have plain' : { form with groupBy := some property, groupDirection := some direction }.Plain :=
    { editable.plain with
      groupBy := fun _ h => Option.mem_some.mp h ▸ isName.plain
      groupDirection := fun _ h => Option.mem_some.mp h ▸ plains direction mem }
  obtain ⟨check, formulas, sortDirection, groupDirection, read, rfl⟩ :=
    (editable.plain.oneLine.render_eq_ok_iff editable.columns).mp rendered
  have layout : { form with groupBy := some property, groupDirection := some direction }.layout
      formulas sortDirection (some direction) =
        { form.layout formulas sortDirection groupDirection with
          groupBy := some (property, direction) } := by
    rw [Form.layout, arrangement_of_isName direction isName]
    rfl
  have place' : (form.layout formulas sortDirection groupDirection).groupBy.isSome = true ∨
      (form.layout formulas sortDirection groupDirection).sort = none := by
    rw [← isSome_arrangement read.sortDirection, ← isSome_arrangement read.groupDirection,
      Option.isSome_eq_false_iff, Option.isNone_iff_eq_none] at place
    exact place
  rw [(editable.plain.oneLine.layout check read).setGroupBy isName.plain
    (plains direction mem) place', ← layout]
  exact (plain'.oneLine.render_eq_ok_iff editable.columns).mpr ⟨check, formulas, sortDirection,
    some direction, ⟨read.formulas, read.sortDirection, direction?_of_mem .group mem⟩, rfl⟩

end Layouts

end Form

namespace Draft

/-! ### The layout of a request -/

def formulaSections : List (List Text) := [
  "formulas:".toList :: defaultFormulas.map fun f =>
    "  ".toList ++ f.name ++ ": '".toList ++ f.expression ++ ['\''],
  "properties:".toList :: defaultFormulas.flatMap fun f =>
    ["  formula.".toList ++ f.name ++ [':'],
      "    displayName: \"".toList ++ f.shownName ++ ['"']]]

def layout (r : Request) : Layout where
  sections := filterRows (predicates r) "and".toList ::
    if (r.properties.getD []).isEmpty then formulaSections else []
  kind := r.resolvedViewType
  name := '"' :: (Text.given? r.renameTo).getD defaultViewName ++ ['"']
  limit := none
  columns := if (r.properties.getD []).isEmpty then defaultOrder else r.properties.getD []
  sort := r.sorting.map fun s => (s.property, s.direction)
  groupBy := (Text.given? r.groupBy).map fun property => (property, "ASC".toList)
  summaries := []

/-- The view of a request is the text of its layout. -/
theorem viewBlock_eq (r : Request) : viewBlock r (layout r).columns =
    Text.dropFinalNewlines (layout r).viewText := by
  have label : ∀ name : Text, "    name: \"".toList ++ name ++ ['"'] =
      "    name: ".toList ++ ('"' :: name ++ ['"']) := by
    have quote : "    name: \"".toList = "    name: ".toList ++ ['"'] := by decide
    intro name
    rw [quote]
    simp only [List.append_assoc, List.cons_append, List.nil_append]
  rw [viewBlock, Layout.viewText, layout, label]
  refine congrArg Text.dropFinalNewlines ?_
  dsimp only
  rw [List.isEmpty_nil, if_pos rfl, Text.unlines_nil, List.append_nil, Option.toList_none,
    List.map_nil, List.append_nil]
  refine congrArg₂ (· ++ ·) (congrArg₂ (· ++ ·) rfl ?_) ?_
  · cases r.sorting with
    | none => rfl
    | some s => rfl
  · cases Text.given? r.groupBy with
    | none => rfl
    | some property => rfl

theorem ofRequest_eq (r : Request) : ofRequest r = Text.join "\n\n".toList
    ((layout r).sections.map joinLines ++ [Text.dropFinalNewlines (layout r).viewText]) := by
  rw [← viewBlock_eq, ofRequest, layout]
  dsimp only
  split
  · rfl
  · rfl

section Edits

variable {r : Request} (plain : r.Plain) (columns : ∀ refs ∈ r.properties, Text.Plain refs)
include plain columns

omit columns in
/-- The predicates of a plain request are plain. -/
theorem plain_predicates : Text.Plain (predicates r) := by
  have note : Text.Plain [everyNote] := by
    intro p hp
    rw [List.mem_singleton.mp hp]
    decide
  have tests : ∀ p ∈ ((Text.given? r.tag).map (filePredicate "hasTag".toList)).toList ++
      ((Text.given? r.folder).map (filePredicate "inFolder".toList)).toList, '\n' ∉ p := by
    intro p hp
    rcases List.mem_append.mp hp with hp | hp
    · obtain ⟨tag, given, rfl⟩ := Option.map_eq_some_iff.mp (Option.mem_toList.mp hp)
      exact plain_filePredicate (by decide) (plain.tag tag (given?_eq_some given))
    · obtain ⟨folder, given, rfl⟩ := Option.map_eq_some_iff.mp (Option.mem_toList.mp hp)
      exact plain_filePredicate (by decide) (plain.folder folder (given?_eq_some given))
  rw [predicates]
  split
  · exact note
  · exact tests

omit columns in
/-- Every part of a request in front of the views is a section with another key. -/
theorem isSection_sections : ∀ rs ∈ (layout r).sections,
    ∃ key, key ≠ "views".toList ∧ IsSection key rs := by
  have deeper : ∀ rs ∈ formulaSections, ∀ row ∈ rs.tail, '\n' ∉ row ∧ row.head? = some ' ' := by
    decide
  intro rs hrs
  rcases List.mem_cons.mp hrs with rfl | hrs
  · exact ⟨_, by decide, isSection_filterRows (plain_predicates plain) (by decide)⟩
  · split at hrs
    · have rows := deeper rs hrs
      rcases List.mem_pair.mp hrs with rfl | rfl
      · exact ⟨"formulas".toList, by decide, by decide, _, rfl, rows⟩
      · exact ⟨"properties".toList, by decide, by decide, _, rfl, rows⟩
    · cases hrs

omit columns in
theorem findSection?_filters : findSection? "filters".toList (layout r).sections =
    some (filterRows (predicates r) "and".toList) :=
  (isSection_filterRows (plain_predicates plain) (by decide)).findSection?_cons _

/-- The layout of a plain request is sound. -/
theorem layout_ok : (layout r).Ok where
  sections rs hrs := by
    obtain ⟨key, other, isSection⟩ := isSection_sections plain rs hrs
    exact ⟨isSection.ne_nil, isSection.noViews other⟩
  kind := by
    have table : '\n' ∉ "table".toList := by decide
    rw [layout, Request.resolvedViewType]
    cases viewType_eq : Text.given? r.viewType with
    | none => exact table
    | some kind => exact plain.viewType kind (given?_eq_some viewType_eq)
  name := by
    refine ⟨?_, by rintro c ⟨⟩; decide⟩
    have name : '\n' ∉ (Text.given? r.renameTo).getD defaultViewName := by
      cases renameTo_eq : Text.given? r.renameTo with
      | none => decide
      | some name => exact plain.renameTo name (given?_eq_some renameTo_eq)
    simp [layout, name]
  limit := by rintro value ⟨⟩
  columns := by
    have defaults : Text.Plain defaultOrder := by
      have plainColumns : ∀ ref ∈ defaultOrder, '\n' ∉ ref := by decide
      exact plainColumns
    rw [layout]
    dsimp only
    split
    · exact defaults
    · cases properties_eq : r.properties with
      | none => exact List.forall_mem_nil _
      | some refs => exact columns refs properties_eq
  sort := by
    rintro o ho
    obtain ⟨s, mem, rfl⟩ := Option.map_eq_some_iff.mp ho
    exact plain.sorting s mem
  groupBy := by
    rintro o ho
    obtain ⟨property, given, rfl⟩ := Option.map_eq_some_iff.mp ho
    have ascending : '\n' ∉ "ASC".toList := by decide
    exact ⟨plain.groupBy property (given?_eq_some given), ascending⟩
  summaries := List.forall_mem_nil _

/-- **The document of a request is the text of its layout.** -/
theorem ofRequest_eq_text : ofRequest r = (layout r).text :=
  (ofRequest_eq r).trans (layout_ok plain columns).join_eq_text

/-! ### Edited requests -/

/-- Setting the kind of a drafted document drafts it with that kind. -/
theorem setViewType_ofRequest (flush : ∀ kind ∈ r.viewType, Flush kind) {kind : Text}
    (ne : kind ≠ []) (plain' : '\n' ∉ kind) :
    ofRequest { r with viewType := some kind } = setViewType kind (ofRequest r) := by
  have isFlush : Flush (layout r).kind := by
    cases viewType_eq : Text.given? r.viewType with
    | none =>
        have table : "table".toList ∈ Form.viewTypes := by decide
        rw [layout, Request.resolvedViewType, viewType_eq]
        exact Form.flush_of_mem_viewTypes table
    | some kind =>
        rw [layout, Request.resolvedViewType, viewType_eq]
        exact flush kind (given?_eq_some viewType_eq)
  have edited : { r with viewType := some kind }.Plain :=
    { plain with viewType := fun _ h => Option.mem_some.mp h ▸ plain' }
  have layout_ : layout { r with viewType := some kind } = { layout r with kind } := by
    rw [layout, Request.resolvedViewType, given?_of_ne_nil ne]
    rfl
  rw [ofRequest_eq_text edited columns, ofRequest_eq_text plain columns, layout_,
    (layout_ok plain columns).setViewType isFlush]

/-- Renaming a drafted document drafts it with that name. -/
theorem renameView_ofRequest {name : Text} (ne : name ≠ []) (plain' : '\n' ∉ name)
    (quote : '"' ∉ name) :
    ofRequest { r with renameTo := some name } = renameView name (ofRequest r) := by
  have edited : { r with renameTo := some name }.Plain :=
    { plain with renameTo := fun _ h => Option.mem_some.mp h ▸ plain' }
  have quoted : quotedName name = '"' :: name ++ ['"'] := by
    rw [quotedName, Text.replaceChar_of_not_mem quote]
  have layout_ : layout { r with renameTo := some name } =
      { layout r with name := quotedName name } := by
    rw [layout, given?_of_ne_nil ne, quoted]
    rfl
  rw [ofRequest_eq_text edited columns, ofRequest_eq_text plain columns, layout_,
    (layout_ok plain columns).renameView]

/-- Sorting a drafted document drafts it with that sorting. -/
theorem setSort_ofRequest {property direction : Text} (plain' : '\n' ∉ property)
    (plain'' : '\n' ∉ direction) :
    ofRequest { r with sorting := some ⟨property, direction⟩ } =
      setSort property direction (ofRequest r) := by
  have edited : { r with sorting := some ⟨property, direction⟩ }.Plain :=
    { plain with sorting := fun _ h => Option.mem_some.mp h ▸ ⟨plain', plain''⟩ }
  rw [ofRequest_eq_text edited columns, ofRequest_eq_text plain columns,
    (layout_ok plain columns).setSort plain' plain'']
  rfl

/-- Grouping a drafted document drafts it with that grouping, if it stands where it would be
written. -/
theorem setGroupBy_ofRequest {property : Text} (ne : property ≠ []) (plain' : '\n' ∉ property)
    (place : (Text.given? r.groupBy).isSome = true ∨ r.sorting = none) :
    ofRequest { r with groupBy := some property } =
      setGroupBy property "ASC".toList (ofRequest r) := by
  have edited : { r with groupBy := some property }.Plain :=
    { plain with groupBy := fun _ h => Option.mem_some.mp h ▸ plain' }
  have layout_ : layout { r with groupBy := some property } =
      { layout r with groupBy := some (property, "ASC".toList) } := by
    rw [layout, given?_of_ne_nil ne]
    rfl
  have place' : (layout r).groupBy.isSome = true ∨ (layout r).sort = none := by
    simpa [layout] using place
  rw [ofRequest_eq_text edited columns, ofRequest_eq_text plain columns, layout_,
    (layout_ok plain columns).setGroupBy plain' (by decide) place']

end Edits

end Draft

/-! ### Patching refines rendering -/

/-- **Patching a new document is rendering it anew.** The edits of the view of a rendered form are
what the form with the edited field renders, and the same holds of the document of a request. -/
theorem patching_refines_rendering :
    (∀ {form : Form} {d : Text}, form.Editable → form.render = .ok d →
      (∀ kind ∈ Form.viewTypes,
        { form with viewType := kind }.render = .ok (setViewType kind d)) ∧
      (∀ name, IsName name →
        { form with viewName := some name }.render = .ok (renameView name d)) ∧
      (∀ property, IsName property → ∀ direction ∈ Form.directions,
        { form with sortBy := some property, sortDirection := some direction }.render =
          .ok (setSort property direction d)) ∧
      (Form.arranges form.groupBy form.groupDirection = true ∨
          Form.arranges form.sortBy form.sortDirection = false →
        ∀ property, IsName property → ∀ direction ∈ Form.directions,
          { form with groupBy := some property, groupDirection := some direction }.render =
            .ok (setGroupBy property direction d))) ∧
    ∀ {r : Request}, r.Plain → (∀ refs ∈ r.properties, Text.Plain refs) →
      ((∀ kind ∈ r.viewType, Flush kind) → ∀ kind ∈ Form.viewTypes,
        Draft.ofRequest { r with viewType := some kind } =
          setViewType kind (Draft.ofRequest r)) ∧
      (∀ name, IsName name → '"' ∉ name →
        Draft.ofRequest { r with renameTo := some name } =
          renameView name (Draft.ofRequest r)) ∧
      (∀ property, IsName property → ∀ direction ∈ Form.directions,
        Draft.ofRequest { r with sorting := some ⟨property, direction⟩ } =
          setSort property direction (Draft.ofRequest r)) ∧
      ((Text.given? r.groupBy).isSome = true ∨ r.sorting = none →
        ∀ property, IsName property →
          Draft.ofRequest { r with groupBy := some property } =
            setGroupBy property "ASC".toList (Draft.ofRequest r)) := by
  refine ⟨fun editable rendered => ⟨?_, ?_, ?_, ?_⟩, fun plain columns => ⟨?_, ?_, ?_, ?_⟩⟩
  · exact fun kind mem => editable.setViewType rendered mem
  · exact fun name isName => editable.renameView rendered isName
  · exact fun property isName direction mem => editable.setSort rendered isName mem
  · exact fun place property isName direction mem => editable.setGroupBy rendered isName mem place
  -- The kind of a draft must be one that stays a single word in the document.
  · intro flush kind mem
    have kinds : ∀ kind ∈ Form.viewTypes, kind ≠ [] ∧ '\n' ∉ kind := by decide
    exact Draft.setViewType_ofRequest plain columns flush (kinds kind mem).1 (kinds kind mem).2
  · exact fun name isName quote =>
      Draft.renameView_ofRequest plain columns isName.ne_nil isName.plain quote
  · intro property isName direction mem
    have plains : ∀ direction ∈ Form.directions, '\n' ∉ direction := by decide
    exact Draft.setSort_ofRequest plain columns isName.plain (plains direction mem)
  · exact fun place property isName =>
      Draft.setGroupBy_ofRequest plain columns isName.ne_nil isName.plain place

/-- A shelf with a tag and a sorting, edited in each way. -/
theorem patched_shelf : ∃ d,
    ({ tags := ["#book".toList], sortBy := some "size".toList, sortDirection := some "asc".toList,
       groupBy := some "folder".toList, groupDirection := some "DESC".toList } : Form).render =
      .ok d ∧
    ({ tags := ["#book".toList], viewType := "cards".toList, sortBy := some "size".toList,
       sortDirection := some "asc".toList, groupBy := some "folder".toList,
       groupDirection := some "DESC".toList } : Form).render =
      .ok (setViewType "cards".toList d) ∧
    ({ tags := ["#book".toList], viewName := some "Shelf".toList, sortBy := some "size".toList,
       sortDirection := some "asc".toList, groupBy := some "folder".toList,
       groupDirection := some "DESC".toList } : Form).render =
      .ok (renameView "Shelf".toList d) ∧
    ({ tags := ["#book".toList], sortBy := some "author".toList,
       sortDirection := some "DESC".toList, groupBy := some "folder".toList,
       groupDirection := some "DESC".toList } : Form).render =
      .ok (setSort "author".toList "DESC".toList d) ∧
    ({ tags := ["#book".toList], sortBy := some "size".toList, sortDirection := some "asc".toList,
       groupBy := some "author".toList, groupDirection := some "ASC".toList } : Form).render =
      .ok (setGroupBy "author".toList "ASC".toList d) ∧
    Draft.ofRequest { tag := some "book".toList, viewType := some "cards".toList } =
      setViewType "cards".toList (Draft.ofRequest { tag := some "book".toList }) ∧
    Draft.ofRequest { tag := some "book".toList, renameTo := some "Shelf".toList } =
      renameView "Shelf".toList (Draft.ofRequest { tag := some "book".toList }) ∧
    Draft.ofRequest { tag := some "book".toList, sorting := some ⟨"size".toList, "DESC".toList⟩ } =
      setSort "size".toList "DESC".toList (Draft.ofRequest { tag := some "book".toList }) ∧
    Draft.ofRequest { tag := some "book".toList, groupBy := some "author".toList } =
      setGroupBy "author".toList "ASC".toList (Draft.ofRequest { tag := some "book".toList }) := by
  let form : Form :=
    { tags := ["#book".toList], sortBy := some "size".toList, sortDirection := some "asc".toList,
      groupBy := some "folder".toList, groupDirection := some "DESC".toList }
  have plain : form.Plain := by
    constructor <;> decide
  have columns : Form.entries form.properties ≠ [] := by decide
  have editable : form.Editable := by
    refine ⟨plain, fun formulas _ none => columns ?_⟩
    exact (List.append_eq_nil_iff.mp (List.append_eq_nil_iff.mp none).1).1
  have shelf : IsName "Shelf".toList := by constructor <;> decide
  have author : IsName "author".toList := by constructor <;> decide
  have size : IsName "size".toList := by constructor <;> decide
  have request : Request.Plain { tag := some "book".toList } := by constructor <;> decide
  obtain ⟨d, rendered⟩ := form.exists_render (by decide +kernel)
  obtain ⟨kind, name, sort, group⟩ := patching_refines_rendering.1 editable rendered
  obtain ⟨kind', name', sort', group'⟩ := patching_refines_rendering.2 request (by decide)
  exact ⟨d, rendered, kind _ (by decide), name _ shelf, sort _ author _ (by decide),
    group (by decide) _ author _ (by decide), kind' (by decide) _ (by decide),
    name' _ shelf (by decide), sort' _ size _ (by decide), group' (by decide) _ author⟩

/-- A space in front of the kind of a request stays in front of the next kind. -/
theorem spaced_kind_is_not_rendered_anew :
    ¬ ∀ r : Request, r.Plain → (∀ refs ∈ r.properties, Text.Plain refs) →
      ∀ kind ∈ Form.viewTypes, Draft.ofRequest { r with viewType := some kind } =
        setViewType kind (Draft.ofRequest r) := by
  intro claim
  have request : Request.Plain { viewType := some " x".toList } := by constructor <;> decide
  have same := claim { viewType := some " x".toList } request (by decide) "list".toList (by decide)
  revert same
  decide +kernel

end Notebase
