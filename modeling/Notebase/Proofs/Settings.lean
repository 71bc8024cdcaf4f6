import Notebase.Proofs.Text.Breaks
import Notebase.Proofs.Text.Padding
import Notebase.Proofs.Text.Rows
import Notebase.Settings

/-!
Assignments of nothing. Where the file of assignments gives a setting only blanks and quotation
marks, the line still counts: it stands for an empty value, and hides the lines after it. So the
settings are not always the ones that the file without such lines gives (`load_withoutHollow_iff`).
-/

namespace Notebase

/-! ### Hollow values -/

/-- A blank, or a quotation mark of either kind. -/
def isHollowChar (c : Char) : Bool := isBlank c || c == '"' || c == '\''

namespace Text

/-- A value in which nothing but blanks and quotation marks is written. -/
def isHollow (t : Text) : Bool := t.all isHollowChar

/-- What may be dropped does not decide whether all characters are alike. -/
theorem all_dropWhile {p q : Char → Bool} (within : ∀ c, p c = true → q c = true) (t : Text) :
    (t.dropWhile p).all q = t.all q := by
  induction t with
  | nil => rfl
  | cons c t ih =>
      rw [List.dropWhile_cons]
      split
      · next passes => rw [ih, List.all_cons, within c passes, Bool.true_and]
      · rfl

theorem all_trimBy {p q : Char → Bool} (within : ∀ c, p c = true → q c = true) (t : Text) :
    (t.trimBy p).all q = t.all q := by
  rw [trimBy, dropEndWhile_eq_rdropWhile, List.rdropWhile, List.all_reverse,
    all_dropWhile within, List.all_reverse, all_dropWhile within]

end Text

def hollowChars : List Char := blankChars ++ ['"', '\'']

theorem mem_hollowChars {c : Char} (hollow : isHollowChar c = true) : c ∈ hollowChars := by
  rw [isHollowChar, Bool.or_eq_true, Bool.or_eq_true, beq_iff_eq, beq_iff_eq] at hollow
  rcases hollow with (blank | rfl) | rfl
  · exact List.mem_append_left _ (mem_blankChars blank)
  · simp [hollowChars]
  · simp [hollowChars]

theorem upperChar_of_isHollowChar {c : Char} (hollow : isHollowChar c = true) :
    upperChar c = [c] := by
  have upper_self : ∀ c ∈ hollowChars, upperChar c = [c] := by decide +kernel
  exact upper_self c (mem_hollowChars hollow)

/-- A blank or a quotation mark is the capital of nothing else. -/
theorem eq_of_mem_upperChar {c d : Char} (hollow : isHollowChar d = true) (mem : d ∈ upperChar c) :
    d = c := by
  have none : ∀ d ∈ hollowChars, NoCapitals (d.toNat, d.toNat) := by decide +kernel
  by_contra ne
  exact (none d (mem_hollowChars hollow)).not_mem_upperChar ne mem

namespace Text

theorem upper_of_isHollow {t : Text} (hollow : t.isHollow = true) : t.upper = t := by
  have same : ∀ c ∈ t, upperChar c = [c] := fun c hc =>
    upperChar_of_isHollowChar (List.all_eq_true.mp hollow c hc)
  rw [upper, List.flatMap_congr same, List.flatMap_singleton']

/-- Capital letters do not fill a hollow text. -/
theorem isHollow_upper (t : Text) : t.upper.isHollow = t.isHollow := by
  rw [Bool.eq_iff_iff]
  constructor
  · intro hollow
    refine List.all_eq_true.mpr fun c hc => ?_
    obtain ⟨d, hd⟩ := List.exists_mem_of_ne_nil _ (upperChar_ne_nil c)
    have hollowChar := List.all_eq_true.mp hollow d (List.mem_flatMap.mpr ⟨c, hc, hd⟩)
    exact eq_of_mem_upperChar hollowChar hd ▸ hollowChar
  · intro hollow
    rwa [upper_of_isHollow hollow]

theorem upper_ne_nil {t : Text} (ne : t ≠ []) : t.upper ≠ [] := by
  obtain ⟨c, rest, rfl⟩ := List.exists_cons_of_ne_nil ne
  rw [upper, List.flatMap_cons]
  exact List.append_ne_nil_of_left_ne_nil (upperChar_ne_nil c) _

/-- A hollow value that is not empty stays hollow in lower case. -/
theorem exists_hollow_lower {t : Text} (hollow : t.isHollow = true) (ne : t ≠ []) :
    ∃ c ∈ t.lower, isHollowChar c = true := by
  have caseless : ∀ c ∈ hollowChars, Caseless c := by decide +kernel
  obtain ⟨c, hc⟩ := List.exists_mem_of_ne_nil _ ne
  have hollowChar := List.all_eq_true.mp hollow c hc
  have count := (caseless c (mem_hollowChars hollowChar)).count_lower t
  exact ⟨c, List.count_pos_iff.mp (count ▸ List.count_pos_iff.mpr hc), hollowChar⟩

end Text

/-! ### Values that lines assign -/

namespace Environment

def settingNames : List Text :=
  ["BASES_GENERATION_MODE".toList, "BASES_GENERATOR_URL".toList, "BASES_OPENAI_MODEL".toList,
    "BASES_LOG_LEVEL".toList, "OPENAI_API_KEY".toList]

/-- Whether a line gives a setting a value in which nothing but blanks and quotation marks is
written. -/
def assignsHollow (line : Text) : Bool :=
  settingNames.any (fun name => (name ++ ['=']).isPrefixOf line.trim) &&
    Text.isHollow (line.dropWhile (· != '=')).tail

def withoutHollow (e : Environment) : Environment :=
  { e with assignments := e.assignments.map (Text.dropLines assignsHollow) }

def assignedValues (e : Environment) (name : Text) : List Text :=
  (e.assignments.elim [] Text.brokenLines).filterMap (assigned? name)

theorem assigned?_nil (name : Text) : assigned? name [] = none := by
  cases name <;> rfl

/-- An assigned value is hollow if nothing but marks and blanks follow the sign. -/
theorem isHollow_of_assigned? {name line value : Text} (h : assigned? name line = some value) :
    value.isHollow = Text.isHollow (line.dropWhile (· != '=')).tail := by
  rw [assigned?] at h
  split at h
  · cases h
    rw [Text.isHollow, Text.all_trimBy, Text.trim, Text.all_trimBy]
    · rfl
    · intro c blank
      rw [isHollowChar, blank, Bool.true_or, Bool.true_or]
    · intro c passes
      simp only [isHollowChar, Bool.or_eq_true, beq_iff_eq] at passes ⊢
      rcases passes with (double | single) | rfl
      · exact .inl (.inr double)
      · exact .inr single
      · exact .inl (.inl (by decide))
  · cases h

/-- A line is deleted exactly if the value it gives to a setting is hollow. -/
theorem assignsHollow_eq {name line value : Text} (setting : name ∈ settingNames)
    (h : assigned? name line = some value) : assignsHollow line = value.isHollow := by
  rw [isHollow_of_assigned? h, assignsHollow]
  have start : (name ++ ['=']).isPrefixOf line.trim = true := by
    by_contra other
    rw [assigned?, if_neg other] at h
    cases h
  have any : settingNames.any (fun name => (name ++ ['=']).isPrefixOf line.trim) = true :=
    List.any_eq_true.mpr ⟨name, setting, start⟩
  rw [any, Bool.true_and]

/-- What is left of the values of a setting are those that are not hollow. -/
theorem assignedValues_withoutHollow {name : Text} (setting : name ∈ settingNames)
    (e : Environment) : e.withoutHollow.assignedValues name =
      (e.assignedValues name).filter fun value => !value.isHollow := by
  rw [assignedValues, assignedValues, withoutHollow]
  cases e.assignments with
  | none => rfl
  | some t =>
      show (Text.brokenLines (Text.dropLines assignsHollow t)).filterMap _ = _
      rw [Text.filterMap_brokenLines_dropLines (assigned?_nil name), List.filter_filterMap,
        List.filterMap_filter]
      refine List.filterMap_congr fun line _ => ?_
      cases assigned_eq : assigned? name line with
      -- Such a line may be deleted too, but it has no value for this setting.
      | none => simp
      | some value => simp [assignsHollow_eq setting assigned_eq, Option.filter]

/-- A setting is read from the environment first, and then from the first line that assigns it. -/
theorem read?_eq (e : Environment) (name : Text) : e.read? name =
    (Text.given? (e.values.get? name)).or (e.assignedValues name).head? := by
  rw [read?, assignedValues]
  cases Text.given? (e.values.get? name) with
  | some value => rfl
  | none =>
      cases e.assignments with
      | none => rfl
      | some t => exact (List.head?_filterMap).symm

def firstFilled? (e : Environment) (name : Text) : Option Text :=
  (e.assignedValues name).find? fun value => !value.isHollow

theorem isHollow_of_firstFilled? {e : Environment} {name value : Text}
    (found : e.firstFilled? name = some value) : value.isHollow = false := by
  simpa using List.find?_some found

theorem given?_firstFilled? (e : Environment) (name : Text) :
    Text.given? (e.firstFilled? name) = e.firstFilled? name := by
  cases found : e.firstFilled? name with
  | none => rfl
  | some value =>
      refine given?_of_ne_nil ?_
      rintro rfl
      cases isHollow_of_firstFilled? found

theorem isHollow_getD_firstFilled? (e : Environment) (name : Text) {default : Text}
    (filled : default.isHollow = false) :
    ((e.firstFilled? name).getD default).isHollow = false := by
  cases found : e.firstFilled? name with
  | none => exact filled
  | some value => exact isHollow_of_firstFilled? found

/-- Without the hollow values, the first one that is not hollow is read. -/
theorem read?_withoutHollow {name : Text} (setting : name ∈ settingNames) (e : Environment) :
    e.withoutHollow.read? name =
      (Text.given? (e.values.get? name)).or (e.firstFilled? name) := by
  rw [read?_eq, assignedValues_withoutHollow setting, List.head?_filter]
  rfl

/-- A hollow value counts for a setting: it is not in the environment, and the first line that
assigns to it gives it a hollow value. -/
def HollowCounts (e : Environment) (name : Text) : Prop :=
  Text.given? (e.values.get? name) = none ∧ ∃ value ∈ (e.assignedValues name).head?,
    value.isHollow = true

theorem HollowCounts.exists_value {e : Environment} {name : Text} (counts : e.HollowCounts name) :
    ∃ value, e.read? name = some value ∧ value.isHollow = true := by
  obtain ⟨missing, value, first, hollow⟩ := counts
  refine ⟨value, ?_, hollow⟩
  rw [read?_eq, missing, Option.none_or, first]

/-- Where no hollow assignment counts, the setting is read as before. -/
theorem read?_withoutHollow_of_not {name : Text} (setting : name ∈ settingNames) {e : Environment}
    (uncounted : ¬ e.HollowCounts name) : e.withoutHollow.read? name = e.read? name := by
  rw [read?_withoutHollow setting, read?_eq]
  cases missing : Text.given? (e.values.get? name) with
  | some value => rfl
  | none =>
      rw [Option.none_or, Option.none_or, firstFilled?]
      cases values : e.assignedValues name with
      | nil => rfl
      | cons value rest =>
          have filled : value.isHollow = false := by
            by_contra hollow
            rw [Bool.not_eq_false] at hollow
            exact uncounted ⟨missing, value, by rw [values, List.head?_cons, Option.mem_some_iff],
              hollow⟩
          rw [List.find?_cons_of_pos (by rw [filled, Bool.not_false]), List.head?_cons]

/-- Where a hollow value counts, the first value that is not hollow takes its place. So what depends
on a setting stays as it is exactly if it is the same for both. -/
theorem read?_withoutHollow_congr_iff {β : Type} (g : Option Text → β) {name : Text}
    (setting : name ∈ settingNames) (e : Environment) :
    g (e.withoutHollow.read? name) = g (e.read? name) ↔
      (e.HollowCounts name → g (e.firstFilled? name) = g (e.read? name)) := by
  by_cases counts : e.HollowCounts name
  · have next : e.withoutHollow.read? name = e.firstFilled? name := by
      rw [read?_withoutHollow setting, counts.1, Option.none_or]
    rw [next]
    exact ⟨fun same _ => same, fun same => same counts⟩
  · rw [read?_withoutHollow_of_not setting counts]
    exact iff_of_true rfl fun counts' => absurd counts' counts

end Environment

/-! ### Settings -/

namespace Settings

open Environment

variable (e : Environment)

/-- The address of the service is the same exactly if no hollow assignment to it counts. -/
theorem generatorUrl_withoutHollow_iff :
    (load e.withoutHollow).generatorUrl = (load e).generatorUrl ↔
      ¬ e.HollowCounts "BASES_GENERATOR_URL".toList := by
  refine (read?_withoutHollow_congr_iff id (by decide) e).trans ?_
  refine forall_congr' fun counts => iff_of_false (fun same => ?_) id
  obtain ⟨value, read, hollow⟩ := counts.exists_value
  rw [id, id, read] at same
  rw [isHollow_of_firstFilled? same] at hollow
  cases hollow

/-- The model is the same exactly if no hollow assignment to it counts. -/
theorem model_withoutHollow_iff :
    (load e.withoutHollow).model = (load e).model ↔
      ¬ e.HollowCounts "BASES_OPENAI_MODEL".toList := by
  refine (read?_withoutHollow_congr_iff (·.getD "gpt-4o-mini".toList) (by decide) e).trans ?_
  refine forall_congr' fun counts => iff_of_false (fun same => ?_) id
  obtain ⟨value, read, hollow⟩ := counts.exists_value
  rw [read, Option.getD_some] at same
  rw [← same, isHollow_getD_firstFilled? e _ (by decide)] at hollow
  cases hollow

/-- Where the default is as said, only a value that is there needs to be looked at. -/
theorem apply_getD_eq_iff {β : Type} {g : Text → β} {default : Text} {b : β} (h : g default = b)
    (o : Option Text) : g (o.getD default) = b ↔ ∀ value ∈ o, g value = b := by
  cases o with
  | none => simp [h]
  | some value => simp

theorem modeOfName_eq_local_iff {name : Text} :
    modeOfName name = .local ↔ name.lower ≠ "remote".toList := by
  rw [modeOfName]
  split
  · next remote => exact iff_of_false (by decide) (absurd remote)
  · next other => exact iff_of_true rfl other

/-- A hollow value stands for the local mode, whether it is empty or not. -/
theorem modeOfName_of_isHollow {value : Text} (hollow : value.isHollow = true) :
    modeOfName ((Text.given? (some value)).getD "local".toList) = .local := by
  cases value with
  | nil => rfl
  | cons c t =>
      obtain ⟨d, hd, hollowChar⟩ := Text.exists_hollow_lower hollow (List.cons_ne_nil c t)
      have none : ∀ d ∈ "remote".toList, ¬ isHollowChar d = true := by decide
      exact modeOfName_eq_local_iff.mpr fun remote => none d (remote ▸ hd) hollowChar

/-- The mode stays local unless the value that takes the place of the hollow one says otherwise. -/
theorem mode_withoutHollow_iff :
    (load e.withoutHollow).mode = (load e).mode ↔
      (e.HollowCounts "BASES_GENERATION_MODE".toList →
        ∀ value ∈ e.firstFilled? "BASES_GENERATION_MODE".toList,
          value.lower ≠ "remote".toList) := by
  refine (read?_withoutHollow_congr_iff (fun o => modeOfName ((Text.given? o).getD "local".toList))
    (by decide) e).trans ?_
  refine forall_congr' fun counts => ?_
  obtain ⟨value, read, hollow⟩ := counts.exists_value
  rw [read, modeOfName_of_isHollow hollow, given?_firstFilled?, apply_getD_eq_iff (by decide)]
  simp only [modeOfName_eq_local_iff]

/-- The log level stays only if the hollow value is empty, and the value that takes its place is the
default. -/
theorem logLevel_withoutHollow_iff :
    (load e.withoutHollow).logLevel = (load e).logLevel ↔
      (e.HollowCounts "BASES_LOG_LEVEL".toList →
        e.read? "BASES_LOG_LEVEL".toList = some [] ∧
          ∀ value ∈ e.firstFilled? "BASES_LOG_LEVEL".toList, value.upper = "INFO".toList) := by
  refine (read?_withoutHollow_congr_iff (fun o => Text.upper ((Text.given? o).getD "INFO".toList))
    (by decide) e).trans ?_
  refine forall_congr' fun counts => ?_
  obtain ⟨value, read, hollow⟩ := counts.exists_value
  have filled := isHollow_getD_firstFilled? e "BASES_LOG_LEVEL".toList
    (show Text.isHollow "INFO".toList = false by decide)
  have info : Text.upper "INFO".toList = "INFO".toList := by decide +kernel
  rw [read, given?_firstFilled?]
  cases value with
  | nil =>
      rw [show Text.given? (some []) = none from rfl, Option.getD_none, info, apply_getD_eq_iff info]
      exact (and_iff_right rfl).symm
  -- A value like a tab in quotes is not empty. It is its own capital, and that of no other value.
  | cons c t =>
      rw [Text.given?, Option.getD_some, Text.upper_of_isHollow hollow]
      refine iff_of_false (fun same => ?_) (by simp)
      rw [← same, Text.isHollow_upper, filled] at hollow
      cases hollow

/-- A log level is always written. -/
theorem logLevel_ne_nil : (load e).logLevel ≠ [] := by
  refine Text.upper_ne_nil ?_
  cases given : Text.given? (e.read? "BASES_LOG_LEVEL".toList) with
  | none => decide
  | some level => exact ne_nil_of_given? given

/-- A model is missing only where the first line that assigns to it gives it the empty value. -/
theorem model_eq_nil_iff :
    (load e).model = [] ↔ Text.given? (e.values.get? "BASES_OPENAI_MODEL".toList) = none ∧
      (e.assignedValues "BASES_OPENAI_MODEL".toList).head? = some [] := by
  show (e.read? "BASES_OPENAI_MODEL".toList).getD "gpt-4o-mini".toList = [] ↔ _
  rw [read?_eq]
  cases given : Text.given? (e.values.get? "BASES_OPENAI_MODEL".toList) with
  | some value =>
      refine iff_of_false (ne_nil_of_given? given) ?_
      rintro ⟨⟨⟩, -⟩
  | none =>
      rw [Option.none_or, and_iff_right rfl]
      cases (e.assignedValues "BASES_OPENAI_MODEL".toList).head? with
      | none => exact iff_of_false (by decide) (by simp)
      | some value => simp

theorem eq_iff {s s' : Settings} : s = s' ↔ s.mode = s'.mode ∧ s.generatorUrl = s'.generatorUrl ∧
    s.model = s'.model ∧ s.logLevel = s'.logLevel := by
  cases s
  cases s'
  exact Settings.mk.injEq .. ▸ Iff.rfl

/-- **Hollow assignments count.** The settings are those of the file without the lines that give a
setting only blanks and quotation marks exactly if no such line counts for the address or the model,
and those that count for the mode and the log level stand for the default and hide nothing else. The
log level is never empty, and the model is exactly where the first line that assigns to it gives it
the empty value. -/
theorem load_withoutHollow_iff :
    (load e.withoutHollow = load e ↔
      (e.HollowCounts "BASES_GENERATION_MODE".toList →
        ∀ value ∈ e.firstFilled? "BASES_GENERATION_MODE".toList,
          value.lower ≠ "remote".toList) ∧
      ¬ e.HollowCounts "BASES_GENERATOR_URL".toList ∧
      ¬ e.HollowCounts "BASES_OPENAI_MODEL".toList ∧
      (e.HollowCounts "BASES_LOG_LEVEL".toList →
        e.read? "BASES_LOG_LEVEL".toList = some [] ∧
          ∀ value ∈ e.firstFilled? "BASES_LOG_LEVEL".toList, value.upper = "INFO".toList)) ∧
    (load e).logLevel ≠ [] ∧
    ((load e).model = [] ↔ Text.given? (e.values.get? "BASES_OPENAI_MODEL".toList) = none ∧
      (e.assignedValues "BASES_OPENAI_MODEL".toList).head? = some []) := by
  refine ⟨?_, logLevel_ne_nil e, model_eq_nil_iff e⟩
  rw [eq_iff, mode_withoutHollow_iff, generatorUrl_withoutHollow_iff, model_withoutHollow_iff,
    logLevel_withoutHollow_iff]

/-- A line that assigns nothing to the model makes it empty; without the line it is the default. -/
theorem empty_assignment_hides_default :
    (¬ ∀ e : Environment, load e.withoutHollow = load e) ∧
    (¬ ∀ e : Environment, (load e).model ≠ []) ∧
    (load { assignments := some "BASES_OPENAI_MODEL=".toList }).model = [] ∧
    (load (Environment.withoutHollow { assignments := some "BASES_OPENAI_MODEL=".toList })).model =
      "gpt-4o-mini".toList := by
  have hidden : (load { assignments := some "BASES_OPENAI_MODEL=".toList }).model = [] := by
    decide
  have default_ : (load (Environment.withoutHollow
      { assignments := some "BASES_OPENAI_MODEL=".toList })).model = "gpt-4o-mini".toList := by
    decide +kernel
  refine ⟨fun same => ?_, fun filled => filled _ hidden, hidden, default_⟩
  rw [same, hidden] at default_
  cases default_

end Settings

end Notebase
