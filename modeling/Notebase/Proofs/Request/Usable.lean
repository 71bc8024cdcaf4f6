import Notebase.Proofs.Rendering
import Notebase.Proofs.Request.Neat

/-!
Parts of a request on a line of a document. Every text that a sentence yields is a name, with
something written on one line and no blank around it, except that a folder in quotation marks is
taken as it stands between them (`parts_are_names`): it may be empty, and it may run over lines.
-/

namespace Notebase

/-! ### What a match is about -/

namespace Pattern

/-- A pattern that captures a stretch in every reading, such that `P` relates the text that is read
to the last stretch captured. -/
def Names (P : Text → Text → Prop) (p : Pattern) : Prop :=
  ∀ s, ∀ s' ∈ p.readings s, ∃ stretch ∈ s'.captured, P s.rest (stretch.1.take stretch.2)

variable {P Q : Text → Text → Prop} {q : Char → Bool} {a b : Pattern}

theorem Names.mono (h : Names P a) (weaker : ∀ t name, P t name → Q t name) : Names Q a := by
  intro s s' mem
  obtain ⟨stretch, captured, holds⟩ := h s s' mem
  exact ⟨stretch, captured, weaker _ _ holds⟩

theorem Names.alt (ha : Names P a) (hb : Names P b) : Names P (.alt a b) := by
  intro s s' mem
  rcases List.mem_append.mp mem with mem | mem
  · exact ha s s' mem
  · exact hb s s' mem

/-- A relation that a text has to a name if a later part of the text has it. -/
def Inherited (P : Text → Text → Prop) : Prop := ∀ t t' name, t' <:+ t → P t' name → P t name

theorem Names.seq (a : Pattern) (later : Inherited P) (hb : Names P b) : Names P (.seq a b) := by
  intro s s' mem
  obtain ⟨mid, first, second⟩ := List.mem_flatMap.mp mem
  obtain ⟨stretch, captured, holds⟩ := hb mid s' second
  exact ⟨stretch, captured, later _ _ _ (leads_of_mem_readings first).rest holds⟩

/-- What the last of several patterns captures is what all of them are about. -/
theorem Names.inOrder {ps : List Pattern} (later : Inherited P) (ne : ps ≠ [])
    (last : Names P (ps.getLast ne)) : Names P (inOrder ps) := by
  induction ps with
  | nil => exact absurd rfl ne
  | cons p ps ih =>
      cases ps with
      | nil => exact last
      | cons p' ps => exact (ih (List.cons_ne_nil _ _) last).seq p later

/-- What starts with one character of a class and has characters of the class only is written. -/
theorem names_capture {p : Char → Bool} (only : Only q (.seq (.char p) b)) :
    Names (fun _ name => name ≠ [] ∧ ∀ c ∈ name, q c = true) (.capture (.seq (.char p) b)) := by
  intro s s' mem
  obtain ⟨last, inner, rfl⟩ := List.mem_map.mp mem
  obtain ⟨u, text, count, all⟩ := only s last inner
  have written : u ≠ [] := by
    rintro rfl
    obtain ⟨mid, first, second⟩ := List.mem_flatMap.mp inner
    obtain ⟨c, rest, text', -, rfl⟩ := exists_cons_of_mem_readings_char first
    have shorter := (leads_of_mem_readings second).rest.length_le
    rw [List.nil_append] at text
    rw [← text, text', List.length_cons] at shorter
    simp only [Reading.advance] at shorter
    omega
  refine ⟨_, rfl, ?_⟩
  dsimp only
  rw [text, count, Nat.add_sub_cancel_left, List.take_left' rfl]
  exact ⟨written, all⟩

/-- A name that is captured between two marks stands between them in the text. -/
theorem names_between (mark : Char) (a : Pattern) :
    Names (fun t name => mark :: name ++ [mark] <:+: t)
      (inOrder [exactly mark, .capture a, exactly mark]) := by
  intro s s' mem
  obtain ⟨start, first, mem⟩ := List.mem_flatMap.mp mem
  obtain ⟨stop, inner, second⟩ := List.mem_flatMap.mp mem
  obtain ⟨last, listed, rfl⟩ := List.mem_map.mp inner
  obtain ⟨c, rest, text, isMark, rfl⟩ := exists_cons_of_mem_readings_char first
  obtain ⟨d, rest', text', isMark', rfl⟩ := exists_cons_of_mem_readings_char second
  obtain ⟨u, between, count⟩ := (leads_of_mem_readings listed).exists_append
  refine ⟨_, rfl, ?_⟩
  dsimp only at between count text' ⊢
  rw [text', eq_of_beq isMark'] at between
  rw [count, Nat.add_sub_cancel_left, between, List.take_left' rfl, text, eq_of_beq isMark]
  simp only [Reading.advance] at between
  exact ⟨[], rest', by rw [between]; simp⟩

section Matches

variable {p : Pattern} (later : Inherited P) (h : Names P p) {t : Text} {m : Match}
include h

theorem Names.of_matchAt? {prev : Option Char} (found : p.matchAt? prev t = some m) :
    P t m.subject := by
  obtain ⟨s, mem, -, rfl⟩ := matchAt?_eq_some found
  obtain ⟨stretch, captured, holds⟩ := h _ s mem
  rw [matchOf, Option.mem_def.mp captured]
  exact holds

include later

theorem Names.of_find? {before : Text} (found : p.find? t = some (before, m)) : P t m.subject := by
  obtain ⟨prev, u, suffix_, found⟩ := mem_findFrom? found
  exact later _ _ _ suffix_ (h.of_matchAt? found)

theorem Names.of_mem_findAll (mem : m ∈ p.findAll t) : P t m.subject := by
  obtain ⟨prev, u, suffix_, found⟩ := mem_findAllFrom mem
  exact later _ _ _ suffix_ (h.of_matchAt? found)

end Matches

end Pattern

namespace Request

open Document

/-! ### Tags and folders -/

/-- A name without quotation marks: characters of a path, at least one. -/
def IsPath (name : Text) : Prop := name ≠ [] ∧ ∀ c ∈ name, Phrase.isPathChar c = true

theorem names_pathName : Pattern.Names (fun _ => IsPath) (.capture Phrase.pathName) :=
  Pattern.names_capture only_pathName

theorem IsPath.isName {name : Text} (h : IsPath name) : IsName name where
  ne_nil := h.1
  trim_eq := (Text.trimmed_of_forall fun c hc => not_isBlank_of_isPathChar (h.2 c hc)).trim_eq
  plain mem := absurd (h.2 _ mem) (by decide)

/-- A tag that is found can be used as a name. -/
theorem isName_tagOf {t tag : Text} (h : tagOf t = some tag) : IsName tag := by
  have inherited : Pattern.Inherited fun _ : Text => IsPath := fun _ _ _ _ holds => holds
  have literal : Pattern.Names (fun _ => IsPath) Phrase.tagLiteral :=
    .inOrder inherited (List.cons_ne_nil _ _) names_pathName
  have phrase : Pattern.Names (fun _ => IsPath) Phrase.tagPhrase :=
    .inOrder inherited (List.cons_ne_nil _ _) names_pathName
  rw [tagOf] at h
  split at h
  · next before m found =>
      cases h
      exact (literal.of_find? inherited found).isName
  · obtain ⟨m, mem, rfl⟩ := List.mem_map.mp (List.mem_of_find?_eq_some h)
    exact (phrase.of_mem_findAll inherited mem).isName

/-- A text that stands between two quotation marks of the same kind. -/
def QuotedIn (t name : Text) : Prop := ∃ mark ∈ ['"', '\''], mark :: name ++ [mark] <:+: t

theorem names_folderName :
    Pattern.Names (fun t name => IsPath name ∨ QuotedIn t name) Phrase.folderName := by
  refine .alt ?_ (.alt ?_ ?_)
  · exact (Pattern.names_between '"' _).mono fun t name quoted => .inr ⟨'"', by simp, quoted⟩
  · exact (Pattern.names_between '\'' _).mono fun t name quoted => .inr ⟨'\'', by simp, quoted⟩
  · exact names_pathName.mono fun t name path => .inl path

theorem inherited_folderName :
    Pattern.Inherited fun t name => IsPath name ∨ QuotedIn t name := by
  rintro t t' name suffix_ (path | ⟨mark, mem, quoted⟩)
  · exact .inl path
  · exact .inr ⟨mark, mem, quoted.trans suffix_.isInfix⟩

/-- **A folder** is a path, or what stands between two quotation marks without the blanks around
it. -/
theorem path_or_quoted_of_folderOf {t folder : Text} (h : folderOf t = some folder) :
    IsPath folder ∨ ∃ raw, QuotedIn t raw ∧ raw.trim = folder := by
  have announced : Pattern.Names (fun t name => IsPath name ∨ QuotedIn t name)
      Phrase.folderPhrase := .inOrder inherited_folderName (List.cons_ne_nil _ _) names_folderName
  have placed : Pattern.Names (fun t name => IsPath name ∨ QuotedIn t name) Phrase.inPhrase :=
    .inOrder inherited_folderName (List.cons_ne_nil _ _) names_folderName
  obtain ⟨m, mem, rfl⟩ := List.mem_map.mp (List.mem_of_find?_eq_some h)
  have either : IsPath m.subject ∨ QuotedIn t m.subject := by
    rcases List.mem_append.mp mem with mem | mem
    · exact announced.of_mem_findAll inherited_folderName mem
    · exact placed.of_mem_findAll inherited_folderName mem
  rcases either with path | quoted
  · exact .inl (by rw [path.isName.trim_eq]; exact path)
  · exact .inr ⟨m.subject, quoted, rfl⟩

end Request

/-! ### Whole requests -/

theorem isName_of_written {name : Text} (written : name.Written) (plain : '\n' ∉ name) :
    IsName name :=
  ⟨written.ne_nil, written.trimmed.trim_eq, plain⟩

/-- A name stands for a reference that is a name. -/
theorem isName_resolve {name : Text} (written : name.Written) : IsName (Property.resolve name) :=
  isName_of_written (Property.written_resolve written) (tidy_resolve name).plain

open Request in
/-- **The parts of a request are names**, each of them one line of text without blanks around it.
A folder may be empty or have several lines, but only if it is what stands between two quotation
marks of the sentence. -/
theorem parts_are_names (t : Text) :
    let r := Request.ofText Property.resolve t
    (∀ tag ∈ r.tag, IsName tag) ∧
      (∀ refs ∈ r.properties, ∀ ref ∈ refs, IsName ref) ∧
      (∀ s ∈ r.sorting, IsName s.property) ∧
      (∀ property ∈ r.groupBy, IsName property) ∧
      (∀ name ∈ r.renameTo, IsName name) ∧
      ∀ folder ∈ r.folder, folder.trim = folder ∧
        (IsName folder ∨
          (folder = [] ∨ '\n' ∈ folder) ∧ ∃ raw, QuotedIn t raw ∧ raw.trim = folder) := by
  refine ⟨fun tag h => isName_tagOf h, fun refs h ref mem => ?_, fun s h => ?_,
    fun property h => ?_, fun name h => ?_, fun folder h => ?_⟩
  · obtain ⟨names, found, rfl⟩ := Option.map_eq_some_iff.mp h
    obtain ⟨name, mem', rfl⟩ := List.mem_map.mp (List.mem_eraseDups.mp mem)
    exact isName_resolve ((written_namesAfter found).2 name mem')
  · obtain ⟨s', present, rfl⟩ := Option.map_eq_some_iff.mp h
    obtain ⟨name, last, rfl⟩ := Option.map_eq_some_iff.mp present
    exact isName_resolve (written_lastName last)
  · obtain ⟨name, last, rfl⟩ := Option.map_eq_some_iff.mp h
    exact isName_resolve (written_lastName last)
  · exact isName_of_written ((neat_ofText t).renameTo name h).1 (not_mem_renameOf h (by decide))
  -- A folder is a path, which is a name, or stands in quotation marks, where it may be anything.
  · have trimmed : folder.trim = folder := ((neat_ofText t).folder folder h).trim_eq
    refine ⟨trimmed, ?_⟩
    rcases path_or_quoted_of_folderOf h with path | quoted
    · exact .inl path.isName
    · by_cases other : folder = [] ∨ '\n' ∈ folder
      · exact .inr ⟨other, quoted⟩
      · rw [not_or] at other
        exact .inl ⟨other.1, trimmed, other.2⟩

/-- A folder in quotation marks need not be a name: it is empty if only a blank is quoted, and it
has a line end if the quotation has. -/
theorem quoted_folder_is_no_name :
    (¬ ∀ t, ∀ folder ∈ (Request.ofText Property.resolve t).folder, folder ≠ []) ∧
      ¬ ∀ t, ∀ folder ∈ (Request.ofText Property.resolve t).folder, '\n' ∉ folder := by
  constructor
  · intro all
    exact all "notes in folder \" \"".toList [] (by decide) rfl
  · intro all
    exact all "notes in folder \"Daily\nNotes\"".toList "Daily\nNotes".toList (by decide)
      (by decide)

end Notebase
