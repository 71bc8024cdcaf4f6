import Notebase.Proofs.Request.Framed
import Notebase.Proofs.Request.Parts
import Notebase.Proofs.Text.Trim

/-!
The parts of a request as they are written. Whatever the sentence, its request names a tag without
a number sign, a folder and a view name without blanks around them, and properties that are all
written out (`neat_ofText`).
-/

namespace Notebase

/-- A name stands for a reference that is written out. -/
theorem Property.written_resolve {name : Text} (h : name.Written) : (resolve name).Written := by
  rcases resolve_cases name with ⟨pair, mem, eq⟩ | eq
  · obtain ⟨ne, filled⟩ := word_of_mem_commonNames pair mem
    rw [eq]
    exact ⟨ne, Text.trimmed_of_forall filled⟩
  · rw [eq]
    exact Text.written_unwords h.words_ne_nil fun w hw => Text.mem_words hw

namespace Request

open Text

/-! ### Names -/

def core (raw : Text) : Text := (withoutQuotes raw).trimBy isNamePunctuation

def nameWords (raw : Text) : List Text := withoutNoise (words (core raw))

theorem cleanName_eq_some_iff {raw name : Text} :
    cleanName raw = some name ↔ nameWords raw ≠ [] ∧ unwords (nameWords raw) = name := by
  rw [cleanName, nameWords, core]
  split
  · next none => simp [none]
  · next other => simpa using fun _ => other

theorem nameWords_sublist (raw : Text) : (nameWords raw).Sublist (words (core raw)) :=
  dropEnds_sublist isNoise _

theorem written_cleanName {raw name : Text} (h : cleanName raw = some name) : name.Written := by
  obtain ⟨some, rfl⟩ := cleanName_eq_some_iff.mp h
  exact written_unwords some fun w hw => mem_words ((nameWords_sublist raw).subset hw)

/-- A name after "by" is written. -/
theorem written_nameOfFragment {fragment name : Text} (h : nameOfFragment fragment = some name) :
    name.Written := by
  rw [nameOfFragment] at h
  split at h
  · split at h
    · cases h
    · next unquoted other =>
        cases h
        exact ⟨other, trimmed_trim _⟩
  · exact written_cleanName h

theorem written_lastName {phrase : Pattern} {t name : Text} (h : lastName phrase t = some name) :
    name.Written := by
  obtain ⟨fragment, -, found⟩ := List.mem_filterMap.mp (List.mem_of_getLast? h)
  exact written_nameOfFragment found

/-- The names after a cue are written, and there is at least one. -/
theorem written_namesAfter {cues names : List Text} {t : Text}
    (h : namesAfter cues t = some names) : names ≠ [] ∧ ∀ name ∈ names, name.Written := by
  rw [namesAfter] at h
  split at h
  · cases h
  · split at h
    · cases h
    · next other =>
        cases h
        refine ⟨other, fun name mem => ?_⟩
        have kept := (List.mem_filter.mp (List.mem_eraseDups.mp mem)).1
        obtain ⟨raw, -, found⟩ := List.mem_filterMap.mp kept
        exact written_cleanName found

/-- The inside of a quoted name has no quotation mark that would close it, and no line end. -/
theorem captures_renamePhrase :
    Pattern.Captures (fun c => !"\"”’\n".toList.contains c) Phrase.renamePhrase := by
  have inner : ∀ c, (!"\"”’\n".toList.contains c) = true →
      (!"\"”’\n".toList.contains c) = true := fun _ passes => passes
  have subject := ((Pattern.only_char inner).seq (Pattern.only_lazyRun inner)).capture
  have name : Pattern.Captures (fun c => !"\"”’\n".toList.contains c) Phrase.quotedName :=
    .seq _ (subject.seq_char _)
  exact .seq _ (.seq _ (.seq _ (.seq _ (.seq _ (.seq _ (.seq _ name))))))

/-- A new name holds no double mark and no line end. -/
theorem not_mem_renameOf {t name : Text} (h : renameOf t = some name) {c : Char}
    (outside : "\"”’\n".toList.contains c = true) : c ∉ name := by
  rw [renameOf] at h
  split at h
  · cases h
  · next before m found =>
      split at h
      · cases h
      · cases h
        obtain ⟨prev, u, -, present⟩ := Pattern.mem_findFrom? found
        intro mem
        have inside := captures_renamePhrase.of_matchAt? present c (trim_subset _ mem)
        rw [outside] at inside
        cases inside

theorem quote_not_mem_renameOf {t name : Text} (h : renameOf t = some name) : '"' ∉ name :=
  not_mem_renameOf h (by decide)

/-! ### Requests -/

/-- A request whose parts are written without anything around them. A folder may be blank. -/
structure Neat (r : Request) : Prop where
  tag : ∀ tag ∈ r.tag, tag.Trimmed ∧ '#' ∉ tag
  folder : ∀ folder ∈ r.folder, folder.Trimmed
  viewType : ∀ kind ∈ r.viewType, kind ∈ ["cards", "list", "map", "table"].map String.toList
  properties : ∀ refs ∈ r.properties, refs ≠ [] ∧ ∀ ref ∈ refs, ref.Written
  sorting : ∀ s ∈ r.sorting,
    s.property.Written ∧ s.direction ∈ ["ASC", "DESC"].map String.toList
  groupBy : ∀ property ∈ r.groupBy, property.Written
  renameTo : ∀ name ∈ r.renameTo, name.Written ∧ '"' ∉ name

/-- **The request of a sentence is neat.** -/
theorem neat_ofText (t : Text) : (ofText Property.resolve t).Neat where
  tag tag h := by
    have path := isPathChar_of_mem_tagOf h
    exact ⟨trimmed_of_forall fun c hc => not_isBlank_of_isPathChar (path c hc),
      fun mem => absurd (path _ mem) (by decide)⟩
  folder folder h := by
    obtain ⟨m, -, rfl⟩ := List.mem_map.mp (List.mem_of_find?_eq_some h)
    exact trimmed_trim m.subject
  viewType kind h := mem_of_viewTypeOf h
  properties refs h := by
    obtain ⟨names, found, rfl⟩ := Option.map_eq_some_iff.mp h
    obtain ⟨ne, written⟩ := written_namesAfter found
    refine ⟨fun none => ?_, fun ref mem => ?_⟩
    · obtain ⟨name, mem⟩ := List.exists_mem_of_ne_nil names ne
      have kept : Property.resolve name ∈ (names.map Property.resolve).eraseDups :=
        List.mem_eraseDups.mpr (List.mem_map_of_mem mem)
      rw [none] at kept
      cases kept
    · obtain ⟨name, listed, rfl⟩ := List.mem_map.mp (List.mem_eraseDups.mp mem)
      exact Property.written_resolve (written name listed)
  sorting s h := by
    obtain ⟨s', present, rfl⟩ := Option.map_eq_some_iff.mp h
    obtain ⟨name, last, rfl⟩ := Option.map_eq_some_iff.mp present
    refine ⟨Property.written_resolve (written_lastName last), ?_⟩
    dsimp only
    split <;> decide
  groupBy property h := by
    obtain ⟨name, last, rfl⟩ := Option.map_eq_some_iff.mp h
    exact Property.written_resolve (written_lastName last)
  renameTo name h := by
    refine ⟨?_, quote_not_mem_renameOf h⟩
    have reads : renameOf t = some name := h
    -- A name that is asked for is there only if the phrase is not all blank.
    rw [renameOf] at reads
    split at reads
    · cases reads
    · split at reads
      · cases reads
      · next other =>
          cases reads
          exact ⟨other, trimmed_trim _⟩

end Request

end Notebase
