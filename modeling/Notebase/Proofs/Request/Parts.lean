import Notebase.Proofs.Patch.Resolver
import Notebase.Proofs.Text.Reading

/-!
The parts of a request. What a sentence names is written in it, so that a request that is read from
one line has no line ends in its parts (`Request.plain_ofText`).
-/

namespace Notebase

open Document

namespace Request

/-- A request whose parts have no line ends in them. -/
structure Plain (r : Request) : Prop where
  tag : ∀ tag ∈ r.tag, '\n' ∉ tag
  folder : ∀ folder ∈ r.folder, '\n' ∉ folder
  viewType : ∀ kind ∈ r.viewType, '\n' ∉ kind
  sorting : ∀ s ∈ r.sorting, '\n' ∉ s.property ∧ '\n' ∉ s.direction
  groupBy : ∀ property ∈ r.groupBy, '\n' ∉ property
  renameTo : ∀ name ∈ r.renameTo, '\n' ∉ name

theorem only_pathName : Pattern.Only Phrase.isPathChar Phrase.pathName :=
  (Pattern.only_char fun c wordChar => by simp [Phrase.isPathChar, wordChar]).seq
    (Pattern.only_run fun _ pathChar => pathChar)

/-- A tag has characters of a path only. -/
theorem isPathChar_of_mem_tagOf {t tag : Text} (h : tagOf t = some tag) :
    ∀ c ∈ tag, Phrase.isPathChar c = true := by
  have captured : Pattern.Captures Phrase.isPathChar (.capture Phrase.pathName) :=
    only_pathName.capture
  rw [tagOf] at h
  split at h
  · next before m found =>
      cases h
      obtain ⟨prev, u, -, present⟩ := Pattern.mem_findFrom? found
      exact (Pattern.Captures.seq _ (.seq _ captured)).of_matchAt? present
  · obtain ⟨m, mem, rfl⟩ := List.mem_map.mp (List.mem_of_find?_eq_some h)
    obtain ⟨prev, u, -, reads⟩ := Pattern.mem_findAllFrom mem
    exact (Pattern.Captures.seq _ (.seq _ (.seq _ (.seq _ (.seq _ (.seq _
      (.seq _ captured))))))).of_matchAt? reads

theorem mem_of_folderOf {t folder : Text} (h : folderOf t = some folder) : folder ⊆ t := by
  obtain ⟨m, mem, rfl⟩ := List.mem_map.mp (List.mem_of_find?_eq_some h)
  have piece : m.subject <:+: t := by
    rcases List.mem_append.mp mem with mem | mem
    · exact Pattern.subject_of_mem_findAll mem
    · exact Pattern.subject_of_mem_findAll mem
  exact List.Subset.trans (Text.trim_subset m.subject) piece.subset

/-- A new name is made of characters of the sentence. -/
theorem mem_of_renameOf {t name : Text} (h : renameOf t = some name) : name ⊆ t := by
  rw [renameOf] at h
  split at h
  · cases h
  · next before m found =>
      split at h
      · cases h
      · next trimmed =>
          cases h
          exact List.Subset.trans (Text.trim_subset m.subject) (Pattern.subject_of_find? found).subset

theorem mem_of_viewTypeOf {t kind : Text} (h : viewTypeOf t = some kind) :
    kind ∈ ["cards", "list", "map", "table"].map String.toList := by
  rw [viewTypeOf, Option.map_eq_some_iff] at h
  obtain ⟨cue, found, rfl⟩ := h
  have mem := List.mem_map_of_mem (f := fun cue => cue.1.toList) (List.mem_of_find?_eq_some found)
  exact mem

/-- **A request read from one line** has parts without line ends. -/
theorem plain_ofText (document : Text) {instruction : Text} (plain : '\n' ∉ instruction) :
    (Request.ofText (Patch.resolver document) instruction).Plain where
  tag tag h := fun mem => absurd (isPathChar_of_mem_tagOf h _ mem) (by decide)
  folder folder h := fun mem => plain (mem_of_folderOf h mem)
  viewType kind h := by
    have kinds : ∀ kind ∈ ["cards", "list", "map", "table"].map String.toList, '\n' ∉ kind := by
      decide
    exact kinds kind (mem_of_viewTypeOf h)
  sorting s h := by
    obtain ⟨s', found, rfl⟩ := Option.map_eq_some_iff.mp h
    obtain ⟨name, -, rfl⟩ := Option.map_eq_some_iff.mp found
    refine ⟨(tidy_resolver document _).plain, ?_⟩
    dsimp only
    split <;> decide
  groupBy property h := by
    obtain ⟨name, -, rfl⟩ := Option.map_eq_some_iff.mp h
    exact (tidy_resolver document name).plain
  renameTo name h := fun mem => plain (mem_of_renameOf h mem)

/-- The columns of a request are references of its names. -/
theorem tidy_properties {t : Text} :
    ∀ refs ∈ (Request.ofText Property.resolve t).properties, ∀ ref ∈ refs, Tidy ref := by
  intro refs listed ref mem
  obtain ⟨names, -, rfl⟩ := Option.map_eq_some_iff.mp listed
  obtain ⟨name, -, rfl⟩ := List.mem_map.mp (List.mem_eraseDups.mp mem)
  exact tidy_resolve name

end Request

end Notebase
