import Notebase.Catalog.Builtin
import Notebase.Proofs.ReadBack
import Notebase.Session

/-!
Where documents come from. The document of a request and the documents of the built-in catalog are
all sound: a session starts with a document that shows something (`Draft.sound_ofRequest`,
`Catalog.sound_builtin`).
-/

namespace Notebase

open Document

/-! ### New documents -/

/-- Filters have their first predicate under two lines without a quote. -/
theorem listed_filterRows (predicate : Text) (predicates : List Text) :
    Listed (sectionLines (filterRows (predicate :: predicates) "and".toList)) := by
  have isItem : (listItem? ("    - ".toList ++ quotePredicate predicate ++ ['\n'])).isSome =
      true := by
    rw [isSome_listItem?_iff]
    exact ⟨3, _, (List.append_assoc _ _ _).symm⟩
  exact ⟨["filters:\n".toList, "  and:\n".toList], _, _, rfl, by decide, isItem⟩

/-- **The text of a layout is sound** if its filters have a predicate, its kind and its name can be
read off it, and its columns are all different. -/
theorem Document.Layout.Ok.sound {l : Layout} (ok : l.Ok) {predicate : Text}
    {predicates : List Text} (areSections : ∀ rs ∈ l.sections, ∃ key, IsSection key rs)
    (first : findSection? "filters".toList l.sections =
      some (Notebase.filterRows (predicate :: predicates) "and".toList))
    (kind : l.kind ∈ viewKinds) (name : unquote l.name ≠ [])
    (tidy : ∀ ref ∈ l.columns, Tidy ref) (distinct : l.columns.Nodup) : Sound l.text where
  bare := ok.isPage.bare
  kind := by
    have type_eq := ok.isPage.entryAt?_outline .type List.mem_cons_self
    refine ⟨l.kind, kind, ?_⟩
    rw [viewType?_eq, Layout.text, type_eq, Option.bind_some, typeEntry, said?_withValue_kind kind]
  name := by
    have name_eq := ok.isPage.entryAt?_outline .name
      (List.mem_cons_of_mem _ (List.mem_append_left _ List.mem_cons_self))
    rw [viewName?_eq, Layout.text, name_eq, Option.bind_some, Entry.said?]
    cases said : unquote l.name with
    | nil => exact absurd said name
    | cons c t => rfl
  filters := by
    have name : isKeyName "filters".toList = true := by decide
    have found := ok.isPage.blockOf?_eq areSections name (by decide)
    rw [first, Option.map_some] at found
    exact ⟨_, found, listed_filterRows predicate predicates⟩
  distinct := by
    have order_eq := ok.isPage.entryAt?_outline .order
      (List.mem_cons_of_mem _ (List.mem_append_right _ List.mem_cons_self))
    have read : (orderEntry l.columns).columns = l.columns := filterMap_columnRow 2 tidy
    rw [viewOrder_eq, Layout.text, order_eq, Option.map_some, Option.getD_some, read]
    exact distinct

namespace Draft

/-- The document of a request has a predicate in its filters, whatever the request is. -/
theorem predicates_ne_nil (r : Request) : predicates r ≠ [] := by
  rw [predicates]
  split
  · exact List.cons_ne_nil _ _
  · next none => exact none

/-- **The document of a request is sound.** -/
theorem sound_ofRequest {r : Request} (plain : r.Plain) (kind : ∀ kind ∈ r.viewType, kind ∈ viewKinds)
    (tidy : ∀ refs ∈ r.properties, ∀ ref ∈ refs, Tidy ref)
    (distinct : ∀ refs ∈ r.properties, refs.Nodup) : Sound (ofRequest r) := by
  have columns := plain_columns tidy
  obtain ⟨predicate, others, first⟩ := List.exists_cons_of_ne_nil (predicates_ne_nil r)
  have areSections : ∀ rs ∈ (layout r).sections, ∃ key, IsSection key rs := fun rs hr =>
    (isSection_sections plain rs hr).imp fun _ => And.right
  rw [ofRequest_eq_text plain columns]
  refine (layout_ok plain columns).sound areSections (first ▸ findSection?_filters plain) ?_ ?_
    (tidy_columns tidy) ?_
  · show r.resolvedViewType ∈ viewKinds
    rw [Request.resolvedViewType]
    cases viewType_eq : Text.given? r.viewType with
    | none => decide
    | some kind' => exact kind kind' (given?_eq_some viewType_eq)
  · show unquote ('"' :: (Text.given? r.renameTo).getD defaultViewName ++ ['"']) ≠ []
    rw [unquote_quoted]
    cases renameTo_eq : Text.given? r.renameTo with
    | none => decide
    | some name => exact ne_nil_of_given? renameTo_eq
  · rw [layout_columns]
    split
    · decide
    · cases properties_eq : r.properties with
      | none => exact List.nodup_nil
      | some refs => exact distinct refs properties_eq

/-- **A new document is sound**, whatever line it is made from. -/
theorem sound_ofText {instruction : Text} (oneLine : '\n' ∉ instruction) :
    Sound (ofText instruction) := by
  have resolver : Patch.resolver [] = Property.resolve := by
    funext name
    rfl
  have plain := Request.plain_ofText [] oneLine
  rw [resolver] at plain
  have kinds : ∀ kind ∈ ["cards", "list", "map", "table"].map String.toList, kind ∈ viewKinds := by
    decide
  refine sound_ofRequest plain (fun kind mem => kinds kind (Request.mem_of_viewTypeOf mem))
    Request.tidy_properties fun refs listed => ?_
  obtain ⟨names, -, rfl⟩ := Option.map_eq_some_iff.mp listed
  exact nodup_eraseDups _

end Draft

/-! ### Ready documents -/

def Document.isSound (t : Text) : Bool :=
  !opensWith "sort".toList t && !opensWith "groupBy".toList t &&
    (viewType? t).any viewKinds.contains && (viewName? t).isSome &&
    (block? "filters".toList t).any (fun b => listed b.lines) && decide (viewOrder t).Nodup

theorem Document.Sound.of_isSound {t : Text} (h : isSound t = true) : Sound t := by
  simp only [isSound, Bool.and_eq_true, Bool.not_eq_true', Option.any_eq_true,
    decide_eq_true_eq] at h
  obtain ⟨⟨⟨⟨⟨noSort, noGroup⟩, kind, present, isKind⟩, name⟩, b, found, isListed⟩, distinct⟩ := h
  refine ⟨bare_of_not_opensWith noSort noGroup, ⟨kind, by simpa using isKind, present⟩, name,
    ⟨b.lines, ?_, .of_listed isListed⟩, distinct⟩
  show blockOf? "filters".toList t.lines = some b.lines
  rw [← map_lines_block?, Option.mem_def.mp found, Option.map_some]

namespace Catalog

def documents (c : Catalog) : List Text :=
  c.templates.map (fun (_, template) => template.document) ++ c.extras.map Prod.snd

variable {c : Catalog} {id d : Text}

theorem mem_documents_of_template {template : Template} (h : c.templates.get? id = some template) :
    template.document ∈ c.documents :=
  List.mem_append_left _ (List.mem_map_of_mem (f := fun (_, template) => template.document)
    (Dict.mem_of_get? h))

theorem mem_documents_of_document? (h : c.document? id = some d) : d ∈ c.documents := by
  rw [document?] at h
  split at h
  · next template found =>
      cases h
      exact mem_documents_of_template found
  · exact List.mem_append_right _ (List.mem_map_of_mem (f := Prod.snd) (Dict.mem_of_get? h))

namespace Builtin

/-- A document whose lines are written out is checked on the rows that they are. The rows come from
the literals as they stand: to decode a literal of that length takes seconds. -/
theorem sound_document {ls : List String} {rows : List Text}
    (written : List.Forall₂ (fun l row => l = String.ofList row) ls rows)
    (ok : isSound (joinLines rows) = true) : Sound (document ls) := by
  have map_eq : ls.map String.toList = rows := by
    clear ok
    induction written with
    | nil => rfl
    | cons eq _ ih => rw [List.map_cons, eq, String.toList_ofList, ih]
  rw [document, map_eq]
  exact .of_isSound ok

end Builtin

/-- **The documents of the built-in catalog are sound.** -/
theorem sound_builtin : ∀ d ∈ builtin.documents, Sound d := by
  show ∀ d ∈ [Builtin.progressDocument, Builtin.ratingsDocument, Builtin.mapDocument,
    Builtin.birthdayDocument, Builtin.cleanerDocument, Builtin.summaryDocument,
    Builtin.taskDocument, Builtin.readingDocument, Builtin.dailyDocument], Sound d
  simp only [List.forall_mem_cons]
  refine ⟨?_, ?_, ?_, ?_, ?_, ?_, ?_, ?_, ?_, List.forall_mem_nil _⟩
  all_goals exact Builtin.sound_document (by repeat' constructor) (by decide)

end Catalog

end Notebase
