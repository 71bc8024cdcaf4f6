import Notebase.Proofs.ReadBack

/-!
Names of views between double quotes. Three writers put a name there, each in its own way, and one
reader takes it out again without undoing anything. A name comes through unharmed exactly when no
quotation mark is in it and none of its backslashes would escape anything
(`name_survives_quoting_iff`): the reader leaves the backslash that stands before a mark, and no
writer doubles a backslash.
-/

namespace Notebase

open Document

/-! ### Double-quoted scalars -/

/-- What a double-quoted scalar says after its opening mark, if it closes at the end of the text. A
backslash before a mark or another backslash gives that character, and any other one is a
backslash. -/
def scalarBody? : Text → Option Text
  | [] => none
  | '"' :: t => if t.isEmpty then some [] else none
  | '\\' :: '"' :: t => (scalarBody? t).map ('"' :: ·)
  | '\\' :: '\\' :: t => (scalarBody? t).map ('\\' :: ·)
  | c :: t => (scalarBody? t).map (c :: ·)

def scalar? : Text → Option Text
  | '"' :: t => scalarBody? t
  | _ => none

/-- Whether no backslash of a text stands before a mark, before another backslash or at the end. -/
def escapesNothing : Text → Bool
  | [] => true
  | '\\' :: t => t.head?.any (fun c => c != '\\' && c != '"') && escapesNothing t
  | _ :: t => escapesNothing t

theorem scalarBody?_cons {c : Char} (notQuote : c ≠ '"') (notEscape : c ≠ '\\') (t : Text) :
    scalarBody? (c :: t) = (scalarBody? t).map (c :: ·) := by
  rw [scalarBody?]
  all_goals simp [notQuote, notEscape]

/-- A backslash before an ordinary character is a character itself. -/
theorem scalarBody?_backslash {c : Char} (notQuote : c ≠ '"') (notEscape : c ≠ '\\') (t : Text) :
    scalarBody? ('\\' :: c :: t) = (scalarBody? (c :: t)).map ('\\' :: ·) := by
  rw [scalarBody?]
  all_goals simp [notQuote, notEscape]

theorem escapesNothing_cons {c : Char} (notEscape : c ≠ '\\') (t : Text) :
    escapesNothing (c :: t) = escapesNothing t := by
  rw [escapesNothing]
  simpa using notEscape

/-- A scalar says less than is written, and it says all but its closing mark only if no mark stands
before that one. -/
theorem length_of_scalarBody? {t m : Text} (h : scalarBody? t = some m) :
    m.length < t.length ∧ (m.length + 1 = t.length → '"' ∉ m) := by
  induction t using scalarBody?.induct generalizing m with
  | case1 => cases h
  | case2 t closed =>
      rw [scalarBody?, if_pos closed] at h
      cases h
      simp
  | case3 t more =>
      rw [scalarBody?, if_neg more] at h
      cases h
  | case4 t ih =>
      rw [scalarBody?, Option.map_eq_some_iff] at h
      obtain ⟨rest, found, rfl⟩ := h
      have shorter := (ih found).1
      simp only [List.length_cons]
      omega
  | case5 t ih =>
      rw [scalarBody?, Option.map_eq_some_iff] at h
      obtain ⟨rest, found, rfl⟩ := h
      have shorter := (ih found).1
      simp only [List.length_cons]
      omega
  | case6 c t notQuote notPair notPair' ih =>
      rw [scalarBody?, Option.map_eq_some_iff] at h
      · obtain ⟨rest, found, rfl⟩ := h
        obtain ⟨shorter, same⟩ := ih found
        have notQuote : c ≠ '"' := by
          rintro rfl
          exact notQuote rfl
        simp only [List.length_cons, List.mem_cons, not_or]
        exact ⟨by omega, fun eq => ⟨notQuote.symm, same (by omega)⟩⟩
      all_goals assumption

/-! ### Names with their marks escaped -/

def escapeQuotes (name : Text) : Text := name.replaceChar '"' ['\\', '"']

theorem escapeQuotes_quote (n : Text) :
    escapeQuotes ('"' :: n) = '\\' :: '"' :: escapeQuotes n := rfl

theorem escapeQuotes_cons {c : Char} (notQuote : c ≠ '"') (n : Text) :
    escapeQuotes (c :: n) = c :: escapeQuotes n := by
  rw [escapeQuotes, Text.replaceChar, List.flatMap_cons, if_neg notQuote]
  rfl

/-- Escaping quotation marks does not make a name shorter. -/
theorem length_le_escapeQuotes (n : Text) : n.length ≤ (escapeQuotes n).length := by
  induction n with
  | nil => exact Nat.le_refl _
  | cons c n ih =>
      by_cases quote : c = '"'
      · rw [quote, escapeQuotes_quote]
        simp only [List.length_cons]
        omega
      · rw [escapeQuotes_cons quote]
        exact Nat.succ_le_succ ih

/-- A name is written as it is exactly if there is no quotation mark in it. -/
theorem escapeQuotes_eq_self {n : Text} : escapeQuotes n = n ↔ '"' ∉ n := by
  constructor
  · intro same mem
    obtain ⟨front, rest, rfl⟩ := List.append_of_mem mem
    have lengths := congrArg List.length same
    have parts : escapeQuotes (front ++ '"' :: rest) =
        escapeQuotes front ++ '\\' :: '"' :: escapeQuotes rest := by
      simp [escapeQuotes, Text.replaceChar]
    have front_le := length_le_escapeQuotes front
    have rest_le := length_le_escapeQuotes rest
    simp only [parts, List.length_append, List.length_cons] at lengths
    omega
  · exact Text.replaceChar_of_not_mem

/-- What is read of a name between marks, with the marks in it escaped. -/
def saidOf (n : Text) : Option Text := scalarBody? (escapeQuotes n ++ ['"'])

theorem saidOf_quote (n : Text) : saidOf ('"' :: n) = (saidOf n).map ('"' :: ·) := rfl

theorem saidOf_cons {c : Char} (notQuote : c ≠ '"') (notEscape : c ≠ '\\') (n : Text) :
    saidOf (c :: n) = (saidOf n).map (c :: ·) := by
  rw [saidOf, escapeQuotes_cons notQuote, List.cons_append, scalarBody?_cons notQuote notEscape]
  rfl

theorem saidOf_backslash_backslash (n : Text) :
    saidOf ('\\' :: '\\' :: n) = (saidOf n).map ('\\' :: ·) := rfl

/-- The backslash before a mark takes the one that should escape it. -/
theorem saidOf_backslash_quote (n : Text) : saidOf ('\\' :: '"' :: n) = none := by
  have body : escapeQuotes ('\\' :: '"' :: n) ++ ['"'] =
      '\\' :: '\\' :: '"' :: (escapeQuotes n ++ ['"']) := rfl
  rw [saidOf, body, scalarBody?, scalarBody?, if_neg (by simp), Option.map_none]

/-- Any other character is read as itself. -/
theorem saidOf_single {c d : Char} {n : Text} (single : ¬ (c = '\\' ∧ (d = '"' ∨ d = '\\'))) :
    saidOf (c :: d :: n) = (saidOf (d :: n)).map (c :: ·) := by
  by_cases escape_ : c = '\\'
  · subst escape_
    have other : d ≠ '"' ∧ d ≠ '\\' := by simpa using single
    rw [saidOf, saidOf, escapeQuotes_cons (by decide), escapeQuotes_cons other.1, List.cons_append,
      List.cons_append, scalarBody?_backslash other.1 other.2]
  · by_cases quote : c = '"'
    · rw [quote]
      exact saidOf_quote (d :: n)
    · exact saidOf_cons quote escape_ (d :: n)

/-- A name is read as no longer than it is. The recursion is on the name, by one character or by a
pair that opens with a backslash. -/
theorem length_of_saidOf : ∀ {n m : Text}, saidOf n = some m → m.length ≤ n.length
  | [], m, h => by
      cases h
      exact Nat.le_refl _
  | [c], m, h => by
      by_cases escape_ : c = '\\'
      · rw [escape_] at h
        cases h
      · by_cases quote : c = '"'
        · rw [quote] at h
          cases h
          exact Nat.le_refl _
        · rw [saidOf_cons quote escape_] at h
          cases h
          exact Nat.le_refl _
  | c :: d :: n, m, h => by
      by_cases pair : c = '\\' ∧ (d = '"' ∨ d = '\\')
      · obtain ⟨rfl, rfl | rfl⟩ := pair
        · rw [saidOf_backslash_quote] at h
          cases h
        · rw [saidOf_backslash_backslash, Option.map_eq_some_iff] at h
          obtain ⟨rest, found, rfl⟩ := h
          have shorter := length_of_saidOf found
          simp only [List.length_cons]
          omega
      · rw [saidOf_single pair, Option.map_eq_some_iff] at h
        obtain ⟨rest, present, rfl⟩ := h
        exact Nat.succ_le_succ (length_of_saidOf present)

/-- A character that escapes nothing can be dropped in front. -/
theorem escapesNothing_single {c d : Char} {n : Text}
    (single : ¬ (c = '\\' ∧ (d = '"' ∨ d = '\\'))) :
    escapesNothing (c :: d :: n) = escapesNothing (d :: n) := by
  by_cases escape_ : c = '\\'
  · subst escape_
    have other : d ≠ '"' ∧ d ≠ '\\' := by simpa using single
    rw [escapesNothing]
    simp [other]
  · exact escapesNothing_cons escape_ (d :: n)

/-- **A name with its marks escaped is read as itself** exactly when its backslashes escape
nothing. -/
theorem saidOf_eq_self {n : Text} : saidOf n = some n ↔ escapesNothing n = true := by
  induction n with
  | nil => exact iff_of_true rfl rfl
  | cons c n ih =>
      cases n with
      | nil =>
          by_cases escape_ : c = '\\'
          · rw [escape_]
            decide
          · by_cases quote : c = '"'
            · rw [quote]
              decide
            · rw [saidOf_cons quote escape_, escapesNothing_cons escape_]
              exact iff_of_true rfl rfl
      | cons d n =>
          by_cases pair : c = '\\' ∧ (d = '"' ∨ d = '\\')
          · -- The pair is read as one character, or the mark closes the scalar too early.
            refine iff_of_false (fun found => ?_) ?_
            · obtain ⟨rfl, rfl | rfl⟩ := pair
              · rw [saidOf_backslash_quote] at found
                cases found
              · rw [saidOf_backslash_backslash, Option.map_eq_some_iff] at found
                obtain ⟨rest, present, eq⟩ := found
                have shorter := length_of_saidOf present
                rw [(List.cons.inj eq).2, List.length_cons] at shorter
                omega
            · obtain ⟨rfl, rfl | rfl⟩ := pair <;> simp [escapesNothing]
          · rw [saidOf_single pair, escapesNothing_single pair, ← ih, Option.map_eq_some_iff]
            constructor
            · rintro ⟨rest, reads, eq⟩
              rw [reads, (List.cons.inj eq).2]
            · exact fun known => ⟨_, known, rfl⟩

theorem scalar?_quotedName (n : Text) : scalar? (quotedName n) = some n ↔
    escapesNothing n = true := saidOf_eq_self

/-- **A name between marks as it stands** says itself exactly when no mark is in it either. -/
theorem scalar?_quoted (n : Text) : scalar? ('"' :: n ++ ['"']) = some n ↔
    '"' ∉ n ∧ escapesNothing n = true := by
  have body : scalar? ('"' :: n ++ ['"']) = scalarBody? (n ++ ['"']) := rfl
  rw [body]
  constructor
  · intro found
    have noQuote := (length_of_scalarBody? found).2 (by simp)
    refine ⟨noQuote, saidOf_eq_self.mp ?_⟩
    rw [saidOf, escapeQuotes_eq_self.mpr noQuote, found]
  · rintro ⟨noQuote, nothing⟩
    have present := saidOf_eq_self.mpr nothing
    rwa [saidOf, escapeQuotes_eq_self.mpr noQuote] at present

/-! ### The line of the name -/

def nameScalar? (t : Text) : Option Text := (viewKey? "name".toList t).map fun (_, k) => k.value

/-- A document that has this name: the line of the name has a double-quoted scalar that closes at
the end of the line and says the name, and the name that is read is the same. -/
def CarriesName (name t : Text) : Prop :=
  (nameScalar? t).bind scalar? = some name ∧ viewName? t = some name

theorem nameScalar?_eq (t : Text) :
    nameScalar? t = ((outline t).entryAt? .name).map Entry.value := by
  rw [entryAt?_eq_map, Option.map_map]
  rfl

/-- What stands between the marks is read as it stands. -/
theorem viewName?_of_nameScalar? {t name : Text} (found : nameScalar? t = some ('"' :: name ++
    ['"']))
    (ne : name ≠ []) : viewName? t = some name := by
  rw [nameScalar?_eq, Option.map_eq_some_iff] at found
  obtain ⟨e, entry, value⟩ := found
  rw [Document.viewName?_eq, entry, Option.bind_some, Entry.said?, value, unquote_quoted]
  cases name with
  | nil => exact absurd rfl ne
  | cons c name => rfl

theorem escapeQuotes_ne_nil {n : Text} (ne : n ≠ []) : escapeQuotes n ≠ [] := by
  have long := length_le_escapeQuotes n
  have some := List.length_pos_of_ne_nil ne
  exact List.ne_nil_of_length_pos (by omega)

/-- A name whose marks have been escaped is carried exactly when nothing is escaped in it. -/
theorem carriesName_of_quotedName {t n : Text} (ne : n ≠ [])
    (found : nameScalar? t = some (quotedName n)) :
    CarriesName n t ↔ '"' ∉ n ∧ escapesNothing n = true := by
  have read : viewName? t = some (escapeQuotes n) :=
    viewName?_of_nameScalar? found (escapeQuotes_ne_nil ne)
  rw [CarriesName, found, Option.bind_some, scalar?_quotedName, read, Option.some.injEq,
    escapeQuotes_eq_self, and_comm]

theorem carriesName_of_quoted {t n : Text} (ne : n ≠ [])
    (found : nameScalar? t = some ('"' :: n ++ ['"'])) :
    CarriesName n t ↔ '"' ∉ n ∧ escapesNothing n = true := by
  rw [CarriesName, found, Option.bind_some, scalar?_quoted, viewName?_of_nameScalar? found ne]
  simp

/-! ### The three writers -/

/-- What a layout has for its name stands on the line of the name. -/
theorem Document.Layout.Ok.nameScalar?_shown {l : Layout} (ok : l.Ok) :
    nameScalar? (page (sectionsText l.sections) l.kind l.shown) = some l.name := by
  have name_eq := ok.isPage_shown.entryAt?_outline .name
    (List.mem_cons_of_mem _ (List.mem_append_left _ List.mem_cons_self))
  rw [nameScalar?_eq, name_eq, Option.map_some]

/-- The scalar of a rendered name is the name with its marks escaped. -/
theorem Form.nameScalar?_render {form : Form} {d n : Text} (isName : IsName n)
    (plain : form.Plain) (name : form.viewName = some n) (rendered : form.render = .ok d) :
    nameScalar? d = some (quotedName n) := by
  have line := plain.oneLine
  obtain ⟨check, formulas, sortDirection, groupDirection, read, rfl⟩ :=
    line.render_eq_page_iff.mp rendered
  have found := (line.layout check read).nameScalar?_shown
  have resolved : form.resolvedViewName = n := by
    rw [resolvedViewName, name, show text (some n) = n from isName.trim_eq,
      if_neg (by simpa using isName.ne_nil)]
  rw [← resolved]
  exact found

theorem Draft.nameScalar?_ofRequest {r : Request} {n : Text} (ne : n ≠ []) (plain : r.Plain)
    (columns : ∀ refs ∈ r.properties, Text.Plain refs) (name : r.renameTo = some n) :
    nameScalar? (ofRequest r) = some ('"' :: n ++ ['"']) := by
  obtain ⟨ok, page⟩ := ofRequest_eq_page plain columns
  rw [page, ok.nameScalar?_shown, layout]
  dsimp only
  rw [name, given?_of_ne_nil ne, Option.getD_some]

/-- A document with a place for a name gets it there. -/
theorem nameScalar?_renameView {t n : Text} (plain : '\n' ∉ n)
    (place : (viewKey? "name".toList t).isSome ∨ (viewKey? "type".toList t).isSome) :
    nameScalar? (renameView n t) = some (quotedName n) := by
  have named : ∀ key : ViewKey, (viewKey? key.text t).isSome = ((outline t).entryAt? key).isSome :=
    fun key => by rw [entryAt?_eq_map, Option.isSome_map]
  have place : ((outline t).entryAt? .name).isSome ∨ ((outline t).entryAt? .type).isSome := by
    rw [← named, ← named]
    exact place
  rw [nameScalar?_eq, outline_renameView plain]
  cases view : (outline t).view with
  | none => simp [Outline.entryAt?, view] at place
  | some p =>
      have place : (p.entry .name).isSome ∨ (p.entry .type).isSome := by
        simpa [Outline.entryAt?, view] using place
      have flush : Flush (quotedName n) := by
        rintro c ⟨⟩
        decide
      rw [Outline.entryAt?, Outline.onView, view, Option.map_some, Option.bind_some, Panel.rename]
      cases name_eq : p.entry .name with
      | some e =>
          dsimp only
          rw [Panel.entry_set_self, Option.map_some, e.withValue_of_flush flush]
      | none =>
          rw [name_eq] at place
          obtain ⟨kind, kind_eq⟩ := Option.isSome_iff_exists.mp (place.resolve_left (by simp))
          rw [kind_eq]
          dsimp only
          rw [Panel.entry_set_self]
          rfl

/-- **A name survives its quoting exactly when there is nothing to quote in it**: whether a form, a
request or an edit writes it, the line of the name says it and the name that is read is the same if
and only if it has no quotation mark, and no backslash before another backslash or at its end. -/
theorem name_survives_quoting_iff {n : Text} (isName : IsName n) :
    (∃ d, Form.render { viewName := some n } = .ok d) ∧
    (∀ (form : Form) (d : Text), form.Plain → form.viewName = some n → form.render = .ok d →
      (CarriesName n d ↔ '"' ∉ n ∧ escapesNothing n = true)) ∧
    (∀ r : Request, r.Plain → (∀ refs ∈ r.properties, Text.Plain refs) → r.renameTo = some n →
      (CarriesName n (Draft.ofRequest r) ↔ '"' ∉ n ∧ escapesNothing n = true)) ∧
    ∀ t : Text, (viewKey? "name".toList t).isSome ∨ (viewKey? "type".toList t).isSome →
      ∃ t', Edit.perform t (.rename n) = .ok t' ∧
        (CarriesName n t' ↔ '"' ∉ n ∧ escapesNothing n = true) := by
  refine ⟨⟨_, rfl⟩, fun form d plain name rendered => ?_, fun r plain columns name => ?_,
    fun t place => ⟨_, rfl, ?_⟩⟩
  · exact carriesName_of_quotedName isName.ne_nil
      (Form.nameScalar?_render isName plain name rendered)
  · exact carriesName_of_quoted isName.ne_nil
      (Draft.nameScalar?_ofRequest isName.ne_nil plain columns name)
  · exact carriesName_of_quotedName isName.ne_nil (nameScalar?_renameView isName.plain place)

/-- A backslash in front of a blank escapes nothing. -/
theorem backslash_in_name_survives_quoting :
    ∃ d, Form.render { viewName := some "it's \\ mine".toList } = .ok d ∧
      CarriesName "it's \\ mine".toList d ∧
      CarriesName "it's \\ mine".toList
        (Draft.ofRequest { tag := some "book".toList, renameTo := some "it's \\ mine".toList }) ∧
      ∃ t, Edit.perform "views:\n- type: list".toList (.rename "it's \\ mine".toList) = .ok t ∧
        CarriesName "it's \\ mine".toList t := by
  have isName : IsName "it's \\ mine".toList := by constructor <;> decide
  have form : Form.Plain { viewName := some "it's \\ mine".toList } := by
    constructor <;> decide
  have request : Request.Plain
      { tag := some "book".toList, renameTo := some "it's \\ mine".toList } := by
    constructor <;> decide
  have harmless : '"' ∉ "it's \\ mine".toList ∧ escapesNothing "it's \\ mine".toList = true := by
    decide
  obtain ⟨⟨d, rendered⟩, built, drafted, renamed⟩ := name_survives_quoting_iff isName
  obtain ⟨t, performed, carries⟩ := renamed "views:\n- type: list".toList (.inr (by decide))
  exact ⟨d, rendered, (built _ d form rfl rendered).mpr harmless,
    (drafted _ request (by decide) rfl).mpr harmless, t, performed, carries.mpr harmless⟩

/-- A mark in a name stays escaped in the name that is read, and a backslash at the end of a name
leaves its scalar open. -/
theorem marked_name_is_lost :
    (¬ ∀ (n d : Text), IsName n → Form.render { viewName := some n } = .ok d →
      viewName? d = some n) ∧
    ¬ ∀ (n d : Text), IsName n → Form.render { viewName := some n } = .ok d →
      (nameScalar? d).bind scalar? = some n := by
  constructor
  · intro claim
    have read := claim "a\"b".toList _ (by constructor <;> decide) rfl
    revert read
    decide
  · intro claim
    have said := claim "a\\".toList _ (by constructor <;> decide) rfl
    revert said
    decide +kernel

end Notebase
