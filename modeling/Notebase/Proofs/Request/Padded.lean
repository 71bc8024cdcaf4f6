import Notebase.Proofs.Request.Framed
import Notebase.Proofs.Text.Padding

/-!
Requests with blanks around them. Blanks at the ends of a sentence change nothing that it asks for,
but for its columns where blanks follow a hyphen at its end: they end the list there
(`columnsOf_trim`).
-/

namespace Notebase.Request

open Pattern

/-! ### Phrases inside a sentence -/

/-- A phrase that has nothing to do with blanks at the ends of a sentence. -/
structure Inner (q : Pattern) : Prop where
  ignores : q.ignores blankChars = true
  needs : q.needsText = true
  opens : ∀ b t, isBlank b = true → q.readings ⟨none, b :: t, 0, none⟩ = []

theorem readings_boundary {b : Char} (blank : isBlank b = true) (q : Pattern) (t : Text) :
    (Pattern.seq .boundary q).readings ⟨none, b :: t, 0, none⟩ = [] := by
  have apart : Reading.atBoundary ⟨none, b :: t, 0, none⟩ = false := by
    simp [Reading.atBoundary, not_isWordChar_of_isBlank blank]
  rw [readings, readings, apart]
  rfl

section Inner

variable {q : Pattern} (h : Inner q) (p : Padding)
include h

theorem Inner.matchAt?_eq_none (t : Text) : q.matchAt? none (p.around t) = none := by
  rw [matchAt?_eq_head?]
  have none := h.opens p.before (t ++ p.frame.tail) p.blank_before
  exact congrArg (fun rs => (rs.head?).map matchOf) none

/-- A phrase that starts and ends inside of a sentence is found in the padded one. -/
theorem Inner.transparent : Transparent [p.before] p.frame q where
  skips rest := by
    have none := h.opens p.before rest p.blank_before
    have first : q.matchAt? .none (p.before :: rest) = .none := by
      rw [matchAt?_eq_head?, none]
      rfl
    rw [List.singleton_append, findAllFrom, first]
    rfl
  keeps := p.keeps_of_ignores h.ignores
  needs := h.needs

end Inner

theorem inner_of_boundary {q : Pattern}
    (ignores : (Pattern.seq .boundary q).ignores blankChars = true)
    (needs : q.needsText = true) : Inner (.seq .boundary q) :=
  ⟨ignores, by rw [needsText, needs, Bool.or_true], fun _ t blank => readings_boundary blank q t⟩

/-- The phrases that say more than which columns are meant. -/
theorem ignores_phrases : ∀ q ∈ [Phrase.tagLiteral, Phrase.tagPhrase, Phrase.folderPhrase,
    Phrase.inPhrase, Phrase.renamePhrase, Phrase.listSeparator, Phrase.quoted] ++
      Phrase.viewCues.map Prod.snd, q.ignores blankChars = true := by decide +kernel

theorem inner_tagLiteral : Inner Phrase.tagLiteral := by
  refine ⟨ignores_phrases _ (by simp), by decide, fun b t blank => ?_⟩
  have other : b ≠ '#' := by
    rintro rfl
    exact absurd blank (by decide)
  simp [Phrase.tagLiteral, inOrder, readings, exactly, other]

theorem inner_tagPhrase : Inner Phrase.tagPhrase :=
  inner_of_boundary (ignores_phrases Phrase.tagPhrase (by simp)) (by decide)

theorem inner_folderPhrase : Inner Phrase.folderPhrase :=
  inner_of_boundary (ignores_phrases Phrase.folderPhrase (by simp)) (by decide)

theorem inner_inPhrase : Inner Phrase.inPhrase :=
  inner_of_boundary (ignores_phrases Phrase.inPhrase (by simp)) (by decide)

theorem inner_renamePhrase : Inner Phrase.renamePhrase :=
  inner_of_boundary (ignores_phrases Phrase.renamePhrase (by simp)) (by decide)

/-- The cues for kinds start and end inside of a sentence. -/
theorem inner_viewCues : ∀ cue ∈ Phrase.viewCues, Inner cue.2 := by
  have cues : ∀ cue ∈ Phrase.viewCues, (∃ q, cue.2 = .seq .boundary q) := by
    simp only [Phrase.viewCues, List.forall_mem_cons]
    exact ⟨⟨_, rfl⟩, ⟨_, rfl⟩, ⟨_, rfl⟩, ⟨_, rfl⟩, List.forall_mem_nil _⟩
  have ignores : ∀ cue ∈ Phrase.viewCues, cue.2.ignores blankChars = true := fun cue mem =>
    ignores_phrases _ (List.mem_append_right _ (List.mem_map_of_mem mem))
  have needs : ∀ cue ∈ Phrase.viewCues, cue.2.needsText = true := by decide
  intro cue mem
  obtain ⟨q, eq⟩ := cues cue mem
  refine ⟨ignores cue mem, needs cue mem, fun b t blank => ?_⟩
  rw [eq]
  exact readings_boundary blank q t

/-! ### Parts of a padded sentence -/

section Parts

variable (p : Padding) (t : Text)

theorem tagOf_around : tagOf (p.around t) = tagOf t :=
  tagOf_framed (p.clean t) (inner_tagLiteral.transparent p) (inner_tagPhrase.transparent p)

theorem folderOf_around : folderOf (p.around t) = folderOf t :=
  folderOf_framed (p.clean t) (inner_folderPhrase.transparent p) (inner_inPhrase.transparent p)

theorem viewTypeOf_around : viewTypeOf (p.around t) = viewTypeOf t :=
  viewTypeOf_framed (p.clean t) fun cue mem => (inner_viewCues cue mem).transparent p

theorem renameOf_eq (t : Text) : renameOf t =
    (((Phrase.renamePhrase.findAll t).map (·.subject)).head?).bind fun name =>
      match name.trim with
      | [] => none
      | name => some name := by
  rw [renameOf, List.head?_map, ← find?_map_snd, Option.map_map]
  cases Phrase.renamePhrase.find? t <;> rfl

theorem renameOf_around : renameOf (p.around t) = renameOf t := by
  rw [renameOf_eq, renameOf_eq, Padding.around,
    (inner_renamePhrase.transparent p).subjects (p.clean t)]

end Parts

/-! ### Lists after a cue -/

def cueLead (cues : List Text) : List Pattern :=
  [.boundary, oneOf (cues.map letters), .boundary, opt (exactly ':')]

/-- What stands after the blanks that a text starts with, if it starts with one. -/
def pastBlanks? : Text → Option Text
  | [] => none
  | c :: t => if isBlank c then some (t.dropWhile isBlank) else none

/-- Blanks are first read as far as they go. -/
theorem head?_readings_blanks (s : Reading) :
    ((blanks.readings s).head?).map (·.rest) = pastBlanks? s.rest := by
  rw [blanks, run1, readings, readings]
  cases s.rest with
  | nil => rfl
  | cons c t =>
      rw [pastBlanks?]
      dsimp only
      split
      · obtain ⟨m, first, rest, -⟩ := exists_head?_readingsRun isBlank t (s.advance c t)
        rw [List.flatMap_singleton, readings]
        dsimp only [Reading.advance] at first rest ⊢
        rw [first, Option.map_some, rest rfl]
      · rfl

theorem rest_matchAt?_cue (cues : List Text) (prev : Option Char) (t : Text) :
    ((Phrase.cue cues).matchAt? prev t).map (·.rest) =
      ((inOrder (cueLead cues)).readings ⟨prev, t, 0, none⟩).findSome? fun m =>
        pastBlanks? m.rest := by
  have split : Phrase.cue cues = inOrder (cueLead cues ++ [blanks]) := rfl
  rw [matchAt?_eq_head?, split, readings_inOrder_append (by simp [cueLead]), List.head?_flatMap,
    Option.map_map, List.map_findSome?]
  exact congrArg (List.findSome? · _) (funext fun m => head?_readings_blanks m)

def listFrom (cues : List Text) (prev : Option Char) (t : Text) : Text :=
  (((Phrase.cue cues).findFrom? prev t).map fun found => found.2.rest).getD []

/-- The list of a cue starts behind its first match. -/
theorem listFrom_cons (cues : List Text) (prev : Option Char) (c : Char) (t : Text) :
    listFrom cues prev (c :: t) = (((Phrase.cue cues).matchAt? prev (c :: t)).map (·.rest)).getD
      (listFrom cues (some c) t) := by
  rw [listFrom, findFrom?]
  cases (Phrase.cue cues).matchAt? prev (c :: t) with
  | some m => rfl
  | none =>
      rw [listFrom]
      dsimp only
      rw [Option.map_map]
      rfl

/-- A text with something after it, if there is anything in it. -/
def extended (tail t : Text) : Text := if t = [] then [] else t ++ tail

theorem pastBlanks?_append {t tail : Text} (ne : t ≠ []) (blank : ∀ c ∈ tail, isBlank c = true) :
    pastBlanks? (t ++ tail) = (pastBlanks? t).map (extended tail) := by
  obtain ⟨c, t, rfl⟩ := List.exists_cons_of_ne_nil ne
  rw [List.cons_append, pastBlanks?, pastBlanks?]
  split
  · rw [Option.map_some, extended, List.dropWhile_append]
    simp only [List.isEmpty_iff, List.dropWhile_eq_nil_iff.mpr blank]
  · rfl

/-- What starts with a character that is not in the front stands behind it. -/
theorem suffix_of_not_mem {c : Char} {t u tail : Text} (h : c :: u <:+ t ++ tail) (out : c ∉ t) :
    c :: u <:+ tail := by
  obtain ⟨before, eq⟩ := h
  rcases List.append_eq_append_iff.mp eq with ⟨more, text, rest⟩ | ⟨more, text, rest⟩
  · cases more with
    | nil => exact ⟨[], rest⟩
    | cons d more =>
        obtain ⟨rfl, -⟩ := List.cons.inj rest
        exact absurd (text ▸ List.mem_append_right _ List.mem_cons_self) out
  · exact rest ▸ List.suffix_append more _

/-- A list starts after a blank, so there is none where at most one character follows a text without
blanks. -/
theorem listFrom_eq_nil {cues : List Text} {t tail : Text} (filled : ∀ c ∈ t, isBlank c = false)
    (short : tail.length ≤ 1) (prev : Option Char) : listFrom cues prev (t ++ tail) = [] := by
  rw [listFrom]
  cases found : (Phrase.cue cues).findFrom? prev (t ++ tail) with
  | none => rfl
  | some found' =>
      obtain ⟨prev', u, suffix_, here⟩ := mem_findFrom? found
      have rest := rest_matchAt?_cue cues prev' u
      rw [here, Option.map_some] at rest
      -- What follows the cue starts with a blank, which the text itself does not have.
      obtain ⟨mid, mem, present⟩ := List.exists_of_findSome?_eq_some rest.symm
      have after : mid.rest <:+ t ++ tail := (leads_of_mem_readings mem).rest.trans suffix_
      rw [Option.map_some, Option.getD_some]
      cases text : mid.rest with
      | nil =>
          rw [text] at present
          cases present
      | cons c u' =>
          rw [text] at present after
          rw [pastBlanks?] at present
          split at present
          · next blank =>
              have last : c :: u' <:+ tail := suffix_of_not_mem after fun mem => by
                rw [filled c mem] at blank
                cases blank
              have none : u' = [] := by
                have length := last.length_le
                rw [List.length_cons] at length
                exact List.eq_nil_of_length_eq_zero (by omega)
              rw [none] at present
              exact (Option.some_inj.mp present).symm
          · cases present

section Lists

variable {cues : List Text} (avoids : ∀ c ∈ blankChars, (inOrder (cueLead cues)).avoids c = true)
include avoids

/-- The cue in front of a text is followed by the same list in a padded text. -/
theorem rest_matchAt?_append (p : Padding) (keeps : p.frame.Keeps (inOrder (cueLead cues)))
    {prev prev' : Option Char} (front : prev' = prev ∨ prev = none ∧ prev' = some p.before)
    {t : Text} {b : Char} (mem : b ∈ t) (blank : isBlank b = true) :
    ((Phrase.cue cues).matchAt? prev' (t ++ p.frame.tail)).map (·.rest) =
      (((Phrase.cue cues).matchAt? prev t).map (·.rest)).map (extended p.frame.tail) := by
  have same : p.frame.Same ⟨prev, t, 0, none⟩ ⟨prev', t ++ p.frame.tail, 0, none⟩ :=
    ⟨front, rfl, rfl, rfl, by simp, p.clean t⟩
  have written : ∀ m ∈ (inOrder (cueLead cues)).readings ⟨prev, t, 0, none⟩, m.rest ≠ [] := by
    intro m hm done
    obtain ⟨u, text, out⟩ := exists_append_of_avoids (avoids b (mem_blankChars blank)) hm
    rw [done, List.append_nil] at text
    exact out (text ▸ mem)
  have readings := (List.forall₂_and_left _ _).mpr ⟨written, keeps _ _ same⟩
  rw [rest_matchAt?_cue, rest_matchAt?_cue, List.map_findSome?]
  generalize (inOrder (cueLead cues)).readings ⟨prev, t, 0, none⟩ = outs at readings
  generalize (inOrder (cueLead cues)).readings ⟨prev', t ++ p.frame.tail, 0, none⟩ = framed
    at readings
  induction readings with
  | nil => rfl
  | cons both _ ih =>
      obtain ⟨ne, isSame⟩ := both
      rw [List.findSome?_cons, List.findSome?_cons, ih, isSame.rest,
        pastBlanks?_append ne p.blank_tail]
      rfl

/-- **The list after a cue** is the same in a padded text, up to the blank after it. -/
theorem listFrom_append (p : Padding) (keeps : p.frame.Keeps (inOrder (cueLead cues)))
    {prev prev' : Option Char} (front : prev' = prev ∨ prev = none ∧ prev' = some p.before)
    (t : Text) : listFrom cues prev' (t ++ p.frame.tail) =
      extended p.frame.tail (listFrom cues prev t) := by
  have unlisted : ∀ {t : Text}, (∀ c ∈ t, isBlank c = false) → ∀ {prev prev'},
      listFrom cues prev' (t ++ p.frame.tail) = extended p.frame.tail (listFrom cues prev t) := by
    intro t filled prev prev'
    have alone : listFrom cues prev (t ++ []) = [] :=
      listFrom_eq_nil filled (show ([] : Text).length ≤ 1 from Nat.zero_le 1) prev
    rw [List.append_nil] at alone
    rw [listFrom_eq_nil filled p.frame.short, alone]
    rfl
  induction t generalizing prev prev' with
  | nil => exact unlisted (List.forall_mem_nil _)
  | cons c t ih =>
      by_cases filled : ∀ d ∈ c :: t, isBlank d = false
      · exact unlisted filled
      · simp only [not_forall, Bool.not_eq_false] at filled
        obtain ⟨b, mem, blank⟩ := filled
        have here := rest_matchAt?_append avoids p keeps front mem blank
        rw [List.cons_append] at here ⊢
        rw [listFrom_cons, listFrom_cons, here, ih (.inl rfl)]
        cases (Phrase.cue cues).matchAt? prev (c :: t) <;> rfl

end Lists

/-! ### The end of a list -/

/-- A pattern that can be read in both of two places or in neither. -/
def Agrees (s s' : Reading) (q : Pattern) : Prop := q.readings s' = [] ↔ q.readings s = []

section Agrees

variable {s s' : Reading} {a b : Pattern}

theorem Agrees.alt (ha : Agrees s s' a) (hb : Agrees s s' b) : Agrees s s' (.alt a b) := by
  rw [Agrees, readings, readings, List.append_eq_nil_iff, List.append_eq_nil_iff]
  exact and_congr ha hb

theorem Agrees.ahead (h : Agrees s s' a) : Agrees s s' (.ahead a) := by
  rw [Agrees, readings, readings]
  simp only [List.isEmpty_iff, h.eq]
  split <;> simp

theorem agrees_of_forall₂ {R : Reading → Reading → Prop}
    (h : List.Forall₂ R (a.readings s) (a.readings s')) : Agrees s s' a := by
  rw [Agrees, ← List.length_eq_zero_iff, ← List.length_eq_zero_iff, h.length_eq]

/-- A blank or the end of the text is next or not. -/
theorem agrees_ends (head : s'.rest.head?.all isBlank = s.rest.head?.all isBlank) :
    Agrees s s' (oneOf [.char isBlank, .atEnd]) := by
  have ends : ∀ m : Reading, (oneOf [.char isBlank, .atEnd]).readings m = [] ↔
      m.rest.head?.all isBlank = false := by
    intro m
    rw [oneOf, oneOf, readings, readings, readings]
    cases m.rest with
    | nil => simp
    | cons d rest => cases isBlank_eq : isBlank d <;> simp [isBlank_eq]
  rw [Agrees, ends, ends, head]

section Char

variable {c : Char} {u u' : Text} (text : s.rest = c :: u) (text' : s'.rest = c :: u')
include text text'

theorem agrees_char (p : Char → Bool) : Agrees s s' (.char p) := by
  rw [Agrees, readings, readings, text, text']
  dsimp only
  split <;> simp

theorem Agrees.char_seq (p : Char → Bool) (h : Agrees (s.advance c u) (s'.advance c u') a) :
    Agrees s s' (.seq (.char p) a) := by
  rw [Agrees, readings, readings, readings, readings, text, text']
  dsimp only
  split
  · rw [List.flatMap_singleton, List.flatMap_singleton]
    exact h
  · exact Iff.rfl

end Char

end Agrees

section Break

variable (p : Padding) {c : Char} {u : Text} {prev : Option Char}
  (closed : p.after ≠ none → (c :: u).getLast? ≠ some '-')

theorem same_start (prev : Option Char) (t : Text) :
    p.frame.Same ⟨prev, t, 0, none⟩ ⟨prev, t ++ p.frame.tail, 0, none⟩ :=
  ⟨.inl rfl, rfl, rfl, rfl, by simp, p.clean t⟩

include closed

/-- A hyphen between blanks is no nearer for a blank after the text. -/
theorem agrees_hyphen : Agrees ⟨prev, c :: u, 0, none⟩ ⟨prev, c :: u ++ p.frame.tail, 0, none⟩
    (inOrder [.char isBlank, exactly '-', .char isBlank]) := by
  have same := same_start p prev (c :: u)
  have steady : p.frame.Steady (inOrder [.char isBlank, exactly '-', .char isBlank]) :=
    steady_of_overlooks p.mark_mem p.tail_subset (by decide)
  -- The frame adds one character at most, so a hyphen that reaches into it ends the text.
  have stays : ∀ m ∈ (inOrder [.char isBlank, exactly '-', .char isBlank]).readings
      ⟨prev, c :: u ++ p.frame.tail, 0, none⟩, p.frame.within m = true := by
    intro m hm
    obtain ⟨first, mem, hm⟩ := List.mem_flatMap.mp hm
    obtain ⟨second, mem', hm⟩ := List.mem_flatMap.mp hm
    obtain ⟨d, rest, text, -, rfl⟩ := exists_cons_of_mem_readings_char mem
    obtain ⟨d', rest', text', hyphen, rfl⟩ := exists_cons_of_mem_readings_char mem'
    obtain ⟨d'', rest'', text'', -, rfl⟩ := exists_cons_of_mem_readings_char hm
    dsimp only [Reading.advance] at text text' text''
    rw [text', text''] at text
    rw [Frame.within, decide_eq_true_iff]
    have tail : p.frame.tail = p.after.toList := rfl
    rw [tail] at text ⊢
    cases after : p.after with
    | none => exact Nat.zero_le _
    | some b =>
        rw [after] at text
        cases rest'' with
        | cons e rest'' => simp [Reading.advance]
        | nil =>
            have eq : c :: u = [d, d'] := 
              List.append_inj_left' (show c :: u ++ [b] = [d, d'] ++ [d''] from text) rfl
            have last : (c :: u).getLast? = some '-' := by
              rw [eq, eq_of_beq hyphen]
              rfl
            exact absurd last (closed (by simp [after]))
  have readings := steady _ _ same
  rw [List.filter_eq_self.mpr stays] at readings
  exact agrees_of_forall₂ readings

/-- The end of a clause in front of the end of a text does not depend on a blank after it. -/
theorem isSome_clauseBreak :
    (Phrase.clauseBreak.matchAt? prev (c :: u ++ p.frame.tail)).isSome =
      (Phrase.clauseBreak.matchAt? prev (c :: u)).isSome := by
  have same := same_start p prev (c :: u)
  have head : (u ++ p.frame.tail).head?.all isBlank = u.head?.all isBlank := by
    cases u with
    | cons d u => rfl
    | nil =>
        have blank := p.blank_tail
        cases tail : p.frame.tail with
        | nil => rfl
        | cons d rest => exact blank d (tail ▸ List.mem_cons_self)
  have agrees : Agrees ⟨prev, c :: u, 0, none⟩ ⟨prev, c :: u ++ p.frame.tail, 0, none⟩
      Phrase.clauseBreak := by
    refine .alt (agrees_char rfl rfl _) (.alt ?_ (.alt (agrees_hyphen p closed) ?_))
    · exact .char_seq rfl rfl _ (agrees_ends head).ahead
    · exact agrees_of_forall₂ (p.keeps_of_ignores (by decide +kernel) _ _ same)
  rw [matchAt?_eq_head?, matchAt?_eq_head?, Option.isSome_map, Option.isSome_map,
    Bool.eq_iff_iff, List.isSome_head?, List.isSome_head?]
  exact not_congr agrees

omit closed

/-- The clause in front of a blank is the clause of the text, up to the blank. -/
theorem exists_textBefore {t : Text} (closed : p.after ≠ none → t.getLast? ≠ some '-') :
    ∃ w, w <+: p.frame.tail ∧ Phrase.clauseBreak.textBefore (t ++ p.frame.tail) =
      Phrase.clauseBreak.textBefore t ++ w := by
  have before : ∀ t, Phrase.clauseBreak.textBefore t =
      ((Phrase.clauseBreak.findFrom? none t).map Prod.fst).getD t := by
    intro t
    rw [textBefore, find?]
    cases Phrase.clauseBreak.findFrom? none t <;> rfl
  rw [before, before]
  refine Padding.exists_before_append fun prev c u suffix_ => isSome_clauseBreak p fun after => ?_
  obtain ⟨front, text⟩ := suffix_
  rw [← List.getLast?_append_of_ne_nil front (List.cons_ne_nil c u), text]
  exact closed after

end Break

/-! ### The names of a list -/

def namesIn (t : Text) : List Text :=
  (((listedNames t).filterMap cleanName).filter isPropertyName).eraseDups

/-- The names after a cue are those in the list behind its first match. -/
theorem namesAfter_eq (cues : List Text) (t : Text) : namesAfter cues t =
    match namesIn (listFrom cues none (Phrase.renamePhrase.replaceAll [' '] t)) with
    | [] => none
    | names => some names := by
  have nothing : namesIn [] = [] := by decide
  rw [namesAfter, listFrom, find?]
  cases (Phrase.cue cues).findFrom? none (Phrase.renamePhrase.replaceAll [' '] t) with
  | none => rw [Option.map_none, Option.getD_none, nothing]
  | some found => rfl

theorem cleanName_append {raw w : Text} (blank : ∀ c ∈ w, isBlank c = true) :
    cleanName (raw ++ w) = cleanName raw := by
  rw [cleanName, cleanName, withoutQuotes, withoutQuotes, Text.trim_append_of_blank blank]

section Names

variable (p : Padding) {t : Text}

/-- A padding behind a list adds no name to it. -/
theorem filterMap_pieces_append (t : Text) :
    (Phrase.listSeparator.pieces (t ++ p.frame.tail)).filterMap cleanName =
      (Phrase.listSeparator.pieces t).filterMap cleanName := by
  have keeps : p.frame.Keeps Phrase.listSeparator :=
    p.keeps_of_ignores (ignores_phrases _ (by simp))
  obtain ⟨init, last, piecesFrom_eq, padded, -⟩ := keeps.exists_piecesFrom (by decide) (p.clean t)
    (.inl rfl) (Nat.zero_le t.length)
  have pieces_eq : Phrase.listSeparator.pieces t = init ++ [last] := piecesFrom_eq
  have padded : Phrase.listSeparator.pieces (t ++ p.frame.tail) =
      init ++ [last ++ p.frame.tail] := padded
  rw [pieces_eq, padded, List.filterMap_append, List.filterMap_append, List.filterMap_cons,
    List.filterMap_cons, cleanName_append p.blank_tail]

variable (closed : p.after ≠ none → t.getLast? ≠ some '-')
include closed

/-- Nor does it where the list is split at its words. -/
theorem filterMap_listedNames_append : (listedNames (t ++ p.frame.tail)).filterMap cleanName =
    (listedNames t).filterMap cleanName := by
  have quoted : (Phrase.quoted.findAll (t ++ p.frame.tail)).map (·.subject) =
      (Phrase.quoted.findAll t).map (·.subject) := by
    have keeps : p.frame.Keeps Phrase.quoted := p.keeps_of_ignores (ignores_phrases _ (by simp))
    have all : Phrase.quoted.findAll (t ++ p.frame.tail) =
        (Phrase.quoted.findAll t).map (·.before p.frame.tail) :=
      keeps.findAllFrom (by decide) (p.clean t) (.inl rfl) (Nat.zero_le t.length)
    rw [all, List.map_map]
    rfl
  rw [listedNames, listedNames, quoted]
  split
  · obtain ⟨w, part, clause⟩ := exists_textBefore p closed
    rw [clause]
    cases w with
    | nil => rw [List.append_nil]
    | cons c w =>
        have length := p.frame.short
        have whole : c :: w = p.frame.tail := part.eq_of_length_le (by rw [List.length_cons]; omega)
        rw [whole]
        exact filterMap_pieces_append p _
  · rfl

theorem namesIn_extended : namesIn (extended p.frame.tail t) = namesIn t := by
  rw [extended]
  split
  · next none => rw [none]
  · rw [namesIn, namesIn, filterMap_listedNames_append p closed]

end Names

/-- The list of a cue is an end of the sentence. -/
theorem listFrom_suffix (cues : List Text) (prev : Option Char) (t : Text) :
    listFrom cues prev t <:+ t := by
  rw [listFrom]
  cases found : (Phrase.cue cues).findFrom? prev t with
  | none => exact List.nil_suffix
  | some found' =>
      obtain ⟨prev', u, suffix_, here⟩ := mem_findFrom? found
      obtain ⟨s, mem, -, eq⟩ := matchAt?_eq_some here
      rw [Option.map_some, Option.getD_some, eq]
      exact (leads_of_mem_readings mem).rest.trans suffix_

/-- **The names after a cue** are the same in a padded text, if its list does not end in a hyphen
that a blank would make the end of a clause. -/
theorem namesAfter_around {cues : List Text}
    (avoids : ∀ c ∈ blankChars, (inOrder (cueLead cues)).avoids c = true) (p : Padding)
    (keeps : p.frame.Keeps (inOrder (cueLead cues))) {t : Text}
    (closed : p.after ≠ none → t.getLast? ≠ some '-') :
    namesAfter cues (p.around t) = namesAfter cues t := by
  let body := Phrase.renamePhrase.replaceAll [' '] t
  have skips : (Phrase.cue cues).matchAt? none (p.around body) = none := by
    rw [matchAt?_eq_head?]
    exact congrArg (fun rs => (rs.head?).map matchOf) (readings_boundary p.blank_before _ _)
  have list : listFrom cues none (p.around body) =
      extended p.frame.tail (listFrom cues none body) := by
    rw [Padding.around, List.singleton_append] at skips ⊢
    rw [listFrom_cons, skips]
    exact listFrom_append avoids p keeps (.inr ⟨rfl, rfl⟩) body
  rw [namesAfter_eq, namesAfter_eq, Padding.replaceAll_around p inner_renamePhrase.ignores
    inner_renamePhrase.needs [' '] (inner_renamePhrase.matchAt?_eq_none p t), list,
    namesIn_extended p]
  intro after
  have last : body.getLast? ≠ some '-' := Padding.getLast?_replaceAll inner_renamePhrase.ignores
    inner_renamePhrase.needs (by decide) (closed after)
  obtain ⟨front, text⟩ := listFrom_suffix cues none body
  by_cases none : listFrom cues .none body = []
  · rw [none]
    simp
  · rwa [← List.getLast?_append_of_ne_nil front none, text]

/-- A padded sentence names the same columns, unless a dash at its end gets a blank. -/
theorem columnsOf_around (p : Padding) {t : Text}
    (closed : p.after ≠ none → t.getLast? ≠ some '-') :
    columnsOf (p.around t) = columnsOf t := by
  have both : (∀ c ∈ blankChars,
      (inOrder (cueLead (columnCues.map String.toList))).avoids c = true) ∧
        (inOrder (cueLead (columnCues.map String.toList))).overlooks blankChars = true := by
    decide +kernel
  obtain ⟨avoids, overlooks⟩ := both
  have steady : p.frame.Steady (inOrder (cueLead (columnCues.map String.toList))) :=
    steady_of_overlooks p.mark_mem p.tail_subset overlooks
  exact namesAfter_around avoids p
    (steady.keeps (Frame.stays_of_avoids fun c hc => avoids c (p.tail_subset hc))) closed

/-! ### Trimmed sentences -/

/-- **Blanks at the ends of a sentence** change no part of its request that is not a list or an
arrangement. -/
theorem parts_trim (t : Text) : tagOf t.trim = tagOf t ∧ folderOf t.trim = folderOf t ∧
    viewTypeOf t.trim = viewTypeOf t ∧ renameOf t.trim = renameOf t :=
  ⟨Padding.trim_eq_of_around tagOf_around t, Padding.trim_eq_of_around folderOf_around t,
    Padding.trim_eq_of_around viewTypeOf_around t, Padding.trim_eq_of_around renameOf_around t⟩

/-- **Blanks at the ends of a sentence** change no columns, unless they follow a hyphen. -/
theorem columnsOf_trim {t : Text}
    (closed : t.trim.getLast? = some '-' → t.getLast? = some '-') :
    columnsOf t.trim = columnsOf t := by
  refine (Padding.eq_trim (fun p t => columnsOf_around p) (fun t b blank => ?_)
    fun other last => other (closed last)).symm
  rw [List.getLast?_concat]
  rintro ⟨⟩
  exact absurd blank (by decide)

end Notebase.Request
