import Mathlib.Data.List.Find
import Notebase.Proofs.Text.Frame
import Notebase.Proofs.Text.Letters
import Notebase.Request.Basic

/-!
Sentences with a value in them. A sentence that hands over a value, inside quotation marks or
behind a number sign, names what the value names when it is read as a sentence of its own, as far
as the words in front of the value name nothing.
-/

namespace Notebase.Request

open Pattern

/-- Quotation marks around a text that has none itself. -/
def quotes : Frame := ⟨'"', ['"'], isQuote, by decide, by decide, by decide⟩

def numberSign : Frame := ⟨'#', [], isQuote, by decide, by decide, by decide⟩

/-- A phrase that words in front of a text have no part in, and that is read there as in the text
alone. -/
structure Transparent (front : Text) (f : Frame) (p : Pattern) : Prop where
  skips : ∀ rest, p.findAllFrom 0 none (front ++ rest) = p.findAllFrom 0 (some f.mark) rest
  keeps : f.Keeps p
  needs : p.needsText = true

section Rules

variable {front : Text} {f : Frame} {t : Text} (clean : f.Clean t)
include clean

theorem Transparent.findAll {p : Pattern} (h : Transparent front f p) :
    p.findAll (front ++ (t ++ f.tail)) = (p.findAll t).map (·.before f.tail) := by
  rw [Pattern.findAll, h.skips]
  exact h.keeps.findAllFrom h.needs clean (.inr ⟨rfl, rfl⟩) (Nat.zero_le _)

theorem Transparent.subjects {p : Pattern} (h : Transparent front f p) :
    (p.findAll (front ++ (t ++ f.tail))).map (·.subject) = (p.findAll t).map (·.subject) := by
  rw [h.findAll clean, List.map_map]
  rfl

theorem Transparent.occursIn {p : Pattern} (h : Transparent front f p) :
    p.occursIn (front ++ (t ++ f.tail)) = p.occursIn t := by
  rw [occursIn_eq, occursIn_eq, h.findAll clean, List.isEmpty_map]

/-! ### Rules in a frame -/

omit clean in
theorem tagOf_eq (t : Text) : tagOf t =
    (((Phrase.tagLiteral.findAll t).map (·.subject)).head?).or
      (((Phrase.tagPhrase.findAll t).map (·.subject)).find? fun name =>
        !isNoise name && !tagStopWords.contains name.lower) := by
  rw [tagOf, List.head?_map, ← find?_map_snd, Option.map_map]
  cases Phrase.tagLiteral.find? t <;> rfl

theorem tagOf_framed (literal : Transparent front f Phrase.tagLiteral)
    (phrase : Transparent front f Phrase.tagPhrase) :
    tagOf (front ++ (t ++ f.tail)) = tagOf t := by
  rw [tagOf_eq, tagOf_eq, literal.subjects clean, phrase.subjects clean]

theorem folderOf_framed (folder : Transparent front f Phrase.folderPhrase)
    (inside : Transparent front f Phrase.inPhrase) :
    folderOf (front ++ (t ++ f.tail)) = folderOf t := by
  rw [folderOf, folderOf, folder.findAll clean, inside.findAll clean, ← List.map_append,
    List.map_map]
  rfl

theorem viewTypeOf_framed (cues : ∀ cue ∈ Phrase.viewCues, Transparent front f cue.2) :
    viewTypeOf (front ++ (t ++ f.tail)) = viewTypeOf t := by
  rw [viewTypeOf, viewTypeOf]
  refine congrArg (Option.map _) (List.find?_congr fun cue mem => ?_)
  exact (cues cue mem).occursIn clean

theorem lastName_framed {phrase : Pattern} (h : Transparent front f phrase) :
    lastName phrase (front ++ (t ++ f.tail)) = lastName phrase t := by
  rw [lastName, lastName, h.subjects clean]

theorem sortingOf_framed (phrase : Transparent front f Phrase.sortPhrase)
    (descending : Transparent front f Phrase.descending) :
    sortingOf (front ++ (t ++ f.tail)) = sortingOf t := by
  rw [sortingOf, sortingOf, lastName_framed clean phrase, descending.occursIn clean]

theorem groupByOf_framed (phrase : Transparent front f Phrase.groupPhrase) :
    groupByOf (front ++ (t ++ f.tail)) = groupByOf t := lastName_framed clean phrase

end Rules

/-! ### Phrases in quotation marks -/

/-- A pattern that is read as alone, after one that the frame leaves as it is. -/
theorem keeps_after {f : Frame} {a b : Pattern} (ignored : f.ignoredBy a = true) (hb : f.Keeps b) :
    f.Keeps (.seq a b) := (Frame.keeps_of_ignoredBy ignored).seq hb

theorem isQuote_of_eq {q c : Char} (quote : isQuote q = true) (eq : (c == q) = true) :
    isQuote c = true := by
  rwa [beq_iff_eq.mp eq]

/-- A tag ends at a quotation mark, so one inside of a frame is the same one. -/
theorem keeps_tagPhrase : quotes.Keeps Phrase.tagPhrase := by
  have subject : quotes.Keeps (.seq (opt (.char fun c => c == '"' || c == '\''))
      (.capture Phrase.pathName)) := by
    refine Frame.keeps_optional (fun c eq => ?_) (by decide)
      (Frame.keeps_of_ignoredBy (by decide))
    rcases Bool.or_eq_true_iff.mp eq with eq | eq
    · exact isQuote_of_eq (by decide) eq
    · exact isQuote_of_eq (by decide) eq
  exact keeps_after (by decide) <| keeps_after (by decide) <| keeps_after (by decide) <|
    keeps_after (by decide) <| keeps_after (by decide) <| keeps_after (by decide) subject

theorem keeps_folderName : quotes.Keeps Phrase.folderName := by
  have double := Frame.keeps_quoted (f := quotes) (p := (· == '"'))
    (b := inOrder [.capture (run1 (· != '"')), exactly '"']) (fun c => isQuote_of_eq (by decide))
      (by decide)
  have single : quotes.Keeps (inOrder [exactly '\'',
      .capture (run1 fun c => c != '\'' && c != '"'), exactly '\'']) :=
    Frame.keeps_of_ignoredBy (by decide)
  exact double.alt (single.alt (Frame.keeps_of_ignoredBy (by decide)))

theorem keeps_byName : quotes.Keeps Phrase.byName := by
  have quoted : ∀ q, isQuote q = true →
      quotes.Keeps (inOrder [exactly q, run1 (· != q), exactly q]) := fun q quote =>
    Frame.keeps_quoted (fun c => isQuote_of_eq quote) rfl
  exact ((quoted '"' (by decide)).alt ((quoted '\'' (by decide)).alt
    (Frame.keeps_of_ignoredBy (by decide)))).capture

theorem keeps_arrangedBy : quotes.Keeps Phrase.arrangedBy :=
  keeps_after (by decide) <| keeps_after (by decide) <| keeps_after (by decide) <|
    keeps_after (by decide) <| keeps_after (by decide) <| keeps_after (by decide) keeps_byName

/-! ### Sentences that hand over a value -/

def renameWish (name : Text) : Text := "rename it to \"".toList ++ (name ++ ['"'])

def moveWish (folder : Text) : Text := "move it to folder \"".toList ++ (folder ++ ['"'])

def tagWish (tag : Text) : Text := "use #".toList ++ tag

/-- The cues for kinds of view are transparent behind words without a kind of view. -/
theorem viewCues_transparent {front : Text} {f : Frame}
    (keeps : ∀ cue ∈ Phrase.viewCues, f.ignoredBy cue.2 = true)
    (skips : ∀ cue ∈ Phrase.viewCues, ∀ rest,
      cue.2.findAllFrom 0 none (front ++ rest) = cue.2.findAllFrom 0 (some f.mark) rest) :
    ∀ cue ∈ Phrase.viewCues, Transparent front f cue.2 := by
  have needs : ∀ cue ∈ Phrase.viewCues, cue.2.needsText = true := by decide
  exact fun cue mem => ⟨skips cue mem, Frame.keeps_of_ignoredBy (keeps cue mem), needs cue mem⟩

section Wishes

variable {value : Text} (clean : quotes.Clean value)
include clean

theorem tagOf_renameWish : tagOf (renameWish value) = tagOf value :=
  tagOf_framed (f := quotes) clean ⟨fun _ => rfl, Frame.keeps_of_ignoredBy (by decide), by decide⟩
    ⟨fun _ => rfl, keeps_tagPhrase, by decide⟩

theorem folderOf_renameWish : folderOf (renameWish value) = folderOf value :=
  folderOf_framed (f := quotes) clean
    ⟨fun _ => rfl, keeps_after (by decide) <| keeps_after (by decide) <| keeps_after (by decide) <|
      keeps_after (by decide) keeps_folderName, by decide⟩
    ⟨fun _ => rfl, keeps_after (by decide) <| keeps_after (by decide) <| keeps_after (by decide) <|
      keeps_after (by decide) keeps_folderName, by decide⟩

theorem viewTypeOf_renameWish : viewTypeOf (renameWish value) = viewTypeOf value := by
  refine viewTypeOf_framed (f := quotes) clean (viewCues_transparent (by decide) ?_)
  simp only [Phrase.viewCues, List.forall_mem_cons]
  exact ⟨fun _ => rfl, fun _ => rfl, fun _ => rfl, fun _ => rfl, List.forall_mem_nil _⟩

theorem sortingOf_renameWish : sortingOf (renameWish value) = sortingOf value :=
  sortingOf_framed (f := quotes) clean
    ⟨fun _ => rfl, keeps_after (by decide) (keeps_after (by decide) keeps_arrangedBy), by decide⟩
    ⟨fun _ => rfl, Frame.keeps_of_ignoredBy (by decide), by decide⟩

theorem groupByOf_renameWish : groupByOf (renameWish value) = groupByOf value :=
  groupByOf_framed (f := quotes) clean
    ⟨fun _ => rfl, keeps_after (by decide) (keeps_after (by decide) keeps_arrangedBy), by decide⟩

theorem viewTypeOf_moveWish : viewTypeOf (moveWish value) = viewTypeOf value := by
  refine viewTypeOf_framed (f := quotes) clean (viewCues_transparent (by decide) ?_)
  simp only [Phrase.viewCues, List.forall_mem_cons]
  exact ⟨fun _ => rfl, fun _ => rfl, fun _ => rfl, fun _ => rfl, List.forall_mem_nil _⟩

theorem sortingOf_moveWish : sortingOf (moveWish value) = sortingOf value :=
  sortingOf_framed (f := quotes) clean
    ⟨fun _ => rfl, keeps_after (by decide) (keeps_after (by decide) keeps_arrangedBy), by decide⟩
    ⟨fun _ => rfl, Frame.keeps_of_ignoredBy (by decide), by decide⟩

theorem groupByOf_moveWish : groupByOf (moveWish value) = groupByOf value :=
  groupByOf_framed (f := quotes) clean
    ⟨fun _ => rfl, keeps_after (by decide) (keeps_after (by decide) keeps_arrangedBy), by decide⟩

end Wishes

/-! ### The name in a wish to rename -/

def viewMention : Pattern := Phrase.wordsThen ["it", "this", "the", "view", "base", "table"]

def renameLead : List Pattern := [
  .boundary, opt (word "re"), words ["name", "call", "title"], opt (words ["d", "ed"]), blanks,
  .star viewMention, opt (Phrase.wordsThen ["to", "as"])]

theorem renamePhrase_eq : Phrase.renamePhrase = inOrder (renameLead ++ [Phrase.quotedName]) := rfl

section Lead

variable (rest : Text)

/-- The places in a wish to rename where its name is looked for. -/
def leadPlaces : List Reading := [
  ⟨some ' ', '"' :: rest, 13, none⟩, ⟨some ' ', "to \"".toList ++ rest, 10, none⟩,
  ⟨some ' ', "it to \"".toList ++ rest, 7, none⟩]

/-- What a wish to rename mentions of the view is the word "it", or nothing. -/
theorem readings_viewMentions :
    (Pattern.star viewMention).readings ⟨some ' ', "it to \"".toList ++ rest, 7, none⟩ =
      [⟨some ' ', "to \"".toList ++ rest, 10, none⟩,
        ⟨some ' ', "it to \"".toList ++ rest, 7, none⟩] := by
  have length : ("it to \"".toList ++ rest).length = rest.length + 5 + 2 := by
    rw [List.length_append]
    exact Nat.add_comm 7 _
  have first : viewMention.readings ⟨some ' ', "it to \"".toList ++ rest, 7, none⟩ =
      [⟨some ' ', "to \"".toList ++ rest, 10, none⟩] := rfl
  have second : viewMention.readings ⟨some ' ', "to \"".toList ++ rest, 10, none⟩ = [] := rfl
  rw [readings]
  dsimp only
  rw [length, readingsStar, first, List.flatMap_singleton, if_pos (show 7 < 10 by decide), readingsStar,
    second]
  rfl

/-- The lead of a wish to rename is read up to the name. -/
theorem readings_renameLead :
    (inOrder renameLead).readings ⟨none, "rename it to \"".toList ++ rest, 0, none⟩ =
      leadPlaces rest := by
  have front : (inOrder (renameLead.take 5)).readings
      ⟨none, "rename it to \"".toList ++ rest, 0, none⟩ =
        [⟨some ' ', "it to \"".toList ++ rest, 7, none⟩] := rfl
  have first : (opt (Phrase.wordsThen ["to", "as"])).readings
      ⟨some ' ', "to \"".toList ++ rest, 10, none⟩ =
        [⟨some ' ', '"' :: rest, 13, none⟩, ⟨some ' ', "to \"".toList ++ rest, 10, none⟩] := rfl
  have second : (opt (Phrase.wordsThen ["to", "as"])).readings
      ⟨some ' ', "it to \"".toList ++ rest, 7, none⟩ =
        [⟨some ' ', "it to \"".toList ++ rest, 7, none⟩] := rfl
  have split : renameLead = renameLead.take 5 ++ [.star viewMention] ++
      [opt (Phrase.wordsThen ["to", "as"])] := rfl
  rw [split, readings_inOrder_append (by simp), readings_inOrder_append (by simp [renameLead]), front,
    List.flatMap_singleton, readings_viewMentions, List.flatMap_cons, List.flatMap_singleton, first,
    second]
  rfl

end Lead

/-- The lazy run up to the closing mark. -/
theorem readings_closed {p q : Char → Bool} (mark : p '"' = false) (mark' : q '"' = true)
    {t : Text} (inner : ∀ c ∈ t, p c = true ∧ q c = false) (start : Text) (base : Nat)
    {s : Reading} (text : s.rest = t ++ ['"']) :
    (((readingsLazyRun p (t ++ ['"']) s).map fun s' : Reading =>
      { s' with captured := some (start, s'.count - base) }).flatMap (Pattern.char q).readings) =
        [⟨some '"', [], s.count + t.length + 1, some (start, s.count + t.length - base)⟩] := by
  induction t generalizing s with
  | nil =>
      rw [List.nil_append, readingsLazyRun, mark]
      simp only [Bool.false_eq_true, if_false, List.map_cons, List.map_nil, List.flatMap_cons,
        List.flatMap_nil, readings, text, List.nil_append, mark', if_true, List.append_nil]
      rfl
  | cons c t ih =>
      obtain ⟨passes, other⟩ := inner c List.mem_cons_self
      have here : (Pattern.char q).readings
          { s with captured := some (start, s.count - base) } = [] := by
        rw [readings, text]
        simp only [List.cons_append, other, Bool.false_eq_true, if_false]
      have rest := ih (fun d hd => inner d (List.mem_cons_of_mem _ hd))
        (s := s.advance c (t ++ ['"'])) rfl
      rw [List.cons_append, readingsLazyRun, passes, if_pos rfl, List.map_cons, List.flatMap_cons,
        here,
        List.nil_append, rest, Reading.advance, List.length_cons]
      have count : s.count + 1 + t.length = s.count + (t.length + 1) := by omega
      simp only [count]

section Rename

variable {name : Text} (clean : quotes.Clean name) (plain : '\n' ∉ name) (ne : name ≠ [])
include clean plain ne

/-- A name between marks is read as a whole, and in no other way. -/
theorem readings_quotedName (prev : Option Char) (count : Nat) :
    Phrase.quotedName.readings ⟨prev, '"' :: (name ++ ['"']), count, none⟩ =
      [⟨some '"', [], count + name.length + 2, some (name ++ ['"'], name.length)⟩] := by
  obtain ⟨c, t, rfl⟩ := List.exists_cons_of_ne_nil ne
  let inside : Char → Bool := fun c => !"\"”’\n".toList.contains c
  have inner : ∀ d ∈ c :: t, inside d = true ∧ isClosingQuote d = false := by
    have marks : ∀ d ∈ "\"”’\n".toList, isQuote d = true ∨ d = '\n' := by decide
    intro d hd
    have other : isQuote d = false := clean d hd
    refine ⟨?_, (Bool.or_eq_false_iff.mp other).2⟩
    rw [Bool.not_eq_true', ← Bool.not_eq_true, List.contains_iff_mem]
    intro mem
    rcases marks d mem with quote | rfl
    · rw [other] at quote
      cases quote
    · exact plain hd
  let opened : Reading := ⟨some '"', c :: (t ++ ['"']), count + 1, none⟩
  let first : Reading := ⟨some c, t ++ ['"'], count + 2, none⟩
  have opens : (Pattern.char isOpeningQuote).readings
      ⟨prev, '"' :: (c :: t ++ ['"']), count, none⟩ = [opened] := rfl
  have begins : (Pattern.char inside).readings opened = [first] := by
    rw [readings]
    dsimp only [opened]
    rw [(inner c List.mem_cons_self).1]
    rfl
  have lazy : (lazyRun1 inside).readings opened = readingsLazyRun inside (t ++ ['"']) first := by
    rw [lazyRun1, readings, begins, List.flatMap_singleton]
    rfl
  -- No mark stands inside, so the first one that closes is the last character.
  have closed := readings_closed (p := inside) (q := isClosingQuote) (by decide) (by decide)
    (fun d hd => inner d (List.mem_cons_of_mem _ hd)) (c :: (t ++ ['"'])) (count + 1)
    (s := first) rfl
  have phrase : Phrase.quotedName = .seq (.char isOpeningQuote)
      (.seq (.capture (lazyRun1 inside)) (.char isClosingQuote)) := rfl
  rw [phrase, readings, opens, List.flatMap_singleton, readings, readings, lazy]
  have places : first.count + t.length + 1 = count + (c :: t).length + 2 := by
    rw [List.length_cons]
    dsimp only [first]
    omega
  have stretch : first.count + t.length - (count + 1) = (c :: t).length := by
    rw [List.length_cons]
    dsimp only [first]
    omega
  rw [closed, places, stretch]
  rfl

/-- **A wish to rename is one match**, about the name. -/
theorem matchAt?_renameWish : Phrase.renamePhrase.matchAt? none (renameWish name) =
    some ⟨(renameWish name).length, name, []⟩ := by
  have second : Phrase.quotedName.readings
      ⟨some ' ', "to \"".toList ++ (name ++ ['"']), 10, none⟩ = [] := rfl
  have third : Phrase.quotedName.readings
      ⟨some ' ', "it to \"".toList ++ (name ++ ['"']), 7, none⟩ = [] := rfl
  have front : "rename it to \"".toList.length = 14 := by decide
  have total : ∀ lead : Text, (lead ++ (name ++ ['"'])).length = lead.length + name.length + 1 := by
    intro lead
    rw [List.length_append, List.length_append, List.length_singleton, Nat.add_assoc]
  have length : (renameWish name).length = 13 + name.length + 2 := by
    refine (total _).trans ?_
    rw [front]
    omega
  have lead : renameLead ≠ [] := List.cons_ne_nil _ _
  have subject : (name ++ ['"']).take name.length = name := List.take_left
  have places : (inOrder renameLead).readings ⟨none, renameWish name, 0, none⟩ =
      leadPlaces (name ++ ['"']) := readings_renameLead _
  rw [matchAt?_eq_head?, renamePhrase_eq, readings_inOrder_append lead, places,
    leadPlaces, List.flatMap_cons, List.flatMap_cons, List.flatMap_singleton,
    readings_quotedName clean plain ne, second, third, length]
  simp only [List.append_nil, List.head?_cons, Option.map_some, matchOf, Option.getD_some, subject]

theorem namesAfter_renameWish (cues : List Text) : namesAfter cues (renameWish name) = none := by
  have front : "rename it to \"".toList ≠ [] := by decide
  have ne_nil : renameWish name ≠ [] := List.append_ne_nil_of_left_ne_nil front _
  have whole : Phrase.renamePhrase.replaceAll [' '] (renameWish name) = [' '] :=
    replaceAll_of_matchAt? [' '] ne_nil (matchAt?_renameWish clean plain ne) rfl
  rw [namesAfter, whole]
  rfl

end Rename

/-! ### Columns and names elsewhere -/

theorem fails_quotedName : Fails (fun c => !isQuote c) Phrase.renamePhrase := by
  have opening : Fails (fun c => !isQuote c) Phrase.quotedName :=
    (fails_char fun c passes => by
      have other : isQuote c = false := by simpa using passes
      exact (Bool.or_eq_false_iff.mp other).1).seq_left _
  exact .seq_right _ <| .seq_right _ <| .seq_right _ <| .seq_right _ <| .seq_right _ <|
    .seq_right _ <| .seq_right _ opening

theorem namesAfter_of_findAll {cues : List Text} {t : Text}
    (noName : Phrase.renamePhrase.findAll t = []) (noCue : (Phrase.cue cues).findAll t = []) :
    namesAfter cues t = none := by
  rw [namesAfter, replaceAll_of_findAll _ noName, find?_eq_none_of_findAll noCue]

theorem renameOf_of_findAll {t : Text} (noName : Phrase.renamePhrase.findAll t = []) :
    renameOf t = none := by
  rw [renameOf, find?_eq_none_of_findAll noName]

section Move

variable {folder : Text} (clean : quotes.Clean folder)
include clean

/-- A wish to move is no wish to rename. -/
theorem findAll_renamePhrase_moveWish : Phrase.renamePhrase.findAll (moveWish folder) = [] := by
  have quoted : quotes.Keeps Phrase.quotedName :=
    Frame.keeps_quoted (fun c opening => by simp [quotes, isQuote, opening]) (by decide)
  have transparent : Transparent "move it to folder \"".toList quotes Phrase.renamePhrase := by
    refine ⟨fun _ => rfl, ?_, by decide⟩
    exact keeps_after (by decide) <| keeps_after (by decide) <| keeps_after (by decide) <|
      keeps_after (by decide) <| keeps_after (by decide) <| keeps_after (by decide) <|
        keeps_after (by decide) quoted
  have alone : Phrase.renamePhrase.findAll folder = [] := by
    refine fails_quotedName.findAllFrom (fun c hc => ?_) 0 none
    rw [Bool.not_eq_true']
    exact clean c hc
  have framed := transparent.findAll clean
  rw [alone, List.map_nil] at framed
  exact framed

end Move

/-! ### Tags -/

/-- No blank stands in a path. -/
theorem not_isBlank_of_isPathChar {c : Char} (path : Phrase.isPathChar c = true) :
    isBlank c = false := by
  rw [Phrase.isPathChar, Bool.or_eq_true, Bool.or_eq_true, beq_iff_eq, beq_iff_eq] at path
  rcases path with (word | rfl) | rfl
  · exact not_isBlank_of_isWordChar word
  · decide
  · decide

/-- The name of a tag: a word character, and then word characters, slashes and hyphens. -/
structure IsTag (tag : Text) : Prop where
  first : ∃ c, tag.head? = some c ∧ isWordChar c = true
  path : ∀ c ∈ tag, Phrase.isPathChar c = true

section Tag

variable {tag : Text} (isTag : IsTag tag)
include isTag

theorem IsTag.not_isBlank : ∀ c ∈ tag, (!isBlank c) = true := by
  intro c hc
  rw [Bool.not_eq_true']
  exact not_isBlank_of_isPathChar (isTag.path c hc)

/-- No number sign stands in a tag. -/
theorem IsTag.clean : numberSign.Clean tag := by
  intro c hc
  have marks : ∀ q ∈ "\"'“‘".toList ++ "\"'”’".toList, Phrase.isPathChar q = false := by
    decide +kernel
  show isQuote c = false
  rw [Bool.eq_false_iff]
  intro quote
  rw [isQuote, isOpeningQuote, isClosingQuote, Bool.or_eq_true, List.contains_iff_mem,
    List.contains_iff_mem, ← List.mem_append] at quote
  have path := isTag.path c hc
  rw [marks c quote] at path
  cases path

/-- The kind in a wish for a tag is the one in the tag. -/
theorem IsTag.viewTypeOf_tagWish : viewTypeOf (tagWish tag) = viewTypeOf tag := by
  have cues : ∀ cue ∈ Phrase.viewCues, Transparent "use #".toList numberSign cue.2 := by
    refine viewCues_transparent (by decide) ?_
    simp only [Phrase.viewCues, List.forall_mem_cons]
    exact ⟨fun _ => rfl, fun _ => rfl, fun _ => rfl, fun _ => rfl, List.forall_mem_nil _⟩
  have framed := viewTypeOf_framed isTag.clean cues
  have alone : tag ++ numberSign.tail = tag := List.append_nil tag
  rw [alone] at framed
  exact framed

/-- A phrase with a blank in it is not in a wish for a tag. -/
theorem IsTag.findAll_tagWish {p : Pattern} (fails : Fails (fun c => !isBlank c) p)
    (skips : ∀ rest, p.findAllFrom 0 none ("use #".toList ++ rest) =
      p.findAllFrom 0 (some '#') rest) : p.findAll (tagWish tag) = [] :=
  (skips tag).trans (fails.findAllFrom isTag.not_isBlank 0 (some '#'))

omit isTag in
theorem fails_blanks : Fails (fun c => !isBlank c) blanks :=
  (fails_char fun c passes => by simpa using passes).seq_left _

omit isTag in
theorem fails_arrangedBy : Fails (fun c => !isBlank c) Phrase.arrangedBy :=
  .seq_right _ (fails_blanks.seq_left _)

theorem IsTag.sortingOf_tagWish : sortingOf (tagWish tag) = none := by
  have none : Phrase.sortPhrase.findAll (tagWish tag) = [] :=
    isTag.findAll_tagWish (.seq_right _ (.seq_right _ fails_arrangedBy)) fun _ => rfl
  rw [sortingOf, lastName, none]
  rfl

theorem IsTag.groupByOf_tagWish : groupByOf (tagWish tag) = none := by
  have none : Phrase.groupPhrase.findAll (tagWish tag) = [] :=
    isTag.findAll_tagWish (.seq_right _ (.seq_right _ fails_arrangedBy)) fun _ => rfl
  rw [groupByOf, lastName, none]
  rfl

theorem IsTag.findAll_renamePhrase : Phrase.renamePhrase.findAll (tagWish tag) = [] :=
  isTag.findAll_tagWish (.seq_right _ <| .seq_right _ <| .seq_right _ <| .seq_right _ <|
    fails_blanks.seq_left _) fun _ => rfl

theorem IsTag.renameOf_tagWish : renameOf (tagWish tag) = none :=
  renameOf_of_findAll isTag.findAll_renamePhrase

theorem IsTag.addedOf_tagWish : addedOf (tagWish tag) = none :=
  namesAfter_of_findAll isTag.findAll_renamePhrase (isTag.findAll_tagWish (.seq_right _ <|
    .seq_right _ <| .seq_right _ <| .seq_right _ fails_blanks) fun _ => rfl)

theorem IsTag.removedOf_tagWish : removedOf (tagWish tag) = none :=
  namesAfter_of_findAll isTag.findAll_renamePhrase (isTag.findAll_tagWish (.seq_right _ <|
    .seq_right _ <| .seq_right _ <| .seq_right _ fails_blanks) fun _ => rfl)

end Tag

end Notebase.Request
