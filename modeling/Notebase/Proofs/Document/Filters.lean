import Notebase.Proofs.Document.Call
import Notebase.Proofs.Document.Outline

/-!
The edit of the filters. It changes the lines of the filters block, or puts such a block first,
and the rest of the outline stays (`outline_setFilterPredicate`).
-/

namespace Notebase.Document

open Text

/-! ### Blocks by their lines -/

/-- Lines that a key of the top level opens, and no other. -/
def IsBlock (key : Text) (ls : List Text) : Prop :=
  ∃ header rest, ls = header :: rest ∧ startsWithKey key header = true ∧
    ∀ l ∈ rest, isTopKey l = false

theorem isBlock_of_blockOf? {key : Text} {ls block : List Text}
    (found : blockOf? key ls = some block) : IsBlock key block := by
  rw [blockOf?, Option.map_eq_some_iff] at found
  obtain ⟨⟨_, header, rest⟩, split, rfl⟩ := found
  refine ⟨header, _, rfl, (splitFirst?_eq_some split).2.1, fun l hl => ?_⟩
  simpa using List.mem_takeWhile_imp hl

/-- A block may lose lines below its header, and its lines may change behind what makes them
open a block or not. -/
theorem IsBlock.exchange {key l l' : Text} {front mid after : List Text}
    (block : IsBlock key (front ++ l :: (mid ++ after)))
    (same : startsWithKey key l' = startsWithKey key l) (same' : isTopKey l' = isTopKey l) :
    IsBlock key (front ++ l' :: after) := by
  obtain ⟨header, rest, eq, isHeader, notTop⟩ := block
  cases front with
  | nil =>
      obtain ⟨rfl, rfl⟩ := List.cons.inj eq
      exact ⟨l', after, rfl, same.trans isHeader, fun x hx =>
        notTop x (List.mem_append_right _ hx)⟩
  | cons first front =>
      obtain ⟨rfl, rfl⟩ := List.cons.inj eq
      refine ⟨first, _, rfl, isHeader, fun x hx => ?_⟩
      rcases List.mem_append.mp hx with hx | hx
      · exact notTop x (List.mem_append_left _ hx)
      · rcases List.mem_cons.mp hx with rfl | hx
        · rw [same']
          exact notTop l (by simp)
        · exact notTop x (by simp [hx])

/-- A block may get lines below one of its own. -/
theorem IsBlock.insert {key : Text} {front new after : List Text} (ne : front ≠ [])
    (block : IsBlock key (front ++ after)) (notTop : ∀ l ∈ new, isTopKey l = false) :
    IsBlock key (front ++ new ++ after) := by
  obtain ⟨header, rest, eq, isHeader, old⟩ := block
  cases front with
  | nil => exact absurd rfl ne
  | cons first front =>
      obtain ⟨rfl, rfl⟩ := List.cons.inj eq
      refine ⟨first, front ++ new ++ after, by simp, isHeader, fun l hl => ?_⟩
      simp only [List.mem_append] at hl
      rcases hl with (h | h) | h
      · exact old l (List.mem_append_left _ h)
      · exact notTop l h
      · exact old l (List.mem_append_right _ h)

theorem prefix_mark_iff {front u y : Text} {c : Char} (out : c ∉ front) :
    front <+: u ++ c :: y ↔ front <+: u := by
  constructor
  · rintro ⟨z, eq⟩
    obtain ⟨m, rfl, -⟩ := append_eq_of_not_mem_front eq out
    exact List.prefix_append _ _
  · exact fun h => h.trans (List.prefix_append _ _)

/-- What opens a block stands before any character that no key has. -/
theorem startsWithKey_mark {key u : Text} {c : Char} (out : c ∉ key ++ [':']) (y y' : Text) :
    startsWithKey key (u ++ c :: y) = startsWithKey key (u ++ c :: y') := by
  rw [startsWithKey, startsWithKey, Bool.eq_iff_iff, List.isPrefixOf_iff_prefix,
    List.isPrefixOf_iff_prefix, prefix_mark_iff out, prefix_mark_iff out]

/-- What follows a character that no key holds does not make a line one with a key. -/
theorem isTopKey_mark {u : Text} {c : Char} (out : isKeyChar c = false) (mark : c ≠ ':')
    (letter : c.isAlpha = false) (y : Text) : isTopKey (u ++ c :: y) = isTopKey u := by
  cases u with
  | nil =>
      have notUnderscore : c ≠ '_' := by
        rintro rfl
        exact absurd out (by decide)
      simp [isTopKey, letter, notUnderscore]
  | cons d u =>
      rw [List.cons_append, isTopKey, isTopKey, dropWhile_append_stop (by simp [out])]
      cases u.dropWhile isKeyChar with
      | nil => simp [mark]
      | cons e t => rfl

/-! ### The block of the filters -/

/-- The line of a predicate that is put first under a line that joins predicates. -/
def predicateLine (predicate line : Text) : Text :=
  spaces (indentation line + 2) ++ "- ".toList ++ quotePredicate predicate ++ ['\n']

def setPredicate (test value : Text) (ls : List Text) : Text :=
  match splitCall? test ls.flatten with
  | some (before, rest) => before ++ callFront test ++ argumentAfter before value ++ rest
  | none =>
      match splitFirst? (fun line => (conjunctionDepth? line).isSome) ls with
      | none => ls.flatten
      | some (before, line, after) =>
          (before ++ line :: predicateLine (filePredicate test value) line :: after).flatten

/-- The text of a filters block with a predicate put first under the line that joins its
predicates, if there is one. -/
def withPredicate (predicate : Text) (ls : List Text) : Text :=
  match splitFirst? (fun line => (conjunctionDepth? line).isSome) ls with
  | none => ls.flatten
  | some (before, line, after) =>
      (before ++ line :: predicateLine predicate line :: after).flatten

theorem setPredicate_of_splitCall?_eq_none {test : Text} {ls : List Text}
    (none : splitCall? test ls.flatten = none) (value : Text) :
    setPredicate test value ls = withPredicate (filePredicate test value) ls := by
  rw [setPredicate, none]
  rfl

theorem insertPredicate_of_block? {key t : Text} {b : Block} (found : block? key t = some b)
    (predicate : Text) :
    insertPredicate predicate b t = b.replace (withPredicate predicate b.lines) := by
  rw [insertPredicate, withPredicate]
  cases splitFirst? (fun line => (conjunctionDepth? line).isSome) b.lines with
  | none => exact (replace_lines_of_block? found).symm
  | some parts => simp [predicateLine]

/-- A test is set in the lines of the filters block alone. -/
theorem setFilterPredicate_of_block? {test value t : Text} {b : Block}
    (found : block? "filters".toList t = some b) :
    setFilterPredicate test value t = b.replace (setPredicate test value b.lines) := by
  rw [setFilterPredicate, found]
  dsimp only
  cases call : splitCall? test b.lines.flatten with
  | some pair => rw [setPredicate, call]
  | none =>
      rw [setPredicate_of_splitCall?_eq_none call]
      exact insertPredicate_of_block? found _

theorem plain_escape {value : Text} (plain : '\n' ∉ value) : '\n' ∉ escape value := by
  rw [escape, List.mem_flatMap]
  rintro ⟨c, hc, h⟩
  have differs : c ≠ '\n' := fun eq => plain (eq ▸ hc)
  split at h
  · simp [Ne.symm differs] at h
  · exact differs (List.mem_singleton.mp h).symm

theorem plain_doubleQuotes {t : Text} (plain : '\n' ∉ t) : '\n' ∉ doubleQuotes t :=
  plain_replaceChar plain (by decide)

theorem plain_argumentAfter (before : Text) {value : Text} (plain : '\n' ∉ value) :
    '\n' ∉ argumentAfter before value := by
  rw [argumentAfter]
  split
  · exact plain_doubleQuotes (plain_escape plain)
  · exact plain_escape plain

theorem plain_callFront {test : Text} (noEnd : '\n' ∉ test) : '\n' ∉ callFront test := by
  simp [callFront_def, noEnd]

theorem plain_filePredicate {test value : Text} (noEnd : '\n' ∉ test) (plain : '\n' ∉ value) :
    '\n' ∉ filePredicate test value := by
  simp [filePredicate, plain_callFront noEnd, plain_escape plain]

theorem plain_quotePredicate {predicate : Text} (plain : '\n' ∉ predicate) :
    '\n' ∉ quotePredicate predicate := by
  rw [quotePredicate]
  split
  · simp [singleQuoted, plain_doubleQuotes plain]
  · exact plain

/-- A line that joins predicates has a line end and nothing of a call on it. -/
theorem conjunction_shape {line : Text} (h : (conjunctionDepth? line).isSome = true) :
    ∃ r, line = r ++ ['\n'] ∧ '.' ∉ r := by
  rw [conjunctionDepth?] at h
  simp only [Option.isSome_bind, Option.any_eq_true] at h
  obtain ⟨rest, word?, h⟩ := h
  obtain ⟨word, mem, isFront⟩ := List.exists_of_findSome?_eq_some word?
  rw [after?_eq_some_iff] at isFront
  split at h
  · next ends =>
      have parts := List.takeWhile_append_dropWhile (p := isSpaceOrTab) (l := rest)
      rw [beq_iff_eq.mp ends] at parts
      have whole := spaces_append_dropWhile line
      rw [isFront, ← parts] at whole
      refine ⟨spaces (indentation line) ++ word.toList ++ rest.takeWhile isSpaceOrTab,
        by simpa using whole.symm, ?_⟩
      have noGap : '.' ∉ rest.takeWhile isSpaceOrTab := fun h =>
        absurd (List.mem_takeWhile_imp h) (by decide)
      simp only [List.mem_cons, List.not_mem_nil, or_false] at mem
      rcases mem with rfl | rfl <;> simp [spaces, noGap]
  · cases h

section Block

variable {ls : List Text} (lines_eq : Text.lines ls.flatten = ls) (block :
    IsBlock "filters".toList ls)
include lines_eq block

/-- The block with another text after an opening parenthesis and a quotation mark. -/
theorem isBlock_exchange {before old new rest : Text} (text : ls.flatten = before ++ "(\"".toList ++
    old ++ rest) (plain : '\n' ∉ new) (closed : rest ≠ []) :
    IsBlock "filters".toList (Text.lines (before ++ "(\"".toList ++ new ++ rest)) ∧
      terminated (before ++ "(\"".toList ++ new ++ rest) = terminated ls.flatten := by
  obtain ⟨front, mid, after, w, x, x', lines, lines'⟩ := lines_exchange before old
    (u := "(\"".toList) (by decide) (by decide) plain closed
  rw [← text, lines_eq] at lines
  rw [lines] at block
  have front_eq : ∀ y : Text, w ++ "(\"".toList ++ y = w ++ '(' :: '"' :: y := by simp
  refine ⟨?_, by rw [text, terminated_append _ closed, terminated_append _ closed]⟩
  rw [lines']
  refine block.exchange ?_ ?_
  · rw [front_eq, front_eq]
    exact startsWithKey_mark (by decide) _ _
  · rw [front_eq, front_eq, isTopKey_mark (by decide) (by decide) (by decide),
      isTopKey_mark (by decide) (by decide) (by decide)]

variable {test value : Text} (noEnd : '\n' ∉ test) (plain : '\n' ∉ value)
include noEnd plain

/-- The block with a predicate under the line that joins its predicates. -/
theorem isBlock_insert {before after : List Text} {line : Text}
    (parts : ls = before ++ line :: after) (join : (conjunctionDepth? line).isSome = true) :
    Text.lines (before ++ line :: predicateLine (filePredicate test value) line :: after).flatten =
        before ++ line :: predicateLine (filePredicate test value) line :: after ∧
      IsBlock "filters".toList
        (before ++ line :: predicateLine (filePredicate test value) line :: after) ∧
      terminated (before ++ line :: predicateLine (filePredicate test value) line :: after).flatten =
        terminated ls.flatten := by
  obtain ⟨r, rfl, -⟩ := conjunction_shape join
  generalize item_eq : predicateLine (filePredicate test value) (r ++ ['\n']) = item
  have row : '\n' ∉ spaces (indentation (r ++ ['\n']) + 2) ++ "- ".toList ++
      quotePredicate (filePredicate test value) := by
    simp [spaces, plain_quotePredicate (plain_filePredicate noEnd plain)]
  have itemLines : Text.lines item = [item] := by
    rw [← item_eq, predicateLine, lines_row_newline row]
  have itemEnds : terminated item = true := by
    rw [← item_eq, predicateLine, terminated_append_newline]
  have notTop : isTopKey item = false := by
    simp [← item_eq, predicateLine, spaces, List.replicate_succ, isTopKey]
  have written : item ≠ [] := by
    rintro rfl
    cases itemEnds
  -- The line of the conjunction has its end, so the new line starts after it.
  have complete : terminated (before ++ [r ++ ['\n']]).flatten = true := by
    rw [List.flatten_append, List.flatten_singleton, ← List.append_assoc,
      terminated_append_newline]
  have cut : Text.lines ls.flatten = (before ++ [r ++ ['\n']]) ++ after := by
    rw [lines_eq, parts]
    simp
  obtain ⟨first, rest, -⟩ := lines_eq_append cut
  have new : (before ++ (r ++ ['\n']) :: item :: after).flatten =
      (before ++ [r ++ ['\n']]).flatten ++ (item ++ after.flatten) := by simp
  refine ⟨?_, ?_, ?_⟩
  · rw [new, lines_append _ (.inr complete), first, lines_append _ (.inr itemEnds), itemLines, rest]
    simp
  · have whole : IsBlock "filters".toList ((before ++ [r ++ ['\n']]) ++ [item] ++ after) := by
      refine IsBlock.insert (by simp) (by rwa [← cut, lines_eq]) fun l hl => ?_
      rwa [List.mem_singleton.mp hl]
    simpa using whole
  · rw [new, parts]
    by_cases none : after.flatten = []
    · rw [none, List.append_nil, terminated_append _ written, itemEnds, ← complete]
      simp [none]
    · rw [← List.append_assoc, terminated_append _ none, List.flatten_append, List.flatten_cons,
        ← List.append_assoc, terminated_append _ none]

/-- The block with a predicate under the line that joins its predicates, if there is one. -/
theorem isBlock_withPredicate :
    IsBlock "filters".toList (Text.lines (withPredicate (filePredicate test value) ls)) ∧
      terminated (withPredicate (filePredicate test value) ls) = terminated ls.flatten := by
  rw [withPredicate]
  split
  · exact ⟨by rwa [lines_eq], rfl⟩
  · next before line after split =>
      obtain ⟨parts, join, -⟩ := splitFirst?_eq_some split
      obtain ⟨lines, new, ends⟩ := isBlock_insert lines_eq block noEnd plain parts join
      exact ⟨by rwa [lines], ends⟩

/-- The lines of the filters block after a predicate is set are those of such a block, and it ends
as it did. -/
theorem isBlock_setPredicate : IsBlock "filters".toList (Text.lines (setPredicate test value ls)) ∧
    terminated (setPredicate test value ls) = terminated ls.flatten := by
  cases found : splitCall? test ls.flatten with
  | none =>
      rw [setPredicate_of_splitCall?_eq_none found]
      exact isBlock_withPredicate lines_eq block noEnd plain
  | some pair =>
      obtain ⟨before, rest⟩ := pair
      obtain ⟨a, call, -⟩ := splitCall?_eq_some_iff.mp found
      have closed : rest ≠ [] := by
        obtain ⟨r, rfl⟩ := call.closed
        simp
      have front : callFront test = "file.".toList ++ test ++ "(\"".toList := rfl
      have text := call.text
      rw [setPredicate, found]
      dsimp only
      rw [front, ← List.append_assoc] at text ⊢
      exact isBlock_exchange lines_eq block text (plain_argumentAfter before plain) closed

end Block

/-! ### The outline after the edit -/

/-- Lines of a text can be exchanged for a text that ends as they do. -/
theorem lines_replace_lines {t new : Text} {a b c : List Text} (lines : t.lines = a ++ b ++ c)
    (ne : b ≠ []) (ends : terminated new = terminated b.flatten) :
    Text.lines (a.flatten ++ new ++ c.flatten) = a ++ Text.lines new ++ c := by
  have lines' : t.lines = a ++ (b ++ c) := by rw [lines, List.append_assoc]
  obtain ⟨ha, hbc, complete⟩ := lines_eq_append lines'
  obtain ⟨hb, hc, complete'⟩ := lines_eq_append hbc
  have written : b.flatten ≠ [] := by
    intro h
    rw [h] at hb
    exact ne hb.symm
  rw [List.append_assoc, lines_append _ (complete (by simp [ne])), ha, List.append_assoc]
  congr 1
  by_cases none : c = []
  · simp [none]
  · rw [lines_append _ (.inr (ends.trans ((complete' none).resolve_left written))), hc]

/-- The first view depends on the block of views alone. -/
theorem map_panel_firstView? {t t' : Text}
    (same : blockOf? "views".toList t'.lines = blockOf? "views".toList t.lines) :
    (firstView? t').map View.panel = (firstView? t).map View.panel := by
  have panel_eq : ∀ t : Text, (firstView? t).map View.panel =
      (blockOf? "views".toList t.lines).bind fun ls =>
        (splitFirst? isItem ls.tail).map fun split =>
          Panel.ofRows (indentation split.2.1)
            ((split.2.1 :: dropEndWhile isEmptyLine (split.2.2.takeWhile fun l =>
              !(dashFront (indentation split.2.1)).isPrefixOf l)).map content) := by
    intro t
    rw [← map_lines_block?, firstView?, Option.map_bind, Option.bind_map]
    refine congrArg (Option.bind _) (funext fun b => ?_)
    rw [Function.comp_apply, Function.comp_apply, Option.map_map]
    rfl
  rw [panel_eq, panel_eq, same]

/-- The block of one key is foreign to every other key. -/
theorem IsBlock.foreign {key key' : Text} {ls : List Text} (block : IsBlock key ls)
    (name : isKeyName key = true) (name' : isKeyName key' = true) (ne : key ≠ key') :
    Foreign key' ls := by
  obtain ⟨header, rest, rfl, isHeader, notTop⟩ := block
  refine ⟨⟨header, rest, rfl, isTopKey_of_startsWithKey name isHeader⟩, fun l hl => ?_⟩
  rcases List.mem_cons.mp hl with rfl | hl
  · by_contra h
    exact ne (startsWithKey_unique name name' isHeader (by simpa using h))
  · exact not_startsWithKey name' (notTop l hl)

/-- A block is found where it stands. -/
theorem IsBlock.exists_block? {key t : Text} {a ls c : List Text} (block : IsBlock key ls)
    (lines : t.lines = a ++ ls ++ c) (none : ∀ l ∈ a, startsWithKey key l = false)
    (stop : ∀ l ∈ c.head?, isTopKey l = true) :
    ∃ b, block? key t = some b ∧ b.before = a ∧ b.lines = ls ∧ b.after = c := by
  obtain ⟨header, rest, rfl, isHeader, notTop⟩ := block
  have stop' : ∀ l ∈ c.head?, (!isTopKey l) = false := fun l hl => by simp [stop l hl]
  have inside : ∀ l ∈ rest, (!isTopKey l) = true := fun l hl => by simp [notTop l hl]
  refine ⟨⟨a, header, rest, c⟩, ?_, rfl, rfl, rfl⟩
  rw [block?, lines, List.append_assoc, List.cons_append, splitFirst?_of_split none isHeader,
    Option.map_some]
  dsimp only
  rw [takeWhile_append_stop stop', dropWhile_append_stop stop',
    List.takeWhile_eq_self_iff.mpr inside, List.dropWhile_eq_nil_iff.mpr inside, List.nil_append]

/-- What the outline has of a block that is found. -/
theorem blockOf?_of_block? {key t : Text} {b : Block} (found : block? key t = some b) :
    blockOf? key t.lines = some b.lines := by
  rw [← map_lines_block?, found, Option.map_some]

def Outline.setFilter (test value : Text) (o : Outline) : Outline :=
  match o.filters with
  | some ls => { o with filters := some (Text.lines (setPredicate test value ls)) }
  | none => { o with
      leading := []
      filters := some (Text.lines (renderFilters [filePredicate test value] "and".toList ++
        "\n\n".toList) ++ o.leading) }

/-- The lines of a block are the lines of their text. -/
theorem lines_flatten_block {key t : Text} {b : Block} (found : block? key t = some b) :
    Text.lines b.lines.flatten = b.lines :=
  (lines_eq_append (lines_eq_append (List.append_assoc .. ▸ lines_of_block? found)).2.1).1

theorem isBlock_of_block? {key t : Text} {b : Block} (found : block? key t = some b) :
    IsBlock key b.lines :=
  isBlock_of_blockOf? (blockOf?_of_block? found)

/-- A block with other lines is found again at its place. -/
theorem exists_block?_replace {key t new : Text} {b : Block} (found : block? key t = some b)
    (block' : IsBlock key (Text.lines new)) (ends : terminated new = terminated b.lines.flatten) :
    ∃ b', block? key (b.replace new) = some b' ∧ b'.before = b.before ∧
      b'.lines = Text.lines new ∧ b'.after = b.after := by
  have lines' := lines_replace_lines (lines_of_block? found) (by simp [Block.lines]) ends
  refine block'.exists_block? lines' ?_ ?_
  · rw [block?, Option.map_eq_some_iff] at found
    obtain ⟨⟨above, header, rest⟩, split, rfl⟩ := found
    exact (splitFirst?_eq_some split).2.2
  · rw [block?, Option.map_eq_some_iff] at found
    obtain ⟨⟨above, header, rest⟩, split, rfl⟩ := found
    exact fun l hl => by simpa using head?_dropWhile l hl

/-- The outline with other lines in the block of the filters. -/
theorem outline_replace {t new : Text} {b : Block} (found : block? "filters".toList t = some b)
    (block' : IsBlock "filters".toList (Text.lines new))
    (ends : terminated new = terminated b.lines.flatten) :
    outline (b.replace new) = { outline t with filters := some (Text.lines new) } := by
  have lines := lines_of_block? found
  have block := isBlock_of_block? found
  obtain ⟨b', found', before, lines_eq, after⟩ := exists_block?_replace found block' ends
  have filters' := blockOf?_of_block? found'
  have lines' := lines_of_block? found'
  rw [lines_eq] at filters'
  rw [before, lines_eq, after] at lines'
  generalize b.replace new = t' at filters' lines' ⊢
  -- Neither the old block nor the new one opens another key.
  have other : ∀ key : Text, isKeyName key = true → "filters".toList ≠ key →
      blockOf? key t'.lines = blockOf? key t.lines := by
    intro key name ne
    rw [lines, lines']
    exact blockOf?_swap _ (block'.foreign (by decide) name ne) (block.foreign (by decide) name ne)
  have lead : leading t' = leading t := by
    obtain ⟨header', rest', eq, isHeader', -⟩ := block'
    rw [eq, List.append_assoc] at lines'
    obtain ⟨header, rest, eq, isHeader, -⟩ := block
    rw [eq, List.append_assoc] at lines
    exact leading_eq_of_lines lines lines' (isTopKey_of_startsWithKey (by decide) isHeader)
      (isTopKey_of_startsWithKey (by decide) isHeader')
  rw [outline, outline, filters', lead, other _ (by decide) (by decide),
    other _ (by decide) (by decide), map_panel_firstView? (other _ (by decide) (by decide))]

theorem outline_setFilter_block {test value t : Text} {b : Block} (noEnd : '\n' ∉ test)
    (plain : '\n' ∉ value) (found : block? "filters".toList t = some b) :
    outline (setFilterPredicate test value t) = (outline t).setFilter test value := by
  obtain ⟨block', ends⟩ := isBlock_setPredicate (lines_flatten_block found)
    (isBlock_of_block? found) noEnd plain
  have filters : (outline t).filters = some b.lines := blockOf?_of_block? found
  rw [setFilterPredicate_of_block? found, outline_replace found block' ends, Outline.setFilter,
    filters]

/-! ### New filters -/

/-- Line ends at the start of a text are its empty lines. -/
theorem lines_dropWhile_newline (t : Text) :
    Text.lines (t.dropWhile (· == '\n')) = (Text.lines t).dropWhile isEmptyLine := by
  induction t with
  | nil => rfl
  | cons c t ih =>
      by_cases hc : c = '\n'
      · subst hc
        rw [List.dropWhile_cons_of_pos (by simp), ih, lines_newline,
          List.dropWhile_cons_of_pos (by decide)]
      · obtain ⟨x, rest, lines⟩ := exists_lines_plain_append (w := [c]) t (by simpa [eq_comm] using hc)
          (by simp)
        rw [List.singleton_append, List.singleton_append] at lines
        rw [List.dropWhile_cons_of_neg (by simpa using hc), lines,
          List.dropWhile_cons_of_neg (by simp [isEmptyLine, hc])]

/-- The rows of new filters with one predicate, and the empty row after them. -/
def filterRows (predicate : Text) : List Text :=
  ["filters:".toList, "  and:".toList, "    - ".toList ++ quotePredicate predicate, []]

theorem newFilters_eq (predicate : Text) :
    renderFilters [predicate] "and".toList ++ "\n\n".toList = unlines (filterRows predicate) := by
  simp [renderFilters, joinLines, join, filterRows, List.intercalate, List.intersperse]

/-- The lines of new filters with one predicate, and the empty line after them. -/
def filterLines (predicate : Text) : List Text := (filterRows predicate).map (· ++ ['\n'])

theorem lines_newFilters {predicate : Text} (plain : '\n' ∉ predicate) :
    Text.lines (renderFilters [predicate] "and".toList ++ "\n\n".toList) =
      filterLines predicate := by
  rw [newFilters_eq, lines_unlines]
  · rfl
  · simp [Plain, filterRows, plain_quotePredicate plain]

/-- The lines that are written for a predicate are a filters block. -/
theorem isBlock_filterLines (predicate : Text) {ls : List Text}
    (notTop : ∀ l ∈ ls, isTopKey l = false) :
    IsBlock "filters".toList (filterLines predicate ++ ls) := by
  refine ⟨"filters:\n".toList, "  and:\n".toList ::
    ("    - ".toList ++ quotePredicate predicate ++ ['\n']) :: ['\n'] :: ls, rfl, by decide,
    fun l hl => ?_⟩
  simp only [List.mem_cons] at hl
  rcases hl with rfl | rfl | rfl | h
  · decide
  · simp [isTopKey]
  · decide
  · exact notTop l h

theorem lines_prependFilters {predicate : Text} (plain : '\n' ∉ predicate) (t : Text) :
    (prependFilters predicate t).lines = filterLines predicate ++ t.lines.dropWhile isEmptyLine := by
  have ends : Complete (renderFilters [predicate] "and".toList ++ "\n\n".toList) := by
    rw [newFilters_eq]
    exact complete_unlines _
  rw [prependFilters, lines_append _ ends, lines_newFilters plain, lines_dropWhile_newline]

/-- New filters take the lines that stood before the first key of the top level. -/
theorem exists_block?_prependFilters {predicate : Text} (plain : '\n' ∉ predicate) (t : Text) :
    ∃ b, block? "filters".toList (prependFilters predicate t) = some b ∧ b.before = [] ∧
      b.lines = filterLines predicate ++ leading t ∧
        b.after = (t.lines.dropWhile isEmptyLine).dropWhile (!isTopKey ·) := by
  have notTop : ∀ l ∈ leading t, isTopKey l = false := fun l hl => by
    simpa using List.mem_takeWhile_imp hl
  refine (isBlock_filterLines predicate notTop).exists_block? ?_ (by simp) fun l hl => by
    simpa using head?_dropWhile l hl
  rw [lines_prependFilters plain, List.nil_append, List.append_assoc, leading,
    List.takeWhile_append_dropWhile]

/-- Without a filters block, a block with the one predicate is put in front. -/
theorem outline_setFilter_new {test value t : Text} (noEnd : '\n' ∉ test)
    (plain : '\n' ∉ value) (none : block? "filters".toList t = none) :
    outline (setFilterPredicate test value t) = (outline t).setFilter test value := by
  have predicate := plain_filePredicate noEnd plain
  have lines_eq := lines_newFilters predicate
  have lines := lines_prependFilters predicate t
  have empties := List.takeWhile_append_dropWhile (p := isEmptyLine) (l := t.lines)
  have noFilters : blockOf? "filters".toList t.lines = Option.none := by
    rw [← map_lines_block?, none, Option.map_none]
  obtain ⟨b, found, -, block, -⟩ := exists_block?_prependFilters predicate t
  have filters := blockOf?_of_block? found
  rw [block] at filters
  rw [show setFilterPredicate test value t = prependFilters (filePredicate test value) t by
    rw [setFilterPredicate, none]]
  -- The new block stands in front of all lines, and the blank line after it ends it.
  generalize prependFilters (filePredicate test value) t = t' at lines filters
  have other : ∀ key : Text, isKeyName key = true → "filters".toList ≠ key →
      blockOf? key t'.lines = blockOf? key t.lines := by
    intro key name ne
    have block := isBlock_filterLines (filePredicate test value) fun l (h : l ∈ []) => by cases h
    rw [List.append_nil] at block
    have foreign := block.foreign (by decide) name ne
    rw [lines, blockOf?_append_of_none _ foreign.2, ← empties,
      blockOf?_append_of_none _ fun l hl => not_startsWithKey name
        (isTopKey_of_isEmptyLine (List.mem_takeWhile_imp hl)), empties]
  have lead : leading t' = [] := by
    rw [leading, lines]
    rfl
  rw [Outline.setFilter, outline, outline, noFilters, filters, lead, lines_eq,
    other _ (by decide) (by decide), other _ (by decide) (by decide),
    map_panel_firstView? (other _ (by decide) (by decide))]

/-- **Setting a predicate** of the filters. -/
theorem outline_setFilterPredicate {test value : Text} (noEnd : '\n' ∉ test)
    (plain : '\n' ∉ value) (t : Text) :
    outline (setFilterPredicate test value t) = (outline t).setFilter test value := by
  cases found : block? "filters".toList t with
  | none => exact outline_setFilter_new noEnd plain found
  | some b => exact outline_setFilter_block noEnd plain found

end Notebase.Document
