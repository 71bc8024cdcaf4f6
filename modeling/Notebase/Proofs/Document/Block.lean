import Mathlib.Data.List.Infix
import Notebase.Document.View
import Notebase.Proofs.Text.Rows

/-!
Blocks of the top level in a document that changes. What a line is depends on its row alone, not
on its line end. A block is found by its key and nothing else (`blockOf?_swap`), so exchanging a
block for lines that open with a key of the top level leaves every other block as it was.
-/

namespace Notebase

/-! ### Splitting and taking in two parts -/

section Lists

variable {α : Type} {p : α → Bool}

theorem splitFirst?_of_split {before after : List α} {a : α} (none : ∀ b ∈ before, p b = false)
    (found : p a = true) : splitFirst? p (before ++ a :: after) = some (before, a, after) := by
  induction before with
  | nil => simp [splitFirst?, found]
  | cons b before ih =>
      rw [List.cons_append, splitFirst?, if_neg (by simp [none b List.mem_cons_self]),
        ih fun c hc => none c (List.mem_cons_of_mem _ hc)]
      rfl

/-- A search passes over what does not match in front. -/
theorem splitFirst?_append_of_none {front : List α} (rest : List α)
    (none : ∀ a ∈ front, p a = false) : splitFirst? p (front ++ rest) =
      (splitFirst? p rest).map fun (before, a, after) => (front ++ before, a, after) := by
  induction front with
  | nil =>
      rw [List.nil_append]
      cases splitFirst? p rest <;> rfl
  | cons b front ih =>
      rw [List.cons_append, splitFirst?, if_neg (by simp [none b List.mem_cons_self]),
        ih fun c hc => none c (List.mem_cons_of_mem _ hc), Option.map_map]
      rfl

/-- A run stops where the next part starts with an element that is not in the class. -/
theorem takeWhile_append_stop {front rest : List α} (stop : ∀ a ∈ rest.head?, p a = false) :
    (front ++ rest).takeWhile p = front.takeWhile p := by
  rw [List.takeWhile_append]
  split
  · next whole =>
      have all : front.takeWhile p = front :=
        (List.takeWhile_prefix p).eq_of_length whole
      cases rest with
      | nil => rw [List.takeWhile_nil, List.append_nil, all]
      | cons a rest =>
          rw [List.takeWhile_cons_of_neg (by simp [stop a rfl]), List.append_nil, all]
  · rfl

theorem dropWhile_append_stop {front rest : List α} (stop : ∀ a ∈ rest.head?, p a = false) :
    (front ++ rest).dropWhile p = front.dropWhile p ++ rest := by
  have whole := List.takeWhile_append_dropWhile (p := p) (l := front ++ rest)
  rw [takeWhile_append_stop stop] at whole
  have parts := List.takeWhile_append_dropWhile (p := p) (l := front)
  refine List.append_cancel_left (whole.trans ?_)
  rw [← List.append_assoc, parts]

theorem head?_dropWhile {l : List α} : ∀ a ∈ (l.dropWhile p).head?, p a = false := by
  intro a ha
  have h := List.head?_dropWhile_not p l
  rw [Option.mem_def.mp ha] at h
  simpa using h

end Lists

namespace Text

/-! ### What a line end leaves alone -/

/-- A line of a text: a row, with a line end or without one. -/
theorem shape_of_mem_lines {t line : Text} (h : line ∈ lines t) :
    ∃ r, '\n' ∉ r ∧ content line = r ∧ (line = r ∨ line = r ++ ['\n']) := by
  generalize hls : lines t = ls at h
  induction ls generalizing t with
  | nil => cases h
  | cons first rest ih =>
      obtain ⟨again, r, plain, shape⟩ := lines_eq_cons hls
      rcases List.mem_cons.mp h with rfl | h
      · rcases shape with rfl | ⟨rfl, -, -⟩
        · exact ⟨r, plain, content_row_append [] plain, .inr rfl⟩
        · exact ⟨line, plain, content_row plain, .inl rfl⟩
      · exact ih again h

/-- No line of a text is empty. -/
theorem ne_nil_of_mem_lines {t line : Text} (h : line ∈ lines t) : line ≠ [] := by
  generalize hls : lines t = ls at h
  induction ls generalizing t with
  | nil => cases h
  | cons first rest ih =>
      obtain ⟨again, r, -, shape⟩ := lines_eq_cons hls
      rcases List.mem_cons.mp h with rfl | h
      · rcases shape with rfl | ⟨rfl, ne, -⟩
        · simp
        · exact ne
      · exact ih again h

/-- A front without line ends is found whether or not the line has an end. -/
theorem after?_append_newline {front : Text} (r : Text) (plain : '\n' ∉ front) :
    after? front (r ++ ['\n']) = (after? front r).map (· ++ ['\n']) := by
  induction front generalizing r with
  | nil => rfl
  | cons f front ih =>
      rw [List.mem_cons, not_or] at plain
      cases r with
      | nil => simp [after?, Ne.symm plain.1]
      | cons c r =>
          by_cases h : f = c
          · simp [after?, h, ih r plain.2]
          · simp [after?, h]

theorem isPrefixOf_eq_isSome (front t : Text) :
    front.isPrefixOf t = (after? front t).isSome := by
  rw [Bool.eq_iff_iff, List.isPrefixOf_iff_prefix, Option.isSome_iff_exists]
  constructor
  · rintro ⟨rest, rfl⟩
    exact ⟨rest, after?_eq_some_iff.mpr rfl⟩
  · rintro ⟨rest, h⟩
    exact ⟨rest, (after?_eq_some_iff.mp h).symm⟩

theorem isPrefixOf_append_newline {front : Text} (r : Text) (plain : '\n' ∉ front) :
    front.isPrefixOf (r ++ ['\n']) = front.isPrefixOf r := by
  rw [isPrefixOf_eq_isSome, isPrefixOf_eq_isSome, after?_append_newline r plain,
    Option.isSome_map]

theorem dropSpaces_append_newline (r : Text) :
    (r ++ ['\n']).dropWhile (· == ' ') = r.dropWhile (· == ' ') ++ ['\n'] :=
  dropWhile_append_stop (by simp)

theorem indentation_append_newline (r : Text) : indentation (r ++ ['\n']) = indentation r := by
  rw [indentation, takeWhile_append_stop (by simp)]
  rfl

end Text

namespace Document

open Text

/-! ### Kinds of lines -/

theorem isTopKey_append_newline (r : Text) : isTopKey (r ++ ['\n']) = isTopKey r := by
  cases r with
  | nil => decide
  | cons c r =>
      rw [List.cons_append, isTopKey, isTopKey, dropWhile_append_stop (by simp; decide)]
      cases r.dropWhile isKeyChar <;> simp

theorem isTopKey_content {t line : Text} (h : line ∈ lines t) :
    isTopKey (content line) = isTopKey line := by
  obtain ⟨r, -, eq, rfl | rfl⟩ := shape_of_mem_lines h
  · rw [eq]
  · rw [eq, isTopKey_append_newline]

/-- A key that can open a block: a letter or an underscore, then word characters and
hyphens. -/
def isKeyName : Text → Bool
  | [] => false
  | c :: t => (c.isAlpha || c == '_') && t.all isKeyChar

/-- A line with a named key is one with some key. -/
theorem isTopKey_of_startsWithKey {key line : Text} (name : isKeyName key = true)
    (h : startsWithKey key line = true) : isTopKey line = true := by
  rw [startsWithKey, List.isPrefixOf_iff_prefix] at h
  obtain ⟨rest, rfl⟩ := h
  cases key with
  | nil => cases name
  | cons c k =>
      simp only [isKeyName, Bool.and_eq_true, List.all_eq_true] at name
      simp only [List.cons_append, List.append_assoc, isTopKey, name.1, Bool.true_and]
      rw [List.dropWhile_append_of_pos name.2, List.dropWhile_cons_of_neg (by decide)]
      rfl

theorem not_startsWithKey {key line : Text} (name : isKeyName key = true)
    (h : isTopKey line = false) : startsWithKey key line = false := by
  by_contra found
  rw [isTopKey_of_startsWithKey name (by simpa using found)] at h
  cases h

/-- A character that no name may hold stands in none. -/
theorem not_mem_of_isKeyName {key : Text} (name : isKeyName key = true) {d : Char}
    (first : (d.isAlpha || d == '_') = false) (later : isKeyChar d = false) : d ∉ key := by
  cases key with
  | nil => simp
  | cons c k =>
      simp only [isKeyName, Bool.and_eq_true, List.all_eq_true] at name
      intro h
      rcases List.mem_cons.mp h with rfl | h
      · exact absurd name.1 (by simp [first])
      · exact absurd (name.2 _ h) (by simp [later])

theorem colon_not_mem_of_isKeyName {key : Text} (name : isKeyName key = true) : ':' ∉ key :=
  not_mem_of_isKeyName name (by decide) (by decide)

theorem plain_of_isKeyName {key : Text} (name : isKeyName key = true) : '\n' ∉ key :=
  not_mem_of_isKeyName name (by decide) (by decide)

/-- Two texts without a mark that are both written before it at the same place are the same. -/
theorem eq_of_append_mark {α : Type} {mark : α} {a b x y : List α} (ha : mark ∉ a)
    (hb : mark ∉ b) (h : a ++ mark :: x = b ++ mark :: y) : a = b := by
  induction a generalizing b with
  | nil =>
      cases b with
      | nil => rfl
      | cons d b => exact absurd (List.mem_cons.mpr (.inl (List.cons.inj h).1)) hb
  | cons c a ih =>
      cases b with
      | nil => exact absurd (List.mem_cons.mpr (.inl (List.cons.inj h).1.symm)) ha
      | cons d b =>
          obtain ⟨rfl, rest⟩ := List.cons.inj h
          rw [ih (fun m => ha (List.mem_cons_of_mem _ m))
            (fun m => hb (List.mem_cons_of_mem _ m)) rest]

/-- A line starts with at most one key. -/
theorem startsWithKey_unique {key key' line : Text} (name : isKeyName key = true)
    (name' : isKeyName key' = true) (h : startsWithKey key line = true)
    (h' : startsWithKey key' line = true) : key = key' := by
  rw [startsWithKey, List.isPrefixOf_iff_prefix] at h h'
  obtain ⟨x, rfl⟩ := h
  obtain ⟨y, eq⟩ := h'
  simp only [List.append_assoc, List.singleton_append] at eq
  exact (eq_of_append_mark (colon_not_mem_of_isKeyName name')
    (colon_not_mem_of_isKeyName name) eq).symm

/-! ### A block among lines -/

def blockOf? (key : Text) (ls : List Text) : Option (List Text) :=
  (splitFirst? (startsWithKey key) ls).map fun (_, header, rest) =>
    header :: rest.takeWhile (!isTopKey ·)

theorem map_lines_block? (key t : Text) : (block? key t).map Block.lines = blockOf? key t.lines := by
  rw [block?, Option.map_map]
  rfl

theorem blockOf?_append_of_none {key : Text} {front : List Text} (rest : List Text)
    (none : ∀ l ∈ front, startsWithKey key l = false) :
    blockOf? key (front ++ rest) = blockOf? key rest := by
  rw [blockOf?, splitFirst?_append_of_none rest none, Option.map_map]
  rfl

/-- Lines that open with a key of the top level and have no line with the key `key`. -/
def Foreign (key : Text) (ls : List Text) : Prop :=
  (∃ header rest, ls = header :: rest ∧ isTopKey header = true) ∧
    ∀ l ∈ ls, startsWithKey key l = false

/-- Foreign lines can be exchanged for others without any effect on the block of a key. -/
theorem blockOf?_swap {key : Text} {a f f' : List Text} (b : List Text) (hf : Foreign key f)
    (hf' : Foreign key f') : blockOf? key (a ++ f ++ b) = blockOf? key (a ++ f' ++ b) := by
  rw [List.append_assoc, List.append_assoc]
  cases split : splitFirst? (startsWithKey key) a with
  | none =>
      have none := splitFirst?_eq_none.mp split
      rw [blockOf?_append_of_none _ none, blockOf?_append_of_none _ none,
        blockOf?_append_of_none _ hf.2, blockOf?_append_of_none _ hf'.2]
  | some found =>
      obtain ⟨before, header, rest⟩ := found
      obtain ⟨rfl, isHeader, none⟩ := splitFirst?_eq_some split
      have block : ∀ g, Foreign key g → blockOf? key (before ++ header :: rest ++ (g ++ b)) =
          some (header :: rest.takeWhile (!isTopKey ·)) := by
        rintro g ⟨⟨first, tail, rfl, top⟩, -⟩
        rw [blockOf?, List.append_assoc, List.cons_append, splitFirst?_of_split none isHeader,
          Option.map_some]
        have stop : ∀ l ∈ (first :: tail ++ b).head?, (!isTopKey l) = false := by
          simp [top]
        exact congrArg (fun body => some (header :: body)) (takeWhile_append_stop stop)
      rw [block f hf, block f' hf']

end Document

end Notebase
