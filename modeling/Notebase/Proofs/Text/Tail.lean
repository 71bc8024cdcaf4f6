import Notebase.Proofs.Text.Reading

/-!
The end of a text that is left alone. A pattern stops at what it cannot read, so a search that
starts in front of such a place does not get past it, and it finds behind the place what a search
that starts there finds (`Leaves.exists_findAllFrom`).
-/

namespace Notebase.Pattern

/-! ### Characters that are not read -/

/-- Whether a pattern reads no character `c`, by what it is made of. -/
def avoids (c : Char) : Pattern → Bool
  | .char p => !p c
  | .run p => !p c
  | .lazyRun p => !p c
  | .seq a b => a.avoids c && b.avoids c
  | .alt a b => a.avoids c && b.avoids c
  | .star a => a.avoids c
  | .capture a => a.avoids c
  | .empty => true
  | .boundary => true
  | .atEnd => true
  | .notAfter _ => true
  | .ahead _ => true
  | .notAhead _ => true

/-- A pattern that keeps to the text before `tail'` if it starts before `tail`. -/
def Leaves (tail tail' : Text) (p : Pattern) : Prop :=
  ∀ s, ∀ s' ∈ p.readings s, tail <:+ s.rest → tail' <:+ s'.rest

section Leaves

variable {t t' t'' : Text} {a b : Pattern}

theorem Leaves.mono {u u' : Text} (h : Leaves t t' a) (longer : t <:+ u) (shorter : u' <:+ t') :
    Leaves u u' a := fun s s' mem tail => shorter.trans (h s s' mem (longer.trans tail))

theorem Leaves.seq (ha : Leaves t t' a) (hb : Leaves t' t'' b) : Leaves t t'' (.seq a b) := by
  intro s s' mem tail
  obtain ⟨mid, first, second⟩ := List.mem_flatMap.mp mem
  exact hb mid s' second (ha s mid first tail)

theorem Leaves.alt (ha : Leaves t t' a) (hb : Leaves t t' b) : Leaves t t' (.alt a b) := by
  intro s s' mem tail
  rcases List.mem_append.mp mem with mem | mem
  · exact ha s s' mem tail
  · exact hb s s' mem tail

theorem Leaves.star (ha : Leaves t t a) : Leaves t t (.star a) := fun _ _ mem tail =>
  star_of_step (P := fun s => t <:+ s.rest) (fun s s' tail mem => ha s s' mem tail) tail mem

theorem Leaves.capture (ha : Leaves t t' a) : Leaves t t' (.capture a) := by
  intro s s' mem tail
  obtain ⟨mid, inner, rfl⟩ := List.mem_map.mp mem
  exact ha s mid inner tail

/-- A class of characters does not get past a character that is not in it. -/
theorem suffix_of_cons {p : Char → Bool} {c d : Char} {rest : Text} (passes : p d = true)
    (other : p c = false) (tail : c :: t <:+ d :: rest) : c :: t <:+ rest := by
  rcases List.suffix_cons_iff.mp tail with eq | tail
  · cases eq
    rw [passes] at other
    cases other
  · exact tail

/-- A run leaves a tail that starts with a character that it does not read. -/
theorem suffix_of_mem_readingsRun {p : Char → Bool} {c : Char} {u : Text} {s s' : Reading}
    (other : p c = false) (mem : s' ∈ readingsRun p u s) (text : s.rest = u)
    (tail : c :: t <:+ u) : c :: t <:+ s'.rest := by
  induction u generalizing s with
  | nil =>
      rw [readingsRun, List.mem_singleton] at mem
      rwa [mem, text]
  | cons d u ih =>
      rw [readingsRun] at mem
      split at mem
      · next passes =>
          rcases List.mem_append.mp mem with mem | mem
          · exact ih mem rfl (suffix_of_cons passes other tail)
          · rwa [List.mem_singleton.mp mem, text]
      · rwa [List.mem_singleton.mp mem, text]

/-- So does a run that is as short as possible. -/
theorem suffix_of_mem_readingsLazyRun {p : Char → Bool} {c : Char} {u : Text} {s s' : Reading}
    (other : p c = false) (mem : s' ∈ readingsLazyRun p u s) (text : s.rest = u)
    (tail : c :: t <:+ u) : c :: t <:+ s'.rest := by
  induction u generalizing s with
  | nil =>
      rw [readingsLazyRun, List.mem_singleton] at mem
      rwa [mem, text]
  | cons d u ih =>
      rw [readingsLazyRun] at mem
      rcases List.mem_cons.mp mem with rfl | mem
      · rwa [text]
      · split at mem
        · next passes => exact ih mem rfl (suffix_of_cons passes other tail)
        · cases mem

/-- **A pattern stops at a character that it does not read.** -/
theorem leaves_of_avoids {c : Char} {p : Pattern} (h : p.avoids c = true) :
    Leaves (c :: t) (c :: t) p := by
  induction p with
  | char p =>
      intro s s' mem tail
      have other : p c = false := by simpa [avoids] using h
      rw [readings] at mem
      split at mem
      · cases mem
      · next d rest text =>
          split at mem
          · next passes =>
              rw [text] at tail
              rw [List.mem_singleton.mp mem]
              exact suffix_of_cons passes other tail
          · cases mem
  | run p =>
      exact fun s s' mem tail =>
        suffix_of_mem_readingsRun (by simpa [avoids] using h) mem rfl tail
  | lazyRun p =>
      exact fun s s' mem tail =>
        suffix_of_mem_readingsLazyRun (by simpa [avoids] using h) mem rfl tail
  | seq a b iha ihb =>
      rw [avoids, Bool.and_eq_true] at h
      exact (iha h.1).seq (ihb h.2)
  | alt a b iha ihb =>
      rw [avoids, Bool.and_eq_true] at h
      exact (iha h.1).alt (ihb h.2)
  | star a ih => exact (ih h).star
  | capture a ih => exact (ih h).capture
  | empty =>
      intro s s' mem tail
      rwa [List.mem_singleton.mp mem]
  | boundary =>
      intro s s' mem tail
      rw [readings] at mem
      split at mem
      · rwa [List.mem_singleton.mp mem]
      · cases mem
  | atEnd =>
      intro s s' mem tail
      rw [readings] at mem
      split at mem
      · rwa [List.mem_singleton.mp mem]
      · cases mem
  | notAfter p =>
      intro s s' mem tail
      rw [readings] at mem
      split at mem
      · cases mem
      · rwa [List.mem_singleton.mp mem]
  | ahead a ih =>
      intro s s' mem tail
      rw [readings] at mem
      split at mem
      · cases mem
      · rwa [List.mem_singleton.mp mem]
  | notAhead a ih =>
      intro s s' mem tail
      rw [readings] at mem
      split at mem
      · rwa [List.mem_singleton.mp mem]
      · cases mem

/-- What a pattern reads has no character in it that it does not read. -/
theorem exists_append_of_avoids {c : Char} {p : Pattern} (h : p.avoids c = true) {s s' : Reading}
    (mem : s' ∈ p.readings s) : ∃ u, s.rest = u ++ s'.rest ∧ c ∉ u := by
  obtain ⟨u, text, -⟩ := (leads_of_mem_readings mem).exists_append
  refine ⟨u, text, fun hc => ?_⟩
  obtain ⟨before, after, rfl⟩ := List.append_of_mem hc
  have tail : c :: (after ++ s'.rest) <:+ s.rest := by
    rw [text, List.append_assoc]
    exact List.suffix_append before _
  have short := (leaves_of_avoids h s s' mem tail).length_le
  rw [List.length_cons, List.length_append] at short
  omega

/-- What ends with a mark ends before a place that has no such mark behind it. -/
theorem leaves_of_mark {mark : Char} (out : mark ∉ t) (inner : Pattern) :
    Leaves t t (inOrder [exactly mark, inner, exactly mark]) := by
  intro s s' mem tail
  obtain ⟨mid, first, mem⟩ := List.mem_flatMap.mp mem
  obtain ⟨last, second, mem⟩ := List.mem_flatMap.mp mem
  have lead := (leads_of_mem_readings first).trans (leads_of_mem_readings second)
  obtain ⟨c, rest, text, isMark, rfl⟩ := exists_cons_of_mem_readings_char mem
  obtain rfl : c = mark := beq_iff_eq.mp isMark
  have found : c :: rest <:+ s.rest := text ▸ lead.rest
  rcases List.suffix_or_suffix_of_suffix tail found with before | after
  · rcases List.suffix_cons_iff.mp before with eq | before
    · exact absurd (eq ▸ List.mem_cons_self) out
    · exact before
  · exact absurd (after.subset List.mem_cons_self) out

end Leaves

/-! ### Searches -/

section Search

variable {p : Pattern} {c : Char} {rest : Text}

/-- A match ends in front of what the pattern leaves, but for one character. -/
theorem Leaves.length_le (leaves : Leaves (c :: rest) rest p) {prev : Option Char} {front : Text}
    {m : Match} (found : p.matchAt? prev (front ++ c :: rest) = some m) :
    m.length ≤ front.length + 1 := by
  obtain ⟨s, mem, -, rfl⟩ := matchAt?_eq_some found
  have left := (leaves _ s mem (List.suffix_append front (c :: rest))).length_le
  have count := (leads_of_mem_readings mem).count
  rw [List.length_append, List.length_cons] at count
  simp only [matchOf] at count ⊢
  omega

/-- **A search that stops in front of the end of a text** goes on there like a search that starts
there. -/
theorem Leaves.exists_findAllFrom (leaves : Leaves (c :: rest) rest p) {skip : Nat}
    {prev : Option Char} {front : Text} (most : skip ≤ front.length + 1) :
    ∃ ms, p.findAllFrom skip prev (front ++ c :: rest) = ms ++ p.findAllFrom 0 (some c) rest := by
  -- No match reaches beyond the character, so the search starts anew behind it.
  induction front generalizing skip prev with
  | nil =>
      cases skip with
      | succ skip =>
          obtain rfl : skip = 0 := by simpa using most
          exact ⟨[], rfl⟩
      | zero =>
          rw [List.nil_append, findAllFrom]
          split
          · next m found =>
              have short : m.length ≤ ([] : Text).length + 1 := leaves.length_le found
              rw [List.length_nil] at short
              have none : m.length - 1 = 0 := by omega
              exact ⟨[m], by rw [none]; rfl⟩
          · exact ⟨[], rfl⟩
  | cons d front ih =>
      rw [List.length_cons] at most
      cases skip with
      | succ skip => exact ih (by omega)
      | zero =>
          rw [List.cons_append, findAllFrom]
          split
          · next m found =>
              have short : m.length ≤ (d :: front).length + 1 := leaves.length_le found
              rw [List.length_cons] at short
              obtain ⟨ms, eq⟩ := @ih (m.length - 1) (some d) (by omega)
              exact ⟨m :: ms, by rw [eq]; rfl⟩
          · exact ih (Nat.zero_le _)

end Search

/-! ### The place of a match -/

/-- The first match stands behind the text before it. -/
theorem matchAt?_of_findFrom? {p : Pattern} {prev : Option Char} {t before : Text} {m : Match}
    (h : p.findFrom? prev t = some (before, m)) :
    ∃ rest, t = before ++ rest ∧ p.matchAt? (before.getLast?.or prev) rest = some m := by
  induction t generalizing prev before with
  | nil =>
      rw [findFrom?, Option.map_eq_some_iff] at h
      obtain ⟨m', found, eq⟩ := h
      cases eq
      exact ⟨[], rfl, found⟩
  | cons c t ih =>
      rw [findFrom?] at h
      split at h
      · next m' found =>
          cases h
          exact ⟨c :: t, rfl, found⟩
      · rw [Option.map_eq_some_iff] at h
        obtain ⟨⟨before', m'⟩, found, eq⟩ := h
        cases eq
        obtain ⟨rest, text, present⟩ := ih found
        refine ⟨rest, by rw [text, List.cons_append], ?_⟩
        rw [List.getLast?_cons]
        cases last : before'.getLast? <;> rwa [last] at present

/-- **A pattern occurs in a text** exactly if it can be read somewhere in it. -/
theorem occursIn_iff_exists_reading {p : Pattern} {t : Text} : p.occursIn t = true ↔
    ∃ before rest, t = before ++ rest ∧ p.readings ⟨before.getLast?, rest, 0, none⟩ ≠ [] := by
  constructor
  · intro occurs
    obtain ⟨⟨before, m⟩, found⟩ := Option.isSome_iff_exists.mp occurs
    obtain ⟨rest, text, present⟩ := matchAt?_of_findFrom? found
    obtain ⟨s, mem, -⟩ := matchAt?_eq_some present
    rw [Option.or_none] at mem
    exact ⟨before, rest, text, List.ne_nil_of_mem mem⟩
  · rintro ⟨before, rest, rfl, reads⟩
    rw [← Option.or_none (o := before.getLast?)] at reads
    exact isSome_findFrom? reads

end Notebase.Pattern
