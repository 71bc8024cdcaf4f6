import Mathlib.Data.List.Infix
import Notebase.Text.Pattern

/-!
All readings of a pattern. `readings` lists them in the order in which they are tried, and what a
pattern reads with a continuation is what the first reading makes of it that the continuation
accepts (`read_eq_findSome?`). What holds of every reading then holds of every match.
-/

namespace Notebase

namespace Pattern

/-! ### The list of readings -/

/-- The runs of a class, the longest first. -/
def readingsRun (p : Char → Bool) : Text → Reading → List Reading
  | [], s => [s]
  | c :: rest, s => if p c then readingsRun p rest (s.advance c rest) ++ [s] else [s]

/-- The runs of a class, the shortest first. -/
def readingsLazyRun (p : Char → Bool) : Text → Reading → List Reading
  | [], s => [s]
  | c :: rest, s => s :: if p c then readingsLazyRun p rest (s.advance c rest) else []

/-- The repetitions of a step that moves on, the longest first. -/
def readingsStar (step : Reading → List Reading) : (limit : Nat) → Reading → List Reading
  | 0, s => [s]
  | limit + 1, s =>
      ((step s).flatMap fun s' =>
        if s.count < s'.count then readingsStar step limit s' else []) ++ [s]

/-- The readings of a pattern in the order in which they are tried. -/
def readings : Pattern → Reading → List Reading
  | .empty, s => [s]
  | .char p, s =>
      match s.rest with
      | [] => []
      | c :: rest => if p c then [s.advance c rest] else []
  | .run p, s => readingsRun p s.rest s
  | .lazyRun p, s => readingsLazyRun p s.rest s
  | .seq a b, s => (a.readings s).flatMap b.readings
  | .alt a b, s => a.readings s ++ b.readings s
  | .star a, s => readingsStar a.readings s.rest.length s
  | .capture a, s =>
      (a.readings s).map fun s' => { s' with captured := some (s.rest, s'.count - s.count) }
  | .boundary, s => if s.atBoundary then [s] else []
  | .atEnd, s => if s.rest.isEmpty then [s] else []
  | .notAfter p, s => if s.prev.any p then [] else [s]
  | .ahead a, s => if (a.readings s).isEmpty then [] else [s]
  | .notAhead a, s => if (a.readings s).isEmpty then [s] else []

/-- The first run of a class takes all it can. -/
theorem exists_head?_readingsRun (p : Char → Bool) (t : Text) (s : Reading) :
    ∃ s', (readingsRun p t s).head? = some s' ∧ (s.rest = t → s'.rest = t.dropWhile p) ∧
      s'.count = s.count + (t.takeWhile p).length ∧ s'.captured = s.captured := by
  induction t generalizing s with
  | nil => exact ⟨s, rfl, id, rfl, rfl⟩
  | cons c t ih =>
      cases outcome : p c with
      | false =>
          rw [readingsRun, List.dropWhile_cons, List.takeWhile_cons, outcome]
          exact ⟨s, rfl, id, rfl, rfl⟩
      | true =>
          obtain ⟨s', first, rest, count, captured⟩ := ih (s.advance c t)
          rw [readingsRun, List.dropWhile_cons, List.takeWhile_cons, outcome]
          refine ⟨s', ?_, fun _ => rest rfl, ?_, captured⟩
          · rw [if_pos rfl, List.head?_append, first, Option.some_or]
          · rw [count, if_pos rfl, List.length_cons]
            exact Nat.succ_add_eq_add_succ s.count _

variable {k : Reading → Option Reading}

theorem findSome?_flatMap {α β γ : Type} (as : List α) (f : α → List β) (g : β → Option γ) :
    (as.flatMap f).findSome? g = as.findSome? fun a => (f a).findSome? g := by
  induction as with
  | nil => rfl
  | cons a as ih =>
      rw [List.flatMap_cons, List.findSome?_append, ih, List.findSome?_cons]
      cases (f a).findSome? g <;> rfl

/-- A run succeeds with the first of its readings that goes on. -/
theorem readRun_eq (p : Char → Bool) (t : Text) (s : Reading) :
    readRun p t s k = (readingsRun p t s).findSome? k := by
  induction t generalizing s with
  | nil =>
      rw [readRun, readingsRun, List.findSome?_singleton]
  | cons c t ih =>
      rw [readRun, readingsRun]
      split
      · rw [ih, List.findSome?_append, List.findSome?_singleton]
        cases (readingsRun p t (s.advance c t)).findSome? k <;> rfl
      · rw [List.findSome?_singleton]

/-- So does a run that is as short as possible. -/
theorem readLazyRun_eq (p : Char → Bool) (t : Text) (s : Reading) :
    readLazyRun p t s k = (readingsLazyRun p t s).findSome? k := by
  induction t generalizing s with
  | nil =>
      rw [readLazyRun, readingsLazyRun, List.findSome?_singleton]
  | cons c t ih =>
      rw [readLazyRun, readingsLazyRun, List.findSome?_cons]
      cases k s with
      | some found => rfl
      | none =>
          dsimp only
          split
          · exact ih _
          · rfl

/-- So does a repetition, if its step does. -/
theorem readStar_eq {step : Reading → (Reading → Option Reading) → Option Reading}
    {steps : Reading → List Reading} (eq : ∀ s k, step s k = (steps s).findSome? k) (limit : Nat)
    (s : Reading) : readStar step limit s k = (readingsStar steps limit s).findSome? k := by
  induction limit generalizing s with
  | zero =>
      rw [readStar, readingsStar, List.findSome?_singleton]
  | succ limit ih =>
      have again : (fun s' => if s.count < s'.count then readStar step limit s' k else none) =
          fun s' => (if s.count < s'.count then readingsStar steps limit s' else []).findSome? k := by
        funext s'
        split
        · exact ih s'
        · rfl
      rw [readStar, readingsStar, List.findSome?_append, findSome?_flatMap, eq, again,
        List.findSome?_singleton]
      cases (steps s).findSome? _ <;> rfl

/-- **A pattern reads its first reading that the continuation accepts.** -/
theorem read_eq_findSome? (p : Pattern) (s : Reading) (k : Reading → Option Reading) :
    p.read s k = (p.readings s).findSome? k := by
  have isSome : ∀ rs : List Reading, (rs.findSome? some).isSome = !rs.isEmpty := by
    intro rs
    cases rs <;> rfl
  induction p generalizing s k with
  | empty => rw [read, readings, List.findSome?_singleton]
  | char p =>
      rw [read, readings]
      cases s.rest with
      | nil => rfl
      | cons c rest =>
          dsimp only
          split
          · rw [List.findSome?_singleton]
          · rfl
  | run p => exact readRun_eq p s.rest s
  | lazyRun p => exact readLazyRun_eq p s.rest s
  | seq a b iha ihb =>
      rw [read, readings, findSome?_flatMap, iha]
      exact congrArg (List.findSome? · _) (funext fun s' => ihb s' k)
  | alt a b iha ihb =>
      rw [read, readings, List.findSome?_append, iha, ihb]
      cases (a.readings s).findSome? k <;> rfl
  | star a ih => exact readStar_eq ih _ s
  | capture a ih =>
      rw [read, readings, ih, List.findSome?_map]
      rfl
  | boundary =>
      rw [read, readings]
      split
      · rw [List.findSome?_singleton]
      · rfl
  | atEnd =>
      rw [read, readings]
      split
      · rw [List.findSome?_singleton]
      · rfl
  | notAfter p =>
      rw [read, readings]
      split
      · rfl
      · rw [List.findSome?_singleton]
  | ahead a ih =>
      rw [read, readings, ih, isSome]
      cases (a.readings s).isEmpty with
      | true => rfl
      | false => exact (List.findSome?_singleton ..).symm
  | notAhead a ih =>
      rw [read, readings, ih, isSome]
      cases (a.readings s).isEmpty with
      | true => exact (List.findSome?_singleton ..).symm
      | false => rfl

/-- A character is read off the start of what is left. -/
theorem exists_cons_of_mem_readings_char {p : Char → Bool} {s s' : Reading}
    (mem : s' ∈ (Pattern.char p).readings s) :
    ∃ c rest, s.rest = c :: rest ∧ p c = true ∧ s' = s.advance c rest := by
  rw [readings] at mem
  split at mem
  · cases mem
  · next c rest text =>
      split at mem
      · next passes => exact ⟨c, rest, text, passes, List.mem_singleton.mp mem⟩
      · cases mem

def matchOf (s : Reading) : Match :=
  ⟨s.count, (s.captured.map fun (start, n) => start.take n).getD [], s.rest⟩

theorem matchAt?_eq_head? (p : Pattern) (prev : Option Char) (t : Text) :
    p.matchAt? prev t = ((p.readings ⟨prev, t, 0, none⟩).head?).map matchOf := by
  rw [matchAt?, read_eq_findSome?]
  cases p.readings ⟨prev, t, 0, none⟩ <;> rfl

end Pattern

/-! ### What a reading has read -/

/-- A later place in the same text. -/
structure Reading.Leads (s s' : Reading) : Prop where
  rest : s'.rest <:+ s.rest
  count : s'.count + s'.rest.length = s.count + s.rest.length

namespace Reading.Leads

theorem refl (s : Reading) : s.Leads s := ⟨List.suffix_refl _, rfl⟩

theorem trans {s s' s'' : Reading} (first : s.Leads s') (second : s'.Leads s'') : s.Leads s'' :=
  ⟨second.rest.trans first.rest, second.count.trans first.count⟩

theorem advance {s : Reading} {c : Char} {rest : Text} (h : s.rest = c :: rest) :
    s.Leads (s.advance c rest) := by
  refine ⟨h ▸ List.suffix_cons c rest, ?_⟩
  rw [h, List.length_cons]
  simp only [Reading.advance]
  omega

/-- What has been read between two places. -/
theorem exists_append {s s' : Reading} (h : s.Leads s') :
    ∃ u, s.rest = u ++ s'.rest ∧ s'.count = s.count + u.length := by
  obtain ⟨u, eq⟩ := h.rest
  refine ⟨u, eq.symm, ?_⟩
  have count := h.count
  rw [← eq, List.length_append] at count
  omega

end Reading.Leads

namespace Pattern

/-- A property of places that every single step of a reading keeps. -/
structure Kept (P : Reading → Prop) : Prop where
  advance : ∀ s c rest, s.rest = c :: rest → P s → P (s.advance c rest)
  capture : ∀ s s', s.Leads s' → P s → P s' →
    P { s' with captured := some (s.rest, s'.count - s.count) }

section Kept

variable {P : Reading → Prop} (kept : Kept P)
include kept

/-- A run keeps what each character keeps. -/
theorem Kept.run {p : Char → Bool} {t : Text} {s s' : Reading} (text : s.rest = t) (h : P s)
    (mem : s' ∈ readingsRun p t s) : P s' := by
  induction t generalizing s with
  | nil =>
      rw [readingsRun, List.mem_singleton] at mem
      exact mem ▸ h
  | cons c t ih =>
      rw [readingsRun] at mem
      split at mem
      · rcases List.mem_append.mp mem with mem | mem
        · exact ih rfl (kept.advance s c t text h) mem
        · exact List.mem_singleton.mp mem ▸ h
      · exact List.mem_singleton.mp mem ▸ h

/-- So does a run that is as short as possible. -/
theorem Kept.lazyRun {p : Char → Bool} {t : Text} {s s' : Reading} (text : s.rest = t) (h : P s)
    (mem : s' ∈ readingsLazyRun p t s) : P s' := by
  induction t generalizing s with
  | nil =>
      rw [readingsLazyRun, List.mem_singleton] at mem
      exact mem ▸ h
  | cons c t ih =>
      rw [readingsLazyRun] at mem
      rcases List.mem_cons.mp mem with rfl | mem
      · exact h
      · split at mem
        · exact ih rfl (kept.advance s c t text h) mem
        · cases mem

omit kept in
/-- A repetition keeps what each step keeps. -/
theorem star_of_step {steps : Reading → List Reading} {limit : Nat} {s s' : Reading}
    (step : ∀ s s', P s → s' ∈ steps s → P s') (h : P s)
    (mem : s' ∈ readingsStar steps limit s) : P s' := by
  induction limit generalizing s with
  | zero =>
      rw [readingsStar, List.mem_singleton] at mem
      exact mem ▸ h
  | succ limit ih =>
      rw [readingsStar] at mem
      rcases List.mem_append.mp mem with mem | mem
      · obtain ⟨mid, first, mem⟩ := List.mem_flatMap.mp mem
        split at mem
        · exact ih (step s mid h first) mem
        · cases mem
      · exact List.mem_singleton.mp mem ▸ h

end Kept

/-- A reading keeps what every step of it keeps, and leads to a later place. -/
theorem Kept.of_mem_readings {P : Reading → Prop} (kept : Kept P) {p : Pattern} {s s' : Reading}
    (h : P s) (mem : s' ∈ p.readings s) : P s' ∧ s.Leads s' := by
  have leads : ∀ s : Reading, Kept fun s' => s.Leads s' := fun s =>
    ⟨fun _ _ _ text first => first.trans (.advance text), fun _ _ _ _ second => ⟨second.1, second.2⟩⟩
  have stay : ∀ {s s' : Reading}, P s → s' = s → P s' ∧ s.Leads s' := by
    rintro s s' h rfl
    exact ⟨h, .refl s'⟩
  -- A capture needs to know that its end lies behind its start, so that is carried along.
  induction p generalizing s s' with
  | empty => exact stay h (List.mem_singleton.mp mem)
  | char p =>
      rw [readings] at mem
      cases text : s.rest with
      | nil =>
          rw [text] at mem
          cases mem
      | cons c rest =>
          rw [text] at mem
          dsimp only at mem
          split at mem
          · rw [List.mem_singleton] at mem
            subst mem
            exact ⟨kept.advance s c rest text h, .advance text⟩
          · cases mem
  | run p => exact ⟨kept.run rfl h mem, (leads s).run rfl (.refl s) mem⟩
  | lazyRun p => exact ⟨kept.lazyRun rfl h mem, (leads s).lazyRun rfl (.refl s) mem⟩
  | seq a b iha ihb =>
      obtain ⟨mid, first, second⟩ := List.mem_flatMap.mp mem
      obtain ⟨holds, lead⟩ := iha h first
      obtain ⟨holds', lead'⟩ := ihb holds second
      exact ⟨holds', lead.trans lead'⟩
  | alt a b iha ihb =>
      rcases List.mem_append.mp mem with mem | mem
      · exact iha h mem
      · exact ihb h mem
  | star a ih =>
      have step : ∀ s₁ s₂, P s₁ ∧ s.Leads s₁ → s₂ ∈ a.readings s₁ → P s₂ ∧ s.Leads s₂ := by
        rintro s₁ s₂ ⟨related, lead⟩ mem
        obtain ⟨holds', lead'⟩ := ih related mem
        exact ⟨holds', lead.trans lead'⟩
      exact star_of_step step ⟨h, .refl s⟩ mem
  | capture a ih =>
      obtain ⟨mid, inner, rfl⟩ := List.mem_map.mp mem
      obtain ⟨holds, lead⟩ := ih h inner
      exact ⟨kept.capture s mid lead h holds, ⟨lead.1, lead.2⟩⟩
  | boundary =>
      rw [readings] at mem
      split at mem
      · exact stay h (List.mem_singleton.mp mem)
      · cases mem
  | atEnd =>
      rw [readings] at mem
      split at mem
      · exact stay h (List.mem_singleton.mp mem)
      · cases mem
  | notAfter p =>
      rw [readings] at mem
      split at mem
      · cases mem
      · exact stay h (List.mem_singleton.mp mem)
  | ahead a ih =>
      rw [readings] at mem
      split at mem
      · cases mem
      · exact stay h (List.mem_singleton.mp mem)
  | notAhead a ih =>
      rw [readings] at mem
      split at mem
      · exact stay h (List.mem_singleton.mp mem)
      · cases mem

theorem leads_of_mem_readings {p : Pattern} {s s' : Reading} (mem : s' ∈ p.readings s) :
    s.Leads s' :=
  (Kept.of_mem_readings (P := fun _ => True) ⟨fun _ _ _ _ _ => trivial, fun _ _ _ _ _ => trivial⟩
    trivial mem).2

/-! ### Subjects -/

/-- A place in a text whose captured stretch, if there is one, is in the text. -/
structure Inside (t : Text) (s : Reading) : Prop where
  rest : s.rest <:+ t
  captured : ∀ stretch ∈ s.captured, stretch.1 <:+ t ∧ stretch.2 ≤ stretch.1.length

/-- What is left of a text is an end of it. -/
theorem kept_inside (t : Text) : Kept (Inside t) where
  advance s c rest text h := ⟨((Reading.Leads.advance text).rest).trans h.rest, h.captured⟩
  capture s s' lead h h' := by
    refine ⟨h'.rest, fun stretch hs => ?_⟩
    cases hs
    obtain ⟨u, text, count⟩ := lead.exists_append
    refine ⟨h.rest, ?_⟩
    rw [text, List.length_append]
    dsimp only
    omega

theorem inside_start (prev : Option Char) (t : Text) : Inside t ⟨prev, t, 0, none⟩ :=
  ⟨List.suffix_refl t, by simp⟩

theorem matchAt?_eq_some {p : Pattern} {prev : Option Char} {t : Text} {m : Match}
    (h : p.matchAt? prev t = some m) :
    ∃ s ∈ p.readings ⟨prev, t, 0, none⟩, Inside t s ∧ m = matchOf s := by
  rw [matchAt?_eq_head?, Option.map_eq_some_iff] at h
  obtain ⟨s, first, rfl⟩ := h
  have mem := List.mem_of_head? first
  exact ⟨s, mem, ((kept_inside t).of_mem_readings (inside_start prev t) mem).1, rfl⟩

/-- Every match that is found is one at some place of the text. -/
theorem mem_findAllFrom {p : Pattern} {skip : Nat} {prev : Option Char} {t : Text} {m : Match}
    (h : m ∈ p.findAllFrom skip prev t) :
    ∃ prev' u, u <:+ t ∧ p.matchAt? prev' u = some m := by
  induction t generalizing skip prev with
  | nil =>
      cases skip with
      | zero => exact ⟨prev, [], List.suffix_refl _, Option.mem_toList.mp h⟩
      | succ skip => cases h
  | cons c t ih =>
      have later : ∀ {skip}, m ∈ p.findAllFrom skip (some c) t →
          ∃ prev' u, u <:+ c :: t ∧ p.matchAt? prev' u = some m := by
        intro skip mem
        obtain ⟨prev', u, suffix_, found⟩ := ih mem
        exact ⟨prev', u, suffix_.trans (List.suffix_cons c t), found⟩
      cases skip with
      | succ skip => exact later h
      | zero =>
          rw [findAllFrom] at h
          split at h
          · next m' found =>
              rcases List.mem_cons.mp h with rfl | h
              · exact ⟨prev, c :: t, List.suffix_refl _, found⟩
              · exact later h
          · exact later h

/-- The first match that is found is one at some place of the text. -/
theorem mem_findFrom? {p : Pattern} {prev : Option Char} {t before : Text} {m : Match}
    (h : p.findFrom? prev t = some (before, m)) :
    ∃ prev' u, u <:+ t ∧ p.matchAt? prev' u = some m := by
  induction t generalizing prev before with
  | nil =>
      rw [findFrom?, Option.map_eq_some_iff] at h
      obtain ⟨m', found, eq⟩ := h
      cases eq
      exact ⟨prev, [], List.suffix_refl _, found⟩
  | cons c t ih =>
      rw [findFrom?] at h
      split at h
      · next m' found =>
          cases h
          exact ⟨prev, c :: t, List.suffix_refl _, found⟩
      · rw [Option.map_eq_some_iff] at h
        obtain ⟨⟨before', m'⟩, found, eq⟩ := h
        cases eq
        obtain ⟨prev', u, suffix_, found⟩ := ih found
        exact ⟨prev', u, suffix_.trans (List.suffix_cons c t), found⟩

/-- The subject of a match is a piece of the text. -/
theorem subject_of_matchAt? {p : Pattern} {prev : Option Char} {t : Text} {m : Match}
    (h : p.matchAt? prev t = some m) : m.subject <:+: t := by
  obtain ⟨s, -, inside, rfl⟩ := matchAt?_eq_some h
  rw [matchOf]
  cases captured : s.captured with
  | none => exact List.nil_infix
  | some stretch =>
      obtain ⟨start, n⟩ := stretch
      have within := (inside.captured (start, n) captured).1
      exact ((List.take_prefix n start).isInfix).trans within.isInfix

theorem subject_of_mem_findAll {p : Pattern} {t : Text} {m : Match} (h : m ∈ p.findAll t) :
    m.subject <:+: t := by
  obtain ⟨prev, u, suffix_, found⟩ := mem_findAllFrom h
  exact (subject_of_matchAt? found).trans suffix_.isInfix

theorem subject_of_find? {p : Pattern} {t before : Text} {m : Match}
    (h : p.find? t = some (before, m)) : m.subject <:+: t := by
  obtain ⟨prev, u, suffix_, found⟩ := mem_findFrom? h
  exact (subject_of_matchAt? found).trans suffix_.isInfix

/-! ### Classes of characters -/

/-- A pattern that reads characters of a class only. -/
def Only (q : Char → Bool) (p : Pattern) : Prop :=
  ∀ s, ∀ s' ∈ p.readings s, ∃ u, s.rest = u ++ s'.rest ∧ s'.count = s.count + u.length ∧
    ∀ c ∈ u, q c = true

/-- A pattern whose last captured stretch has characters of a class only. -/
def Captures (q : Char → Bool) (p : Pattern) : Prop :=
  ∀ s, ∀ s' ∈ p.readings s, ∀ stretch ∈ s'.captured, ∀ c ∈ stretch.1.take stretch.2, q c = true

variable {q : Char → Bool}

/-- A character of a class is of every wider class. -/
theorem only_char {p : Char → Bool} (sub : ∀ c, p c = true → q c = true) : Only q (.char p) := by
  intro s s' mem
  rw [readings] at mem
  cases text : s.rest with
  | nil =>
      rw [text] at mem
      cases mem
  | cons c rest =>
      rw [text] at mem
      dsimp only at mem
      split at mem
      · next passes =>
          rw [List.mem_singleton] at mem
          subst mem
          exact ⟨[c], rfl, rfl, by simpa using sub c passes⟩
      · cases mem

/-- So are the characters of a run. -/
theorem only_run {p : Char → Bool} (sub : ∀ c, p c = true → q c = true) : Only q (.run p) := by
  intro s s' mem
  rw [readings] at mem
  generalize text : s.rest = t at mem
  induction t generalizing s with
  | nil =>
      rw [readingsRun, List.mem_singleton] at mem
      subst mem
      exact ⟨[], by simp [text], rfl, by simp⟩
  | cons c t ih =>
      have stay : s' = s → ∃ u, c :: t = u ++ s'.rest ∧ s'.count = s.count + u.length ∧
          ∀ c ∈ u, q c = true := by
        rintro rfl
        exact ⟨[], by simp [text], rfl, by simp⟩
      rw [readingsRun] at mem
      split at mem
      · next passes =>
          rcases List.mem_append.mp mem with mem | mem
          · obtain ⟨u, rest, count, all⟩ := ih (s.advance c t) rfl mem
            refine ⟨c :: u, by rw [rest, List.cons_append], ?_, ?_⟩
            · rw [count, List.length_cons]
              exact Nat.succ_add_eq_add_succ s.count u.length
            · intro d hd
              rcases List.mem_cons.mp hd with rfl | hd
              · exact sub d passes
              · exact all d hd
          · exact stay (List.mem_singleton.mp mem)
      · exact stay (List.mem_singleton.mp mem)

/-- So are those of a run that is as short as possible. -/
theorem only_lazyRun {p : Char → Bool} (sub : ∀ c, p c = true → q c = true) :
    Only q (.lazyRun p) := by
  intro s s' mem
  rw [readings] at mem
  generalize text : s.rest = t at mem
  induction t generalizing s with
  | nil =>
      rw [readingsLazyRun, List.mem_singleton] at mem
      subst mem
      exact ⟨[], by simp [text], rfl, by simp⟩
  | cons c t ih =>
      rw [readingsLazyRun] at mem
      rcases List.mem_cons.mp mem with rfl | mem
      · exact ⟨[], by simp [text], rfl, by simp⟩
      · split at mem
        · next passes =>
            obtain ⟨u, rest, count, all⟩ := ih (s.advance c t) rfl mem
            refine ⟨c :: u, by rw [rest, List.cons_append], ?_, ?_⟩
            · rw [count, List.length_cons]
              exact Nat.succ_add_eq_add_succ s.count u.length
            · exact List.forall_mem_cons.mpr ⟨sub c passes, all⟩
        · cases mem

/-- A sequence reads characters of a class if both parts do. -/
theorem Only.seq {a b : Pattern} (ha : Only q a) (hb : Only q b) : Only q (.seq a b) := by
  intro s s' mem
  obtain ⟨mid, first, second⟩ := List.mem_flatMap.mp mem
  obtain ⟨u, rest, count, all⟩ := ha s mid first
  obtain ⟨u', rest', count', all'⟩ := hb mid s' second
  refine ⟨u ++ u', by rw [rest, rest', List.append_assoc], ?_, fun c hc => ?_⟩
  · rw [count', count, List.length_append, Nat.add_assoc]
  · rcases List.mem_append.mp hc with hc | hc
    · exact all c hc
    · exact all' c hc

/-- What is captured by a pattern of a class is of that class. -/
theorem Only.capture {a : Pattern} (ha : Only q a) : Captures q (.capture a) := by
  intro s s' mem stretch captured c hc
  obtain ⟨mid, inner, rfl⟩ := List.mem_map.mp mem
  cases captured
  obtain ⟨u, rest, count, all⟩ := ha s mid inner
  dsimp only at hc
  rw [rest, count, Nat.add_sub_cancel_left, List.take_left'] at hc
  · exact all c hc
  · rfl

theorem Captures.mono {q' : Char → Bool} {a : Pattern} (ha : Captures q a)
    (sub : ∀ c, q c = true → q' c = true) : Captures q' a := fun s s' mem stretch captured c hc =>
  sub c (ha s s' mem stretch captured c hc)

theorem Captures.alt {a b : Pattern} (ha : Captures q a) (hb : Captures q b) :
    Captures q (.alt a b) := by
  intro s s' mem
  rcases List.mem_append.mp mem with mem | mem
  · exact ha s s' mem
  · exact hb s s' mem

theorem Captures.seq (a : Pattern) {b : Pattern} (hb : Captures q b) : Captures q (.seq a b) := by
  intro s s' mem
  obtain ⟨mid, -, second⟩ := List.mem_flatMap.mp mem
  exact hb mid s' second

/-- A single character after the stretch leaves it as it is. -/
theorem Captures.seq_char {a : Pattern} (ha : Captures q a) (p : Char → Bool) :
    Captures q (.seq a (.char p)) := by
  intro s s' mem
  obtain ⟨mid, first, second⟩ := List.mem_flatMap.mp mem
  have captured : s'.captured = mid.captured := by
    rw [readings] at second
    split at second
    · cases second
    · split at second
      · rw [List.mem_singleton.mp second]
        rfl
      · cases second
  rw [captured]
  exact ha s mid first

theorem Captures.of_matchAt? {p : Pattern} (h : Captures q p) {prev : Option Char} {t : Text}
    {m : Match} (found : p.matchAt? prev t = some m) : ∀ c ∈ m.subject, q c = true := by
  obtain ⟨s, mem, -, rfl⟩ := matchAt?_eq_some found
  rw [matchOf]
  cases captured : s.captured with
  | none => simp
  | some stretch => exact h _ s mem stretch captured

/-! ### Patterns without a reading -/

/-- A pattern that has no reading in texts of characters of a class. -/
def Fails (q : Char → Bool) (p : Pattern) : Prop :=
  ∀ s : Reading, (∀ c ∈ s.rest, q c = true) → p.readings s = []

/-- A character outside of a class is not read in a text of that class. -/
theorem fails_char {p : Char → Bool} (apart : ∀ c, q c = true → p c = false) :
    Fails q (.char p) := by
  intro s each
  rw [readings]
  cases text : s.rest with
  | nil => rfl
  | cons c rest =>
      dsimp only
      rw [apart c (each c (text ▸ List.mem_cons_self))]
      rfl

theorem Fails.seq_left {a : Pattern} (ha : Fails q a) (b : Pattern) : Fails q (.seq a b) := by
  intro s each
  rw [readings, ha s each, List.flatMap_nil]

theorem Fails.seq_right {b : Pattern} (a : Pattern) (hb : Fails q b) : Fails q (.seq a b) :=
  fun _ each => List.flatMap_eq_nil_iff.mpr fun m hm =>
    hb m fun c hc => each c ((leads_of_mem_readings hm).rest.subset hc)

theorem Fails.findAllFrom {p : Pattern} (h : Fails q p) {t : Text} (each : ∀ c ∈ t, q c = true)
    (skip : Nat) (prev : Option Char) : p.findAllFrom skip prev t = [] := by
  refine List.eq_nil_iff_forall_not_mem.mpr fun m hm => ?_
  obtain ⟨prev', u, suffix_, found⟩ := mem_findAllFrom hm
  rw [matchAt?_eq_head?, h ⟨prev', u, 0, none⟩ fun c hc => each c (suffix_.subset hc)] at found
  cases found

/-! ### Texts without a match -/

/-- Without a separator a text is one piece. -/
theorem piecesFrom_of_findAllFrom {p : Pattern} {prev : Option Char} {t : Text}
    (none : p.findAllFrom 0 prev t = []) : p.piecesFrom 0 prev t = [t] := by
  induction t generalizing prev with
  | nil => rfl
  | cons c t ih =>
      rw [findAllFrom] at none
      rw [piecesFrom]
      cases found : p.matchAt? prev (c :: t) with
      | some m =>
          rw [found] at none
          cases none
      | none =>
          rw [found] at none
          dsimp only at none ⊢
          rw [ih none]

/-- A text without a match is not rewritten. -/
theorem replaceAll_of_findAll {p : Pattern} {t : Text} (new : Text) (none : p.findAll t = []) :
    p.replaceAll new t = t := by
  rw [replaceAll, pieces, piecesFrom_of_findAllFrom none, List.intercalate_singleton]

theorem piecesFrom_of_length_le {p : Pattern} {skip : Nat} {prev : Option Char} {t : Text}
    (enough : t.length ≤ skip) : p.piecesFrom skip prev t = [[]] := by
  induction t generalizing skip prev with
  | nil => rw [piecesFrom]
  | cons c t ih =>
      cases skip with
      | zero => cases enough
      | succ skip => exact ih (Nat.le_of_succ_le_succ enough)

/-- A text that is one match is rewritten as a whole. -/
theorem replaceAll_of_matchAt? {p : Pattern} {t : Text} {m : Match} (new : Text) (ne : t ≠ [])
    (found : p.matchAt? none t = some m) (whole : m.length = t.length) :
    p.replaceAll new t = new := by
  cases t with
  | nil => exact absurd rfl ne
  | cons c t =>
      have rest : p.piecesFrom (m.length - 1) (some c) t = [[]] :=
        piecesFrom_of_length_le (by rw [whole]; exact le_rfl)
      rw [replaceAll, pieces, piecesFrom, found]
      dsimp only
      rw [rest]
      simp

/-- A pattern that can be read somewhere in a text is found. -/
theorem isSome_findFrom? {p : Pattern} {prev : Option Char} {before rest : Text}
    (reads : p.readings ⟨before.getLast?.or prev, rest, 0, none⟩ ≠ []) :
    (p.findFrom? prev (before ++ rest)).isSome = true := by
  induction before generalizing prev with
  | nil =>
      have first : (p.matchAt? prev rest).isSome = true := by
        rw [matchAt?_eq_head?, Option.isSome_map, List.isSome_head?]
        exact reads
      obtain ⟨m, found⟩ := Option.isSome_iff_exists.mp first
      cases rest with
      | nil => rw [List.nil_append, findFrom?, found, Option.map_some, Option.isSome_some]
      | cons c rest => rw [List.nil_append, findFrom?, found, Option.isSome_some]
  | cons c before ih =>
      rw [List.cons_append, findFrom?]
      cases p.matchAt? prev (c :: (before ++ rest)) with
      | some m => rfl
      | none =>
          rw [Option.isSome_map]
          refine ih ?_
          rw [List.getLast?_cons] at reads
          cases last : before.getLast? <;> rwa [last] at reads

/-! ### Patterns one after another -/

theorem readings_inOrder_cons (p : Pattern) (ps : List Pattern) (s : Reading) :
    (inOrder (p :: ps)).readings s = (p.readings s).flatMap (inOrder ps).readings := by
  cases ps with
  | nil => exact (List.flatMap_singleton' _).symm
  | cons p' ps => rfl

/-- One of several patterns reads what any of them reads. -/
theorem mem_readings_oneOf {p : Pattern} {ps : List Pattern} {s s' : Reading} (mem : p ∈ ps)
    (reads : s' ∈ p.readings s) : s' ∈ (oneOf ps).readings s := by
  induction ps with
  | nil => cases mem
  | cons p' ps ih =>
      cases ps with
      | nil => exact List.mem_singleton.mp mem ▸ reads
      | cons p'' ps =>
          rcases List.mem_cons.mp mem with rfl | mem
          · exact List.mem_append_left _ reads
          · exact List.mem_append_right _ (ih mem)

/-- A last pattern reads on from wherever those before it end. -/
theorem readings_inOrder_append {ps : List Pattern} (ne : ps ≠ []) (q : Pattern) (s : Reading) :
    (inOrder (ps ++ [q])).readings s = ((inOrder ps).readings s).flatMap q.readings := by
  induction ps generalizing s with
  | nil => exact absurd rfl ne
  | cons p ps ih =>
      cases ps with
      | nil => rfl
      | cons p' ps =>
          have rest : (inOrder (p' :: ps ++ [q])).readings =
              fun s => ((inOrder (p' :: ps)).readings s).flatMap q.readings :=
            funext fun s => ih (List.cons_ne_nil _ _) s
          calc (inOrder (p :: p' :: ps ++ [q])).readings s
              = (p.readings s).flatMap (inOrder (p' :: ps ++ [q])).readings := rfl
            _ = ((p.readings s).flatMap (inOrder (p' :: ps)).readings).flatMap q.readings := by
                rw [rest, List.flatMap_assoc]
            _ = ((inOrder (p :: p' :: ps)).readings s).flatMap q.readings := rfl

end Pattern

end Notebase
