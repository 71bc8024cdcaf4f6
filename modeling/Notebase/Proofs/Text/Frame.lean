import Mathlib.Data.List.Forall2
import Notebase.Proofs.Text.Tail

/-!
Texts with something around them. A pattern that cannot read what stands around a text reads the
text there as it does alone, reading by reading, so that it finds the same matches in it
(`Frame.Keeps.findAllFrom`).
-/

namespace Notebase

namespace Pattern

/-! ### Patterns that need text -/

/-- Whether a pattern is seen to read at least one character, whatever else it asks. -/
def needsText : Pattern → Bool
  | .char _ => true
  | .seq a b => needsText a || needsText b
  | .alt a b => needsText a && needsText b
  | .capture a => needsText a
  | _ => false

/-- At the end of a text there is nothing to read. -/
theorem readings_eq_nil_of_needsText {p : Pattern} (needs : p.needsText = true) {s : Reading}
    (done : s.rest = []) : p.readings s = [] := by
  induction p generalizing s with
  | char p => rw [readings, done]
  | seq a b iha ihb =>
      rcases Bool.or_eq_true_iff.mp needs with needs | needs
      · rw [readings, iha needs done, List.flatMap_nil]
      · refine List.flatMap_eq_nil_iff.mpr fun m hm => ihb needs ?_
        have suffix_ := (leads_of_mem_readings hm).rest
        rw [done] at suffix_
        exact List.suffix_nil.mp suffix_
  | alt a b iha ihb =>
      obtain ⟨needsA, needsB⟩ := Bool.and_eq_true_iff.mp needs
      rw [readings, iha needsA done, ihb needsB done, List.append_nil]
  | capture a ih => rw [readings, ih needs done, List.map_nil]
  | empty => cases needs
  | run p => cases needs
  | lazyRun p => cases needs
  | star a => cases needs
  | boundary => cases needs
  | atEnd => cases needs
  | notAfter p => cases needs
  | ahead a => cases needs
  | notAhead a => cases needs

theorem matchAt?_nil {p : Pattern} (needs : p.needsText = true) (prev : Option Char) :
    p.matchAt? prev [] = none := by
  rw [matchAt?_eq_head?, readings_eq_nil_of_needsText needs rfl]
  rfl

theorem findAllFrom_nil {p : Pattern} (needs : p.needsText = true) (skip : Nat)
    (prev : Option Char) : p.findAllFrom skip prev [] = [] := by
  cases skip with
  | zero => rw [findAllFrom, matchAt?_nil needs, Option.toList_none]
  | succ skip => rfl

/-- A match that takes the rest of a text is the last one. -/
theorem findAllFrom_of_length_le {p : Pattern} (needs : p.needsText = true) {skip : Nat}
    {prev : Option Char} {t : Text} (enough : t.length ≤ skip) :
    p.findAllFrom skip prev t = [] := by
  induction t generalizing skip prev with
  | nil => exact findAllFrom_nil needs skip prev
  | cons c t ih =>
      cases skip with
      | zero => cases enough
      | succ skip => exact ih (Nat.le_of_succ_le_succ enough)

theorem length_le_of_matchAt? {p : Pattern} {prev : Option Char} {t : Text} {m : Match}
    (h : p.matchAt? prev t = some m) : m.length ≤ t.length := by
  obtain ⟨s, mem, -, rfl⟩ := matchAt?_eq_some h
  have count := (leads_of_mem_readings mem).count
  simp only [Nat.zero_add] at count
  rw [matchOf]
  dsimp only
  omega

/-- The first of all matches is the match that is found first. -/
theorem head?_findAllFrom (p : Pattern) (prev : Option Char) (t : Text) :
    (p.findAllFrom 0 prev t).head? = (p.findFrom? prev t).map Prod.snd := by
  induction t generalizing prev with
  | nil =>
      rw [findAllFrom, findFrom?]
      cases p.matchAt? prev [] <;> rfl
  | cons c t ih =>
      rw [findAllFrom, findFrom?]
      cases p.matchAt? prev (c :: t) with
      | some m => rfl
      | none =>
          dsimp only
          rw [ih, Option.map_map]
          rfl

theorem find?_map_snd (p : Pattern) (t : Text) :
    (p.find? t).map Prod.snd = (p.findAll t).head? := (head?_findAllFrom p none t).symm

theorem find?_eq_none_of_findAll {p : Pattern} {t : Text} (none : p.findAll t = []) :
    p.find? t = Option.none := by
  have first := p.find?_map_snd t
  rwa [none, List.head?_nil, Option.map_eq_none_iff] at first

/-- A pattern occurs in a text exactly if it is found there at all. -/
theorem occursIn_eq (p : Pattern) (t : Text) : p.occursIn t = !(p.findAll t).isEmpty := by
  have first := p.find?_map_snd t
  rw [occursIn]
  cases find_eq : p.find? t with
  | none =>
      rw [find_eq, Option.map_none] at first
      rw [List.head?_eq_none_iff.mp first.symm]
      rfl
  | some found =>
      rw [find_eq, Option.map_some] at first
      cases all : p.findAll t with
      | nil =>
          rw [all] at first
          cases first
      | cons m ms => rfl

def Match.before (tail : Text) (m : Match) : Match := { m with rest := m.rest ++ tail }

end Pattern

/-- What stands around a text: the character before it and at most one after it, none of which
belongs to a word, and a class of characters that the text itself does not have. -/
structure Frame where
  mark : Char
  tail : Text
  out : Char → Bool
  mark_apart : isWordChar mark = false
  tail_apart : ∀ c ∈ tail, isWordChar c = false
  short : tail.length ≤ 1

namespace Frame

variable {f : Frame}

/-- A text that has none of the characters of the class. -/
def Clean (f : Frame) (t : Text) : Prop := ∀ c ∈ t, f.out c = false

theorem Clean.suffix {t u : Text} (clean : f.Clean t) (h : u <:+ t) : f.Clean u :=
  fun c hc => clean c (h.subset hc)

/-- Places in a text alone and in the frame that differ in what stands around the text only. -/
structure Same (f : Frame) (s s' : Reading) : Prop where
  prev : s'.prev = s.prev ∨ s.prev = none ∧ s'.prev = some f.mark
  rest : s'.rest = s.rest ++ f.tail
  count : s'.count = s.count
  captured : s'.captured = s.captured.map fun (start, n) => (start ++ f.tail, n)
  inside : ∀ stretch ∈ s.captured, stretch.2 ≤ stretch.1.length
  clean : f.Clean s.rest

def Keeps (f : Frame) (p : Pattern) : Prop :=
  ∀ s s', f.Same s s' → List.Forall₂ f.Same (p.readings s) (p.readings s')

/-! ### Places in a frame -/

theorem Same.advance {s s' : Reading} {c : Char} {rest : Text} (same : f.Same s s')
    (text : s.rest = c :: rest) : f.Same (s.advance c rest) (s'.advance c (rest ++ f.tail)) where
  prev := .inl rfl
  rest := rfl
  count := congrArg (· + 1) same.count
  captured := same.captured
  inside := same.inside
  clean := same.clean.suffix (text ▸ List.suffix_cons c rest)

theorem Same.any_prev {s s' : Reading} {p : Char → Bool} (same : f.Same s s')
    (apart : p f.mark = false) : s'.prev.any p = s.prev.any p := by
  rcases same.prev with prev | ⟨none, prev⟩
  · rw [prev]
  · rw [none, prev]
    exact apart

theorem any_head?_append {p : Char → Bool} {tail : Text} (apart : ∀ c ∈ tail, p c = false)
    (t : Text) : (t ++ tail).head?.any p = t.head?.any p := by
  cases t with
  | cons c t => rfl
  | nil =>
      cases tail with
      | nil => rfl
      | cons c tail => exact apart c List.mem_cons_self

theorem Same.atBoundary {s s' : Reading} (same : f.Same s s') : s'.atBoundary = s.atBoundary := by
  rw [Reading.atBoundary, Reading.atBoundary, same.any_prev f.mark_apart, same.rest,
    any_head?_append f.tail_apart]

/-! ### Readings that stay in the text -/

def within (f : Frame) (s : Reading) : Bool := f.tail.length ≤ s.rest.length

/-- A pattern whose readings in the frame, as far as they stay in the text, are its readings of the
text alone. -/
def Steady (f : Frame) (p : Pattern) : Prop :=
  ∀ s s', f.Same s s' → List.Forall₂ f.Same (p.readings s) ((p.readings s').filter f.within)

theorem Same.within {s s' : Reading} (same : f.Same s s') : f.within s' = true := by
  rw [Frame.within, same.rest, List.length_append, decide_eq_true_iff]
  exact Nat.le_add_left _ _

theorem Same.filter_singleton {s s' : Reading} (same : f.Same s s') :
    List.Forall₂ f.Same [s] ([s'].filter f.within) := by
  rw [List.filter_cons_of_pos same.within]
  exact .cons same .nil

/-- What is behind the text stays there. -/
theorem filter_readings_eq_nil {p : Pattern} {s : Reading} (behind : f.within s = false) :
    (p.readings s).filter f.within = [] := by
  refine List.filter_eq_nil_iff.mpr fun m hm => ?_
  have later := (Pattern.leads_of_mem_readings hm).rest.length_le
  rw [within, decide_eq_false_iff_not] at behind
  rw [within, decide_eq_true_iff]
  omega

/-- One character after the text is behind it. -/
theorem not_within_advance {s : Reading} {c : Char} {rest : Text} (tail : f.tail = c :: rest) :
    f.within (s.advance c rest) = false := by
  rw [within, tail, decide_eq_false_iff_not]
  exact Nat.not_succ_le_self rest.length

/-- A frame does not change how a character is read. -/
theorem steady_char (p : Char → Bool) : f.Steady (.char p) := by
  intro s s' same
  rw [Pattern.readings, Pattern.readings, same.rest]
  cases text : s.rest with
  | nil =>
      rw [List.nil_append]
      cases tail : f.tail with
      | nil => exact .nil
      | cons c rest =>
          dsimp only
          split
          · rw [List.filter_cons_of_neg (by simp [not_within_advance tail])]
            exact .nil
          · exact .nil
  | cons c rest =>
      rw [List.cons_append]
      dsimp only
      split
      · exact (same.advance text).filter_singleton
      · exact .nil

/-- Nor how a run is read. -/
theorem steady_run (p : Char → Bool) : f.Steady (.run p) := by
  intro s s' same
  rw [Pattern.readings, Pattern.readings, same.rest]
  generalize text : s.rest = t
  induction t generalizing s s' with
  | nil =>
      rw [List.nil_append]
      cases tail : f.tail with
      | nil => exact same.filter_singleton
      | cons c rest =>
          have behind : (Pattern.readingsRun p rest (s'.advance c rest)).filter f.within = [] :=
            filter_readings_eq_nil (p := .run p) (not_within_advance tail)
          rw [Pattern.readingsRun, Pattern.readingsRun]
          split
          · rw [List.filter_append, behind]
            exact same.filter_singleton
          · exact same.filter_singleton
  | cons c t ih =>
      rw [List.cons_append, Pattern.readingsRun, Pattern.readingsRun]
      split
      · rw [List.filter_append]
        exact List.rel_append (ih _ _ (same.advance text) rfl) same.filter_singleton
      · exact same.filter_singleton

/-- Nor a run that is as short as possible. -/
theorem steady_lazyRun (p : Char → Bool) : f.Steady (.lazyRun p) := by
  intro s s' same
  rw [Pattern.readings, Pattern.readings, same.rest]
  generalize text : s.rest = t
  induction t generalizing s s' with
  | nil =>
      rw [List.nil_append]
      cases tail : f.tail with
      | nil => exact same.filter_singleton
      | cons c rest =>
          have behind : (Pattern.readingsLazyRun p rest (s'.advance c rest)).filter f.within = [] :=
            filter_readings_eq_nil (p := .lazyRun p) (not_within_advance tail)
          rw [Pattern.readingsLazyRun, Pattern.readingsLazyRun, List.filter_cons_of_pos same.within]
          split
          · rw [behind]
            exact .cons same .nil
          · exact .cons same .nil
  | cons c t ih =>
      rw [List.cons_append, Pattern.readingsLazyRun, Pattern.readingsLazyRun,
        List.filter_cons_of_pos same.within]
      split
      · exact .cons same (ih _ _ (same.advance text) rfl)
      · exact .cons same .nil

/-- What comes to nothing outside of a class may be left out. -/
theorem flatMap_filter_of_forall {α β : Type} {q : α → Bool} {g : α → List β} {as : List α}
    (none : ∀ a ∈ as, q a = false → g a = []) : (as.filter q).flatMap g = as.flatMap g := by
  induction as with
  | nil => rfl
  | cons a as ih =>
      have rest := ih fun a' ha => none a' (List.mem_cons_of_mem a ha)
      cases outcome : q a with
      | true => rw [List.filter_cons_of_pos outcome, List.flatMap_cons, List.flatMap_cons, rest]
      | false =>
          rw [List.filter_cons_of_neg (by simp [outcome]), List.flatMap_cons,
            none a List.mem_cons_self outcome, rest, List.nil_append]

theorem Steady.seq {a b : Pattern} (ha : f.Steady a) (hb : f.Steady b) : f.Steady (.seq a b) := by
  intro s s' same
  have behind : ∀ m ∈ a.readings s', f.within m = false → (b.readings m).filter f.within = [] :=
    fun _ _ behind => filter_readings_eq_nil behind
  rw [Pattern.readings, Pattern.readings, List.filter_flatMap, ← flatMap_filter_of_forall behind]
  exact List.rel_flatMap (ha s s' same) hb

theorem Steady.alt {a b : Pattern} (ha : f.Steady a) (hb : f.Steady b) : f.Steady (.alt a b) := by
  intro s s' same
  rw [Pattern.readings, Pattern.readings, List.filter_append]
  exact List.rel_append (ha s s' same) (hb s s' same)

/-- What is captured inside of a frame is the same. -/
theorem Steady.capture {a : Pattern} (ha : f.Steady a) : f.Steady (.capture a) := by
  intro s s' same
  rw [Pattern.readings, Pattern.readings, List.filter_map, List.forall₂_map_left_iff,
    List.forall₂_map_right_iff]
  refine ((List.forall₂_and_left _ _).mpr ⟨fun m hm => hm, ha s s' same⟩).imp ?_
  rintro m m' ⟨mem, isSame⟩
  obtain ⟨u, text, count⟩ := (Pattern.leads_of_mem_readings mem).exists_append
  refine { isSame with captured := ?_, inside := ?_ }
  · rw [same.rest, same.count, isSame.count]
    rfl
  · intro stretch hs
    cases hs
    rw [text, List.length_append]
    dsimp only
    omega

/-- The repetitions after one more step, if the limit allows one and the step moves on. -/
def furtherStar (steps : Reading → List Reading) (limit : Nat) (s m : Reading) : List Reading :=
  match limit with
  | 0 => []
  | limit + 1 => if s.count < m.count then Pattern.readingsStar steps limit m else []

theorem readingsStar_eq (steps : Reading → List Reading) (limit : Nat) (s : Reading) :
    Pattern.readingsStar steps limit s = (steps s).flatMap (furtherStar steps limit s) ++ [s] := by
  cases limit with
  | zero =>
      have none : (steps s).flatMap (furtherStar steps 0 s) = [] :=
        List.flatMap_eq_nil_iff.mpr fun _ _ => rfl
      rw [Pattern.readingsStar, none, List.nil_append]
  | succ limit => rfl

/-- A repetition that has left the frame does not come back into it. -/
theorem filter_furtherStar_eq_nil (a : Pattern) (limit : Nat) (s : Reading) {m : Reading}
    (behind : f.within m = false) :
    (furtherStar a.readings limit s m).filter f.within = [] := by
  have later : ∀ limit, (Pattern.readingsStar a.readings limit m).filter f.within = [] := by
    refine fun limit => List.filter_eq_nil_iff.mpr fun m' hm => ?_
    refine Bool.not_eq_true _ ▸ Pattern.star_of_step (P := fun s => f.within s = false) ?_ behind hm
    intro s s' behind mem
    exact Bool.not_eq_true _ ▸ List.filter_eq_nil_iff.mp (filter_readings_eq_nil behind) s' mem
  cases limit with
  | zero => rfl
  | succ limit =>
      rw [furtherStar]
      split
      · exact later limit
      · rfl

/-- A repetition is steady if each further round is. -/
theorem Steady.star_of_further {a : Pattern} (ha : f.Steady a) {limit limit' : Nat}
    {s s' : Reading} (same : f.Same s s') (further : ∀ m m', s.Leads m → f.Same m m' →
      List.Forall₂ f.Same (furtherStar a.readings limit s m)
        ((furtherStar a.readings limit' s' m').filter f.within)) :
    List.Forall₂ f.Same (Pattern.readingsStar a.readings limit s)
      ((Pattern.readingsStar a.readings limit' s').filter f.within) := by
  have steps := (List.forall₂_and_left _ _).mpr
    ⟨fun m (hm : m ∈ a.readings s) => Pattern.leads_of_mem_readings hm, ha s s' same⟩
  have behind : ∀ m ∈ a.readings s', f.within m = false →
      (furtherStar a.readings limit' s' m).filter f.within = [] :=
    fun _ _ behind => filter_furtherStar_eq_nil a limit' s' behind
  rw [readingsStar_eq, readingsStar_eq _ limit', List.filter_append, List.filter_flatMap,
    ← flatMap_filter_of_forall behind]
  refine List.rel_append (List.rel_flatMap steps ?_) same.filter_singleton
  exact fun m m' ⟨leads, isSame⟩ => further m m' leads isSame

/-- A repetition is steady whatever its limits are, as long as they reach to the end. -/
theorem Steady.readingsStar {a : Pattern} (ha : f.Steady a) {limit limit' : Nat} {s s' : Reading}
    (same : f.Same s s') (enough : s.rest.length ≤ limit) (enough' : s.rest.length ≤ limit') :
    List.Forall₂ f.Same (Pattern.readingsStar a.readings limit s)
      ((Pattern.readingsStar a.readings limit' s').filter f.within) := by
  induction limit generalizing limit' s s' with
  | zero =>
      refine ha.star_of_further same fun m m' leads isSame => ?_
      have count := leads.count
      cases limit' with
      | zero => exact .nil
      | succ limit' =>
          rw [furtherStar, furtherStar, same.count, isSame.count, if_neg (by omega)]
          exact .nil
  | succ limit ih =>
      refine ha.star_of_further same fun m m' leads isSame => ?_
      have count := leads.count
      cases limit' with
      | zero =>
          rw [furtherStar, furtherStar, if_neg (by omega)]
          exact .nil
      | succ limit' =>
          rw [furtherStar, furtherStar, same.count, isSame.count]
          split
          · exact ih isSame (by omega) (by omega)
          · exact .nil

theorem Steady.star {a : Pattern} (ha : f.Steady a) : f.Steady (.star a) := by
  intro s s' same
  refine ha.readingsStar same le_rfl ?_
  rw [same.rest, List.length_append]
  exact Nat.le_add_right _ _

/-! ### Patterns that keep their readings -/

/-- What is related to a member is related by some member of the other list. -/
theorem exists_of_mem_forall₂ {α β : Type} {R : α → β → Prop} {as : List α} {bs : List β}
    (h : List.Forall₂ R as bs) {b : β} (mem : b ∈ bs) : ∃ a ∈ as, R a b := by
  induction h with
  | nil => cases mem
  | cons holds _ ih =>
      rcases List.mem_cons.mp mem with rfl | mem
      · exact ⟨_, List.mem_cons_self, holds⟩
      · obtain ⟨a, ha, related⟩ := ih mem
        exact ⟨a, List.mem_cons_of_mem _ ha, related⟩

/-- A pattern none of whose readings in the frame gets behind the text. -/
def Stays (f : Frame) (p : Pattern) : Prop :=
  ∀ s s', f.Same s s' → ∀ m ∈ p.readings s', f.within m = true

theorem Keeps.stays {p : Pattern} (h : f.Keeps p) : f.Stays p := by
  intro s s' same m hm
  obtain ⟨reading, -, same'⟩ := exists_of_mem_forall₂ (h s s' same) hm
  exact same'.within

theorem Keeps.steady {p : Pattern} (h : f.Keeps p) : f.Steady p := by
  intro s s' same
  rw [List.filter_eq_self.mpr (h.stays s s' same)]
  exact h s s' same

/-- A steady pattern keeps its readings if none of them gets behind the text. -/
theorem Steady.keeps {p : Pattern} (h : f.Steady p) (stays : f.Stays p) : f.Keeps p := by
  intro s s' same
  rw [← List.filter_eq_self.mpr (stays s s' same)]
  exact h s s' same

theorem stays_of_leaves {p : Pattern} (leaves : p.Leaves f.tail f.tail) : f.Stays p := by
  intro s s' same m hm
  rw [within, decide_eq_true_iff]
  exact (leaves s' m hm (same.rest ▸ List.suffix_append _ _)).length_le

/-- What reads none of the characters after the text does not get behind it. -/
theorem stays_of_avoids {p : Pattern} (avoids : ∀ c ∈ f.tail, p.avoids c = true) : f.Stays p := by
  refine stays_of_leaves ?_
  cases tail : f.tail with
  | nil => exact fun _ _ _ _ => List.nil_suffix
  | cons c rest => exact Pattern.leaves_of_avoids (avoids c (tail ▸ List.mem_cons_self))

theorem keeps_empty : f.Keeps .empty := fun _ _ same => .cons same .nil

theorem keeps_char {p : Char → Bool} (apart : ∀ c ∈ f.tail, p c = false) : f.Keeps (.char p) :=
  (steady_char p).keeps (stays_of_avoids fun c hc => by rw [Pattern.avoids, apart c hc]; rfl)

theorem keeps_run {p : Char → Bool} (apart : ∀ c ∈ f.tail, p c = false) : f.Keeps (.run p) :=
  (steady_run p).keeps (stays_of_avoids fun c hc => by rw [Pattern.avoids, apart c hc]; rfl)

theorem Keeps.seq {a b : Pattern} (ha : f.Keeps a) (hb : f.Keeps b) : f.Keeps (.seq a b) :=
  fun s s' same => List.rel_flatMap (ha s s' same) hb

theorem Keeps.alt {a b : Pattern} (ha : f.Keeps a) (hb : f.Keeps b) : f.Keeps (.alt a b) :=
  fun s s' same => List.rel_append (ha s s' same) (hb s s' same)

theorem Keeps.capture {a : Pattern} (ha : f.Keeps a) : f.Keeps (.capture a) := by
  refine ha.steady.capture.keeps fun s s' same m hm => ?_
  obtain ⟨inner, mem, rfl⟩ := List.mem_map.mp hm
  exact ha.stays s s' same inner mem

/-- A repetition of what keeps to the frame keeps to it. -/
theorem Keeps.star {a : Pattern} (ha : f.Keeps a) : f.Keeps (.star a) := by
  refine ha.steady.star.keeps fun s s' same m hm => ?_
  have partner : ∃ reading, f.Same reading m := by
    refine Pattern.star_of_step (P := fun m => ∃ reading, f.Same reading m) ?_ ⟨s, same⟩ hm
    rintro m m' ⟨reading, same⟩ mem
    obtain ⟨holds', -, same'⟩ := exists_of_mem_forall₂ (ha reading m same) mem
    exact ⟨holds', same'⟩
  obtain ⟨reading, same'⟩ := partner
  exact same'.within

theorem keeps_of_test {p : Pattern} (test : Reading → Bool)
    (eq : ∀ s, p.readings s = if test s then [s] else [])
    (agree : ∀ s s', f.Same s s' → test s' = test s) : f.Keeps p := by
  intro s s' same
  rw [eq, eq, agree s s' same]
  split
  · exact .cons same .nil
  · exact .nil

theorem keeps_boundary : f.Keeps .boundary :=
  keeps_of_test Reading.atBoundary (fun _ => rfl) fun _ _ same => same.atBoundary

theorem keeps_notAfter {p : Char → Bool} (apart : p f.mark = false) : f.Keeps (.notAfter p) := by
  refine keeps_of_test (fun s => !s.prev.any p) (fun s => ?_) fun s s' same => ?_
  · rw [Pattern.readings]
    cases s.prev.any p <;> rfl
  · rw [same.any_prev apart]

theorem Keeps.notAhead {a : Pattern} (ha : f.Keeps a) : f.Keeps (.notAhead a) := by
  refine keeps_of_test (fun s => (a.readings s).isEmpty) (fun _ => rfl) fun s s' same => ?_
  have lengths := (ha s s' same).length_eq
  rw [Bool.eq_iff_iff, List.isEmpty_iff_length_eq_zero, List.isEmpty_iff_length_eq_zero, lengths]

/-! ### Patterns by their form -/

/-- Whether no character class in a pattern has anything of what stands around the text, and the
pattern does not ask where the text ends. -/
def ignoredBy (f : Frame) : Pattern → Bool
  | .empty => true
  | .char p => f.tail.all fun c => !p c
  | .run p => f.tail.all fun c => !p c
  | .lazyRun _ => false
  | .seq a b => f.ignoredBy a && f.ignoredBy b
  | .alt a b => f.ignoredBy a && f.ignoredBy b
  | .star a => f.ignoredBy a
  | .capture a => f.ignoredBy a
  | .boundary => true
  | .atEnd => false
  | .notAfter p => !p f.mark
  | .ahead _ => false
  | .notAhead a => f.ignoredBy a

/-- **A frame that a pattern ignores keeps its readings.** -/
theorem keeps_of_ignoredBy {p : Pattern} (h : f.ignoredBy p = true) : f.Keeps p := by
  have apart : ∀ {p : Char → Bool}, (f.tail.all fun c => !p c) = true → ∀ c ∈ f.tail, p c = false :=
    fun h c hc => by simpa using List.all_eq_true.mp h c hc
  induction p with
  | empty => exact keeps_empty
  | char p => exact keeps_char (apart h)
  | run p => exact keeps_run (apart h)
  | lazyRun p => cases h
  | seq a b iha ihb =>
      obtain ⟨ha, hb⟩ := Bool.and_eq_true_iff.mp h
      exact (iha ha).seq (ihb hb)
  | alt a b iha ihb =>
      obtain ⟨ha, hb⟩ := Bool.and_eq_true_iff.mp h
      exact (iha ha).alt (ihb hb)
  | star a ih => exact (ih h).star
  | capture a ih => exact (ih h).capture
  | boundary => exact keeps_boundary
  | atEnd => cases h
  | notAfter p => exact keeps_notAfter (by simpa [ignoredBy] using h)
  | ahead a => cases h
  | notAhead a ih => exact (ih h).notAhead

/-! ### Quotation marks -/

section Quoted

variable {p : Char → Bool} (quote : ∀ c, p c = true → f.out c = true)
include quote

/-- In a clean text the mark of the frame is not read. -/
theorem readings_char_of_clean {s : Reading} (clean : f.Clean s.rest) :
    (Pattern.char p).readings s = [] := by
  rw [Pattern.readings]
  cases text : s.rest with
  | nil => rfl
  | cons c rest =>
      dsimp only
      rw [if_neg]
      intro passes
      have out := clean c (text ▸ List.mem_cons_self)
      rw [quote c passes] at out
      cases out

/-- A pattern that opens with a character that the text does not have, and then needs text. -/
theorem keeps_quoted {b : Pattern} (needs : b.needsText = true) :
    f.Keeps (.seq (.char p) b) := by
  intro s s' same
  have empty : (Pattern.seq (.char p) b).readings s = [] := by
    rw [Pattern.readings, readings_char_of_clean quote same.clean, List.flatMap_nil]
  have framed : (Pattern.seq (.char p) b).readings s' = [] := by
    refine List.flatMap_eq_nil_iff.mpr fun m hm => ?_
    rw [Pattern.readings, same.rest] at hm
    cases text : s.rest with
    | cons c rest =>
        have alone := readings_char_of_clean quote same.clean
        rw [Pattern.readings, text] at alone
        rw [text, List.cons_append] at hm
        dsimp only at alone hm
        split at alone
        · cases alone
        · next no =>
            rw [if_neg no] at hm
            cases hm
    | nil =>
        rw [text, List.nil_append] at hm
        -- At the end of the text the tail may open a quotation, but then nothing is left to read.
        cases tail : f.tail with
        | nil =>
            rw [tail] at hm
            cases hm
        | cons c rest =>
            have short := f.short
            rw [tail, List.length_cons] at short
            obtain rfl : rest = [] := List.eq_nil_of_length_eq_zero (by omega)
            rw [tail] at hm
            dsimp only at hm
            split at hm
            · rw [List.mem_singleton] at hm
              subst hm
              exact Pattern.readings_eq_nil_of_needsText needs rfl
            · cases hm
  rw [empty, framed]
  exact .nil

/-- An optional mark in front does not lead out of the frame. -/
theorem keeps_optional {b : Pattern} (needs : b.needsText = true) (hb : f.Keeps b) :
    f.Keeps (.seq (Pattern.opt (.char p)) b) := by
  have eq : ∀ s, (Pattern.seq (Pattern.opt (.char p)) b).readings s =
      (Pattern.alt (.seq (.char p) b) b).readings s := by
    intro s
    have either : (Pattern.opt (.char p)).readings s = (Pattern.char p).readings s ++ [s] := rfl
    rw [Pattern.readings, either, List.flatMap_append, List.flatMap_singleton]
    rfl
  intro s s' same
  rw [eq, eq]
  exact (keeps_quoted quote needs).alt hb s s' same

end Quoted

/-! ### Matches in a frame -/

theorem Same.matchOf {s s' : Reading} (same : f.Same s s') :
    Pattern.matchOf s' = (Pattern.matchOf s).before f.tail := by
  rw [Pattern.matchOf, Pattern.matchOf, Pattern.Match.before, same.count, same.captured, same.rest]
  cases captured : s.captured with
  | none => rfl
  | some stretch =>
      have inside := same.inside stretch captured
      simp only [Option.map_some, Option.getD_some, List.take_append_of_le_length inside]

section Matches

variable {p : Pattern} (keeps : f.Keeps p)
include keeps

/-- A match at a place is the same in a frame. -/
theorem Keeps.matchAt? {prev prev' : Option Char} {t : Text} (clean : f.Clean t)
    (front : prev' = prev ∨ prev = none ∧ prev' = some f.mark) :
    p.matchAt? prev' (t ++ f.tail) = (p.matchAt? prev t).map (·.before f.tail) := by
  have same : f.Same ⟨prev, t, 0, none⟩ ⟨prev', t ++ f.tail, 0, none⟩ :=
    ⟨front, rfl, rfl, rfl, by simp, clean⟩
  have readings := keeps _ _ same
  rw [Pattern.matchAt?_eq_head?, Pattern.matchAt?_eq_head?]
  generalize p.readings ⟨prev, t, 0, none⟩ = outs at readings ⊢
  generalize p.readings ⟨prev', t ++ f.tail, 0, none⟩ = framed at readings ⊢
  cases readings with
  | nil => rfl
  | cons first rest => exact congrArg some first.matchOf

/-- **In a frame that it ignores a pattern finds the same matches.** -/
theorem Keeps.findAllFrom (needs : p.needsText = true) {skip : Nat} {prev prev' : Option Char}
    {t : Text} (clean : f.Clean t) (front : prev' = prev ∨ prev = none ∧ prev' = some f.mark)
    (enough : skip ≤ t.length) :
    p.findAllFrom skip prev' (t ++ f.tail) = (p.findAllFrom skip prev t).map (·.before f.tail) := by
  induction t generalizing skip prev prev' with
  | nil =>
      obtain rfl : skip = 0 := Nat.le_zero.mp enough
      have matchAt_eq := keeps.matchAt? clean front
      rw [Pattern.findAllFrom_nil needs, List.map_nil, List.nil_append]
      rw [Pattern.matchAt?_nil needs, List.nil_append] at matchAt_eq
      cases tail : f.tail with
      | nil => exact Pattern.findAllFrom_nil needs ..
      | cons c rest =>
          have short := f.short
          rw [tail, List.length_cons] at short
          obtain rfl : rest = [] := List.eq_nil_of_length_eq_zero (by omega)
          rw [tail] at matchAt_eq
          rw [Pattern.findAllFrom, matchAt_eq]
          exact Pattern.findAllFrom_nil needs ..
  | cons c t ih =>
      have rest : ∀ skip, skip ≤ t.length → p.findAllFrom skip (some c) (t ++ f.tail) =
          (p.findAllFrom skip (some c) t).map (·.before f.tail) := fun _ enough =>
        ih (clean.suffix (List.suffix_cons c t)) (.inl rfl) enough
      cases skip with
      | succ skip => exact rest skip (Nat.le_of_succ_le_succ enough)
      | zero =>
          have eq := keeps.matchAt? clean front
          rw [List.cons_append] at eq ⊢
          rw [Pattern.findAllFrom, Pattern.findAllFrom, eq]
          cases found : p.matchAt? prev (c :: t) with
          | none => exact rest 0 (Nat.zero_le _)
          | some m =>
              have length := Pattern.length_le_of_matchAt? found
              rw [List.length_cons] at length
              have more := rest (m.length - 1) (by omega)
              rw [Option.map_some, List.map_cons, ← more]
              rfl

/-- **In a frame that it ignores a pattern leaves the same pieces**, with what stands after the text
at the end of the last one. -/
theorem Keeps.exists_piecesFrom (needs : p.needsText = true) {skip : Nat} {prev prev' : Option Char}
    {t : Text} (clean : f.Clean t) (front : prev' = prev ∨ prev = none ∧ prev' = some f.mark)
    (enough : skip ≤ t.length) : ∃ init last,
      p.piecesFrom skip prev t = init ++ [last] ∧
      p.piecesFrom skip prev' (t ++ f.tail) = init ++ [last ++ f.tail] ∧
      last <:+ t ∧ (init = [] → last = t.drop skip) := by
  -- The invariant is that both sides agree but for the last piece, which has the tail behind it.
  induction t generalizing skip prev prev' with
  | nil =>
      obtain rfl : skip = 0 := Nat.le_zero.mp enough
      refine ⟨[], [], rfl, ?_, List.suffix_refl _, fun _ => rfl⟩
      have matchAt_eq := keeps.matchAt? clean front
      rw [Pattern.matchAt?_nil needs, List.nil_append] at matchAt_eq
      cases tail : f.tail with
      | nil => rfl
      | cons c rest =>
          have short := f.short
          rw [tail, List.length_cons] at short
          obtain rfl : rest = [] := List.eq_nil_of_length_eq_zero (by omega)
          rw [tail] at matchAt_eq
          rw [List.nil_append, Pattern.piecesFrom, matchAt_eq]
          rfl
  | cons c t ih =>
      have clean' : f.Clean t := clean.suffix (List.suffix_cons c t)
      have later : ∀ {last}, last <:+ t → last <:+ c :: t := fun h => h.trans (List.suffix_cons c t)
      cases skip with
      | succ skip =>
          obtain ⟨init, last, piecesFrom_eq, framed, suffix_, whole⟩ := @ih skip (some c) (some c)
            clean' (.inl rfl) (Nat.le_of_succ_le_succ enough)
          exact ⟨init, last, piecesFrom_eq, framed, later suffix_, whole⟩
      | zero =>
          have matched := keeps.matchAt? clean front
          rw [List.cons_append] at matched ⊢
          rw [Pattern.piecesFrom, Pattern.piecesFrom, matched]
          cases found : p.matchAt? prev (c :: t) with
          | some m =>
              have length := Pattern.length_le_of_matchAt? found
              rw [List.length_cons] at length
              obtain ⟨init, last, eq, framed, suffix_, -⟩ := @ih (m.length - 1)
                (some c) (some c) clean' (.inl rfl) (by omega)
              refine ⟨[] :: init, last, congrArg _ eq, congrArg _ framed, later suffix_, ?_⟩
              exact fun none => absurd none (List.cons_ne_nil _ _)
          | none =>
              obtain ⟨init, last, joined, framed, suffix_, whole⟩ := @ih 0 (some c) (some c)
                clean' (.inl rfl) (Nat.zero_le _)
              rw [Option.map_none]
              dsimp only
              rw [joined, framed]
              cases init with
              | nil =>
                  refine ⟨[], c :: last, rfl, rfl, ?_, fun _ => ?_⟩
                  · rw [whole rfl]
                    exact List.suffix_refl _
                  · rw [whole rfl]
                    rfl
              | cons piece init =>
                  exact ⟨(c :: piece) :: init, last, rfl, rfl, later suffix_,
                    fun none => absurd none (List.cons_ne_nil _ _)⟩

end Matches

end Frame

end Notebase
