import Notebase.Proofs.Text.Frame
import Notebase.Proofs.Text.Letters
import Notebase.Proofs.Text.Trim

/-!
Blanks around a text. A pattern that neither starts nor ends with a blank finds in a padded text
what it finds in the text alone (`Padding.keeps_of_ignores`), and what no single blank at an end
changes, trimming does not change (`Padding.eq_trim`).
-/

namespace Notebase

/-! ### Blanks -/

def blankChars : List Char := blankRanges.flatMap fun (first, last) =>
  (List.range' first (last + 1 - first)).map Char.ofNat

theorem mem_blankChars {c : Char} (blank : isBlank c = true) : c ∈ blankChars := by
  obtain ⟨range, mem, low, high⟩ := exists_of_has blank
  refine List.mem_flatMap.mpr ⟨range, mem, List.mem_map.mpr ⟨c.toNat, ?_, Char.ofNat_toNat c⟩⟩
  rw [List.mem_range'_1]
  omega

/-- No word character is blank. -/
theorem not_isWordChar_of_isBlank {c : Char} (blank : isBlank c = true) : isWordChar c = false := by
  rw [Bool.eq_false_iff]
  intro word
  rw [not_isBlank_of_isWordChar word] at blank
  cases blank

/-! ### Patterns and what stands around a text -/

namespace Pattern

/-- Whether a pattern is seen not to read `c` as the last character of a text. -/
def stopsAt (c : Char) : Pattern → Bool
  | .seq a b => b.stopsAt c && (a.stopsAt c || b.needsText)
  | .alt a b => a.stopsAt c && b.stopsAt c
  | .capture a => a.stopsAt c
  | p => p.avoids c

/-- What needs text and does not read the last character does not follow what reads it. -/
theorem leaves_seq_of_needsText {c : Char} {a b : Pattern} (needs : b.needsText = true)
    (leaves : Leaves [c] [c] b) : Leaves [c] [c] (.seq a b) := by
  intro s s' mem tail
  obtain ⟨mid, first, second⟩ := List.mem_flatMap.mp mem
  refine leaves mid s' second ?_
  rcases List.suffix_or_suffix_of_suffix tail (leads_of_mem_readings first).rest with within | later
  · exact within
  · rcases List.suffix_cons_iff.mp later with eq | none
    · exact eq ▸ List.suffix_refl _
    · rw [readings_eq_nil_of_needsText needs (List.suffix_nil.mp none)] at second
      cases second

/-- A pattern that stops at a character leaves it. -/
theorem leaves_of_stopsAt {c : Char} {p : Pattern} (h : p.stopsAt c = true) :
    Leaves [c] [c] p := by
  induction p with
  | seq a b iha ihb =>
      rw [stopsAt, Bool.and_eq_true, Bool.or_eq_true] at h
      obtain ⟨last, first | needs⟩ := h
      · exact (iha first).seq (ihb last)
      · exact leaves_seq_of_needsText needs (ihb last)
  | alt a b iha ihb =>
      rw [stopsAt, Bool.and_eq_true] at h
      exact (iha h.1).alt (ihb h.2)
  | capture a ih => exact (ih h).capture
  | empty => exact leaves_of_avoids h
  | char p => exact leaves_of_avoids h
  | run p => exact leaves_of_avoids h
  | lazyRun p => exact leaves_of_avoids h
  | star a => exact leaves_of_avoids h
  | boundary => exact leaves_of_avoids h
  | atEnd => exact leaves_of_avoids h
  | notAfter p => exact leaves_of_avoids h
  | ahead a => exact leaves_of_avoids h
  | notAhead a => exact leaves_of_avoids h

/-- Whether a pattern looks at none of some characters without reading it, and does not ask where
the text ends. -/
def overlooks (cs : List Char) : Pattern → Bool
  | .seq a b => a.overlooks cs && b.overlooks cs
  | .alt a b => a.overlooks cs && b.overlooks cs
  | .star a => a.overlooks cs
  | .capture a => a.overlooks cs
  | .notAfter p => cs.all fun c => !p c
  | .notAhead a => a.overlooks cs && cs.all a.avoids
  | .atEnd => false
  | .ahead _ => false
  | .empty => true
  | .char _ => true
  | .run _ => true
  | .lazyRun _ => true
  | .boundary => true

/-- A pattern that overlooks the characters of a frame is steady in it. -/
theorem steady_of_overlooks {f : Frame} {cs : List Char} (mark : f.mark ∈ cs) (tail : f.tail ⊆ cs)
    {p : Pattern} (h : p.overlooks cs = true) : f.Steady p := by
  induction p with
  | empty => exact Frame.keeps_empty.steady
  | char p => exact Frame.steady_char p
  | run p => exact Frame.steady_run p
  | lazyRun p => exact Frame.steady_lazyRun p
  | seq a b iha ihb =>
      obtain ⟨ha, hb⟩ := Bool.and_eq_true_iff.mp h
      exact (iha ha).seq (ihb hb)
  | alt a b iha ihb =>
      obtain ⟨ha, hb⟩ := Bool.and_eq_true_iff.mp h
      exact (iha ha).alt (ihb hb)
  | star a ih => exact (ih h).star
  | capture a ih => exact (ih h).capture
  | boundary => exact Frame.keeps_boundary.steady
  | atEnd => cases h
  | notAfter p =>
      have apart : p f.mark = false := by simpa using List.all_eq_true.mp h _ mark
      exact (Frame.keeps_notAfter apart).steady
  | ahead a => cases h
  | notAhead a ih =>
      obtain ⟨passes, avoids⟩ := Bool.and_eq_true_iff.mp h
      have stays : f.Stays a := Frame.stays_of_avoids fun c hc =>
        List.all_eq_true.mp avoids c (tail hc)
      exact ((ih passes).keeps stays).notAhead.steady

/-- Whether a pattern is seen to have nothing to do with some characters at the ends of a text. -/
def ignores (cs : List Char) (p : Pattern) : Bool := p.overlooks cs && cs.all fun c => p.stopsAt c

end Pattern

/-- Blanks around a text: one before it, and at most one after it. -/
structure Padding where
  before : Char
  after : Option Char
  blank_before : isBlank before = true
  blank_after : ∀ c ∈ after, isBlank c = true

namespace Padding

def frame (p : Padding) : Frame where
  mark := p.before
  tail := p.after.toList
  out _ := false
  mark_apart := not_isWordChar_of_isBlank p.blank_before
  tail_apart c hc := not_isWordChar_of_isBlank (p.blank_after c (Option.mem_toList.mp hc))
  short := by cases p.after <;> simp

def around (p : Padding) (t : Text) : Text := [p.before] ++ (t ++ p.frame.tail)

theorem clean (p : Padding) (t : Text) : p.frame.Clean t := fun _ _ => rfl

theorem mark_mem (p : Padding) : p.frame.mark ∈ blankChars := mem_blankChars p.blank_before

theorem blank_tail (p : Padding) : ∀ c ∈ p.frame.tail, isBlank c = true := fun c hc =>
  p.blank_after c (Option.mem_toList.mp hc)

theorem tail_subset (p : Padding) : p.frame.tail ⊆ blankChars := fun c hc =>
  mem_blankChars (p.blank_tail c hc)

/-- **What ignores blanks at the ends of a text** is read in a padded text as in the text alone. -/
theorem keeps_of_ignores (p : Padding) {q : Pattern} (h : q.ignores blankChars = true) :
    p.frame.Keeps q := by
  obtain ⟨overlooks, stops⟩ := Bool.and_eq_true_iff.mp h
  refine (Pattern.steady_of_overlooks p.mark_mem p.tail_subset overlooks).keeps
    (Frame.stays_of_leaves ?_)
  have tail : p.frame.tail = p.after.toList := rfl
  cases after : p.after with
  | none =>
      rw [tail, after]
      exact fun _ _ _ _ => List.nil_suffix
  | some c =>
      rw [tail, after]
      exact Pattern.leaves_of_stopsAt
        (List.all_eq_true.mp stops c (mem_blankChars (p.blank_after c after)))

/-! ### Scans of a padded text -/

/-- The last part is joined by one more separator. -/
theorem intercalate_concat {α : Type} (sep : List α) {init : List (List α)} (ne : init ≠ [])
    (last : List α) :
    sep.intercalate (init ++ [last]) = sep.intercalate init ++ (sep ++ last) := by
  induction init with
  | nil => exact absurd rfl ne
  | cons piece init ih =>
      rw [List.cons_append, List.intercalate_cons_of_ne_nil (by simp)]
      by_cases none : init = []
      · rw [none, List.nil_append, List.intercalate_singleton, List.intercalate_singleton,
          List.append_assoc]
      · rw [ih none, List.intercalate_cons_of_ne_nil none, List.append_assoc, List.append_assoc,
          List.append_assoc]

theorem intercalate_append {α : Type} (sep : List α) (init : List (List α)) (last tail : List α) :
    sep.intercalate (init ++ [last ++ tail]) = sep.intercalate (init ++ [last]) ++ tail := by
  by_cases none : init = []
  · rw [none, List.nil_append, List.nil_append, List.intercalate_singleton,
      List.intercalate_singleton]
  · rw [intercalate_concat sep none, intercalate_concat sep none, List.append_assoc,
      List.append_assoc]

section Scans

variable {q : Pattern}

theorem intercalate_piecesFrom_cons (new : Text) {prev : Option Char} {c : Char} {t : Text}
    (none : q.matchAt? prev (c :: t) = none) :
    new.intercalate (q.piecesFrom 0 prev (c :: t)) =
      c :: new.intercalate (q.piecesFrom 0 (some c) t) := by
  rw [Pattern.piecesFrom, none]
  cases q.piecesFrom 0 (some c) t with
  | nil => exact List.intercalate_singleton
  | cons piece more => exact List.intercalate_cons_cons_left

/-- Rewriting leaves blanks at the ends of a text. -/
theorem replaceAll_around (p : Padding) (ignores : q.ignores blankChars = true)
    (needs : q.needsText = true) (new : Text) {t : Text}
    (skips : q.matchAt? none (p.around t) = none) :
    q.replaceAll new (p.around t) = p.around (q.replaceAll new t) := by
  obtain ⟨init, last, piecesFrom_eq, padded, -⟩ :=
    (p.keeps_of_ignores ignores).exists_piecesFrom needs
    (p.clean t) (.inr ⟨rfl, rfl⟩) (Nat.zero_le t.length)
  have pieces_eq : q.pieces t = init ++ [last] := piecesFrom_eq
  calc q.replaceAll new (p.around t)
      = p.before :: new.intercalate (q.piecesFrom 0 (some p.before) (t ++ p.frame.tail)) :=
        intercalate_piecesFrom_cons new skips
    _ = p.before :: new.intercalate (init ++ [last ++ p.frame.tail]) :=
        congrArg (fun pieces => p.before :: new.intercalate pieces) padded
    _ = p.around (q.replaceAll new t) := by
        rw [intercalate_append, Pattern.replaceAll, pieces_eq]
        rfl

/-- Rewriting with another character puts no mark at the end of a text. -/
theorem getLast?_replaceAll {mark c : Char} (ignores : q.ignores blankChars = true)
    (needs : q.needsText = true) (ne : c ≠ mark) {t : Text} (other : t.getLast? ≠ some mark) :
    (q.replaceAll [c] t).getLast? ≠ some mark := by
  have space : Padding := ⟨' ', none, by decide, by simp⟩
  obtain ⟨init, last, piecesFrom_eq, -, ⟨front, text⟩, whole⟩ :=
    (space.keeps_of_ignores ignores).exists_piecesFrom needs (space.clean t) (.inl rfl)
      (Nat.zero_le t.length)
  have pieces_eq : q.pieces t = init ++ [last] := piecesFrom_eq
  rw [Pattern.replaceAll, pieces_eq]
  by_cases first : init = []
  · rw [first, List.nil_append, List.intercalate_singleton, whole first]
    exact other
  · rw [intercalate_concat [c] first, List.singleton_append,
      List.getLast?_append_of_ne_nil _ (List.cons_ne_nil c last)]
    by_cases short : last = []
    · rw [short, List.getLast?_singleton]
      exact fun eq => ne (Option.some_inj.mp eq)
    · rw [List.getLast?_cons_of_ne_nil short, ← List.getLast?_append_of_ne_nil front short, text]
      exact other

/-- A pattern that stands or does not stand in front of the end of a text, whatever comes after it,
leaves the same text before it, but for some of what comes after it. -/
theorem exists_before_append {tail : Text} {prev : Option Char} {t : Text}
    (agrees : ∀ prev c u, c :: u <:+ t →
      (q.matchAt? prev (c :: u ++ tail)).isSome = (q.matchAt? prev (c :: u)).isSome) :
    ∃ w, w <+: tail ∧ ((q.findFrom? prev (t ++ tail)).map Prod.fst).getD (t ++ tail) =
      ((q.findFrom? prev t).map Prod.fst).getD t ++ w := by
  induction t generalizing prev with
  | nil =>
      have alone : ((q.findFrom? prev []).map Prod.fst).getD [] = [] := by
        rw [Pattern.findFrom?]
        cases q.matchAt? prev [] <;> rfl
      -- Behind the text only the tail is left, and what is before a match in it is a part of it.
      refine ⟨((q.findFrom? prev tail).map Prod.fst).getD tail, ?_, by rw [alone]; rfl⟩
      cases found : q.findFrom? prev tail with
      | none => exact List.prefix_refl tail
      | some found' =>
          obtain ⟨rest, text, -⟩ := Pattern.matchAt?_of_findFrom? found
          exact ⟨rest, text.symm⟩
  | cons c t ih =>
      have here := agrees prev c t (List.suffix_refl _)
      obtain ⟨w, part, later⟩ := @ih (some c) fun prev d u suffix_ =>
        agrees prev d u (suffix_.trans (List.suffix_cons c t))
      rw [List.cons_append] at here ⊢
      rw [Pattern.findFrom?, Pattern.findFrom?]
      cases match_eq : q.matchAt? prev (c :: t) with
      | some m =>
          rw [match_eq, Option.isSome_some] at here
          obtain ⟨m', framed⟩ := Option.isSome_iff_exists.mp here
          rw [framed]
          exact ⟨[], List.nil_prefix, rfl⟩
      | none =>
          rw [match_eq, Option.isSome_none, Option.isSome_eq_false_iff,
            Option.isNone_iff_eq_none] at here
          rw [here]
          refine ⟨w, part, ?_⟩
          have map_cons : ∀ (f : Text × Pattern.Match → Text × Pattern.Match),
              (∀ x, (f x).1 = c :: x.1) → ∀ (o : Option (Text × Pattern.Match)) (u : Text),
                ((o.map f).map Prod.fst).getD (c :: u) = c :: (o.map Prod.fst).getD u := by
            intro f fst_eq o u
            cases o with
            | none => rfl
            | some x => exact fst_eq x
          rw [map_cons _ fun _ => rfl, map_cons _ fun _ => rfl, later, List.cons_append]

end Scans

/-! ### Trimming -/

section Trim

variable {α : Type} {f : Text → α} {ok : Text → Prop}
  (padded : ∀ (p : Padding) (t : Text), (p.after ≠ none → ok t) → f (p.around t) = f t)
include padded

/-- Blanks in front do not change what is read. -/
theorem eq_of_front {front : Text} (blank : ∀ c ∈ front, isBlank c = true) (t : Text) :
    f (front ++ t) = f t := by
  induction front with
  | nil => rfl
  | cons c front ih =>
      have step := padded ⟨c, none, blank c List.mem_cons_self, by simp⟩ (front ++ t) (by simp)
      have text : around ⟨c, none, blank c List.mem_cons_self, by simp⟩ (front ++ t) =
          c :: front ++ t := by
        simp [around, frame]
      rw [text] at step
      exact step.trans (ih fun d hd => blank d (List.mem_cons_of_mem c hd))

/-- Nor does one blank behind. -/
theorem eq_of_snoc {b : Char} (blank : isBlank b = true) {t : Text} (ok_ : ok t) :
    f (t ++ [b]) = f t := by
  have space : isBlank ' ' = true := by decide
  have alone := padded ⟨' ', none, space, by simp⟩ (t ++ [b]) (by simp)
  have both := padded ⟨' ', some b, space, by simpa using blank⟩ t fun _ => ok_
  have text : around ⟨' ', none, space, by simp⟩ (t ++ [b]) =
      around ⟨' ', some b, space, by simpa using blank⟩ t := by
    simp [around, frame]
  rw [← alone, text, both]

variable (loose : ∀ (t : Text) (b : Char), isBlank b = true → ok (t ++ [b]))
include loose

/-- Nor do any blanks behind. -/
theorem eq_of_back {t back : Text} (blank : ∀ c ∈ back, isBlank c = true)
    (follows : back ≠ [] → ok t) : f (t ++ back) = f t := by
  induction back using List.reverseRecOn with
  | nil => rw [List.append_nil]
  | append_singleton back b ih =>
      have blank' : ∀ c ∈ back, isBlank c = true := fun c hc =>
        blank c (List.mem_append_left _ hc)
      have last : isBlank b = true := blank b (List.mem_append_right _ List.mem_cons_self)
      have holds : ok t := follows (by simp)
      have ok_ : ok (t ++ back) := by
        rcases List.eq_nil_or_concat back with rfl | ⟨front, c, rfl⟩
        · rwa [List.append_nil]
        · rw [List.concat_eq_append, ← List.append_assoc]
          exact loose _ c (blank' c (by simp))
      rw [← List.append_assoc, eq_of_snoc padded last ok_]
      exact ih blank' fun _ => holds

/-- **What one blank at an end does not change**, trimming does not change. -/
theorem eq_trim {t : Text} (follows : ok t → ok t.trim) : f t = f t.trim := by
  obtain ⟨front, back, text, blank, blank'⟩ := Text.exists_around t
  have still : back ≠ [] → ok t.trim := by
    intro ne
    obtain ⟨back', b, rfl⟩ := (List.eq_nil_or_concat back).resolve_left ne
    refine follows ?_
    rw [text, List.concat_eq_append, ← List.append_assoc, ← List.append_assoc]
    exact loose _ b (blank' b (by simp))
  calc f t = f (front ++ (t.trim ++ back)) := congrArg f text
    _ = f (t.trim ++ back) := eq_of_front padded blank _
    _ = f t.trim := eq_of_back padded loose blank' still

end Trim

theorem trim_eq_of_around {α : Type} {f : Text → α}
    (padded : ∀ (p : Padding) (t : Text), f (p.around t) = f t) (t : Text) : f t.trim = f t :=
  (@eq_trim α f (fun _ => True) (fun p t _ => padded p t) (fun _ _ _ => trivial) t id).symm

end Padding

end Notebase
