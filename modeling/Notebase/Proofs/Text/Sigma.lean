import Mathlib.Algebra.Order.BigOperators.Group.List
import Mathlib.Algebra.Order.Group.Nat
import Notebase.Text.Case

/-!
The lower case of a part of a text. A capital sigma is lowered by what stands around it, and every
other letter by itself, so the lower case of a part is found in the lower case of the whole unless a
sigma of the part has its shape from outside (`lower_infix_iff`). Only a sigma at an end of the part
can have that: two letters around it inside the part settle its shape.
-/

namespace Notebase.Text

/-! ### The letters around a sigma -/

def isPassedOver (c : Char) : Bool := Ranges.has c.toNat sigmaIgnoredRanges

/-- Whether a character next to a sigma counts as a letter of its word. -/
def isSigmaCased (c : Char) : Bool := Ranges.has c.toNat sigmaCasedRanges

def nearest (t : Text) : Option Char := t.find? (!isPassedOver ·)

/-- Whether the first character that is not passed over is a letter of a word. -/
def meetsLetter (t : Text) : Bool := (nearest t).any isSigmaCased

theorem nearest_append (t u : Text) : nearest (t ++ u) = (nearest t).or (nearest u) :=
  List.find?_append

/-- The nearest letter is the first character that is not passed over. -/
theorem nearest_eq_head? (t : Text) : nearest t = (t.dropWhile isPassedOver).head? := by
  induction t with
  | nil => rfl
  | cons c t ih =>
      cases passed : isPassedOver c with
      | true =>
          rw [List.dropWhile_cons_of_pos passed, ← ih]
          exact List.find?_cons_of_neg (by simp [passed])
      | false =>
          rw [List.dropWhile_cons_of_neg (by simp [passed])]
          exact List.find?_cons_of_pos (by simp [passed])

/-- A sigma ends a word if a letter comes before it and none after it. -/
theorem endsWordAt_eq (backwards forwards : Text) :
    endsWordAt backwards forwards = (meetsLetter backwards && !meetsLetter forwards) := by
  have passed : (fun c : Char => Ranges.has c.toNat sigmaIgnoredRanges) = isPassedOver := rfl
  rw [meetsLetter, meetsLetter, nearest_eq_head?, nearest_eq_head?, endsWordAt]
  simp only [passed]
  cases backwards.dropWhile isPassedOver with
  | nil => rfl
  | cons b _ =>
      cases forwards.dropWhile isPassedOver with
      | nil => rfl
      | cons f _ => rfl

/-- A text in which no letter is met leaves the search to what follows. -/
theorem meetsLetter_append {t u : Text} (none : meetsLetter u = false) :
    meetsLetter (t ++ u) = meetsLetter t := by
  rw [meetsLetter] at none
  rw [meetsLetter, meetsLetter, nearest_append]
  cases nearest t with
  | none => exact none
  | some c => rfl

theorem meetsLetter_of_some {t : Text} {c : Char} (found : nearest t = some c) :
    meetsLetter t = isSigmaCased c := by
  rw [meetsLetter, found, Option.any_some]

theorem meetsLetter_of_none {t : Text} (passed : nearest t = none) : meetsLetter t = false := by
  rw [meetsLetter, passed, Option.any_none]

theorem meetsLetter_append_of_some {t : Text} {c : Char} (found : nearest t = some c) (u : Text) :
    meetsLetter (t ++ u) = meetsLetter t := by
  rw [meetsLetter, meetsLetter, nearest_append, found, Option.some_or]

theorem meetsLetter_append_of_none {t : Text} (passed : nearest t = none) (u : Text) :
    meetsLetter (t ++ u) = meetsLetter u := by
  rw [meetsLetter, meetsLetter, nearest_append, passed, Option.none_or]

/-! ### Places in a text -/

/-- A letter of a text with the characters before it, which are listed backwards, and after it. -/
structure Place where
  backwards : Text
  letter : Char
  forwards : Text

/-- The places of a text that follows the given characters, which are listed backwards. -/
def placesAfter (backwards : Text) : Text → List Place
  | [] => []
  | c :: t => ⟨backwards, c, t⟩ :: placesAfter (c :: backwards) t

def places (t : Text) : List Place := placesAfter [] t

/-- The lower case of the letter at a place, if the text stands between these. -/
def Place.lowered (backwards forwards : Text) (p : Place) : Text :=
  if p.letter = 'Σ' then
    [if endsWordAt (p.backwards ++ backwards) (p.forwards ++ forwards) then 'ς' else 'σ']
  else if p.letter = 'İ' then ['i', '\u0307']
  else [lowerChar p.letter]

def lowerBetween (backwards forwards t : Text) : Text :=
  (places t).flatMap (Place.lowered backwards forwards)

/-- **A text is lowered in its parts**, each of them where it stands. -/
theorem lowerAfter_append (backwards t forwards : Text) :
    lowerAfter backwards (t ++ forwards) =
      lowerBetween backwards forwards t ++ lowerAfter (t.reverse ++ backwards) forwards := by
  have onto : ∀ inner : Text, lowerAfter (inner ++ backwards) (t ++ forwards) =
      (placesAfter inner t).flatMap (Place.lowered backwards forwards) ++
        lowerAfter (t.reverse ++ (inner ++ backwards)) forwards := by
    induction t with
    | nil => exact fun inner => rfl
    | cons c t ih =>
        intro inner
        have rest := ih (c :: inner)
        rw [List.cons_append] at rest
        rw [List.cons_append, lowerAfter, rest, placesAfter, List.flatMap_cons, List.append_assoc,
          List.reverse_cons, List.append_assoc]
        rfl
  exact onto []

theorem lower_eq_lowerBetween (t : Text) : t.lower = lowerBetween [] [] t := by
  have whole := lowerAfter_append [] t []
  rwa [List.append_nil, show lowerAfter (t.reverse ++ []) [] = [] from rfl, List.append_nil] at whole

/-- In the lower case of a text stands that of each part. -/
theorem lowerBetween_infix (before t after : Text) :
    lowerBetween before.reverse after t <:+: (before ++ t ++ after).lower := by
  refine ⟨lowerBetween [] (t ++ after) before,
    lowerAfter (t.reverse ++ before.reverse) after, ?_⟩
  rw [lower, List.append_assoc before, lowerAfter_append [] before, List.append_nil,
    lowerAfter_append, List.append_assoc]

/-! ### Sigmas that are settled -/

/-- Whether a sigma between these texts has one shape, whatever stands around both. -/
def settles (backwards forwards : Text) : Bool :=
  match nearest backwards, nearest forwards with
  | some _, some _ => true
  | some b, none => !isSigmaCased b
  | none, some f => isSigmaCased f
  | none, none => false

def isSettled (t : Text) : Bool :=
  (places t).all fun p => p.letter != 'Σ' || settles p.backwards p.forwards

/-- No letter stands next to a text between these, so that none makes it part of a longer word. -/
def Apart (before after : Text) : Prop :=
  meetsLetter before.reverse = false ∧ meetsLetter after = false

instance (before after : Text) : Decidable (Apart before after) :=
  inferInstanceAs (Decidable (_ ∧ _))

/-- What settles whether a word ends is not changed by text further away. -/
theorem endsWordAt_of_settles {backwards forwards : Text} (settled : settles backwards forwards = true)
    (backwards' forwards' : Text) : endsWordAt (backwards ++ backwards') (forwards ++ forwards') =
      endsWordAt backwards forwards := by
  rw [endsWordAt_eq, endsWordAt_eq]
  rw [settles] at settled
  cases before : nearest backwards with
  | some b =>
      rw [meetsLetter_append_of_some before]
      cases after : nearest forwards with
      | some f => rw [meetsLetter_append_of_some after]
      | none =>
          have plain : isSigmaCased b = false := by simpa [before, after] using settled
          rw [meetsLetter_of_some before, plain, Bool.false_and, Bool.false_and]
  | none =>
      cases after : nearest forwards with
      | some f =>
          have cased : isSigmaCased f = true := by simpa [before, after] using settled
          rw [meetsLetter_append_of_some after, meetsLetter_of_some after, cased, Bool.not_true,
            Bool.and_false, Bool.and_false]
      | none => simp [before, after] at settled

/-- Where the sigmas of a text keep their shapes, the whole text keeps its lower case. -/
theorem lowerBetween_congr {t backwards forwards : Text}
    (same : ∀ p ∈ places t, p.letter = 'Σ' →
      endsWordAt (p.backwards ++ backwards) (p.forwards ++ forwards) =
        endsWordAt p.backwards p.forwards) :
    lowerBetween backwards forwards t = t.lower := by
  rw [lower_eq_lowerBetween]
  refine List.flatMap_congr fun p hp => ?_
  rw [Place.lowered, Place.lowered]
  split
  · next sigma => rw [same p hp sigma, List.append_nil, List.append_nil]
  · rfl

/-- **A text without open sigmas** is lowered alike wherever it stands. -/
theorem lower_infix_of_isSettled {t : Text} (settled : t.isSettled = true) (before after : Text) :
    t.lower <:+: (before ++ t ++ after).lower := by
  have same : lowerBetween before.reverse after t = t.lower := by
    refine lowerBetween_congr fun p hp sigma => ?_
    have letter := List.all_eq_true.mp settled p hp
    exact endsWordAt_of_settles (by simpa [sigma] using letter) _ _
  exact same ▸ lowerBetween_infix before t after

/-- **A text that stands apart** is lowered there as it is alone. -/
theorem lower_infix_of_apart {before after : Text} (apart : Apart before after) (t : Text) :
    t.lower <:+: (before ++ t ++ after).lower := by
  have same : lowerBetween before.reverse after t = t.lower := by
    refine lowerBetween_congr fun p _ _ => ?_
    rw [endsWordAt_eq, endsWordAt_eq, meetsLetter_append apart.1, meetsLetter_append apart.2]
  exact same ▸ lowerBetween_infix before t after

/-! ### Sigmas that are left open -/

theorem count_lowered_sigma {p : Place} (sigma : p.letter = 'Σ') (d : Char)
    (backwards forwards : Text) : (p.lowered backwards forwards).count d =
      if (if endsWordAt (p.backwards ++ backwards) (p.forwards ++ forwards) then 'ς' else 'σ') = d
        then 1 else 0 := by
  rw [Place.lowered, if_pos sigma, List.count_singleton]
  simp only [beq_iff_eq]

/-- A context in which some sigmas of a text take this shape no more, and none takes it newly, has
fewer of them. -/
theorem count_lowerBetween_lt {t backwards forwards : Text} {d : Char}
    (less : ∀ p ∈ places t, p.letter = 'Σ' →
      (p.lowered backwards forwards).count d ≤ (p.lowered [] []).count d)
    (lost : ∃ p ∈ places t, (p.lowered backwards forwards).count d < (p.lowered [] []).count d) :
    (lowerBetween backwards forwards t).count d < t.lower.count d := by
  rw [lower_eq_lowerBetween, lowerBetween, lowerBetween, List.count_flatMap, List.count_flatMap]
  refine List.sum_lt_sum _ _ (fun p hp => ?_) lost
  by_cases sigma : p.letter = 'Σ'
  · exact less p hp sigma
  · simp [Place.lowered, sigma]

/-- A letter after an open sigma at the end of a text takes its final shape. -/
theorem not_infix_of_open_end {t : Text} {p : Place} (mem : p ∈ places t) (sigma : p.letter = 'Σ')
    (letter : meetsLetter p.backwards = true) (passed : nearest p.forwards = none) :
    ¬ t.lower <:+: (t ++ ['A']).lower := by
  have cased : meetsLetter ['A'] = true := by decide
  have whole : (t ++ ['A']).lower = lowerBetween [] ['A'] t ++ ['a'] := by
    rw [lower, lowerAfter_append, show lowerAfter (t.reverse ++ []) ['A'] = ['a'] from rfl]
  have fewer : (lowerBetween [] ['A'] t).count 'ς' < t.lower.count 'ς' := by
    refine count_lowerBetween_lt (fun q _ sigma' => ?_) ⟨p, mem, ?_⟩
    · rw [count_lowered_sigma sigma', count_lowered_sigma sigma', endsWordAt_eq, endsWordAt_eq,
        List.append_nil, List.append_nil]
      cases after : nearest q.forwards with
      | some f => rw [meetsLetter_append_of_some after]
      | none =>
          rw [meetsLetter_append_of_none after, cased, Bool.not_true, Bool.and_false]
          exact Nat.zero_le _
    · rw [count_lowered_sigma sigma, count_lowered_sigma sigma, endsWordAt_eq, endsWordAt_eq,
        List.append_nil, List.append_nil, meetsLetter_append_of_none passed, cased, letter,
        meetsLetter_of_none passed]
      decide
  intro found
  have most := found.sublist.count_le 'ς'
  rw [whole, List.count_append, show List.count 'ς' ['a'] = 0 from rfl] at most
  omega

/-- A letter before an open sigma at the start of a text gives it its final shape. -/
theorem not_infix_of_open_start {t : Text} {p : Place} (mem : p ∈ places t) (sigma : p.letter = 'Σ')
    (passed : nearest p.backwards = none) (none : meetsLetter p.forwards = false) :
    ¬ t.lower <:+: lower (['A'] ++ t) := by
  have cased : meetsLetter ['A'] = true := by decide
  have whole : lower (['A'] ++ t) = 'a' :: lowerBetween ['A'] [] t := by
    have rest := lowerAfter_append ['A'] t []
    rw [List.append_nil, show lowerAfter (t.reverse ++ ['A']) [] = [] from rfl,
      List.append_nil] at rest
    rw [← rest]
    rfl
  -- No other sigma turns into the inner shape by a letter in front, and this one loses it.
  have fewer : (lowerBetween ['A'] [] t).count 'σ' < t.lower.count 'σ' := by
    refine count_lowerBetween_lt (fun q _ sigma' => ?_) ⟨p, mem, ?_⟩
    · rw [count_lowered_sigma sigma', count_lowered_sigma sigma', endsWordAt_eq, endsWordAt_eq,
        List.append_nil, List.append_nil]
      cases before : nearest q.backwards with
      | some b => rw [meetsLetter_append_of_some before]
      | none =>
          rw [meetsLetter_of_none before, Bool.false_and, if_neg Bool.false_ne_true, if_pos rfl]
          split <;> decide
    · rw [count_lowered_sigma sigma, count_lowered_sigma sigma, endsWordAt_eq, endsWordAt_eq,
        List.append_nil, List.append_nil, meetsLetter_append_of_none passed, cased, none,
        meetsLetter_of_none passed]
      decide
  intro found
  have most := found.sublist.count_le 'σ'
  rw [whole, List.count_cons_of_ne (by decide)] at most
  omega

/-- **The lower case of a text is found wherever the text is written** exactly if every capital sigma
of the text has its shape from the text itself. -/
theorem lower_infix_iff {t : Text} :
    (∀ u : Text, t <:+: u → t.lower <:+: u.lower) ↔ t.isSettled = true := by
  constructor
  · intro found
    refine List.all_eq_true.mpr fun p hp => ?_
    by_contra unsettled
    obtain ⟨sigma, unsettled⟩ : p.letter = 'Σ' ∧ settles p.backwards p.forwards = false := by
      simpa using unsettled
    rw [settles] at unsettled
    -- An open sigma is lowered in another way once a letter is put behind it, or in front of it.
    cases before : nearest p.backwards with
    | some b =>
        cases after : nearest p.forwards with
        | some f => simp [before, after] at unsettled
        | none =>
            have letter : meetsLetter p.backwards = true := by
              rw [meetsLetter_of_some before]
              simpa [before, after] using unsettled
            exact not_infix_of_open_end hp sigma letter after
              (found _ (List.prefix_append t _).isInfix)
    | none =>
        have none : meetsLetter p.forwards = false := by
          cases after : nearest p.forwards with
          | none => exact meetsLetter_of_none after
          | some f =>
              rw [meetsLetter_of_some after]
              simpa [before, after] using unsettled
        exact not_infix_of_open_start hp sigma before none
          (found _ (List.suffix_append _ t).isInfix)
  · rintro settled u ⟨before, after, rfl⟩
    exact lower_infix_of_isSettled settled before after

end Notebase.Text
