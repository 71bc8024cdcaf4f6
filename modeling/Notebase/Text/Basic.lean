import Notebase.Text.Blank

/-!
Text as the list of its characters, with the few operations that everything else is written
in: trimming, words, joining, and the search for a fixed part.
-/

namespace Notebase

/-- A text is the list of its characters, so that positions count code points. -/
abbrev Text := List Char

/-- Drops the longest final run of elements that satisfy `p`. -/
def dropEndWhile {α : Type} (p : α → Bool) : List α → List α
  | [] => []
  | a :: rest =>
      match dropEndWhile p rest with
      | [] => if p a then [] else [a]
      | b :: kept => a :: b :: kept

/-- What is dropped from the end stood there, and satisfies `p`. -/
theorem dropEndWhile_append_drop {α : Type} (p : α → Bool) (l : List α) :
    dropEndWhile p l ++ l.drop (dropEndWhile p l).length = l := by
  induction l with
  | nil => rfl
  | cons a rest ih =>
      unfold dropEndWhile
      split
      · next kept => split <;> simp
      · next b kept h => rw [h] at ih; simpa using ih

/-- Splits a list at its first element that satisfies `p`: the elements before it, the element
and the elements after it. -/
def splitFirst? {α : Type} (p : α → Bool) : List α → Option (List α × α × List α)
  | [] => none
  | a :: rest =>
      if p a then some ([], a, rest)
      else (splitFirst? p rest).map fun (before, found, after) => (a :: before, found, after)

/-- A successful split loses nothing, finds an element that satisfies `p`, and no element
before it does. -/
theorem splitFirst?_eq_some {α : Type} {p : α → Bool} {l before after : List α} {a : α}
    (split : splitFirst? p l = some (before, a, after)) :
    l = before ++ a :: after ∧ p a = true ∧ ∀ b ∈ before, p b = false := by
  induction l generalizing before with
  | nil => simp [splitFirst?] at split
  | cons c rest ih =>
      unfold splitFirst? at split
      by_cases hc : p c = true
      · simp only [hc, if_true, Option.some.injEq, Prod.mk.injEq] at split
        obtain ⟨rfl, rfl, rfl⟩ := split
        simp [hc]
      · simp only [hc, Bool.false_eq_true, if_false, Option.map_eq_some_iff] at split
        obtain ⟨⟨before', a', after'⟩, found, eq⟩ := split
        simp only [Prod.mk.injEq] at eq
        obtain ⟨rfl, rfl, rfl⟩ := eq
        obtain ⟨rfl, pa, none⟩ := ih found
        refine ⟨rfl, pa, ?_⟩
        intro b hb
        rcases List.mem_cons.mp hb with rfl | hb
        · simpa using hc
        · exact none b hb

/-- A list has no such split exactly when none of its elements satisfies `p`. -/
theorem splitFirst?_eq_none {α : Type} {p : α → Bool} {l : List α} :
    splitFirst? p l = none ↔ ∀ a ∈ l, p a = false := by
  induction l with
  | nil => simp [splitFirst?]
  | cons c rest ih =>
      unfold splitFirst?
      by_cases hc : p c = true
      · simp [hc]
      · simp [hc, ih]

namespace Text

/-! ### Statements about characters -/

/-- What is said of every character of a text is decided by going through the text. -/
instance (priority := 2000) decidableForallMem (p : Char → Prop) [DecidablePred p] (t : Text) :
    Decidable (∀ c ∈ t, p c) := List.decidableBAll p t

/-- Whether some character of a text is as said is decided by going through the text. -/
instance (priority := 2000) decidableExistsMem (p : Char → Prop) [DecidablePred p] (t : Text) :
    Decidable (∃ c ∈ t, p c) := List.decidableBEx p t

/-- What is said of a character that may be there is decided by looking at it. -/
instance (priority := 2000) decidableForallMemOption (p : Char → Prop) [DecidablePred p]
    (o : Option Char) : Decidable (∀ c ∈ o, p c) := Option.decidableForallMem o

/-! ### Trimming -/

def trimBy (p : Char → Bool) (t : Text) : Text := dropEndWhile p (t.dropWhile p)

def trim (t : Text) : Text := trimBy isBlank t

def isBlankText (t : Text) : Bool := t.all isBlank

/-! ### Words and joining -/

def words (t : Text) : List Text := (t.splitOnP isBlank).filter (!·.isEmpty)

def join (separator : Text) (parts : List Text) : Text := separator.intercalate parts

def unwords (ws : List Text) : Text := join [' '] ws

def spaces (n : Nat) : Text := List.replicate n ' '

/-! ### Fixed parts -/

def after? : (front t : Text) → Option Text
  | [], t => some t
  | _ :: _, [] => none
  | f :: front, c :: t => if f = c then after? front t else none

/-- A text starts with `front` exactly when it is `front` followed by what `after?` returns. -/
theorem after?_eq_some_iff {front t rest : Text} :
    after? front t = some rest ↔ t = front ++ rest := by
  induction front generalizing t with
  | nil => simp [after?, eq_comm]
  | cons f front ih =>
      cases t with
      | nil => simp [after?]
      | cons c t =>
          by_cases h : f = c
          · subst h; simp [after?, ih]
          · simp [after?, h, Ne.symm h]

def before? (back t : Text) : Option Text :=
  if back.isSuffixOf t then some (t.take (t.length - back.length)) else none

def occursIn (part : Text) : Text → Bool
  | [] => part.isEmpty
  | c :: t => part.isPrefixOf (c :: t) || occursIn part t

/-- The search for a part finds it exactly when the text is two texts around it. -/
theorem occursIn_iff {part t : Text} : occursIn part t = true ↔ part <:+: t := by
  induction t with
  | nil => cases part <;> simp [occursIn]
  | cons c t ih =>
      simp only [occursIn, Bool.or_eq_true, List.isPrefixOf_iff_prefix, ih]
      exact List.infix_cons_iff.symm

def replaceChar (t : Text) (c : Char) (new : Text) : Text :=
  t.flatMap fun d => if d = c then new else [d]

/-! ### Values -/

/-- A value that says something: neither absent nor empty. -/
def given? : Option Text → Option Text
  | some (c :: t) => some (c :: t)
  | _ => none

/-- A text is given if it is there and not empty. -/
theorem given?_eq_some_iff {o : Option Text} {t : Text} :
    given? o = some t ↔ o = some t ∧ t ≠ [] := by
  rcases o with _ | (_ | ⟨c, rest⟩)
  · simp [given?]
  · simp [given?, eq_comm]
  · constructor
    · rintro ⟨⟩
      exact ⟨rfl, List.cons_ne_nil c rest⟩
    · exact And.left

def ofNat (n : Nat) : Text := Nat.toDigits 10 n

def ofInt : Int → Text
  | .ofNat n => ofNat n
  | .negSucc n => '-' :: ofNat (n + 1)

end Text

theorem given?_eq_some {o : Option Text} {t : Text} (h : Text.given? o = some t) : o = some t :=
  (Text.given?_eq_some_iff.mp h).1

theorem ne_nil_of_given? {o : Option Text} {t : Text} (h : Text.given? o = some t) : t ≠ [] :=
  (Text.given?_eq_some_iff.mp h).2

theorem given?_of_ne_nil {t : Text} (ne : t ≠ []) : Text.given? (some t) = some t :=
  Text.given?_eq_some_iff.mpr ⟨rfl, ne⟩

end Notebase
