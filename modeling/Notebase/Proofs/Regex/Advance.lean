import Notebase.Regex.Match
import Notebase.Regex.Parse

/-!
What a reading takes up. An expression without groups of its own reads some characters and leaves
the groups that have been read alone, whatever else it looks at (`advances_read`). So the first
match of such an expression with one group in it says where the group stands in the text.
-/

namespace Notebase.Regex

/-! ### Expressions without groups -/

/-- An expression in which no text is remembered. -/
def groupless : Regex → Bool
  | .empty | .char _ | .place _ | .again _ _ _ _ => true
  | .group _ _ => false
  | .seq a b | .alt a b | .given _ a b => a.groupless && b.groupless
  | .repeated _ _ _ a | .atomic a | .ahead _ a | .behind _ a => a.groupless

/-! ### Characters that are taken -/

/-- Some characters stand between two places, and the same groups have been read at both. -/
structure State.Takes (s : State) (taken : Text) (s' : State) : Prop where
  back : s'.back = taken.reverse ++ s.back
  rest : s.rest = taken ++ s'.rest
  position : s'.position = s.position + taken.length
  starts : s'.starts = s.starts
  stops : s'.stops = s.stops

namespace State

theorem Takes.refl (s : State) : s.Takes [] s := ⟨rfl, rfl, rfl, rfl, rfl⟩

theorem Takes.trans {s s' s'' : State} {taken taken' : Text} (first : s.Takes taken s')
    (second : s'.Takes taken' s'') : s.Takes (taken ++ taken') s'' where
  back := by rw [second.back, first.back, List.reverse_append, List.append_assoc]
  rest := by rw [first.rest, second.rest, List.append_assoc]
  position := by rw [second.position, first.position, List.length_append, Nat.add_assoc]
  starts := second.starts.trans first.starts
  stops := second.stops.trans first.stops

theorem takes_advance {s : State} {c : Char} {rest : Text} (next : s.rest = c :: rest) :
    s.Takes [c] (s.advance c rest) := ⟨rfl, next, rfl, rfl, rfl⟩

theorem withGroups_eq_self {s s' : State} (starts : s'.starts = s.starts)
    (stops : s'.stops = s.stops) : s.withGroups s' = s := by
  rw [withGroups, starts, stops]

/-- A text that is found is taken. -/
theorem takes_of_after? {fold : Char → Char} {s s' : State} {t : Text}
    (found : s.after? fold t = some s') : ∃ taken, s.Takes taken s' := by
  induction t generalizing s with
  | nil =>
      cases found
      exact ⟨[], Takes.refl _⟩
  | cons c t ih =>
      rw [after?] at found
      split at found
      · cases found
      · next d rest next =>
          split at found
          · obtain ⟨taken, takes⟩ := ih found
            exact ⟨_, (takes_advance next).trans takes⟩
          · cases found

end State

/-- A way to read a part that takes up some characters and then goes on, with the same groups. -/
def Advances (step : Step) : Prop :=
  ∀ (s : State) (k : State → Option State) (out : State), step s k = some out →
    ∃ taken s', s.Takes taken s' ∧ k s' = some out

/-! ### Repetitions -/

section Repetitions

variable {step : Step} (advances : Advances step) {least : Nat} {most : Option Nat}
include advances

/-- One round and then the others. -/
theorem Advances.andThen {s : State} {k : State → Option State} {out : State}
    {rounds : State → Option State} (found : step s rounds = some out)
    (others : ∀ s', rounds s' = some out → ∃ taken s'', s'.Takes taken s'' ∧ k s'' = some out) :
    ∃ taken s', s.Takes taken s' ∧ k s' = some out := by
  obtain ⟨taken, s', takes, found'⟩ := advances _ _ _ found
  obtain ⟨taken', s'', takes', found''⟩ := others s' found'
  exact ⟨_, s'', takes.trans takes', found''⟩

/-- Repeating as often as possible goes forward. -/
theorem advances_readGreedy (fuel count : Nat) (last : Option Nat) :
    Advances (readGreedy step least most fuel count last) := by
  induction fuel generalizing count last with
  | zero =>
      intro s k out found
      cases found
  | succ fuel ih =>
      intro s k out found
      rw [readGreedy] at found
      split at found
      · exact advances.andThen found fun s' => ih _ _ s' k out
      · split at found
        · split at found
          · next s' first =>
              cases found
              exact advances.andThen first fun s' => ih _ _ s' k out
          · exact ⟨[], s, State.Takes.refl _, found⟩
        · exact ⟨[], s, State.Takes.refl _, found⟩

/-- Repeating as rarely as possible goes forward. -/
theorem advances_readLazy (fuel count : Nat) (last : Option Nat) :
    Advances (readLazy step least most fuel count last) := by
  induction fuel generalizing count last with
  | zero =>
      intro s k out found
      cases found
  | succ fuel ih =>
      intro s k out found
      rw [readLazy] at found
      split at found
      · exact advances.andThen found fun s' => ih _ _ s' k out
      · split at found
        · next s' first =>
            cases found
            exact ⟨[], s, State.Takes.refl _, first⟩
        · split at found
          · exact advances.andThen found fun s' => ih _ _ s' k out
          · cases found

/-- Repeating without a way back takes some text. -/
theorem takes_of_runPossessive {fuel count : Nat} {last : Option Nat} {s out : State}
    (found : runPossessive step least most fuel count last s = some out) :
    ∃ taken, s.Takes taken out := by
  induction fuel generalizing count last s with
  | zero => cases found
  | succ fuel ih =>
      have round : ∀ {s' : State}, step s some = some s' → ∃ taken, s.Takes taken s' := by
        intro s' first
        obtain ⟨taken, s'', takes, eq⟩ := advances _ _ _ first
        cases eq
        exact ⟨taken, takes⟩
      rw [runPossessive] at found
      split at found
      · obtain ⟨s', first, others⟩ := Option.bind_eq_some_iff.mp found
        obtain ⟨taken, takes⟩ := round first
        obtain ⟨taken', takes'⟩ := ih others
        exact ⟨_, takes.trans takes'⟩
      · split at found
        · split at found
          · next s' first =>
              obtain ⟨taken, takes⟩ := round first
              obtain ⟨taken', takes'⟩ := ih found
              exact ⟨_, takes.trans takes'⟩
          · cases found
            exact ⟨[], State.Takes.refl _⟩
        · cases found
          exact ⟨[], State.Takes.refl _⟩

/-- What is read once and for all. -/
theorem Advances.alone {s s' : State} (found : step s some = some s') :
    ∃ taken, s.Takes taken s' := by
  obtain ⟨taken, s'', takes, eq⟩ := advances _ _ _ found
  cases eq
  exact ⟨taken, takes⟩

end Repetitions

/-! ### Expressions -/

/-- **An expression without groups takes up some characters** and leaves the groups alone. What it
looks at besides, ahead or behind, is not taken. -/
theorem advances_read {a : Regex} (none : a.groupless = true) : Advances a.read := by
  induction a with
  | empty => exact fun s _ _ found => ⟨[], s, State.Takes.refl _, found⟩
  | char p =>
      intro s k out found
      rw [read] at found
      split at found
      · cases found
      · next c rest next =>
          split at found
          · exact ⟨[c], _, State.takes_advance next, found⟩
          · cases found
  | place p =>
      intro s k out found
      rw [read] at found
      split at found
      · exact ⟨[], s, State.Takes.refl _, found⟩
      · cases found
  | seq a b iha ihb =>
      rw [groupless, Bool.and_eq_true] at none
      intro s k out found
      exact (iha none.1).andThen found fun s' => ihb none.2 s' k out
  | alt a b iha ihb =>
      rw [groupless, Bool.and_eq_true] at none
      intro s k out found
      rw [read] at found
      split at found
      · next s' first =>
          cases found
          exact iha none.1 _ _ _ first
      · exact ihb none.2 _ _ _ found
  | group n a => cases none
  | again n least most fold =>
      intro s k out found
      rw [read] at found
      split at found
      · cases found
      · obtain ⟨s', after, found'⟩ := Option.bind_eq_some_iff.mp found
        obtain ⟨taken, takes⟩ := State.takes_of_after? after
        exact ⟨taken, s', takes, found'⟩
  -- How often the repeated part is read is the only difference between the three.
  | repeated greed least most a ih =>
      intro s k out found
      cases greed with
      | greedy => exact advances_readGreedy (ih none) _ _ _ _ _ _ found
      | lazy => exact advances_readLazy (ih none) _ _ _ _ _ _ found
      | possessive =>
          obtain ⟨s', rounds, found'⟩ := Option.bind_eq_some_iff.mp found
          obtain ⟨taken, takes⟩ := takes_of_runPossessive (ih none) rounds
          exact ⟨taken, s', takes, found'⟩
  | atomic a ih =>
      intro s k out found
      obtain ⟨s', first, found'⟩ := Option.bind_eq_some_iff.mp found
      obtain ⟨taken, takes⟩ := (ih none).alone first
      exact ⟨taken, s', takes, found'⟩
  -- Looking ahead takes nothing, and without groups it leaves no trace.
  | ahead negated a ih =>
      intro s k out found
      refine ⟨[], s, .refl s, ?_⟩
      cases negated <;> cases first : a.read s some <;> simp only [read, first] at found
      · cases found
      · obtain ⟨taken, takes⟩ := (ih none).alone first
        rwa [State.withGroups_eq_self takes.starts takes.stops] at found
      · exact found
      · cases found
  | behind negated a ih =>
      intro s k out found
      refine ⟨[], s, .refl s, ?_⟩
      cases negated <;>
        cases first : (if s.position < a.width.1 then Option.none
          else a.read (s.retreat a.width.1) some) <;> simp only [read, first] at found
      · cases found
      · split at first
        · cases first
        · obtain ⟨taken, takes⟩ := (ih none).alone first
          rwa [State.withGroups_eq_self (s := s) takes.starts takes.stops] at found
      · exact found
      · cases found
  | given n a b iha ihb =>
      rw [groupless, Bool.and_eq_true] at none
      intro s k out found
      rw [read] at found
      split at found
      · exact iha none.1 _ _ _ found
      · exact ihb none.2 _ _ _ found

/-! ### Expressions one after another -/

theorem read_char (p : Char → Bool) (s : State) (k : State → Option State) :
    (char p).read s k =
      match s.rest with
      | [] => none
      | c :: rest => if p c then k (s.advance c rest) else none := rfl

theorem read_ofList_cons (a : Regex) (rest : List Regex) (s : State) (k : State → Option State) :
    (ofList (a :: rest)).read s k = a.read s fun s' => (ofList rest).read s' k := by
  cases rest with
  | nil => rfl
  | cons b rest => rfl

theorem read_ofList_append (as bs : List Regex) (s : State) (k : State → Option State) :
    (ofList (as ++ bs)).read s k = (ofList as).read s fun s' => (ofList bs).read s' k := by
  induction as generalizing s with
  | nil => rfl
  | cons a as ih =>
      rw [List.cons_append, read_ofList_cons, read_ofList_cons]
      exact congrArg (a.read s) (funext ih)

/-- A sequence goes forward if each of its parts does. -/
theorem advances_ofList {as : List Regex} (none : ∀ a ∈ as, a.groupless = true) :
    Advances (ofList as).read := by
  induction as with
  | nil => exact fun s _ _ found => ⟨[], s, State.Takes.refl _, found⟩
  | cons a as ih =>
      intro s k out found
      rw [read_ofList_cons] at found
      exact (advances_read (none a List.mem_cons_self)).andThen found fun s' =>
        ih (fun b hb => none b (List.mem_cons_of_mem _ hb)) s' k out

def literals (t : Text) : List Regex := t.map fun c => literal {} c.toNat

/-- Characters that stand for themselves are taken one by one. -/
theorem takes_of_literals {t : Text} {s : State} {k : State → Option State} {out : State}
    (found : (ofList (literals t)).read s k = some out) : ∃ s', s.Takes t s' ∧ k s' = some out := by
  induction t generalizing s with
  | nil => exact ⟨s, State.Takes.refl _, found⟩
  | cons c t ih =>
      rw [literals, List.map_cons, read_ofList_cons, literal, read_char] at found
      split at found
      · cases found
      · next d rest next =>
          split at found
          · next same =>
              have eq : d = c := by simpa [classHas, ClassItem.has, ← Char.toNat_inj] using same
              obtain ⟨s', takes, found'⟩ := ih found
              rw [← eq]
              exact ⟨s', (State.takes_advance next).trans takes, found'⟩
          · cases found

/-! ### Searching -/

/-- The first match starts at a place of the text, and it is read from there. -/
theorem of_find? {a : Regex} {t : Text} {s start stop : State}
    (found : a.find? t s = some (start, stop)) (rest_eq : s.rest = t) :
    ∃ skipped, s.Takes skipped start ∧ a.read start some = some stop := by
  induction t generalizing s with
  | nil =>
      obtain ⟨stop', here, eq⟩ := Option.map_eq_some_iff.mp found
      cases eq
      exact ⟨[], State.Takes.refl _, here⟩
  | cons c t ih =>
      rw [find?] at found
      split at found
      · next stop' here =>
          cases found
          exact ⟨[], State.Takes.refl _, here⟩
      · obtain ⟨skipped, takes, here⟩ := ih found rfl
        exact ⟨_, (State.takes_advance rest_eq).trans takes, here⟩

theorem start_of_search? {a : Regex} {before t : Text} {start stop : State}
    (found : a.search? before t = some (start, stop)) :
    ∃ skipped, t = skipped ++ start.rest ∧ start.position = before.length + skipped.length := by
  obtain ⟨skipped, reached, -⟩ := of_find? found rfl
  exact ⟨skipped, reached.rest, reached.position⟩

theorem groupless_literals {t : Text} : ∀ a ∈ literals t, a.groupless = true := by
  intro a ha
  obtain ⟨c, -, rfl⟩ := List.mem_map.mp ha
  rfl

/-- **The group of a first match.** Of an expression with one group between two texts, and any
expressions without groups before them, the first match tells where the inside of such a pair of
texts starts and stops. -/
theorem of_search? {before t opening closing : Text} {front : List Regex} {n : Nat} {a : Regex}
    {start stop : State} (none : ∀ r ∈ front, r.groupless = true) (none' : a.groupless = true)
    (found : (ofList (front ++ literals opening ++ .group n a :: literals closing)).search?
      before t = some (start, stop)) :
    ∃ u part rest, t = u ++ opening ++ part ++ closing ++ rest ∧
      stop.group? n = some (before.length + (u ++ opening).length,
        before.length + (u ++ opening ++ part).length) := by
  rw [search?] at found
  obtain ⟨skipped, reached, here⟩ := of_find? found rfl
  rw [List.append_assoc, read_ofList_append] at here
  obtain ⟨taken, s₁, front_takes, here⟩ := advances_ofList none _ _ _ here
  rw [read_ofList_append] at here
  obtain ⟨s₂, opening_takes, here⟩ := takes_of_literals here
  rw [read_ofList_cons] at here
  obtain ⟨part, s₃, own_takes, here⟩ := advances_read none' _ _ _ here
  obtain ⟨s₄, closing_takes, eq⟩ := takes_of_literals here
  cases eq
  -- What is read before the group changes no group, so the group is the only one that is set.
  have front_group := (reached.trans front_takes).trans opening_takes
  have text : t = skipped ++ taken ++ opening ++ s₂.rest := front_group.rest
  have inside : s₂.rest = part ++ s₃.rest := own_takes.rest
  have outside : s₃.rest = closing ++ stop.rest := closing_takes.rest
  have none_started : s₂.starts = [] := front_group.starts
  have none_stopped : s₂.stops = [] := front_group.stops
  have started : stop.starts = [(n, s₂.position)] := by
    rw [closing_takes.starts, own_takes.starts, none_started]
  have stopped : stop.stops = [(n, s₃.position)] := by
    rw [closing_takes.stops, own_takes.stops, none_stopped]
  have start_eq : s₂.position = before.length + (skipped ++ taken ++ opening).length :=
    front_group.position
  have stop_eq : s₃.position = s₂.position + part.length := own_takes.position
  refine ⟨skipped ++ taken, part, stop.rest, ?_, ?_⟩
  · rw [text, inside, outside]
    simp
  · simp [State.group?, started, stopped, start_eq, stop_eq, Nat.add_assoc]

end Notebase.Regex
