import Notebase.Proofs.Regex.Advance

/-!
What a search sees of the text before it. An expression that looks behind nowhere reads a text in
the same way wherever that text stands, once a character of it has been taken: the positions move
and nothing else does (`shifts_read`). So an expression that starts with a character has the same
matches behind any other text (`search?_eq_map`).
-/

namespace Notebase.Regex

/-! ### Places behind other text -/

/-- Where groups start or stop, `n` characters further on. -/
def movedMarks (n : Nat) (marks : List (Nat × Nat)) : List (Nat × Nat) :=
  marks.map fun (m, position) => (m, position + n)

theorem lookup_movedMarks (n m : Nat) (marks : List (Nat × Nat)) :
    (movedMarks n marks).lookup m = (marks.lookup m).map (· + n) := by
  induction marks with
  | nil => rfl
  | cons mark marks ih =>
      obtain ⟨count, position⟩ := mark
      rw [movedMarks, List.map_cons, List.lookup_cons, List.lookup_cons, ← movedMarks, ih]
      cases m == count <;> rfl

namespace State

/-- The same place of a text that stands behind another one. -/
def shift (before : Text) (s : State) : State where
  back := s.back ++ before.reverse
  rest := s.rest
  position := s.position + before.length
  starts := movedMarks before.length s.starts
  stops := movedMarks before.length s.stops

/-- A place with text before it, so that the place looks the same behind other text. -/
def Inside (s : State) : Prop := s.back ≠ []

variable {before : Text} {s : State}

theorem rest_shift : (s.shift before).rest = s.rest := rfl

theorem shift_advance (c : Char) (rest : Text) :
    (s.advance c rest).shift before = (s.shift before).advance c rest := by
  simp [shift, advance, Nat.add_right_comm]

theorem inside_advance (s : State) (c : Char) (rest : Text) : (s.advance c rest).Inside :=
  List.cons_ne_nil c s.back

/-- The places of a group move with the text in front. -/
theorem group?_shift (n : Nat) : (s.shift before).group? n =
    (s.group? n).map fun (start, stop) => (start + before.length, stop + before.length) := by
  rw [group?, group?, shift, lookup_movedMarks, lookup_movedMarks]
  cases s.starts.lookup n with
  | none => rfl
  | some start =>
      cases s.stops.lookup n with
      | none => rfl
      | some stop =>
          by_cases ordered : start ≤ stop
          · simp [ordered]
          · simp [ordered]

theorem between_shift (start stop : Nat) :
    (s.shift before).between (start + before.length) (stop + before.length) =
      s.between start stop := by
  have front : (s.shift before).back.reverse ++ (s.shift before).rest =
      before ++ (s.back.reverse ++ s.rest) := by simp [shift]
  rw [between, between, front, Nat.add_sub_add_right, Nat.add_comm start,
    List.drop_length_add_append]

theorem isAt_shift (inside : s.Inside) (p : Place) : (s.shift before).isAt p = s.isAt p := by
  obtain ⟨c, back, eq⟩ := List.exists_cons_of_ne_nil inside
  cases p <;> simp [isAt, atWordEdge, shift, eq]

/-- What follows a text does not depend on what stands in front. -/
theorem after?_shift (fold : Char → Char) (t : Text) :
    (s.shift before).after? fold t = (s.after? fold t).map (shift before) := by
  induction t generalizing s with
  | nil => rfl
  | cons c t ih =>
      rw [after?, after?, rest_shift]
      cases s.rest with
      | nil => rfl
      | cons d rest =>
          dsimp only
          split
          · rw [← shift_advance, ih]
          · rfl

theorem Inside.of_takes {s' : State} {taken : Text} (inside : s.Inside) (takes : s.Takes taken s') :
    s'.Inside := by
  rw [Inside, takes.back]
  exact List.append_ne_nil_of_right_ne_nil _ inside

end State

/-! ### Steps behind other text -/

/-- Continuations that accept the same places, in a text and behind other text. -/
def Agree (before : Text) (k k' : State → Option State) : Prop :=
  ∀ s : State, s.Inside → k' (s.shift before) = (k s).map (State.shift before)

/-- A way to read a part that takes the same ways in a text and behind other text. -/
def Shifts (before : Text) (step : Step) : Prop :=
  ∀ (s : State) (k k' : State → Option State), s.Inside → Agree before k k' →
    step (s.shift before) k' = (step s k).map (State.shift before)

theorem agree_some (before : Text) : Agree before some some := fun _ _ => rfl

/-- Whether a repetition may go on does not depend on the text in front. -/
theorem mayGoOn_shift {before : Text} (most : Option Nat) (count : Nat) (last : Option Nat)
    (s : State) :
    mayGoOn most count (last.map (· + before.length)) (s.shift before) =
      mayGoOn most count last s := by
  have same : (last.map (· + before.length) == some (s.position + before.length)) =
      (last == some s.position) := by
    rw [Bool.eq_iff_iff, beq_iff_eq, beq_iff_eq]
    cases last <;> simp
  exact congrArg (most.all (count < ·) && !·) same

section Repetitions

variable {before : Text} {step : Step} (shifts : Shifts before step) {least : Nat}
  {most : Option Nat}
include shifts

/-- A greedy repetition moves with the text in front. -/
theorem shifts_readGreedy {k k' : State → Option State} (agree : Agree before k k')
    (fuel count : Nat) (last : Option Nat) :
    Agree before (readGreedy step least most fuel count last · k)
      (readGreedy step least most fuel count (last.map (· + before.length)) · k') := by
  induction fuel generalizing count last with
  | zero => exact fun s _ => rfl
  | succ fuel ih =>
      intro s inside
      have again := shifts s _ _ inside (ih (count + 1) last)
      have round : step (s.shift before) (readGreedy step least most fuel (count + 1)
          (some (s.shift before).position) · k') = _ :=
        shifts s _ _ inside (ih (count + 1) (some s.position))
      dsimp only
      rw [readGreedy, readGreedy, mayGoOn_shift]
      split
      · exact again
      · split
        · rw [round]
          cases step s (readGreedy step least most fuel (count + 1) (some s.position) · k) with
          | some found => rfl
          | none => exact agree s inside
        · exact agree s inside

/-- A lazy repetition moves with the text in front. -/
theorem shifts_readLazy {k k' : State → Option State} (agree : Agree before k k')
    (fuel count : Nat) (last : Option Nat) :
    Agree before (readLazy step least most fuel count last · k)
      (readLazy step least most fuel count (last.map (· + before.length)) · k') := by
  induction fuel generalizing count last with
  | zero => exact fun s _ => rfl
  | succ fuel ih =>
      intro s inside
      have again := shifts s _ _ inside (ih (count + 1) last)
      have round : step (s.shift before) (readLazy step least most fuel (count + 1)
          (some (s.shift before).position) · k') = _ :=
        shifts s _ _ inside (ih (count + 1) (some s.position))
      dsimp only
      rw [readLazy, readLazy, mayGoOn_shift]
      split
      · exact again
      · rw [agree s inside]
        cases k s with
        | some found => rfl
        | none =>
            dsimp only [Option.map_none]
            split
            · exact round
            · rfl

/-- A possessive repetition ends at the place that moves with the text in front. -/
theorem shift_runPossessive (advances : Advances step) {s : State} (inside : s.Inside)
    (fuel count : Nat) (last : Option Nat) :
    runPossessive step least most fuel count (last.map (· + before.length)) (s.shift before) =
      (runPossessive step least most fuel count last s).map (State.shift before) := by
  induction fuel generalizing count last s with
  | zero => rfl
  | succ fuel ih =>
      rw [runPossessive, runPossessive, mayGoOn_shift, shifts s _ _ inside (agree_some before)]
      cases first : step s some with
      | none =>
          split
          · rfl
          · split
            · rfl
            · rfl
      | some s' =>
          obtain ⟨taken, takes⟩ := advances.alone first
          have inside' := inside.of_takes takes
          split
          · exact ih inside' (count + 1) last
          · split
            · exact ih inside' (count + 1) (some s.position)
            · rfl

/-- A possessive repetition moves with the text in front. -/
theorem shifts_runPossessive (advances : Advances step) : Shifts before fun s k =>
    (runPossessive step least most (least + s.rest.length + 2) 0 none s).bind k := by
  intro s k k' inside agree
  have rounds : runPossessive step least most (least + s.rest.length + 2) 0 none
      (s.shift before) = _ := shift_runPossessive shifts advances inside _ 0 none
  show (runPossessive step least most (least + s.rest.length + 2) 0 none
    (s.shift before)).bind k' = _
  rw [rounds]
  dsimp only
  cases last : runPossessive step least most (least + s.rest.length + 2) 0 none s with
  | none => rfl
  | some s' =>
      obtain ⟨taken, takes⟩ := takes_of_runPossessive advances last
      exact agree s' (inside.of_takes takes)

end Repetitions

/-! ### Expressions behind other text -/

/-- **An expression that looks behind nowhere** reads a text in the same way behind any other
text. -/
theorem shifts_read {a : Regex} (none : a.groupless = true) (clear : a.behinds = [])
    (before : Text) : Shifts before a.read := by
  induction a with
  | empty => exact fun s k k' inside agree => agree s inside
  | char p =>
      intro s k k' inside agree
      rw [read, read, State.rest_shift]
      cases s.rest with
      | nil => rfl
      | cons c rest =>
          dsimp only
          split
          · rw [← State.shift_advance]
            exact agree _ (s.inside_advance c rest)
          · rfl
  | place p =>
      intro s k k' inside agree
      rw [read, read, State.isAt_shift inside]
      split
      · exact agree s inside
      · rfl
  | seq a b iha ihb =>
      rw [groupless, Bool.and_eq_true] at none
      rw [behinds, List.append_eq_nil_iff] at clear
      exact fun s k k' inside agree => iha none.1 clear.1 s _ _ inside fun s' inside' =>
        ihb none.2 clear.2 s' k k' inside' agree
  | alt a b iha ihb =>
      rw [groupless, Bool.and_eq_true] at none
      rw [behinds, List.append_eq_nil_iff] at clear
      intro s k k' inside agree
      rw [read, read, iha none.1 clear.1 s k k' inside agree]
      cases a.read s k with
      | some found => rfl
      | none => exact ihb none.2 clear.2 s k k' inside agree
  | group n a => cases none
  -- The text of an earlier group moves along with what is read.
  | again n least most fold =>
      intro s k k' inside agree
      rw [read, read, State.group?_shift]
      cases s.group? n with
      | none => rfl
      | some part =>
          obtain ⟨start, stop⟩ := part
          dsimp only [Option.map_some]
          rw [State.between_shift, State.after?_shift]
          cases after : s.after? fold (s.between start stop) with
          | none => rfl
          | some s' =>
              obtain ⟨taken, takes⟩ := State.takes_of_after? after
              exact agree s' (inside.of_takes takes)
  | repeated greed least most a ih =>
      have step := ih none clear
      intro s k k' inside agree
      cases greed with
      | greedy => exact shifts_readGreedy step agree _ 0 Option.none s inside
      | lazy => exact shifts_readLazy step agree _ 0 Option.none s inside
      | possessive => exact shifts_runPossessive step (advances_read none) s k k' inside agree
  | atomic a ih =>
      have advances : Advances a.read := advances_read none
      intro s k k' inside agree
      rw [read, read, ih none clear s _ _ inside (agree_some before)]
      cases first : a.read s some with
      | none => rfl
      | some s' =>
          obtain ⟨taken, takes⟩ := advances.alone first
          exact agree s' (inside.of_takes takes)
  | ahead negated a ih =>
      intro s k k' inside agree
      have same := ih none clear s _ _ inside (agree_some before)
      cases negated <;> cases first : a.read s some <;> simp only [read, same, first, Option.map_none,
        Option.map_some]
      · next s' => exact agree (s.withGroups s') inside
      · exact agree s inside
  -- Only looking behind would see what stands in front.
  | behind negated a => cases clear
  | given n a b iha ihb =>
      rw [groupless, Bool.and_eq_true] at none
      rw [behinds, List.append_eq_nil_iff] at clear
      intro s k k' inside agree
      rw [read, read, State.group?_shift, Option.isSome_map]
      split
      · exact iha none.1 clear.1 s k k' inside agree
      · exact ihb none.2 clear.2 s k k' inside agree

theorem Shifts.group {before : Text} {a : Regex} (shifts : Shifts before a.read) (n : Nat) :
    Shifts before (Regex.group n a).read :=
  fun s _ _ inside agree =>
    shifts { s with starts := (n, s.position) :: s.starts } _ _ inside fun s' inside' =>
      agree { s' with stops := (n, s'.position) :: s'.stops } inside'

/-- A sequence moves with the text in front if each of its parts does. -/
theorem shifts_ofList {before : Text} {as : List Regex}
    (shifts : ∀ a ∈ as, Shifts before a.read) : Shifts before (ofList as).read := by
  induction as with
  | nil => exact fun s k k' inside agree => agree s inside
  | cons a as ih =>
      intro s k k' inside agree
      rw [read_ofList_cons, read_ofList_cons]
      exact shifts a List.mem_cons_self s _ _ inside fun s' inside' =>
        ih (fun b hb => shifts b (List.mem_cons_of_mem _ hb)) s' k k' inside' agree

/-! ### Searching behind other text -/

section Search

variable {p : Char → Bool} {as : List Regex} {before : Text}
  (shifts : Shifts before (ofList as).read)
include shifts

/-- The first character lets a match start anywhere. -/
theorem read_shift (s : State) : (ofList (.char p :: as)).read (s.shift before) some =
    ((ofList (.char p :: as)).read s some).map (State.shift before) := by
  rw [read_ofList_cons, read_ofList_cons, read_char, read_char, State.rest_shift]
  cases s.rest with
  | nil => rfl
  | cons c rest =>
      dsimp only
      split
      · rw [← State.shift_advance]
        exact shifts _ _ _ (s.inside_advance c rest) (agree_some before)
      · rfl

/-- A search from a place on finds the same with another text in front. -/
theorem find?_shift (t : Text) (s : State) : (ofList (.char p :: as)).find? t (s.shift before) =
    ((ofList (.char p :: as)).find? t s).map (Prod.map (State.shift before) (State.shift before)) := by
  induction t generalizing s with
  | nil =>
      rw [find?, find?, read_shift shifts]
      cases (ofList (.char p :: as)).read s some <;> rfl
  | cons c t ih =>
      rw [find?, find?, read_shift shifts]
      cases (ofList (.char p :: as)).read s some with
      | none =>
          rw [← State.shift_advance]
          exact ih _
      | some stop => rfl

/-- **A search finds the same behind other text**, with the positions moved. -/
theorem search?_eq_map (t : Text) : (ofList (.char p :: as)).search? before t =
    ((ofList (.char p :: as)).search? [] t).map
      (Prod.map (State.shift before) (State.shift before)) := by
  rw [search?, search?, ← find?_shift shifts]
  simp [State.shift, movedMarks]

end Search

end Notebase.Regex
