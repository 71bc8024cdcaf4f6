import Mathlib.Logic.Relation
import Notebase.Catalog.Keywords
import Notebase.Proofs.Dict

/-!
The category of a text is the first best one. The scores name every category of a table once and in
the order of the table (`scores_eq_ranking`), and the choice, which is made without them, is the
first of those with the highest score (`bestAbove_eq_some_iff`). Only the entries that reach this
score have a part in it, so the others may come, go and move as they like
(`category_is_first_best`).
-/

namespace Notebase

/-! ### The first best of some scores -/

/-- Among some scores, `n` is the highest one and `c` the first that has it. -/
def FirstBest {α : Type} (scores : List (α × Nat)) (c : α) (n : Nat) : Prop :=
  ∃ before after, scores = before ++ (c, n) :: after ∧ (∀ e ∈ before, e.2 < n) ∧
    ∀ e ∈ after, e.2 ≤ n

section FirstBest

variable {α : Type} {scores : List (α × Nat)} {c d : α} {m n : Nat}

theorem FirstBest.mem (h : FirstBest scores c n) : (c, n) ∈ scores := by
  obtain ⟨before, after, rfl, -, -⟩ := h
  simp

/-- The first best is the first score, or it is above that and the first best of the others. -/
theorem firstBest_cons_iff : FirstBest ((d, m) :: scores) c n ↔
    (d = c ∧ m = n ∧ ∀ e ∈ scores, e.2 ≤ n) ∨ m < n ∧ FirstBest scores c n := by
  constructor
  · rintro ⟨before, after, eq, less, most⟩
    cases before with
    | nil =>
        cases eq
        exact .inl ⟨rfl, rfl, most⟩
    | cons e before =>
        cases eq
        refine .inr ⟨less _ List.mem_cons_self, before, after, rfl, ?_, most⟩
        exact fun e mem => less e (List.mem_cons_of_mem _ mem)
  · rintro (⟨rfl, rfl, most⟩ | ⟨below, before, after, rfl, less, most⟩)
    · exact ⟨[], scores, rfl, List.forall_mem_nil _, most⟩
    · exact ⟨(d, m) :: before, after, rfl, List.forall_mem_cons.mpr ⟨below, less⟩, most⟩

/-- Only the scores that reach the highest one decide which is the first. -/
theorem firstBest_iff_filter : FirstBest scores c n ↔
    ∃ rest, (scores.filter fun e => n ≤ e.2) = (c, n) :: rest ∧ ∀ e ∈ rest, e.2 ≤ n := by
  constructor
  · rintro ⟨before, after, rfl, less, most⟩
    have none : (before.filter fun e => decide (n ≤ e.2)) = [] :=
      List.filter_eq_nil_iff.mpr fun e mem => by simpa using less e mem
    refine ⟨after.filter fun e => n ≤ e.2, ?_, fun e mem => most e (List.mem_filter.mp mem).1⟩
    rw [List.filter_append, none, List.nil_append, List.filter_cons_of_pos (by simp)]
  · rintro ⟨rest, first, most⟩
    obtain ⟨before, after, rfl, less, -, rfl⟩ := List.filter_eq_cons_iff.mp first
    refine ⟨before, after, rfl, fun e mem => by simpa using less e mem, fun e mem => ?_⟩
    by_contra above
    exact above (most e (List.mem_filter.mpr ⟨mem, by simp; omega⟩))

end FirstBest

namespace KeywordTable

/-! ### The choice -/

def ranking (table : KeywordTable) (t : Text) : List (Text × Nat) :=
  table.map fun e => (e.1, score e.2 t)

/-- **The scores** of a table without repeated categories are those of its entries, in their
order. -/
theorem scores_eq_ranking {table : KeywordTable} (distinct : (table.map Prod.fst).Nodup)
    (t : Text) : table.scores t = table.ranking t := by
  refine Dict.ofList_eq_self ?_
  rw [List.map_map]
  exact distinct

section Choice

variable {t : Text} {least : Nat} {table : KeywordTable} {c : Text}

/-- No category is best exactly if none scores more than what is needed. -/
theorem bestAbove_eq_none_iff :
    bestAbove t least table = none ↔ ∀ e ∈ table.ranking t, e.2 ≤ least := by
  induction table with
  | nil => simp [bestAbove, ranking]
  | cons entry table ih =>
      obtain ⟨category, keywords⟩ := entry
      rw [bestAbove, ranking, List.map_cons, List.forall_mem_cons]
      dsimp only
      split
      · next above => simp [Nat.not_le.mpr above]
      · next below => exact ih.trans (and_iff_right (Nat.not_lt.mp below)).symm

/-- **The running best** of a table ends as the first best of its scores, if that is above the one
it starts with. -/
theorem bestAbove_eq_some_iff :
    bestAbove t least table = some c ↔ ∃ n, least < n ∧ FirstBest (table.ranking t) c n := by
  induction table generalizing least c with
  | nil =>
      constructor
      · intro none
        cases none
      · rintro ⟨n, -, first⟩
        cases first.mem
  | cons entry table ih =>
      obtain ⟨category, keywords⟩ := entry
      have cons : ranking ((category, keywords) :: table) t =
          (category, score keywords t) :: ranking table t := rfl
      rw [bestAbove, cons]
      simp only [firstBest_cons_iff]
      split
      · next above =>
          -- An entry above the mark is kept unless a later one scores more still.
          cases later : bestAbove t (score keywords t) table with
          | none =>
              have most := bestAbove_eq_none_iff.mp later
              rw [Option.getD_none, Option.some.injEq]
              constructor
              · rintro rfl
                exact ⟨_, above, .inl ⟨rfl, rfl, most⟩⟩
              · rintro ⟨n, -, ⟨same, -, -⟩ | ⟨higher, first⟩⟩
                · exact same
                · exact absurd (most _ first.mem) (Nat.not_le.mpr higher)
          | some b =>
              obtain ⟨k, higher, first⟩ := ih.mp later
              rw [Option.getD_some, Option.some.injEq]
              constructor
              · rintro rfl
                exact ⟨k, Nat.lt_trans above higher, .inr ⟨higher, first⟩⟩
              · rintro ⟨n, -, ⟨-, rfl, most⟩ | both⟩
                · exact absurd (most _ first.mem) (Nat.not_le.mpr higher)
                · exact Option.some.inj (later.symm.trans (ih.mpr ⟨n, both⟩))
      · next below =>
          rw [ih]
          refine exists_congr fun n => and_congr_right fun higher => ?_
          have reached : score keywords t < n := by omega
          simp [reached, Nat.ne_of_lt reached]

end Choice

/-! ### Entries that are outdone -/

def rivals (table : KeywordTable) (t : Text) (n : Nat) : KeywordTable :=
  table.filter fun e => n ≤ score e.2 t

/-- One entry that scores less than `n` is added to a table, taken out of it or moved in it. -/
inductive MinorChange (t : Text) (n : Nat) : KeywordTable → KeywordTable → Prop where
  | add {l r : KeywordTable} {e : Text × List Text} : score e.2 t < n →
      MinorChange t n (l ++ r) (l ++ e :: r)
  | remove {l r : KeywordTable} {e : Text × List Text} : score e.2 t < n →
      MinorChange t n (l ++ e :: r) (l ++ r)
  | move {l r l' r' : KeywordTable} {e : Text × List Text} : score e.2 t < n →
      l ++ r = l' ++ r' → MinorChange t n (l ++ e :: r) (l' ++ e :: r')

section Minor

variable {t : Text} {n : Nat} {table table' : KeywordTable}

theorem rivals_append_cons {l r : KeywordTable} {e : Text × List Text}
    (minor : score e.2 t < n) : rivals (l ++ e :: r) t n = rivals (l ++ r) t n := by
  rw [rivals, rivals, List.filter_append, List.filter_append,
    List.filter_cons_of_neg (by simpa using minor)]

/-- **A minor change** leaves the others as they are. -/
theorem MinorChange.rivals_eq (change : MinorChange t n table table') :
    table'.rivals t n = table.rivals t n := by
  cases change with
  | add minor => exact rivals_append_cons minor
  | remove minor => exact (rivals_append_cons minor).symm
  | move minor same => rw [rivals_append_cons minor, rivals_append_cons minor, same]

/-- **Minor changes**, one after another, leave the others as they are. -/
theorem rivals_eq_of_changes (changes : Relation.ReflTransGen (MinorChange t n) table table') :
    table'.rivals t n = table.rivals t n := by
  induction changes with
  | refl => rfl
  | tail _ change ih => exact change.rivals_eq.trans ih

theorem filter_ranking (table : KeywordTable) (t : Text) (n : Nat) :
    ((table.ranking t).filter fun e => n ≤ e.2) = (table.rivals t n).ranking t := by
  rw [ranking, List.filter_map]
  rfl

/-- The first best of a table is the first best of every table with the same rivals. -/
theorem firstBest_of_rivals {c : Text} (first : FirstBest (table.ranking t) c n)
    (same : table'.rivals t n = table.rivals t n) : FirstBest (table'.ranking t) c n := by
  rw [firstBest_iff_filter, filter_ranking] at first ⊢
  rwa [same]

end Minor

/-- **The category of a text is the first best one.** The scores name the categories in the order of
the table. No category is chosen exactly if all of them score nothing, and otherwise it is the first
one with the highest score: the only one with a score, if there is only one. It stays chosen
whatever becomes of the entries that score less. -/
theorem category_is_first_best {table : KeywordTable} (distinct : (table.map Prod.fst).Nodup)
    (t : Text) :
    (table.scores t).map Prod.fst = table.map Prod.fst ∧
    (table.classify t = none ↔ ∀ e ∈ table.scores t, e.2 = 0) ∧
    (∀ c, table.classify t = some c ↔ ∃ n, 0 < n ∧ FirstBest (table.scores t) c n) ∧
    (∀ c n, (c, n) ∈ table.scores t → 0 < n → (∀ e ∈ table.scores t, e.1 ≠ c → e.2 = 0) →
      table.classify t = some c) ∧
    ∀ c n, table.classify t = some c → (c, n) ∈ table.scores t →
      ∀ table', Relation.ReflTransGen (MinorChange t n) table table' →
        table'.classify t = some c := by
  have keys : (table.ranking t).map Prod.fst = table.map Prod.fst := List.map_map
  have none : table.classify t = none ↔ ∀ e ∈ table.ranking t, e.2 = 0 := by
    rw [classify, bestAbove_eq_none_iff]
    simp only [Nat.le_zero]
  -- A name is scored once, so that the score of a category is the one it is chosen with.
  have once : ∀ {c n n'}, (c, n) ∈ table.ranking t → (c, n') ∈ table.ranking t → n = n' := by
    intro c n n' mem mem'
    have same := List.inj_on_of_nodup_map (keys ▸ distinct) mem mem' rfl
    exact congrArg Prod.snd same
  rw [scores_eq_ranking distinct]
  refine ⟨keys, none, fun c => bestAbove_eq_some_iff, ?_, ?_⟩
  · intro c n mem some others
    cases chosen : table.classify t with
    | none => exact absurd (none.mp chosen _ mem) (Nat.ne_of_gt some)
    | some c' =>
        obtain ⟨n', some', first⟩ := bestAbove_eq_some_iff.mp chosen
        by_contra other
        have zero := others _ first.mem fun same => other (congrArg _ same)
        exact absurd zero (Nat.ne_of_gt some')
  · intro c n chosen mem table' changes
    obtain ⟨n', some, first⟩ := bestAbove_eq_some_iff.mp chosen
    obtain rfl := once first.mem mem
    exact bestAbove_eq_some_iff.mpr
      ⟨_, some, firstBest_of_rivals first (rivals_eq_of_changes changes)⟩

/-- Of three categories the second and the third score the same, and the second is chosen. It stays
chosen when the first one, which scores less, is moved behind it and a category without keywords is
added. -/
theorem second_category_is_first_best :
    let shelf : Text × List Text := ("shelf".toList, ["book".toList])
    let trip : Text × List Text := ("trip".toList, ["map".toList, "rail".toList])
    let food : Text × List Text := ("food".toList, ["menu".toList, "MAP".toList, "Rail".toList])
    let bare : Text × List Text := ("bare".toList, [])
    let t := "Rail map of a book".toList
    (scores [shelf, trip, food] t).map Prod.snd = [1, 2, 2] ∧
      classify [shelf, trip, food] t = some "trip".toList ∧
      classify [trip, shelf, bare, food] t = some "trip".toList := by
  intro shelf trip food bare t
  have scored : scores [shelf, trip, food] t =
      [("shelf".toList, 1), ("trip".toList, 2), ("food".toList, 2)] := by decide
  have minor : score shelf.2 t < 2 ∧ score bare.2 t < 2 := by decide
  obtain ⟨-, -, best, -, stays⟩ := @category_is_first_best [shelf, trip, food] (by decide) t
  have chosen : classify [shelf, trip, food] t = some "trip".toList := by
    refine (best _).mpr ⟨2, by decide, ?_⟩
    rw [scored]
    exact ⟨[("shelf".toList, 1)], [("food".toList, 2)], rfl, by decide, by decide⟩
  have move : MinorChange t 2 [shelf, trip, food] [trip, shelf, food] :=
    @MinorChange.move t 2 [] [trip, food] [trip] [food] shelf minor.1 rfl
  have add : MinorChange t 2 [trip, shelf, food] [trip, shelf, bare, food] :=
    @MinorChange.add t 2 [trip, shelf] [food] bare minor.2
  have changes := (Relation.ReflTransGen.single move).tail add
  refine ⟨by rw [scored]; rfl, chosen, stays _ 2 chosen ?_ _ changes⟩
  rw [scored]
  decide

end KeywordTable

end Notebase
