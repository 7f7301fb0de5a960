import Mathlib.Data.Prod.Lex
import Mathlib.Order.OrderDual

/-!
The best item of a list, found by comparing one item after the other with the best so far. A
comparison can fail, and then there is no answer at all.
-/

namespace Selection

variable {α Rank : Type*} [LinearOrder Rank]

def reduceM (pick : α → α → Option α) : List α → Option (Option α)
  | [] => some none
  | first :: rest => (rest.foldlM pick first).map some

def minBy (cmp : α → α → Option Ordering) : List α → Option (Option α) :=
  reduceM fun best item => (cmp best item).map fun order => if order = .gt then item else best

def maxBy (cmp : α → α → Option Ordering) : List α → Option (Option α) :=
  reduceM fun best item => (cmp best item).map fun order => if order = .gt then best else item

structure Least (rank : α → Rank) (items : List α) (best : α) : Prop where
  member : best ∈ items
  least : ∀ other ∈ items, rank best ≤ rank other

def Picks (rank : α → Rank) (pick : α → α → Option α) (left right : α) : Prop :=
  ∃ best, pick left right = some best ∧ (best = left ∨ best = right) ∧
    rank best ≤ rank left ∧ rank best ≤ rank right

variable {rank : α → Rank} {pick : α → α → Option α} {cmp : α → α → Option Ordering}
  {items : List α} {left right : α}

theorem picks_min (compared : cmp left right = some (compare (rank left) (rank right))) :
    Picks rank (fun best item => (cmp best item).map fun order => if order = .gt then item else best)
      left right := by
  rw [Picks, compared, Option.map_some]
  by_cases greater : compare (rank left) (rank right) = .gt
  · rw [if_pos greater]
    exact ⟨right, rfl, .inr rfl, (compare_gt_iff_gt.mp greater).le, le_refl _⟩
  · rw [if_neg greater]
    exact ⟨left, rfl, .inl rfl, le_refl _, compare_le_iff_le.mp greater⟩

theorem picks_max (compared : cmp left right = some (compare (rank right) (rank left))) :
    Picks rank (fun best item => (cmp best item).map fun order => if order = .gt then best else item)
      left right := by
  rw [Picks, compared, Option.map_some]
  by_cases greater : compare (rank right) (rank left) = .gt
  · rw [if_pos greater]
    exact ⟨left, rfl, .inl rfl, le_refl _, (compare_gt_iff_gt.mp greater).le⟩
  · rw [if_neg greater]
    exact ⟨right, rfl, .inr rfl, compare_le_iff_le.mp greater, le_refl _⟩

theorem foldlM_least {first : α}
    (picks : ∀ left ∈ first :: items, ∀ right ∈ first :: items, Picks rank pick left right) :
    ∃ best, items.foldlM pick first = some best ∧ Least rank (first :: items) best := by
  induction items generalizing first with
  | nil => exact ⟨first, rfl, List.mem_singleton.mpr rfl, by simp⟩
  | cons second rest ih =>
      obtain ⟨winner, picked, either, below, beside⟩ :=
        picks first List.mem_cons_self second (List.mem_cons_of_mem _ List.mem_cons_self)
      have within : ∀ item ∈ winner :: rest, item ∈ first :: second :: rest := by
        intro item member
        rcases List.mem_cons.mp member with rfl | later
        · rcases either with rfl | rfl
          · exact List.mem_cons_self
          · exact List.mem_cons_of_mem _ List.mem_cons_self
        · exact List.mem_cons_of_mem _ (List.mem_cons_of_mem _ later)
      obtain ⟨best, found, member, least⟩ := @ih winner fun left one right two =>
        picks left (within left one) right (within right two)
      refine ⟨best, ?_, within best member, ?_⟩
      · rw [List.foldlM_cons, picked]
        exact found
      · have won := least winner List.mem_cons_self
        intro other listed
        rcases List.mem_cons.mp listed with rfl | later
        · exact won.trans below
        · rcases List.mem_cons.mp later with rfl | last
          · exact won.trans beside
          · exact least other (List.mem_cons_of_mem _ last)

theorem reduceM_least
    (picks : ∀ left ∈ items, ∀ right ∈ items, Picks rank pick left right) :
    items = [] ∧ reduceM pick items = some none ∨
      ∃ best, reduceM pick items = some (some best) ∧ Least rank items best := by
  cases items with
  | nil => exact .inl ⟨rfl, rfl⟩
  | cons first rest =>
      obtain ⟨best, found, least⟩ := foldlM_least picks
      exact .inr ⟨best, by rw [reduceM, found]; rfl, least⟩

/-- An item that cannot be compared fails the selection unless it is alone. -/
theorem reduceM_fails {bad : α} (several : 1 < items.length) (member : bad ∈ items)
    (before : ∀ other, pick bad other = none) (after : ∀ other, pick other bad = none) :
    reduceM pick items = none := by
  have stuck (rest : List α) (first : α) (within : bad ∈ rest) : rest.foldlM pick first = none := by
    induction rest generalizing first with
    | nil => cases within
    | cons second rest ih =>
        rw [List.foldlM_cons]
        rcases List.mem_cons.mp within with rfl | later
        · rw [after first]
          rfl
        · cases pick first second with
          | none => rfl
          | some winner => exact ih winner later
  match items with
  | first :: second :: rest =>
      rw [reduceM]
      rcases List.mem_cons.mp member with rfl | later
      · rw [List.foldlM_cons, before second]
        rfl
      · rw [stuck _ first later]
        rfl
  | [] | [_] => simp at several

end Selection
