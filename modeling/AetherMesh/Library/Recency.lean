import Mathlib.Algebra.BigOperators.Group.List.Basic
import Mathlib.Algebra.GroupWithZero.Nat
import Mathlib.Data.List.Dedup
import Mathlib.Data.List.Sort

/-!
Items in the order in which they were last used, and how many of the first of them have to go
until what is left fits a bound.
-/

namespace Recency

variable {α : Type*}

section Order

variable [DecidableEq α]

def byLastUse (uses : List α) : List α := uses.dedup

theorem byLastUse_snoc (uses : List α) (item : α) :
    byLastUse (uses ++ [item]) = (byLastUse uses).filter (· ≠ item) ++ [item] := by
  unfold byLastUse
  induction uses with
  | nil => simp
  | cons first rest ih =>
      rw [List.cons_append, List.dedup_cons, List.dedup_cons, ih]
      by_cases later : first ∈ rest
      · rw [if_pos (List.mem_append_left _ later), if_pos later]
      · by_cases same : first = item
        · subst same
          simp [later]
        · simp [later, same]

theorem mem_byLastUse {uses : List α} {item : α} : item ∈ byLastUse uses ↔ item ∈ uses :=
  List.mem_dedup

theorem byLastUse_nodup (uses : List α) : (byLastUse uses).Nodup := List.nodup_dedup uses

end Order

section Sizes

variable {size : α → Nat} {budget total : Nat} {order gone : List α}

/-- Items go one after the other while what is left exceeds the budget. -/
def evictions (size : α → Nat) (budget : Nat) : Nat → List α → List α
  | _, [] => []
  | total, item :: rest =>
      if budget < total then item :: evictions size budget (total - size item) rest else []

/-- The first items of the order, as few of them as bring the total within the budget, or all. -/
structure ShortestPrefix (size : α → Nat) (budget total : Nat) (order gone : List α) : Prop where
  first : gone <+: order
  enough : total ≤ budget + (gone.map size).sum ∨ gone = order
  shortest : ∀ fewer, fewer <+: gone → fewer ≠ gone → budget + (fewer.map size).sum < total

theorem evictions_shortest (fits : (order.map size).sum ≤ total) :
    ShortestPrefix size budget total order (evictions size budget total order) := by
  induction order generalizing total with
  | nil =>
      refine ⟨List.prefix_refl _, .inr rfl, ?_⟩
      intro fewer first other
      exact absurd (List.prefix_nil.mp first) other
  | cons item rest ih =>
      rw [List.map_cons, List.sum_cons] at fits
      by_cases exceeds : budget < total
      · have later := @ih (total - size item) (by omega)
        rw [evictions, if_pos exceeds]
        refine ⟨(List.prefix_cons_inj item).mpr later.first, ?_, ?_⟩
        · rw [List.map_cons, List.sum_cons]
          rcases later.enough with enough | all
          · exact .inl (by omega)
          · exact .inr (by rw [all])
        · intro fewer first other
          cases fewer with
          | nil => simpa using exceeds
          | cons head tail =>
              obtain ⟨rfl, inner⟩ := List.cons_prefix_cons.mp first
              have short := later.shortest tail inner fun same => other (by rw [same])
              rw [List.map_cons, List.sum_cons]
              omega
      · rw [evictions, if_neg exceeds]
        refine ⟨List.nil_prefix, .inl (by simpa using exceeds), ?_⟩
        intro fewer first other
        exact absurd (List.prefix_nil.mp first) other

end Sizes

end Recency
