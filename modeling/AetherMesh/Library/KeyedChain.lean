import Mathlib.Data.List.Basic

/-!
A key that is derived from another in steps: each step takes the key of the one before and a datum.
When no two of the calls collide, the last key tells the first key and all the data.
-/

namespace KeyedChain

variable {Key Datum : Type*}

def calls (step : Key → Datum → Key) : Key → List Datum → List (Key × Datum)
  | _, [] => []
  | key, datum :: later => (key, datum) :: calls step (step key datum) later

def Apart (step : Key → Datum → Key) (left right : List (Key × Datum)) : Prop :=
  ∀ call ∈ left, ∀ other ∈ right, step call.1 call.2 = step other.1 other.2 → call = other

theorem derived_injective {step : Key → Datum → Key} {key otherKey : Key} {data others : List Datum}
    (long : data.length = others.length)
    (apart : Apart step (calls step key data) (calls step otherKey others))
    (same : data.foldl step key = others.foldl step otherKey) :
    key = otherKey ∧ data = others := by
  induction data generalizing key otherKey others with
  | nil =>
      have empty := List.length_eq_zero_iff.mp long.symm
      subst empty
      exact ⟨same, rfl⟩
  | cons datum later ih =>
      cases others with
      | nil => cases long
      | cons other rest =>
          have inner : Apart step (calls step (step key datum) later)
              (calls step (step otherKey other) rest) := by
            intro call among call' among' collide
            exact apart call (List.mem_cons_of_mem _ among) call' (List.mem_cons_of_mem _ among')
              collide
          obtain ⟨keys, tails⟩ := ih (Nat.succ.inj long) inner same
          have heads := apart _ List.mem_cons_self _ List.mem_cons_self keys
          have parts := Prod.mk.inj heads
          exact ⟨parts.1, by rw [parts.2, tails]⟩

end KeyedChain
