import Mathlib.Algebra.BigOperators.Group.Finset.Basic
import Mathlib.Algebra.Order.BigOperators.Group.Finset

/-!
Sums over the parts of a system, and how many of its parts satisfy a test. A step
that changes one part shifts the sum by the difference at that part.
-/

namespace Counting

/-- A test that is no weaker and passes as many is the same test. -/
theorem countP_eq_iff {α : Type*} {entries : List α} {strong weak : α → Bool}
    (weaker : ∀ entry ∈ entries, strong entry = true → weak entry = true) :
    entries.countP strong = entries.countP weak ↔ ∀ entry ∈ entries, strong entry = weak entry := by
  constructor
  · intro same
    induction entries with
    | nil => exact fun _ member => absurd member List.not_mem_nil
    | cons first rest ih =>
        have later := fun entry member => weaker entry (List.mem_cons_of_mem first member)
        have fewer := List.countP_mono_left later
        have here := weaker first List.mem_cons_self
        rw [List.countP_cons, List.countP_cons] at same
        have both : strong first = weak first := by
          cases passes : strong first with
          | true => exact (here passes).symm
          | false =>
              cases other : weak first with
              | false => rfl
              | true =>
                  simp only [passes, other, Bool.false_eq_true, if_false, if_true] at same
                  omega
        rw [both] at same
        intro entry member
        rcases List.mem_cons.mp member with rfl | member
        · exact both
        · exact ih later (Nat.add_right_cancel same) entry member
  · intro same
    exact List.countP_congr fun entry member => by rw [same entry member]

theorem sum_shift {Place : Type*} [DecidableEq Place] {places : Finset Place} {place : Place}
    (member : place ∈ places) {old new : Place → Nat}
    (others : ∀ other ≠ place, new other = old other) :
    ∑ other ∈ places, new other + old place = ∑ other ∈ places, old other + new place := by
  have rest : ∑ other ∈ places.erase place, new other = ∑ other ∈ places.erase place, old other :=
    Finset.sum_congr rfl fun other listed => others other (Finset.ne_of_mem_erase listed)
  have left := Finset.add_sum_erase places new member
  have right := Finset.add_sum_erase places old member
  omega

def tally (count : Nat) (test : Nat → Bool) : Nat :=
  ∑ part ∈ Finset.range count, (test part).toNat

variable {count part : Nat} {test old new : Nat → Bool}

theorem tally_shift (inside : part < count) (others : ∀ other ≠ part, new other = old other) :
    tally count new + (old part).toNat = tally count old + (new part).toNat :=
  @sum_shift Nat _ (Finset.range count) part (Finset.mem_range.mpr inside)
    (fun other => (old other).toNat) (fun other => (new other).toNat)
    (fun other different => by rw [others other different])

theorem tally_update {Standing : Type*} (inside : part < count) (test : Standing → Bool)
    (standing : Nat → Standing) (new : Standing) :
    tally count (fun other => test (Function.update standing part new other)) +
        (test (standing part)).toNat =
      tally count (fun other => test (standing other)) + (test new).toNat := by
  have shifted := @tally_shift count part (fun other => test (standing other))
    (fun other => test (Function.update standing part new other)) inside
    (fun other different => by rw [Function.update_of_ne different])
  rwa [Function.update_self] at shifted

theorem tally_eq_zero : tally count test = 0 ↔ ∀ part < count, test part = false := by
  simp [tally, Finset.sum_eq_zero_iff, Bool.toNat_eq_zero]

theorem one_le_tally (inside : part < count) (passes : test part = true) :
    1 ≤ tally count test := by
  by_contra none
  have zero : tally count test = 0 := by omega
  rw [tally_eq_zero.mp zero part inside] at passes
  cases passes

theorem only_passing (inside : part < count) (passes : test part = true)
    (alone : tally count test ≤ 1) {other : Nat} (bound : other < count)
    (also : test other = true) : other = part := by
  by_contra different
  have shifted := @tally_shift count part test (Function.update test part false) inside
    (fun place apart => Function.update_of_ne apart _ _)
  have left : 1 ≤ tally count (Function.update test part false) :=
    one_le_tally bound (by rw [Function.update_of_ne different]; exact also)
  rw [passes, Function.update_self] at shifted
  simp only [Bool.toNat_true, Bool.toNat_false] at shifted
  omega

def weigh {Standing : Type*} (count : Nat) (weight : Standing → Nat) (standing : Nat → Standing) :
    Nat :=
  ∑ part ∈ Finset.range count, weight (standing part)

section Weigh

variable {Standing : Type*} {weight : Standing → Nat} {standing : Nat → Standing}

theorem weigh_update (inside : part < count) (weight : Standing → Nat) (standing : Nat → Standing)
    (new : Standing) :
    weigh count weight (Function.update standing part new) + weight (standing part) =
      weigh count weight standing + weight new := by
  have shifted := @sum_shift Nat _ (Finset.range count) part (Finset.mem_range.mpr inside)
    (fun other => weight (standing other))
    (fun other => weight (Function.update standing part new other))
    (fun other different => by rw [Function.update_of_ne different])
  rwa [Function.update_self] at shifted

theorem weigh_enter (count : Nat) (weight : Standing → Nat) (standing : Nat → Standing)
    (new : Standing) :
    weigh (count + 1) weight (Function.update standing count new) =
      weigh count weight standing + weight new := by
  unfold weigh
  rw [Finset.sum_range_succ, Function.update_self]
  congr 1
  refine Finset.sum_congr rfl fun other listed => ?_
  have below := Finset.mem_range.mp listed
  rw [Function.update_of_ne (by omega)]

theorem le_weigh (inside : part < count) : weight (standing part) ≤ weigh count weight standing :=
  Finset.single_le_sum (f := fun other => weight (standing other)) (fun _ _ => Nat.zero_le _)
    (Finset.mem_range.mpr inside)

theorem add_le_weigh (inside : part < count) {other : Nat} (bound : other < count)
    (different : other ≠ part) :
    weight (standing part) + weight (standing other) ≤ weigh count weight standing := by
  have smaller : ∑ place ∈ {part, other}, weight (standing place) ≤
      weigh count weight standing := by
    refine Finset.sum_le_sum_of_subset fun place member => ?_
    rcases Finset.mem_insert.mp member with rfl | last
    · exact Finset.mem_range.mpr inside
    · obtain rfl := Finset.mem_singleton.mp last
      exact Finset.mem_range.mpr bound
  rwa [Finset.sum_pair different.symm] at smaller

theorem weigh_eq_zero : weigh count weight standing = 0 ↔ ∀ part < count, weight (standing part) = 0 := by
  simp [weigh, Finset.sum_eq_zero_iff]

/-- Not all parts count for one when one of them counts for nothing. -/
theorem weigh_lt (inside : part < count) (most : ∀ other, weight (standing other) ≤ 1)
    (nothing : weight (standing part) = 0) : weigh count weight standing < count := by
  have member := Finset.mem_range.mpr inside
  have rest : ∑ other ∈ (Finset.range count).erase part, weight (standing other) ≤
      ((Finset.range count).erase part).card * 1 :=
    Finset.sum_le_card_nsmul _ _ 1 fun other _ => most other
  have whole := Finset.add_sum_erase (Finset.range count) (fun other => weight (standing other)) member
  rw [Finset.card_erase_of_mem member, Finset.card_range] at rest
  unfold weigh
  omega

end Weigh

end Counting
