import Mathlib.Data.Fintype.Card
import Mathlib.Data.Fintype.EquivFin
import Mathlib.Data.List.Induction
import Mathlib.Logic.Relation
import Mathlib.Order.RelSeries
import Mathlib.Order.WellFounded

/-!
Items that need other items first. An order respects the needs when each item comes after
all that it needs; items from which a cycle of needs can be reached are in no such order.
Taking the least of the items that are free at each point gives the least of the orders.
Levels that rise along each need by no more than they have to are lengths of longest paths.
-/

namespace Precedence

open Relation

variable {α : Type*} {needs : α → α → Prop} {order other : List α} {item : α}

def Respects (needs : α → α → Prop) (order : List α) : Prop :=
  ∀ front item back, order = front ++ item :: back → ∀ need, needs item need → need ∈ front

def Doomed (needs : α → α → Prop) (item : α) : Prop :=
  ∃ knot, ReflTransGen needs item knot ∧ TransGen needs knot knot

theorem not_self_of_acc {relation : α → α → Prop} (grounded : Acc relation item) :
    ¬ relation item item := by
  induction grounded with
  | intro item _ ih => exact fun self => ih item self self

theorem not_doomed_of_acc (grounded : Acc (fun need item => needs item need) item) :
    ¬ Doomed needs item := by
  rintro ⟨knot, path, cycle⟩
  have reached : Acc (fun need item => needs item need) knot := by
    clear cycle
    induction path with
    | refl => exact grounded
    | tail _ step ih => exact ih.inv step
  exact not_self_of_acc reached.transGen (transGen_swap.mpr cycle)

theorem Respects.acc (respects : Respects needs order) (member : item ∈ order) :
    Acc (fun need item => needs item need) item := by
  have fronts : ∀ front back, order = front ++ back → ∀ item ∈ front,
      Acc (fun need item => needs item need) item := by
    intro front
    induction front using List.reverseRecOn with
    | nil =>
        intro back _ item member
        cases member
    | append_singleton front last ih =>
        intro back split item member
        have shape : order = front ++ last :: back := by simpa using split
        rcases List.mem_append.mp member with earlier | same
        · exact ih (last :: back) shape item earlier
        · rw [List.mem_singleton.mp same]
          exact ⟨last, fun need needed =>
            ih (last :: back) shape need (respects front last back shape need needed)⟩
  exact fronts order [] (List.append_nil order).symm item member

theorem Respects.not_doomed (respects : Respects needs order) (member : item ∈ order) :
    ¬ Doomed needs item :=
  not_doomed_of_acc (respects.acc member)

/-- Items that each need another one of them can reach a cycle. -/
theorem doomed_of_blocked (stuck : Finset α)
    (blocked : ∀ item ∈ stuck, ∃ need ∈ stuck, needs item need) (member : item ∈ stuck) :
    Doomed needs item := by
  by_contra sound
  let Reached := { other : stuck // ReflTransGen needs item other.1 }
  let earlier (left right : Reached) : Prop := TransGen needs right.1.1 left.1.1
  have trans : IsTrans Reached earlier := ⟨fun _ _ _ first second => second.trans first⟩
  have irrefl : Std.Irrefl earlier := ⟨fun knot cycle => sound ⟨knot.1.1, knot.2, cycle⟩⟩
  have finite : Finite Reached :=
    inferInstanceAs (Finite { other : stuck // ReflTransGen needs item other.1 })
  have grounded := Finite.wellFounded_of_trans_of_irrefl earlier
  obtain ⟨last, -, least⟩ := grounded.has_min Set.univ
    ⟨⟨⟨item, member⟩, ReflTransGen.refl⟩, trivial⟩
  obtain ⟨need, inside, needed⟩ := blocked last.1.1 last.1.2
  exact least ⟨⟨need, inside⟩, last.2.tail needed⟩ trivial (TransGen.single needed)

section Levels

abbrev Path (needs : α → α → Prop) := RelSeries {pair : α × α | needs pair.2 pair.1}

def Ends (needs : α → α → Prop) (item : α) (length : Nat) : Prop :=
  ∃ path : Path needs, path.last = item ∧ path.length = length

structure Levelled (needs : α → α → Prop) (level : α → Nat) : Prop where
  below : ∀ item need, needs item need → level need < level item
  tight : ∀ item lower, level item = lower + 1 → ∃ need, needs item need ∧ level need = lower

variable {level : α → Nat}

theorem Levelled.length_le (levelled : Levelled needs level) (path : Path needs) :
    path.length ≤ level path.last := by
  induction path using RelSeries.inductionOn' with
  | singleton item => exact Nat.zero_le _
  | snoc path item needed ih =>
      have rises := levelled.below item path.last needed
      have longer : (path.snoc item needed).length = path.length + 1 := rfl
      rw [longer, RelSeries.last_snoc]
      omega

theorem Levelled.ends (levelled : Levelled needs level) (item : α) :
    Ends needs item (level item) := by
  generalize height : level item = lower
  induction lower generalizing item with
  | zero => exact ⟨RelSeries.singleton _ item, rfl, rfl⟩
  | succ lower ih =>
      obtain ⟨need, needed, below⟩ := levelled.tight item lower height
      obtain ⟨path, last, length⟩ := ih need below
      subst last
      exact ⟨path.snoc item needed, RelSeries.last_snoc _ _ _, congrArg (· + 1) length⟩

theorem Levelled.longest (levelled : Levelled needs level) (item : α) :
    IsGreatest {length | Ends needs item length} (level item) := by
  refine ⟨levelled.ends item, ?_⟩
  rintro _ ⟨path, rfl, rfl⟩
  exact levelled.length_le path

/-- No level between the lowest and that of the item is left out. -/
theorem Levelled.descends (levelled : Levelled needs level) {lower : Nat}
    (within : lower ≤ level item) : ∃ need, ReflTransGen needs item need ∧ level need = lower := by
  induction height : level item - lower generalizing item with
  | zero => exact ⟨item, ReflTransGen.refl, by omega⟩
  | succ height ih =>
      obtain ⟨need, needed, below⟩ := levelled.tight item (level item - 1) (by omega)
      obtain ⟨last, path, found⟩ := @ih need (by omega) (by omega)
      exact ⟨last, path.head needed, found⟩

end Levels

section Greedy

variable [LinearOrder α] {member : α → Prop}

def Greedy (needs : α → α → Prop) (member : α → Prop) (order : List α) : Prop :=
  ∀ front item back, order = front ++ item :: back →
    ∀ rival, member rival → rival ∉ front → (∀ need, needs rival need → need ∈ front) → item ≤ rival

theorem eq_or_lt_of_first {left right : List α} (same : left.length = right.length)
    (first : ∀ front item rival back rest, left = front ++ item :: back →
      right = front ++ rival :: rest → item ≤ rival) : left = right ∨ left < right := by
  induction left generalizing right with
  | nil => exact .inl (List.length_eq_zero_iff.mp same.symm).symm
  | cons item back ih =>
      cases right with
      | nil => cases same
      | cons rival rest =>
          rcases lt_or_eq_of_le (first [] item rival back rest rfl rfl) with before | equal
          · exact .inr (List.Lex.rel before)
          · subst equal
            rcases ih (Nat.succ.inj same) (fun front next other behind tail here there =>
              first (item :: front) next other behind tail (by rw [here]; rfl) (by rw [there]; rfl))
              with equal | less
            · exact .inl (by rw [equal])
            · exact .inr (List.Lex.cons less)

theorem Greedy.least (greedy : Greedy needs member order) (respects : Respects needs other)
    (unique : other.Nodup) (inside : ∀ item ∈ other, member item)
    (same : order.length = other.length) : order = other ∨ order < other := by
  refine eq_or_lt_of_first same ?_
  intro front item rival back rest here there
  refine greedy front item back here rival ?_ ?_ (respects front rival rest there)
  · refine inside rival ?_
    rw [there]
    exact List.mem_append_right _ List.mem_cons_self
  · rw [there] at unique
    intro earlier
    exact (List.nodup_append.mp unique).2.2 rival earlier rival List.mem_cons_self rfl

end Greedy

end Precedence
