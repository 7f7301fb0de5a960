import AetherMesh.Library.Runs

/-!
Machines that run down. Some labels are work and make a number smaller, and no other
label makes it larger. As long as a state is not settled, some work can be done in it.
-/

namespace Descent

open Runs

variable {State Label : Type*} {next : State → Label → Option State} {work : Label → Bool}
  {left : State → Nat} {Inv Settled : State → Prop} {start final : State} {trace : List Label}

def effort (work : Label → Bool) (trace : List Label) : Nat := trace.countP work

theorem effort_cons (label : Label) (rest : List Label) :
    effort work (label :: rest) = effort work rest + (work label).toNat := by
  unfold effort
  rw [List.countP_cons]
  cases work label <;> rfl

theorem effort_bounded (initial : Inv start)
    (kept : ∀ state label after, Inv state → next state label = some after → Inv after)
    (falls : ∀ state label after, Inv state → next state label = some after →
      left after + (work label).toNat ≤ left state)
    (ran : run next start trace = some final) : effort work trace + left final ≤ left start := by
  induction trace generalizing start with
  | nil =>
      obtain rfl := Option.some.inj ran
      simp [effort]
  | cons label rest ih =>
      simp only [run] at ran
      obtain ⟨after, moved, later⟩ := Option.bind_eq_some_iff.mp ran
      have rest := ih (kept start label after initial moved) later
      have first := falls start label after initial moved
      rw [effort_cons]
      omega

/-- Work alone settles the machine, in no more steps than are left. -/
theorem settles (initial : Inv start)
    (kept : ∀ state label after, Inv state → work label = true → next state label = some after →
      Inv after)
    (falls : ∀ state label after, Inv state → next state label = some after →
      left after + (work label).toNat ≤ left state)
    (goes : ∀ state, Inv state → ¬ Settled state →
      ∃ label after, work label = true ∧ next state label = some after) :
    ∃ trace final, (∀ label ∈ trace, work label = true) ∧ trace.length ≤ left start ∧
      run next start trace = some final ∧ Inv final ∧ Settled final := by
  generalize size : left start = bound
  induction bound using Nat.strongRecOn generalizing start with
  | ind bound ih =>
      by_cases settled : Settled start
      · exact ⟨[], start, by simp, by simp, rfl, initial, settled⟩
      · obtain ⟨label, after, works, moved⟩ := goes start initial settled
        have less := falls start label after initial moved
        rw [works, Bool.toNat_true] at less
        obtain ⟨rest, final, also, short, ran, ends⟩ :=
          ih (left after) (by omega) (kept start label after initial works moved) rfl
        refine ⟨label :: rest, final, ?_, ?_, ?_, ends⟩
        · intro other member
          rcases List.mem_cons.mp member with rfl | later
          · exact works
          · exact also other later
        · rw [List.length_cons]
          omega
        · simp only [run, moved, Option.bind_some]
          exact ran

end Descent
