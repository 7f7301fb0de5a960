import AetherMesh.Core.WorkflowOrder
import AetherMesh.Library.Precedence

/-!
Which order it is. The ready steps are kept sorted, so the first of them is the least step
that can be placed. The steps that are left when none is ready are those from which a cycle
can be reached.
-/

namespace AetherMesh.Workflow

open Precedence Relation

def Needs (workflow : Workflow) (step dependency : Nat) : Prop :=
  dependency ∈ workflow.dependsOn step

structure WellNamed (workflow : Workflow) : Prop where
  inside : ∀ step dependency, workflow.Needs step dependency → dependency < workflow.len
  other : ∀ step, ¬ workflow.Needs step step

def Acyclic (workflow : Workflow) : Prop := ∀ step, ¬ TransGen workflow.Needs step step

structure Topological (workflow : Workflow) (order : List Nat) : Prop where
  perm : order.Perm (List.range workflow.len)
  respects : Respects workflow.Needs order

/-- `settle` as the source computes it: an index out of range and a counter below zero panic. -/
def settleChecked (plan : Plan) (dependent : Nat) : Option Plan :=
  match plan.remaining[dependent]? with
  | some (_ + 1) => some (settle plan dependent)
  | _ => none

def placeChecked (table : List (List Nat)) (index : Nat) (rest : List Nat) (plan : Plan) :
    Option Plan :=
  match table[index]? with
  | some dependents =>
      dependents.foldlM settleChecked { plan with ready := rest, order := plan.order ++ [index] }
  | none => none

def orderLoopChecked (table : List (List Nat)) : Nat → Plan → Option Plan
  | 0, plan => some plan
  | fuel + 1, plan =>
      match plan.ready with
      | [] => some plan
      | index :: rest => (placeChecked table index rest plan).bind (orderLoopChecked table fuel)

variable {workflow : Workflow} {plan : Plan} {index : Nat} {rest : List Nat}

theorem foldlM_settleChecked (dependents : List Nat) (plan : Plan)
    (inside : ∀ item ∈ dependents, item < plan.remaining.length)
    (enough : ∀ item count, plan.remaining[item]? = some count → dependents.count item ≤ count) :
    dependents.foldlM settleChecked plan = some (dependents.foldl settle plan) := by
  induction dependents generalizing plan with
  | nil => rfl
  | cons dependent others ih =>
      have here := inside dependent List.mem_cons_self
      have found := List.getElem?_eq_getElem here
      have positive := enough dependent _ found
      rw [List.count_cons_self] at positive
      have checked : settleChecked plan dependent = some (settle plan dependent) := by
        rw [settleChecked, found]
        cases value : plan.remaining[dependent] with
        | zero => omega
        | succ left => rfl
      rw [List.foldlM_cons, checked, List.foldl_cons]
      refine ih (settle plan dependent) ?_ ?_
      · intro item listed
        have same := foldl_settle_length [dependent] plan
        rw [List.foldl_cons, List.foldl_nil] at same
        rw [same]
        exact inside item (List.mem_cons_of_mem _ listed)
      · intro item count lowered
        rw [settle_remaining] at lowered
        obtain ⟨old, before, rfl⟩ := Option.map_eq_some_iff.mp lowered
        have fits := enough item old before
        rw [List.count_cons] at fits
        by_cases same : dependent = item
        · rw [if_pos (beq_iff_eq.mpr same)] at fits
          rw [if_pos same]
          omega
        · rw [if_neg (by simpa using same)] at fits
          rw [if_neg same]
          omega

theorem dependentsTable_length (workflow : Workflow) :
    workflow.dependentsTable.length = workflow.len := by
  have keeps : ∀ (entries : List (Step × Nat)) (table : List (List Nat)),
      (entries.foldl (fun table entry => entry.1.dependsOn.foldl (mark entry.2) table)
        table).length = table.length := by
    intro entries
    induction entries with
    | nil => exact fun _ => rfl
    | cons entry others ih =>
        intro table
        rw [List.foldl_cons, ih, foldl_mark_length]
  rw [dependentsTable, keeps, List.length_replicate]

theorem Sound.placeChecked (sound : Sound workflow plan) (ready : plan.ready = index :: rest) :
    Workflow.placeChecked workflow.dependentsTable index rest plan =
      some (Workflow.place workflow.dependentsTable index rest plan) := by
  have inside : index < workflow.dependentsTable.length := by
    rw [dependentsTable_length]
    exact sound.bound (.inr (by simp [ready]))
  have row : workflow.dependentsTable[index]? = some (workflow.dependentsTable.getD index []) := by
    rw [List.getD_eq_getElem?_getD, List.getElem?_eq_getElem inside]
    rfl
  rw [Workflow.placeChecked, row]
  refine foldlM_settleChecked _ _ ?_ (sound.enough ready)
  intro item listed
  change item < plan.remaining.length
  rw [sound.size]
  have counted := List.count_pos_iff.mpr listed
  rw [sound.named ready] at counted
  exact lt_of_mem_dependsOn (List.count_pos_iff.mp counted)

theorem orderLoopChecked_eq (fuel : Nat) (plan : Plan) (sound : Sound workflow plan) :
    orderLoopChecked workflow.dependentsTable fuel plan =
      some (orderLoop workflow.dependentsTable fuel plan) := by
  induction fuel generalizing plan with
  | zero => rfl
  | succ fuel ih =>
      rw [orderLoopChecked, orderLoop]
      cases ready : plan.ready with
      | nil => rfl
      | cons index rest =>
          dsimp only
          rw [sound.placeChecked ready, Option.bind_some]
          exact ih _ (sound.place ready)

theorem Sound.mem_ready (sound : Sound workflow plan) (inside : index < workflow.len)
    (unplaced : index ∉ plan.order)
    (free : ∀ dependency ∈ workflow.dependsOn index, dependency ∈ plan.order) :
    index ∈ plan.ready := by
  have zero : plan.remaining[index]? = some 0 := by
    rw [sound.counted index inside, Option.some.injEq, List.countP_eq_zero]
    intro dependency named
    simpa using free dependency named
  have placed := sound.placed index
  rw [if_pos zero, List.count_eq_zero_of_not_mem unplaced] at placed
  exact List.count_pos_iff.mp (by omega)

structure Frugal (workflow : Workflow) (plan : Plan) : Prop where
  sorted : plan.ready.Pairwise (· ≤ ·)
  greedy : Greedy workflow.Needs (· < workflow.len) plan.order

theorem settle_sorted {dependent : Nat} (sorted : plan.ready.Pairwise (· ≤ ·)) :
    (settle plan dependent).ready.Pairwise (· ≤ ·) := by
  unfold settle
  dsimp only
  split
  · exact List.Pairwise.orderedInsert dependent _ sorted
  · exact sorted

theorem foldl_settle_sorted (dependents : List Nat) (plan : Plan)
    (sorted : plan.ready.Pairwise (· ≤ ·)) :
    (dependents.foldl settle plan).ready.Pairwise (· ≤ ·) := by
  induction dependents generalizing plan with
  | nil => exact sorted
  | cons dependent others ih => exact ih _ (settle_sorted sorted)

theorem Frugal.place (frugal : Frugal workflow plan) (sound : Sound workflow plan)
    (ready : plan.ready = index :: rest) :
    Frugal workflow (Workflow.place workflow.dependentsTable index rest plan) := by
  have sorted := frugal.sorted
  rw [ready, List.pairwise_cons] at sorted
  refine ⟨foldl_settle_sorted _ _ sorted.2, ?_⟩
  intro front item back split rival inside unplaced free
  rw [place_order] at split
  rcases Runs.snoc_split split with ⟨rfl, rfl, -⟩ | ⟨shorter, -, old⟩
  · have waiting := sound.mem_ready inside unplaced free
    rw [ready, List.mem_cons] at waiting
    rcases waiting with same | later
    · exact Nat.le_of_eq same.symm
    · exact sorted.1 rival later
  · exact frugal.greedy front item shorter old rival inside unplaced free

theorem orderLoop_frugal (fuel : Nat) (plan : Plan) (sound : Sound workflow plan)
    (frugal : Frugal workflow plan) :
    Frugal workflow (orderLoop workflow.dependentsTable fuel plan) := by
  induction fuel generalizing plan with
  | zero => exact frugal
  | succ fuel ih =>
      rw [orderLoop]
      cases ready : plan.ready with
      | nil => exact frugal
      | cons index rest => exact ih _ (sound.place ready) (frugal.place sound ready)

theorem finalPlan_frugal (workflow : Workflow) : Frugal workflow workflow.finalPlan := by
  refine orderLoop_frugal _ _ (firstPlan_sound workflow) ⟨?_, ?_⟩
  · exact (List.pairwise_lt_range.imp Nat.le_of_lt).filter _
  · intro front item back split
    cases front with
    | nil => cases split
    | cons first others => cases split

theorem order_topological {steps : List Nat} (ordered : workflow.order = .ok steps) :
    Topological workflow steps :=
  ⟨order_perm ordered, fun _ _ _ split => order_later ordered split⟩

theorem order_least {steps other : List Nat} (ordered : workflow.order = .ok steps)
    (topological : Topological workflow other) : steps = other ∨ steps < other := by
  have greedy := (finalPlan_frugal workflow).greedy
  rw [← (order_eq_ok ordered).1] at greedy
  refine greedy.least topological.respects ?_ ?_ ?_
  · exact topological.perm.nodup_iff.mpr List.nodup_range
  · exact fun item member => List.mem_range.mp (topological.perm.subset member)
  · rw [topological.perm.length_eq, (order_perm ordered).length_eq]

theorem placed_not_doomed (placed : index ∈ workflow.finalPlan.order) :
    ¬ Doomed workflow.Needs index := by
  have sound := (finalPlan_sound workflow).1
  exact Respects.not_doomed (fun front item back split => sound.later front item back split) placed

theorem unplaced_doomed (named : WellNamed workflow) (inside : index < workflow.len)
    (unplaced : index ∉ workflow.finalPlan.order) : Doomed workflow.Needs index := by
  obtain ⟨sound, done⟩ := finalPlan_sound workflow
  let stuck := (Finset.range workflow.len).filter (· ∉ workflow.finalPlan.order)
  refine doomed_of_blocked stuck ?_ (Finset.mem_filter.mpr ⟨Finset.mem_range.mpr inside, unplaced⟩)
  intro step member
  obtain ⟨below, left⟩ := Finset.mem_filter.mp member
  by_contra free
  have waiting := sound.mem_ready (Finset.mem_range.mp below) left (by
    intro dependency needed
    by_contra missing
    exact free ⟨dependency, Finset.mem_filter.mpr
      ⟨Finset.mem_range.mpr (named.inside step dependency needed), missing⟩, needed⟩)
  rw [done] at waiting
  cases waiting

theorem unplaced_of_incomplete (incomplete : workflow.finalPlan.order.length ≠ workflow.len) :
    ∃ index < workflow.len, index ∉ workflow.finalPlan.order := by
  by_contra all
  have sound := (finalPlan_sound workflow).1
  have covered : List.range workflow.len ⊆ workflow.finalPlan.order := by
    intro index member
    by_contra missing
    exact all ⟨index, List.mem_range.mp member, missing⟩
  have most := sound.length_le
  have least := (List.subperm_of_subset List.nodup_range covered).length_le
  rw [List.length_range] at least
  omega

theorem order_ok_iff (named : WellNamed workflow) :
    (∃ steps, workflow.order = .ok steps) ↔ workflow.Acyclic := by
  constructor
  · rintro ⟨steps, ordered⟩ step cycle
    obtain ⟨need, first, -⟩ := TransGen.head'_iff.mp cycle
    have inside : step < workflow.len := lt_of_mem_dependsOn first
    have placed : step ∈ workflow.finalPlan.order := by
      rw [← (order_eq_ok ordered).1]
      exact (order_perm ordered).mem_iff.mpr (List.mem_range.mpr inside)
    exact placed_not_doomed placed ⟨step, ReflTransGen.refl, cycle⟩
  · intro acyclic
    refine ⟨workflow.finalPlan.order, if_pos ?_⟩
    by_contra incomplete
    obtain ⟨index, inside, unplaced⟩ := unplaced_of_incomplete incomplete
    obtain ⟨knot, -, cycle⟩ := unplaced_doomed named inside unplaced
    exact acyclic knot cycle

theorem order_error {error : WorkflowError} (named : WellNamed workflow)
    (failed : workflow.order = .error error) :
    ∃ stuck, error = .cycle stuck ∧ stuck.Pairwise (· < ·) ∧
      ∀ step, step ∈ stuck ↔ step < workflow.len ∧ Doomed workflow.Needs step := by
  unfold order at failed
  dsimp only at failed
  split at failed
  · cases failed
  · refine ⟨_, (Except.error.inj failed).symm, List.pairwise_lt_range.filter _, ?_⟩
    intro step
    rw [List.mem_filter, List.mem_range, decide_eq_true_iff]
    refine and_congr_right fun inside => ⟨unplaced_doomed named inside, ?_⟩
    exact fun doomed placed => placed_not_doomed placed doomed

/-- `order` succeeds exactly for the workflows without cycles and then returns the least of their
topological orders; otherwise it lists the steps from which a cycle can be reached. No counter
passes below zero. -/
theorem order_correct (workflow : Workflow) (named : WellNamed workflow) :
    ((∃ steps, workflow.order = .ok steps) ↔ workflow.Acyclic) ∧
      (∀ steps, workflow.order = .ok steps → Topological workflow steps ∧
        ∀ other, Topological workflow other → steps = other ∨ steps < other) ∧
      (∀ error, workflow.order = .error error →
        ∃ stuck, error = .cycle stuck ∧ stuck.Pairwise (· < ·) ∧
          ∀ step, step ∈ stuck ↔ step < workflow.len ∧ Doomed workflow.Needs step) ∧
      orderLoopChecked workflow.dependentsTable workflow.len workflow.firstPlan =
        some workflow.finalPlan := by
  refine ⟨order_ok_iff named, ?_, fun error => order_error named, ?_⟩
  · intro steps ordered
    exact ⟨order_topological ordered, fun other => order_least ordered⟩
  · exact orderLoopChecked_eq _ _ (firstPlan_sound workflow)

def scrambled : Workflow :=
  ⟨[[1, 2], [3], [3, 3], []].map fun dependsOn => ⟨Task.new ⟨0⟩ "echo" [], dependsOn⟩⟩

theorem scrambled_named : WellNamed scrambled := by
  have checked : ∀ step < scrambled.len, ∀ dependency ∈ scrambled.dependsOn step,
      dependency < scrambled.len ∧ dependency ≠ step := by decide
  constructor
  · intro step dependency needed
    exact (checked step (lt_of_mem_dependsOn needed) dependency needed).1
  · intro step needed
    exact (checked step (lt_of_mem_dependsOn needed) step needed).2 rfl

theorem scrambled_ordered :
    Topological scrambled [3, 1, 2, 0] ∧
      ∀ other, Topological scrambled other → [3, 1, 2, 0] = other ∨ [3, 1, 2, 0] < other :=
  (order_correct scrambled scrambled_named).2.1 [3, 1, 2, 0] (by decide)

end AetherMesh.Workflow
