import AetherMesh.Core.Workflow
import AetherMesh.Library.Runs
import Mathlib.Data.List.Count
import Mathlib.Data.List.Induction

/-!
The order Kahn's algorithm returns. The counters say how many named dependencies
of a step are not placed yet, a step is ready or placed exactly when its counter
is zero, and a step is placed after everything it names.
-/

namespace AetherMesh.Workflow

theorem dependsOn_of_le {workflow : Workflow} {index : Nat} (outside : workflow.len ≤ index) :
    workflow.dependsOn index = [] := by
  have missing : workflow.steps[index]? = none := List.getElem?_eq_none outside
  simp [dependsOn, missing]

theorem lt_of_mem_dependsOn {workflow : Workflow} {index dependency : Nat}
    (named : dependency ∈ workflow.dependsOn index) : index < workflow.len := by
  by_contra outside
  simp [dependsOn_of_le (Nat.le_of_not_lt outside)] at named

theorem mem_dependentsOf {workflow : Workflow} {step index : Nat} :
    index ∈ workflow.dependentsOf step ↔ step ∈ workflow.dependsOn index := by
  simp only [dependentsOf, List.mem_filter, List.mem_range, decide_eq_true_eq]
  exact ⟨fun both => both.2, fun named => ⟨lt_of_mem_dependsOn named, named⟩⟩

theorem dependentsOf_nodup (workflow : Workflow) (step : Nat) :
    (workflow.dependentsOf step).Nodup :=
  List.nodup_range.filter _

theorem dependentsOf_length_le (workflow : Workflow) (step : Nat) :
    (workflow.dependentsOf step).length ≤ workflow.len := by
  simpa [dependentsOf] using
    List.length_filter_le (fun index => decide (step ∈ workflow.dependsOn index))
      (List.range workflow.len)

theorem foldl_mark_length (index : Nat) (dependencies : List Nat) (table : List (List Nat)) :
    (dependencies.foldl (mark index) table).length = table.length := by
  induction dependencies generalizing table with
  | nil => rfl
  | cons dependency rest ih =>
      rw [List.foldl_cons, ih]
      simp [mark]

theorem mark_count (index dependency row item : Nat) (table : List (List Nat)) :
    ((mark index table dependency).getD row []).count item =
      (table.getD row []).count item +
        if row < table.length ∧ dependency = row ∧ index = item then 1 else 0 := by
  by_cases inside : row < table.length
  · by_cases same : dependency = row
    · by_cases matched : index = item
      · simp [mark, inside, same, matched, List.getD_eq_getElem?_getD]
      · simp [mark, inside, same, matched, List.getD_eq_getElem?_getD]
    · simp [mark, same, List.getD_eq_getElem?_getD]
  · simp [mark, inside, List.getD_eq_getElem?_getD]

theorem foldl_mark_count (index row item : Nat) (dependencies : List Nat)
    (table : List (List Nat)) :
    ((dependencies.foldl (mark index) table).getD row []).count item =
      (table.getD row []).count item +
        if row < table.length ∧ index = item then dependencies.count row else 0 := by
  induction dependencies generalizing table with
  | nil => simp
  | cons dependency rest ih =>
      rw [List.foldl_cons, ih, mark_count]
      have length : (mark index table dependency).length = table.length := by simp [mark]
      rw [length, List.count_cons]
      by_cases wanted : row < table.length ∧ index = item
      · by_cases same : dependency = row
        · simp [wanted, same]
          omega
        · simp [wanted, same]
      · have absent : ¬ (row < table.length ∧ dependency = row ∧ index = item) :=
          fun both => wanted ⟨both.1, both.2.2⟩
        simp [wanted, absent]

theorem foldl_steps_count (steps : List Step) (first row item : Nat) (table : List (List Nat)) :
    (((steps.zipIdx first).foldl
        (fun table entry => entry.1.dependsOn.foldl (mark entry.2) table) table).getD row []).count
        item =
      (table.getD row []).count item +
        if row < table.length ∧ first ≤ item then
          ((steps[item - first]?.map Step.dependsOn).getD []).count row
        else 0 := by
  induction steps generalizing first table with
  | nil => simp
  | cons step rest ih =>
      rw [List.zipIdx_cons, List.foldl_cons, ih, foldl_mark_length, foldl_mark_count]
      by_cases inside : row < table.length
      · rcases Nat.lt_trichotomy item first with before | same | after
        · simp [inside, show ¬ first ≤ item by omega, show ¬ first + 1 ≤ item by omega,
            show first ≠ item by omega]
        · simp [inside, same]
        · obtain ⟨offset, rfl⟩ : ∃ offset, item = first + 1 + offset :=
            ⟨item - (first + 1), by omega⟩
          have shift : first + 1 + offset - first = offset + 1 := by omega
          simp [inside, shift, show first ≤ first + 1 + offset by omega,
            show first ≠ first + 1 + offset by omega]
      · simp [inside]

theorem dependentsTable_count (workflow : Workflow) (row item : Nat) (inside : row < workflow.len) :
    (workflow.dependentsTable.getD row []).count item = (workflow.dependsOn item).count row := by
  have counted := foldl_steps_count workflow.steps 0 row item (List.replicate workflow.len [])
  have empty : ((List.replicate workflow.len ([] : List Nat)).getD row []) = [] := by
    simp [List.getD_eq_getElem?_getD, inside]
  rw [empty] at counted
  simp only [List.length_replicate, inside, Nat.zero_le, and_self, if_true, Nat.sub_zero,
    List.count_nil, Nat.zero_add] at counted
  refine Eq.trans counted ?_
  unfold dependsOn
  cases workflow.steps[item]? <;> rfl

theorem countP_unplaced_snoc (named placed : List Nat) (index : Nat) (fresh : index ∉ placed) :
    named.countP (· ∉ placed ++ [index]) + named.count index = named.countP (· ∉ placed) := by
  induction named with
  | nil => rfl
  | cons dependency rest ih =>
      have split : dependency ∉ placed ++ [index] ↔ dependency ∉ placed ∧ dependency ≠ index := by
        simp
      rw [List.countP_cons, List.countP_cons, List.count_cons, ← ih]
      simp only [decide_eq_true_eq, beq_iff_eq, split]
      by_cases same : dependency = index
      · rw [if_neg (fun both => both.2 same), if_pos same, if_pos (same ▸ fresh)]
        omega
      · rw [if_neg same]
        simp only [same, ne_eq, not_false_eq_true, and_true]
        omega

theorem settle_remaining (plan : Plan) (dependent item : Nat) :
    (settle plan dependent).remaining[item]? =
      plan.remaining[item]?.map (· - if dependent = item then 1 else 0) := by
  have modified : (settle plan dependent).remaining = plan.remaining.modify dependent (· - 1) := by
    unfold settle
    dsimp only
    split <;> rfl
  rw [modified, List.getElem?_modify]
  by_cases same : dependent = item
  · simp [same]
  · simp [same]

theorem foldl_settle_length (dependents : List Nat) (plan : Plan) :
    (dependents.foldl settle plan).remaining.length = plan.remaining.length := by
  induction dependents generalizing plan with
  | nil => rfl
  | cons dependent rest ih =>
      rw [List.foldl_cons, ih]
      unfold settle
      dsimp only
      split <;> simp

theorem settle_order (plan : Plan) (dependent : Nat) :
    (settle plan dependent).order = plan.order := by
  unfold settle
  dsimp only
  split <;> rfl

theorem settle_ready (plan : Plan) (dependent item : Nat)
    (positive : plan.remaining[dependent]? ≠ some 0) :
    (settle plan dependent).ready.count item = plan.ready.count item +
      if dependent = item ∧ plan.remaining[item]? = some 1 then 1 else 0 := by
  have lowered : (plan.remaining.modify dependent (· - 1))[dependent]? = some 0 ↔
      plan.remaining[dependent]? = some 1 := by
    rw [List.getElem?_modify]
    cases found : plan.remaining[dependent]? with
    | none => simp
    | some count =>
        have nonzero : count ≠ 0 := fun zero => positive (by rw [found, zero])
        simp
        omega
  unfold settle
  dsimp only
  by_cases freed : plan.remaining[dependent]? = some 1
  · rw [if_pos (lowered.mpr freed)]
    rw [(List.perm_orderedInsert (· ≤ ·) dependent plan.ready).count_eq, List.count_cons]
    by_cases same : dependent = item
    · subst same
      simp [freed]
    · simp [same]
  · rw [if_neg (fun zero => freed (lowered.mp zero))]
    have unchanged : ¬ (dependent = item ∧ plan.remaining[item]? = some 1) := by
      rintro ⟨same, one⟩
      exact freed (same ▸ one)
    simp [unchanged]

theorem foldl_settle (dependents : List Nat) (plan : Plan)
    (enough : ∀ item count, plan.remaining[item]? = some count → dependents.count item ≤ count) :
    (dependents.foldl settle plan).order = plan.order ∧
    (∀ item, (dependents.foldl settle plan).remaining[item]? =
      plan.remaining[item]?.map (· - dependents.count item)) ∧
    ∀ item, (dependents.foldl settle plan).ready.count item = plan.ready.count item +
      if 0 < dependents.count item ∧ plan.remaining[item]? = some (dependents.count item)
      then 1 else 0 := by
  induction dependents generalizing plan with
  | nil => simp
  | cons dependent rest ih =>
      have positive : plan.remaining[dependent]? ≠ some 0 := by
        intro zero
        have bound := enough dependent 0 zero
        simp at bound
      have later := ih (settle plan dependent) (by
        intro item count found
        rw [settle_remaining] at found
        obtain ⟨before, value, rfl⟩ := Option.map_eq_some_iff.mp found
        have bound := enough item before value
        rw [List.count_cons] at bound
        simp only [beq_iff_eq] at bound
        omega)
      obtain ⟨sameOrder, remaining, ready⟩ := later
      refine ⟨?_, ?_, ?_⟩
      · rw [List.foldl_cons, sameOrder, settle_order]
      · intro item
        rw [List.foldl_cons, remaining, settle_remaining, Option.map_map, List.count_cons]
        congr 1
        funext count
        simp only [Function.comp_apply, beq_iff_eq]
        omega
      · intro item
        rw [List.foldl_cons, ready, settle_ready plan dependent item positive, settle_remaining,
          List.count_cons]
        cases found : plan.remaining[item]? with
        | none => simp
        | some count =>
            have bound := enough item count found
            rw [List.count_cons] at bound
            simp only [Option.map_some, Option.some.injEq, beq_iff_eq] at bound ⊢
            by_cases same : dependent = item
            · simp only [same, if_true, true_and] at bound ⊢
              by_cases last : count = 1
              · simp only [last, if_true]
                rw [if_neg (by omega), if_pos (by omega)]
              · by_cases all : count = rest.count item + 1
                · rw [if_neg (by omega), if_pos (by omega), if_pos (by omega)]
                · rw [if_neg (by omega), if_neg (by omega), if_neg (by omega)]
            · simp [same]

structure Sound (workflow : Workflow) (plan : Plan) : Prop where
  size : plan.remaining.length = workflow.len
  counted : ∀ index < workflow.len,
    plan.remaining[index]? = some ((workflow.dependsOn index).countP (· ∉ plan.order))
  placed : ∀ index, plan.order.count index + plan.ready.count index =
    if plan.remaining[index]? = some 0 then 1 else 0
  later : ∀ front index back, plan.order = front ++ index :: back →
    ∀ dependency ∈ workflow.dependsOn index, dependency ∈ front

theorem firstPlan_sound (workflow : Workflow) : Sound workflow workflow.firstPlan := by
  have remaining (index : Nat) : workflow.firstPlan.remaining[index]? =
      workflow.steps[index]?.map fun step => step.dependsOn.length := by
    simp [firstPlan]
  constructor
  · simp [firstPlan, len]
  · intro index inside
    have present : workflow.steps[index]? = some workflow.steps[index] :=
      List.getElem?_eq_getElem inside
    rw [remaining, present]
    simp [dependsOn, present, firstPlan]
  · intro index
    have ready : workflow.firstPlan.ready = (List.range workflow.len).filter
        fun index => workflow.firstPlan.remaining[index]? = some 0 := rfl
    rw [ready, show workflow.firstPlan.order = [] from rfl]
    by_cases free : workflow.firstPlan.remaining[index]? = some 0
    · have inside : index < workflow.len := by
        have bound := (List.getElem?_eq_some_iff.mp free).1
        simpa [firstPlan, len] using bound
      rw [List.count_filter (by simpa using free), if_pos free]
      simp [List.count_eq_one_of_mem List.nodup_range (List.mem_range.mpr inside)]
    · rw [if_neg free]
      simp [List.count_eq_zero, free]
  · intro front index back impossible
    simp [firstPlan] at impossible

theorem Sound.zero_of_mem {workflow : Workflow} {plan : Plan} (sound : Sound workflow plan)
    {index : Nat} (member : index ∈ plan.order ∨ index ∈ plan.ready) :
    plan.remaining[index]? = some 0 := by
  have placed := sound.placed index
  by_contra busy
  rw [if_neg busy] at placed
  rcases member with member | member
  · have := List.count_pos_iff.mpr member
    omega
  · have := List.count_pos_iff.mpr member
    omega

theorem Sound.bound {workflow : Workflow} {plan : Plan} (sound : Sound workflow plan)
    {index : Nat} (member : index ∈ plan.order ∨ index ∈ plan.ready) : index < workflow.len := by
  have present := (List.getElem?_eq_some_iff.mp (sound.zero_of_mem member)).1
  rwa [sound.size] at present

theorem Sound.nodup {workflow : Workflow} {plan : Plan} (sound : Sound workflow plan) :
    (plan.order ++ plan.ready).Nodup := by
  rw [List.nodup_iff_count_le_one]
  intro index
  rw [List.count_append, sound.placed index]
  split <;> omega

theorem Sound.length_le {workflow : Workflow} {plan : Plan} (sound : Sound workflow plan) :
    plan.order.length + plan.ready.length ≤ workflow.len := by
  have inside : plan.order ++ plan.ready ⊆ List.range workflow.len := by
    intro index member
    exact List.mem_range.mpr (sound.bound (List.mem_append.mp member))
  have fits := (List.subperm_of_subset sound.nodup inside).length_le
  simpa using fits

theorem Sound.fresh {workflow : Workflow} {plan : Plan} (sound : Sound workflow plan)
    {index : Nat} {rest : List Nat} (ready : plan.ready = index :: rest) : index ∉ plan.order := by
  intro member
  have unique := (List.nodup_append.mp sound.nodup).2.2
  exact unique index member index (by simp [ready]) rfl

theorem Sound.named {workflow : Workflow} {plan : Plan} (sound : Sound workflow plan)
    {index : Nat} {rest : List Nat} (ready : plan.ready = index :: rest) (item : Nat) :
    (workflow.dependentsTable.getD index []).count item = (workflow.dependsOn item).count index :=
  dependentsTable_count workflow index item (sound.bound (Or.inr (by simp [ready])))

theorem Sound.enough {workflow : Workflow} {plan : Plan} (sound : Sound workflow plan)
    {index : Nat} {rest : List Nat} (ready : plan.ready = index :: rest) (item count : Nat)
    (found : plan.remaining[item]? = some count) :
    (workflow.dependentsTable.getD index []).count item ≤ count := by
  have itemInside : item < workflow.len := by
    have bound := (List.getElem?_eq_some_iff.mp found).1
    simpa [sound.size] using bound
  have counted := sound.counted item itemInside
  have total := countP_unplaced_snoc (workflow.dependsOn item) plan.order index (sound.fresh ready)
  rw [found, Option.some.injEq] at counted
  rw [sound.named ready]
  omega

theorem place_order (table : List (List Nat)) (index : Nat) (rest : List Nat) (plan : Plan) :
    (place table index rest plan).order = plan.order ++ [index] := by
  unfold place
  generalize table.getD index [] = dependents
  have keeps (others : List Nat) (current : Plan) :
      (others.foldl settle current).order = current.order := by
    induction others generalizing current with
    | nil => rfl
    | cons other others step => rw [List.foldl_cons, step, settle_order]
  rw [keeps]

theorem Sound.place {workflow : Workflow} {plan : Plan} (sound : Sound workflow plan)
    {index : Nat} {rest : List Nat} (ready : plan.ready = index :: rest) :
    Sound workflow (place workflow.dependentsTable index rest plan) := by
  have indexReady : index ∈ plan.ready := by simp [ready]
  have inside : index < workflow.len := sound.bound (Or.inr indexReady)
  have fresh := sound.fresh ready
  let dependents := workflow.dependentsTable.getD index []
  have named : ∀ item, dependents.count item = (workflow.dependsOn item).count index :=
    sound.named ready
  let opened : Plan := { plan with ready := rest, order := plan.order ++ [index] }
  have enough : ∀ item count, opened.remaining[item]? = some count →
      dependents.count item ≤ count := sound.enough ready
  obtain ⟨-, remaining, counts⟩ := foldl_settle dependents opened enough
  have placedOrder := place_order workflow.dependentsTable index rest plan
  constructor
  · exact (foldl_settle_length dependents opened).trans sound.size
  · intro item itemInside
    have total := countP_unplaced_snoc (workflow.dependsOn item) plan.order index fresh
    rw [placedOrder]
    refine (remaining item).trans ?_
    rw [show opened.remaining[item]? = _ from sound.counted item itemInside, named]
    simp only [Option.map_some, Option.some.injEq]
    omega
  · intro item
    have before := sound.placed item
    have value := remaining item
    rw [placedOrder]
    rw [show (Workflow.place workflow.dependentsTable index rest plan).remaining[item]? = _ from value,
      show (Workflow.place workflow.dependentsTable index rest plan).ready.count item = _
        from counts item]
    rw [ready, List.count_cons] at before
    rw [List.count_append, List.count_singleton, show opened.ready = rest from rfl]
    rw [show opened.remaining = plan.remaining from rfl]
    generalize (if (index == item) = true then 1 else 0) = hit at before ⊢
    cases found : plan.remaining[item]? with
    | none =>
        simp only [found, reduceCtorEq, if_false, Option.map_none, and_false] at before ⊢
        omega
    | some count =>
        have bound := enough item count found
        simp only [found, Option.map_some, Option.some.injEq] at before ⊢
        by_cases zero : count = 0
        · rw [if_pos zero] at before
          rw [if_neg (by omega), if_pos (by omega)]
          omega
        · rw [if_neg zero] at before
          by_cases all : count = dependents.count item
          · rw [if_pos (by omega), if_pos (by omega)]
            omega
          · rw [if_neg (by omega), if_neg (by omega)]
            omega
  · intro front item back split dependency isNamed
    rw [placedOrder] at split
    rcases Runs.snoc_split split with ⟨rfl, rfl, -⟩ | ⟨shorter, -, old⟩
    · have none := sound.counted item inside
      rw [sound.zero_of_mem (Or.inr indexReady), Option.some.injEq, eq_comm,
        List.countP_eq_zero] at none
      simpa using none dependency isNamed
    · exact sound.later front item shorter old dependency isNamed

theorem orderLoop_sound {workflow : Workflow} (fuel : Nat) (plan : Plan)
    (sound : Sound workflow plan) (enough : workflow.len ≤ plan.order.length + fuel) :
    Sound workflow (orderLoop workflow.dependentsTable fuel plan) ∧
      (orderLoop workflow.dependentsTable fuel plan).ready = [] := by
  induction fuel generalizing plan with
  | zero =>
      refine ⟨sound, ?_⟩
      have fits := sound.length_le
      exact List.length_eq_zero_iff.mp (by simp only [orderLoop]; omega)
  | succ fuel ih =>
      rw [orderLoop]
      cases ready : plan.ready with
      | nil => exact ⟨sound, ready⟩
      | cons index rest =>
          have placed := sound.place ready
          refine ih _ placed ?_
          rw [place_order]
          simp only [List.length_append, List.length_singleton]
          omega

theorem finalPlan_sound (workflow : Workflow) :
    Sound workflow workflow.finalPlan ∧ workflow.finalPlan.ready = [] :=
  orderLoop_sound workflow.len workflow.firstPlan (firstPlan_sound workflow) (by omega)

theorem order_eq_ok {workflow : Workflow} {steps : List Nat} (ordered : workflow.order = .ok steps) :
    steps = workflow.finalPlan.order ∧ steps.length = workflow.len := by
  unfold order at ordered
  dsimp only at ordered
  split at ordered
  · rename_i complete
    have same := Except.ok.inj ordered
    exact ⟨same.symm, same ▸ complete⟩
  · simp at ordered

theorem order_perm {workflow : Workflow} {steps : List Nat} (ordered : workflow.order = .ok steps) :
    steps.Perm (List.range workflow.len) := by
  obtain ⟨same, complete⟩ := order_eq_ok ordered
  have sound := (finalPlan_sound workflow).1
  have unique : steps.Nodup := same ▸ (List.nodup_append.mp sound.nodup).1
  have inside : steps ⊆ List.range workflow.len := by
    intro index member
    exact List.mem_range.mpr (sound.bound (Or.inl (same ▸ member)))
  exact (List.subperm_of_subset unique inside).perm_of_length_le (by simp [complete])

theorem order_later {workflow : Workflow} {steps : List Nat} (ordered : workflow.order = .ok steps)
    {front back : List Nat} {index : Nat} (split : steps = front ++ index :: back) :
    ∀ dependency ∈ workflow.dependsOn index, dependency ∈ front :=
  (finalPlan_sound workflow).1.later front index back ((order_eq_ok ordered).1 ▸ split)

theorem order_nodup {workflow : Workflow} {steps : List Nat}
    (ordered : workflow.order = .ok steps) : steps.Nodup :=
  (order_perm ordered).nodup_iff.mpr List.nodup_range

theorem order_closed {workflow : Workflow} {steps front back : List Nat}
    (ordered : workflow.order = .ok steps) (split : steps = front ++ back) {index : Nat}
    (member : index ∈ front) : workflow.dependsOn index ⊆ front := by
  obtain ⟨before, later, cut⟩ := List.append_of_mem member
  have whole : steps = before ++ index :: (later ++ back) := by
    rw [split, cut, List.append_assoc, List.cons_append]
  intro dependency named
  rw [cut]
  exact List.mem_append_left _ (order_later ordered whole dependency named)

theorem order_irrefl {workflow : Workflow} {steps : List Nat}
    (ordered : workflow.order = .ok steps) (index : Nat) : index ∉ workflow.dependsOn index := by
  intro named
  have member : index ∈ steps :=
    (order_perm ordered).mem_iff.mpr (List.mem_range.mpr (lt_of_mem_dependsOn named))
  obtain ⟨front, back, split⟩ := List.append_of_mem member
  have earlier := order_later ordered split index named
  have unique := split ▸ order_nodup ordered
  exact (List.nodup_append.mp unique).2.2 index earlier index (by simp) rfl

theorem order_induction {workflow : Workflow} {steps : List Nat}
    (ordered : workflow.order = .ok steps) {motive : Nat → Prop}
    (next : ∀ index < workflow.len,
      (∀ dependency ∈ workflow.dependsOn index, motive dependency) → motive index) :
    ∀ index < workflow.len, motive index := by
  have prefixes : ∀ front back, steps = front ++ back → ∀ index ∈ front, motive index := by
    intro front
    induction front using List.reverseRecOn with
    | nil => simp
    | append_singleton front last ih =>
        intro back split index member
        have shape : steps = front ++ last :: back := by simpa using split
        rcases List.mem_append.mp member with earlier | same
        · exact ih (last :: back) shape index earlier
        · rw [List.mem_singleton.mp same]
          have lastInside : last < workflow.len := by
            apply List.mem_range.mp
            apply (order_perm ordered).subset
            simp [shape]
          exact next last lastInside
            (fun dependency named => ih (last :: back) shape dependency
              (order_later ordered shape dependency named))
  intro index inside
  have member : index ∈ steps := (order_perm ordered).symm.subset (List.mem_range.mpr inside)
  exact prefixes steps [] (by simp) index member

theorem validate_eq_ok {workflow : Workflow} (valid : workflow.validate = .ok ()) :
    ∃ steps, workflow.order = .ok steps := by
  unfold validate at valid
  split at valid
  · simp at valid
  · split at valid
    · simp at valid
    · cases ordered : workflow.order with
      | error problem => simp [ordered, Except.map] at valid
      | ok steps => exact ⟨steps, rfl⟩

end AetherMesh.Workflow
