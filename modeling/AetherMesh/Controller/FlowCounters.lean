import AetherMesh.Controller.Flow
import AetherMesh.Core.WorkflowOrder

/-!
The accounting of a workflow run. A dependency is told to a dependent when the
dependent's counter has been lowered on its account. Every counter is the number
of dependencies not told yet, and a step has left the waiting ones for exactly
one place when its counter is zero. The steps given up because a dependency of
their own failed tell their dependents (`first`); the steps given up after
those never do (`second`).
-/

namespace AetherMesh.Flow

def lower (waiting steps : List Nat) : List Nat :=
  waiting.mapIdx fun index count => count - if index ∈ steps then 1 else 0

@[simp] theorem lower_length (waiting steps : List Nat) :
    (lower waiting steps).length = waiting.length := by
  simp [lower]

theorem lower_getElem? (waiting steps : List Nat) (index : Nat) :
    (lower waiting steps)[index]? =
      waiting[index]?.map fun count => count - if index ∈ steps then 1 else 0 := by
  simp [lower]

theorem lower_of_not_mem {waiting steps : List Nat} {index : Nat} (outside : index ∉ steps) :
    (lower waiting steps)[index]? = waiting[index]? := by
  simp [lower_getElem?, outside]

theorem lower_nil (waiting : List Nat) : lower waiting [] = waiting := by
  apply List.ext_getElem?
  intro index
  exact lower_of_not_mem (by simp)

theorem lower_cons {waiting rest : List Nat} {step : Nat} (fresh : step ∉ rest) :
    lower (lower waiting [step]) rest = lower waiting (step :: rest) := by
  apply List.ext_getElem?
  intro index
  simp only [lower_getElem?, Option.map_map, List.mem_cons]
  congr 1
  funext count
  simp only [Function.comp_apply]
  by_cases same : index = step
  · simp [same, fresh]
  · simp [same]

def Positive (waiting : List Nat) (step : Nat) : Prop :=
  ∃ count, waiting[step]? = some (count + 1)

theorem lower_zero_iff {waiting : List Nat} {step : Nat} (positive : Positive waiting step) :
    (lower waiting [step])[step]? = some 0 ↔ waiting[step]? = some 1 := by
  obtain ⟨count, found⟩ := positive
  simp [lower_getElem?, found]

theorem decrement_eq {waiting : List Nat} {step : Nat} (positive : Positive waiting step) :
    decrement waiting step = some (lower waiting [step]) := by
  obtain ⟨count, found⟩ := positive
  have inside : step < waiting.length := (List.getElem?_eq_some_iff.mp found).1
  unfold decrement
  rw [found]
  simp only [Option.some.injEq]
  apply List.ext_getElem?
  intro index
  rw [List.getElem?_set, lower_getElem?]
  by_cases same : step = index
  · subst same
    rw [if_pos rfl, if_pos inside, found]
    simp
  · simp [same, Ne.symm same]

theorem foldlM_decrement {waiting steps : List Nat} (unique : steps.Nodup)
    (positive : ∀ step ∈ steps, Positive waiting step) :
    steps.foldlM decrement waiting = some (lower waiting steps) := by
  induction steps generalizing waiting with
  | nil => simp [lower_nil]
  | cons step rest ih =>
      obtain ⟨fresh, unique⟩ := List.nodup_cons.mp unique
      rw [List.foldlM_cons, decrement_eq (positive step (by simp))]
      simp only [Option.bind_eq_bind, Option.bind_some]
      rw [ih unique, lower_cons fresh]
      intro other member
      obtain ⟨count, found⟩ := positive other (List.mem_cons_of_mem _ member)
      refine ⟨count, ?_⟩
      rwa [lower_of_not_mem]
      rintro same
      exact fresh (List.mem_singleton.mp same ▸ member)

theorem foldlM_abandonFurther {state : State} {steps : List Nat} (unique : steps.Nodup)
    (positive : ∀ step ∈ steps, Positive state.waiting step) :
    steps.foldlM abandonFurther state = some { state with
      waiting := lower state.waiting steps
      abandoned := state.abandoned ++ steps.filter fun step => state.waiting[step]? = some 1 } := by
  induction steps generalizing state with
  | nil => simp [lower_nil]
  | cons step rest ih =>
      obtain ⟨fresh, unique⟩ := List.nodup_cons.mp unique
      obtain ⟨count, found⟩ := positive step (by simp)
      have outside (other : Nat) (member : other ∈ rest) : other ∉ [step] := by
        intro same
        exact fresh (List.mem_singleton.mp same ▸ member)
      have lowered := lower_zero_iff (positive step (by simp))
      have laterFilter : rest.filter (fun other => (lower state.waiting [step])[other]? = some 1) =
          rest.filter fun other => state.waiting[other]? = some 1 := by
        apply List.filter_congr
        intro other member
        rw [lower_of_not_mem (outside other member)]
      have laterPositive (other : Nat) (member : other ∈ rest) :
          Positive (lower state.waiting [step]) other := by
        obtain ⟨count, found⟩ := positive other (List.mem_cons_of_mem _ member)
        exact ⟨count, by rwa [lower_of_not_mem (outside other member)]⟩
      rw [List.foldlM_cons, abandonFurther, decrement_eq ⟨count, found⟩]
      simp only [Option.map_some, Option.bind_eq_bind, Option.bind_some]
      by_cases last : state.waiting[step]? = some 1
      · rw [if_pos (lowered.mpr last), ih unique laterPositive]
        simp [laterFilter, lower_cons fresh, last]
      · rw [if_neg (fun zero => last (lowered.mp zero)), ih unique laterPositive]
        simp [laterFilter, lower_cons fresh, last]

def State.todo (state : State) (step : Nat) : List Nat :=
  match state.control with
  | .releasing current _ todo => if current = step then todo else []
  | _ => []

def told (state : State) (first : List Nat) (dependency dependent : Nat) : Bool :=
  dependency ∈ state.resumed ∨ dependency ∈ first ∨
    ((state.results dependency).isSome ∧ dependent ∉ state.todo dependency)

/-- How many dependencies have been told to a step; one named twice counts once. -/
def counted (workflow : Workflow) (state : State) (first : List Nat) (dependent : Nat) : Nat :=
  (workflow.dependsOn dependent).dedup.countP fun dependency =>
    told state first dependency dependent

def occurrences (state : State) (step : Nat) : Nat :=
  state.ready.count step + (state.running.map Prod.fst).count step +
    (if (state.results step).isSome then 1 else 0) + state.abandoned.count step

structure Tally (workflow : Workflow) (state : State) (first second : List Nat) : Prop where
  size : state.waiting.length = workflow.len
  counter : ∀ dependent < workflow.len, state.waiting[dependent]? =
    some ((workflow.dependsOn dependent).length - counted workflow state first dependent)
  once : ∀ step ∉ state.resumed,
    occurrences state step = if state.waiting[step]? = some 0 then 1 else 0
  spared : ∀ step ∈ state.resumed, step ∉ state.ready ∧ step ∉ state.running.map Prod.fst ∧
    state.results step = none ∧ step ∉ first
  given : ∀ step, state.abandoned.count step = first.count step + second.count step
  current : ∀ step succeeded todo, state.control = .releasing step succeeded todo →
    (∃ result, state.results step = some result ∧ result.isSuccess = succeeded) ∧
      todo ⊆ workflow.dependentsOf step ∧ todo.Nodup

theorem counted_congr {workflow : Workflow} {state after : State} {first later : List Nat}
    {dependent : Nat} (same : ∀ dependency ∈ workflow.dependsOn dependent,
      told after later dependency dependent = told state first dependency dependent) :
    counted workflow after later dependent = counted workflow state first dependent := by
  apply List.countP_congr
  intro dependency member
  rw [same dependency (List.mem_dedup.mp member)]

theorem counted_succ {workflow : Workflow} {state after : State} {first later : List Nat}
    {dependency dependent : Nat} (named : dependency ∈ workflow.dependsOn dependent)
    (fresh : told state first dependency dependent = false)
    (added : told after later dependency dependent = true)
    (same : ∀ other ∈ workflow.dependsOn dependent, other ≠ dependency →
      told after later other dependent = told state first other dependent) :
    counted workflow after later dependent = counted workflow state first dependent + 1 := by
  have member : dependency ∈ (workflow.dependsOn dependent).dedup := List.mem_dedup.mpr named
  have unique := List.nodup_dedup (workflow.dependsOn dependent)
  have shape := List.perm_cons_erase member
  have absent : dependency ∉ (workflow.dependsOn dependent).dedup.erase dependency :=
    unique.not_mem_erase
  unfold counted
  rw [shape.countP_eq, shape.countP_eq, List.countP_cons_of_pos (by simpa using added),
    List.countP_cons_of_neg (by simpa using fresh)]
  congr 1
  apply List.countP_congr
  intro other remains
  have otherNamed := List.mem_dedup.mp (List.mem_of_mem_erase remains)
  rw [same other otherNamed (fun equal => absent (equal ▸ remains))]

theorem counted_lt {workflow : Workflow} {state : State} {first : List Nat}
    {dependency dependent : Nat} (named : dependency ∈ workflow.dependsOn dependent)
    (fresh : told state first dependency dependent = false) :
    counted workflow state first dependent < (workflow.dependsOn dependent).dedup.length := by
  apply lt_of_le_of_ne List.countP_le_length
  intro all
  have everyone := List.countP_eq_length.mp all dependency (List.mem_dedup.mpr named)
  rw [fresh] at everyone
  simp at everyone

theorem counted_eq_length {workflow : Workflow} {state : State} {first : List Nat}
    {dependent : Nat}
    (all : counted workflow state first dependent = (workflow.dependsOn dependent).length) :
    (workflow.dependsOn dependent).Nodup ∧
      ∀ dependency ∈ workflow.dependsOn dependent,
        told state first dependency dependent = true := by
  have short : (workflow.dependsOn dependent).dedup.length ≤
      (workflow.dependsOn dependent).length := (List.dedup_sublist _).length_le
  have bound : counted workflow state first dependent ≤
      (workflow.dependsOn dependent).dedup.length := List.countP_le_length
  constructor
  · have same := (List.dedup_sublist (workflow.dependsOn dependent)).eq_of_length (by omega)
    exact List.dedup_eq_self.mp same
  · intro dependency named
    exact List.countP_eq_length.mp (show counted workflow state first dependent = _ by omega)
      dependency (List.mem_dedup.mpr named)

section Tally

variable {workflow : Workflow} {state : State} {first second : List Nat}

theorem Tally.positive (tally : Tally workflow state first second) {dependency dependent : Nat}
    (named : dependency ∈ workflow.dependsOn dependent)
    (fresh : told state first dependency dependent = false) :
    Positive state.waiting dependent := by
  have short : (workflow.dependsOn dependent).dedup.length ≤
      (workflow.dependsOn dependent).length := (List.dedup_sublist _).length_le
  have less := counted_lt named fresh
  refine ⟨(workflow.dependsOn dependent).length - counted workflow state first dependent - 1, ?_⟩
  rw [tally.counter dependent (Workflow.lt_of_mem_dependsOn named)]
  congr 1
  omega

theorem Tally.elsewhere (tally : Tally workflow state first second) {step : Nat}
    (unresumed : step ∉ state.resumed) :
    state.ready.count step + (state.running.map Prod.fst).count step +
      (if (state.results step).isSome then 1 else 0) + state.abandoned.count step ≤ 1 := by
  have once := tally.once step unresumed
  unfold occurrences at once
  rw [once]
  split <;> omega

theorem Tally.unfinished_of_running (tally : Tally workflow state first second) {step : Nat}
    (running : step ∈ state.running.map Prod.fst) :
    step ∉ state.resumed ∧ state.results step = none ∧ step ∉ state.abandoned := by
  have unresumed : step ∉ state.resumed := fun member => (tally.spared step member).2.1 running
  have bound := tally.elsewhere unresumed
  have present := List.count_pos_iff.mpr running
  refine ⟨unresumed, ?_, ?_⟩
  · cases found : state.results step with
    | none => rfl
    | some result =>
        simp only [found, Option.isSome_some, if_true] at bound
        omega
  · intro member
    have := List.count_pos_iff.mpr member
    omega

theorem Tally.finished (tally : Tally workflow state first second) {step : Nat}
    {result : TaskResult} (found : state.results step = some result) :
    step ∉ state.resumed ∧ step ∉ state.abandoned := by
  have unresumed : step ∉ state.resumed := by
    intro member
    have missing := (tally.spared step member).2.2.1
    rw [found] at missing
    simp at missing
  refine ⟨unresumed, ?_⟩
  intro member
  have bound := tally.elsewhere unresumed
  have := List.count_pos_iff.mpr member
  simp only [found, Option.isSome_some, if_true] at bound
  omega

theorem Tally.first_abandoned (tally : Tally workflow state first second) {step : Nat}
    (member : step ∈ first) : step ∈ state.abandoned := by
  apply List.count_pos_iff.mp
  have := List.count_pos_iff.mpr member
  rw [tally.given step]
  omega

theorem Tally.waits (tally : Tally workflow state first second) {step : Nat}
    (unresumed : step ∉ state.resumed) (positive : Positive state.waiting step) :
    step ∉ state.ready ∧ step ∉ state.running.map Prod.fst ∧ state.results step = none ∧
      step ∉ state.abandoned := by
  obtain ⟨count, found⟩ := positive
  have once := tally.once step unresumed
  unfold occurrences at once
  rw [if_neg (show ¬ state.waiting[step]? = some 0 by simp [found])] at once
  refine ⟨?_, ?_, ?_, ?_⟩
  · exact List.count_eq_zero.mp (by omega)
  · exact List.count_eq_zero.mp (by omega)
  · cases done : state.results step with
    | none => rfl
    | some result =>
        rw [done, if_pos (by simp)] at once
        omega
  · exact List.count_eq_zero.mp (by omega)

def completes (outcome : Bool) (state : State) : List Nat :=
  match state.control with
  | .releasing _ succeeded (dependent :: _) =>
      if succeeded = outcome ∧ state.waiting[dependent]? = some 1 then [dependent] else []
  | _ => []

def makesReady (state : State) : List Nat := completes true state

def givesUp (state : State) : List Nat := completes false state

def SparesResumed (state : State) : Prop :=
  ∀ dependent ∈ makesReady state ++ givesUp state, dependent ∉ state.resumed

instance (state : State) : Decidable (SparesResumed state) :=
  inferInstanceAs (Decidable (∀ dependent ∈ _, _))

def givesUpNext (workflow : Workflow) (state : State) : List Nat :=
  (givesUp state).flatMap fun dependent =>
    (workflow.dependentsOf dependent).filter fun further => state.waiting[further]? = some 1

theorem Tally.submit (tally : Tally workflow state first second) {step : Nat} {task : Task}
    {rest : List Nat} (ready : state.ready = step :: rest) :
    Tally workflow { state with ready := rest, running := state.running ++ [(step, task)] }
      first second := by
  constructor
  · exact tally.size
  · exact tally.counter
  · intro other unresumed
    rw [← tally.once other unresumed]
    simp only [occurrences, ready, List.map_append, List.map_cons, List.map_nil, List.count_append,
      List.count_cons, List.count_nil]
    omega
  · intro other member
    obtain ⟨notReady, notRunning, unfinished, notFirst⟩ := tally.spared other member
    rw [ready] at notReady
    refine ⟨fun later => notReady (List.mem_cons_of_mem _ later), ?_, unfinished, notFirst⟩
    simp only [List.map_append, List.map_cons, List.map_nil, List.mem_append, List.mem_singleton]
    rintro (old | same)
    · exact notRunning old
    · exact notReady (by simp [same])
  · exact tally.given
  · exact tally.current

theorem Tally.settle (tally : Tally workflow state first second) {control : Control}
    {ready : List Nat} (perm : ready.Perm state.ready) (idle : ∀ step, state.todo step = [])
    (free : ∀ step succeeded todo, control ≠ .releasing step succeeded todo) :
    Tally workflow { state with control, ready } first second := by
  have noTodo (step : Nat) : State.todo { state with control, ready } step = [] := by
    unfold State.todo
    split
    · rename_i equal
      exact absurd equal (free _ _ _)
    · rfl
  constructor
  · exact tally.size
  · intro dependent inside
    rw [tally.counter dependent inside]
    congr 2
    apply Eq.symm
    apply counted_congr
    intro dependency _
    simp [told, noTodo, idle]
  · intro step unresumed
    rw [← tally.once step unresumed]
    simp only [occurrences, perm.count_eq]
  · intro step member
    obtain ⟨notReady, rest⟩ := tally.spared step member
    exact ⟨fun inReady => notReady (perm.subset inReady), rest⟩
  · exact tally.given
  · intro step succeeded todo equal
    exact absurd equal (free _ _ _)

theorem eraseP_count (running : List (Nat × Task)) (step other : Nat)
    (member : step ∈ running.map Prod.fst) :
    ((running.eraseP fun entry => entry.1 = step).map Prod.fst).count other +
      (if other = step then 1 else 0) = (running.map Prod.fst).count other := by
  induction running with
  | nil => simp at member
  | cons entry rest ih =>
      by_cases same : entry.1 = step
      · rw [List.eraseP_cons_of_pos (by simpa using same), List.map_cons, List.count_cons, same]
        by_cases equal : other = step
        · simp [equal]
        · simp [equal, Ne.symm equal]
      · have later : step ∈ rest.map Prod.fst := by
          rcases List.mem_cons.mp member with equal | later
          · exact absurd equal.symm same
          · exact later
        have counts := ih later
        rw [List.eraseP_cons_of_neg (by simpa using same), List.map_cons, List.map_cons,
          List.count_cons, List.count_cons]
        omega

theorem Tally.join (tally : Tally workflow state first second) {step : Nat} {result : TaskResult}
    {catalog : DataCatalog} (looping : state.control = .looping)
    (running : step ∈ state.running.map Prod.fst) :
    Tally workflow (joined workflow state step result catalog) first second := by
  obtain ⟨unresumed, unfinished, kept⟩ := tally.unfinished_of_running running
  have notFirst : step ∉ first := fun member => kept (tally.first_abandoned member)
  have idle (other : Nat) : state.todo other = [] := by simp [State.todo, looping]
  constructor
  · exact tally.size
  · intro dependent inside
    refine (tally.counter dependent inside).trans ?_
    congr 2
    apply Eq.symm
    apply counted_congr
    intro dependency named
    by_cases same : dependency = step
    · subst same
      have pending : dependent ∈ workflow.dependentsOf dependency :=
        Workflow.mem_dependentsOf.mpr named
      simp [told, joined, State.todo, unresumed, notFirst, unfinished, pending]
    · simp [told, joined, State.todo, looping, same, Ne.symm same]
  · intro other otherUnresumed
    have before := tally.once other otherUnresumed
    have erased := eraseP_count state.running step other running
    refine Eq.trans ?_ before
    simp only [occurrences, joined]
    by_cases same : other = step
    · subst same
      simp only [if_true] at erased
      simp only [Function.update_self, unfinished, Option.isSome_some, Option.isSome_none, if_true]
      simp only [Bool.false_eq_true, if_false]
      omega
    · simp only [same, if_false] at erased
      simp only [Function.update_of_ne same]
      omega
  · intro other member
    obtain ⟨notReady, notRunning, otherUnfinished, otherFirst⟩ := tally.spared other member
    have different : other ≠ step := fun same => unresumed (same ▸ member)
    refine ⟨notReady, ?_, ?_, otherFirst⟩
    · intro inErased
      have erased := eraseP_count state.running step other running
      have positive := List.count_pos_iff.mpr inErased
      have absent := List.count_eq_zero.mpr notRunning
      simp only [joined] at positive
      omega
    · simp [joined, Function.update_of_ne different, otherUnfinished]
  · exact tally.given
  · intro current succeeded todo equal
    simp only [joined, Control.releasing.injEq] at equal
    obtain ⟨rfl, rfl, rfl⟩ := equal
    refine ⟨⟨result, by simp [joined], rfl⟩, List.Subset.refl _, ?_⟩
    exact Workflow.dependentsOf_nodup workflow step

theorem counted_tell (tally : Tally workflow state first second) {step dependent : Nat}
    {succeeded : Bool} {todo : List Nat}
    (releasing : state.control = .releasing step succeeded (dependent :: todo))
    (after : State) (control : after.control = .releasing step succeeded todo)
    (results : after.results = state.results) (resumed : after.resumed = state.resumed)
    (item : Nat) :
    counted workflow after first item =
      counted workflow state first item + if item = dependent then 1 else 0 := by
  obtain ⟨⟨result, finished, _⟩, inside, unique⟩ := tally.current _ _ _ releasing
  obtain ⟨unresumed, kept⟩ := tally.finished finished
  have notFirst : step ∉ first := fun member => kept (tally.first_abandoned member)
  have absent : dependent ∉ todo := (List.nodup_cons.mp unique).1
  have named : step ∈ workflow.dependsOn dependent :=
    Workflow.mem_dependentsOf.mp (inside (by simp))
  have others (dependency item : Nat) (different : dependency ≠ step) :
      told after first dependency item = told state first dependency item := by
    simp [told, State.todo, control, releasing, results, resumed, Ne.symm different]
  by_cases same : item = dependent
  · subst same
    rw [if_pos rfl]
    refine counted_succ named ?_ ?_ (fun other _ different => others other item different)
    · simp [told, State.todo, releasing, unresumed, notFirst]
    · simp [told, State.todo, control, results, finished, absent]
  · rw [if_neg same]
    apply counted_congr
    intro dependency _
    by_cases current : dependency = step
    · subst current
      simp [told, State.todo, control, releasing, results, resumed, same]
    · exact others dependency item current

theorem counted_giveUp {step : Nat} (unresumed : step ∉ state.resumed)
    (unfinished : state.results step = none) (notFirst : step ∉ first) (item : Nat) :
    counted workflow state (first ++ [step]) item = counted workflow state first item +
      if item ∈ workflow.dependentsOf step then 1 else 0 := by
  have others (dependency : Nat) (different : dependency ≠ step) :
      told state (first ++ [step]) dependency item = told state first dependency item := by
    simp [told, different]
  by_cases named : step ∈ workflow.dependsOn item
  · rw [if_pos (Workflow.mem_dependentsOf.mpr named)]
    refine counted_succ named ?_ ?_ (fun other _ different => others other different)
    · simp [told, unresumed, notFirst, unfinished]
    · simp [told]
  · rw [if_neg (fun member => named (Workflow.mem_dependentsOf.mp member))]
    apply counted_congr
    intro dependency member
    exact others dependency (fun same => named (same ▸ member))

theorem counter_lower {waiting steps : List Nat} {total before after item : Nat}
    (equation : waiting[item]? = some (total - before))
    (grown : after = before + if item ∈ steps then 1 else 0) :
    (lower waiting steps)[item]? = some (total - after) := by
  rw [lower_getElem?, equation, grown]
  simp only [Option.map_some, Option.some.injEq]
  omega

theorem Tally.tellable (tally : Tally workflow state first second) {step dependent : Nat}
    {succeeded : Bool} {todo : List Nat}
    (releasing : state.control = .releasing step succeeded (dependent :: todo)) :
    Positive state.waiting dependent := by
  obtain ⟨⟨result, finished, _⟩, inside, unique⟩ := tally.current _ _ _ releasing
  obtain ⟨unresumed, kept⟩ := tally.finished finished
  have notFirst : step ∉ first := fun member => kept (tally.first_abandoned member)
  refine tally.positive (Workflow.mem_dependentsOf.mp (inside (by simp))) ?_
  simp [told, State.todo, releasing, unresumed, notFirst]

theorem lower_newly_zero {waiting steps : List Nat} (unique : steps.Nodup)
    (positive : ∀ step ∈ steps, Positive waiting step) (other : Nat) :
    (if (lower waiting steps)[other]? = some 0 then 1 else 0) =
      (if waiting[other]? = some 0 then 1 else 0) +
        (steps.filter fun step => waiting[step]? = some 1).count other := by
  by_cases lowered : other ∈ steps
  · obtain ⟨count, found⟩ := positive other lowered
    have after : (lower waiting steps)[other]? = some count := by
      simp [lower_getElem?, found, lowered]
    rw [after, found]
    by_cases zero : count = 0
    · have once : (steps.filter fun step => waiting[step]? = some 1).count other = 1 := by
        apply List.count_eq_one_of_mem (unique.filter _)
        simp [lowered, found, zero]
      simp [once, zero]
    · have never : (steps.filter fun step => waiting[step]? = some 1).count other = 0 := by
        apply List.count_eq_zero.mpr
        simp [lowered, found, zero]
      simp [never, zero]
  · have never : (steps.filter fun step => waiting[step]? = some 1).count other = 0 := by
      apply List.count_eq_zero.mpr
      simp [lowered]
    rw [never, lower_of_not_mem lowered, Nat.add_zero]

theorem lower_one_newly_zero {waiting : List Nat} {step : Nat} (positive : Positive waiting step)
    (other : Nat) :
    (if (lower waiting [step])[other]? = some 0 then 1 else 0) =
      (if waiting[other]? = some 0 then 1 else 0) +
        if waiting[step]? = some 1 then [step].count other else 0 := by
  rw [lower_newly_zero (List.nodup_singleton step) (by simpa using positive) other]
  by_cases last : waiting[step]? = some 1 <;> simp [last]

theorem Tally.tell (tally : Tally workflow state first second) {step dependent : Nat}
    {succeeded : Bool} {todo : List Nat}
    (releasing : state.control = .releasing step succeeded (dependent :: todo))
    (more : state.waiting[dependent]? ≠ some 1) :
    Tally workflow { state with
      waiting := lower state.waiting [dependent]
      control := .releasing step succeeded todo } first second := by
  obtain ⟨finished, inside, unique⟩ := tally.current _ _ _ releasing
  have positive := tally.tellable releasing
  constructor
  · simpa using tally.size
  · intro item bound
    refine counter_lower (tally.counter item bound) ?_
    refine (counted_tell tally releasing _ (by rfl) (by rfl) (by rfl) item).trans ?_
    simp
  · intro other unresumed
    rw [lower_one_newly_zero positive other, if_neg more]
    exact tally.once other unresumed
  · exact tally.spared
  · exact tally.given
  · intro current outcome rest equal
    obtain ⟨rfl, rfl, rfl⟩ := Control.releasing.inj equal
    exact ⟨finished, fun item member => inside (List.mem_cons_of_mem _ member),
      (List.nodup_cons.mp unique).2⟩

theorem Tally.makeReady (tally : Tally workflow state first second) {step dependent : Nat}
    {succeeded : Bool} {todo : List Nat}
    (releasing : state.control = .releasing step succeeded (dependent :: todo))
    (last : state.waiting[dependent]? = some 1) (unresumed : dependent ∉ state.resumed) :
    Tally workflow { state with
      waiting := lower state.waiting [dependent]
      ready := state.ready ++ [dependent]
      control := .releasing step succeeded todo } first second := by
  obtain ⟨finished, inside, unique⟩ := tally.current _ _ _ releasing
  constructor
  · simpa using tally.size
  · intro item bound
    refine counter_lower (tally.counter item bound) ?_
    refine (counted_tell tally releasing _ (by rfl) (by rfl) (by rfl) item).trans ?_
    simp
  · intro other otherUnresumed
    have before := tally.once other otherUnresumed
    rw [lower_one_newly_zero ⟨0, last⟩ other, if_pos last]
    simp only [occurrences, List.count_append] at before ⊢
    omega
  · intro other member
    obtain ⟨notReady, rest⟩ := tally.spared other member
    refine ⟨?_, rest⟩
    simp only [List.mem_append, List.mem_singleton]
    rintro (old | same)
    · exact notReady old
    · exact unresumed (same ▸ member)
  · exact tally.given
  · intro current outcome rest equal
    obtain ⟨rfl, rfl, rfl⟩ := Control.releasing.inj equal
    exact ⟨finished, fun item member => inside (List.mem_cons_of_mem _ member),
      (List.nodup_cons.mp unique).2⟩

theorem Tally.giveUp (tally : Tally workflow state first second)
    (irreflexive : ∀ item, item ∉ workflow.dependsOn item) {step dependent : Nat}
    {succeeded : Bool} {todo : List Nat}
    (releasing : state.control = .releasing step succeeded (dependent :: todo))
    (last : state.waiting[dependent]? = some 1) (unresumed : dependent ∉ state.resumed) :
    (∀ further ∈ workflow.dependentsOf dependent,
      Positive (lower state.waiting [dependent]) further) ∧
    Tally workflow { state with
      waiting := lower (lower state.waiting [dependent]) (workflow.dependentsOf dependent)
      abandoned := state.abandoned ++ [dependent] ++ (workflow.dependentsOf dependent).filter
        fun further => (lower state.waiting [dependent])[further]? = some 1
      control := .releasing step succeeded todo }
      (first ++ [dependent])
      (second ++ (workflow.dependentsOf dependent).filter
        fun further => (lower state.waiting [dependent])[further]? = some 1) := by
  obtain ⟨finished, inside, unique⟩ := tally.current _ _ _ releasing
  obtain ⟨notReady, notRunning, unfinished, kept⟩ := tally.waits unresumed ⟨0, last⟩
  have notFirst : dependent ∉ first := fun member => kept (tally.first_abandoned member)
  have notOwn : dependent ∉ workflow.dependentsOf dependent :=
    fun member => irreflexive dependent (Workflow.mem_dependentsOf.mp member)
  let told : State := { state with control := .releasing step succeeded todo }
  have equation (item : Nat) (bound : item < workflow.len) :
      (lower state.waiting [dependent])[item]? =
        some ((workflow.dependsOn item).length - counted workflow told first item) := by
    refine counter_lower (tally.counter item bound) ?_
    refine (counted_tell tally releasing _ (by rfl) (by rfl) (by rfl) item).trans ?_
    simp
  have furtherPositive : ∀ further ∈ workflow.dependentsOf dependent,
      Positive (lower state.waiting [dependent]) further := by
    intro further member
    have named := Workflow.mem_dependentsOf.mp member
    have different : further ≠ dependent := fun same => notOwn (same ▸ member)
    obtain ⟨count, found⟩ : Positive state.waiting further := by
      refine tally.positive named ?_
      simp [Flow.told, unresumed, notFirst, unfinished]
    exact ⟨count, by rwa [lower_of_not_mem (by simpa using different)]⟩
  refine ⟨furtherPositive, ?_⟩
  constructor
  · simpa using tally.size
  · intro item bound
    exact counter_lower (equation item bound)
      (@counted_giveUp workflow told first dependent unresumed unfinished notFirst item)
  · intro other otherUnresumed
    have before := tally.once other otherUnresumed
    have distinct := Workflow.dependentsOf_nodup workflow dependent
    rw [lower_newly_zero distinct furtherPositive other, lower_one_newly_zero ⟨0, last⟩ other,
      if_pos last]
    simp only [occurrences, List.count_append] at before ⊢
    omega
  · intro other member
    obtain ⟨otherReady, otherRunning, otherUnfinished, otherFirst⟩ := tally.spared other member
    refine ⟨otherReady, otherRunning, otherUnfinished, ?_⟩
    simp only [List.mem_append, List.mem_singleton]
    rintro (old | same)
    · exact otherFirst old
    · exact unresumed (same ▸ member)
  · intro other
    have given := tally.given other
    simp only [List.count_append]
    omega
  · intro current outcome rest equal
    obtain ⟨rfl, rfl, rfl⟩ := Control.releasing.inj equal
    exact ⟨finished, fun item member => inside (List.mem_cons_of_mem _ member),
      (List.nodup_cons.mp unique).2⟩

theorem Tally.releaseOne_eq (tally : Tally workflow state first second)
    (irreflexive : ∀ item, item ∉ workflow.dependsOn item) {step dependent : Nat}
    {succeeded : Bool} {todo : List Nat}
    (releasing : state.control = .releasing step succeeded (dependent :: todo))
    (spares : state.waiting[dependent]? = some 1 → dependent ∉ state.resumed) :
    releaseOne workflow step succeeded state dependent = some
      (if state.waiting[dependent]? = some 1 then
        if succeeded then
          { state with
            waiting := lower state.waiting [dependent]
            ready := state.ready ++ [dependent] }
        else
          { state with
            waiting := lower (lower state.waiting [dependent]) (workflow.dependentsOf dependent)
            abandoned := state.abandoned ++ [dependent] ++
              (workflow.dependentsOf dependent).filter
                fun further => (lower state.waiting [dependent])[further]? = some 1 }
      else { state with waiting := lower state.waiting [dependent] }) := by
  obtain ⟨⟨result, finished, _⟩, _, _⟩ := tally.current _ _ _ releasing
  have kept := (tally.finished finished).2
  have positive := tally.tellable releasing
  unfold releaseOne
  rw [decrement_eq positive, Option.bind_some]
  by_cases last : state.waiting[dependent]? = some 1
  · rw [if_neg (not_not.mpr ((lower_zero_iff positive).mpr last)), if_pos last]
    cases succeeded with
    | true => rw [if_pos ⟨rfl, kept⟩, if_pos rfl]
    | false =>
        rw [if_neg (fun both => Bool.false_ne_true both.1), if_neg Bool.false_ne_true]
        have further := (tally.giveUp irreflexive releasing last (spares last)).1
        exact foldlM_abandonFurther (Workflow.dependentsOf_nodup workflow dependent) further
  · rw [if_pos (fun zero => last ((lower_zero_iff positive).mp zero)), if_neg last]

theorem Tally.release (tally : Tally workflow state first second)
    (irreflexive : ∀ item, item ∉ workflow.dependsOn item) {step dependent : Nat}
    {succeeded : Bool} {todo : List Nat}
    (releasing : state.control = .releasing step succeeded (dependent :: todo))
    (spares : state.waiting[dependent]? = some 1 → dependent ∉ state.resumed)
    {released : State}
    (found : releaseOne workflow step succeeded state dependent = some released) :
    Tally workflow { released with control := .releasing step succeeded todo }
      (first ++ givesUp state) (second ++ givesUpNext workflow state) := by
  rw [tally.releaseOne_eq irreflexive releasing spares, Option.some.injEq] at found
  subst found
  by_cases last : state.waiting[dependent]? = some 1
  · rw [if_pos last]
    cases succeeded with
    | true =>
        rw [if_pos rfl]
        have nothing : givesUp state = [] := by simp [givesUp, completes, releasing]
        simpa [givesUpNext, nothing] using tally.makeReady releasing last (spares last)
    | false =>
        rw [if_neg Bool.false_ne_true]
        have given : givesUp state = [dependent] := by simp [givesUp, completes, releasing, last]
        have along : givesUpNext workflow state = (workflow.dependentsOf dependent).filter
            fun further => (lower state.waiting [dependent])[further]? = some 1 := by
          simp only [givesUpNext, given, List.flatMap_singleton]
          apply List.filter_congr
          intro further member
          have different : further ∉ [dependent] := by
            rw [List.mem_singleton]
            rintro rfl
            exact irreflexive further (Workflow.mem_dependentsOf.mp member)
          rw [lower_of_not_mem different]
        rw [given, along]
        exact (tally.giveUp irreflexive releasing last (spares last)).2
  · rw [if_neg last]
    have nothing : givesUp state = [] := by
      simp [givesUp, completes, releasing, last]
    simpa [givesUpNext, nothing] using tally.tell releasing last

theorem todo_of_looping (looping : state.control = .looping) (step : Nat) : state.todo step = [] := by
  simp [State.todo, looping]

theorem givesUp_of_looping (looping : state.control = .looping) : givesUp state = [] := by
  simp [givesUp, completes, looping]

theorem SparesResumed.spare (spares : SparesResumed state) {step dependent : Nat} {succeeded : Bool}
    {todo : List Nat} (releasing : state.control = .releasing step succeeded (dependent :: todo))
    (last : state.waiting[dependent]? = some 1) : dependent ∉ state.resumed := by
  refine spares dependent ?_
  cases succeeded <;> simp [makesReady, givesUp, completes, releasing, last]

theorem Tally.step (tally : Tally workflow state first second)
    (irreflexive : ∀ item, item ∉ workflow.dependsOn item) {event : Event} {after : State}
    (spares : SparesResumed state) (moved : next workflow state event = some after) :
    Tally workflow after (first ++ givesUp state) (second ++ givesUpNext workflow state) ∧
      after.control ≠ .panicked := by
  have unchanged (looping : state.control = .looping) :
      first ++ givesUp state = first ∧ second ++ givesUpNext workflow state = second := by
    simp [givesUpNext, givesUp_of_looping looping]
  cases event with
  | submit step task =>
      obtain ⟨looping, rest, ready, _, rfl⟩ := next_submit moved
      rw [(unchanged looping).1, (unchanged looping).2]
      refine ⟨tally.submit ready, ?_⟩
      simp [looping]
  | join step outcome catalog =>
      obtain ⟨looping, idle, running, ⟨source, rfl, rfl⟩ | ⟨result, rfl, rfl⟩⟩ := next_join moved
      · rw [(unchanged looping).1, (unchanged looping).2]
        exact ⟨tally.settle (List.Perm.refl _) (todo_of_looping looping) (by simp), by simp⟩
      · rw [(unchanged looping).1, (unchanged looping).2]
        exact ⟨tally.join looping running, by simp [joined]⟩
  | lost reason =>
      obtain ⟨looping, idle, rfl⟩ := next_lost moved
      rw [(unchanged looping).1, (unchanged looping).2]
      exact ⟨tally.settle (List.Perm.refl _) (todo_of_looping looping) (by simp), by simp⟩
  | leave bytes =>
      obtain ⟨looping, idle, finished, rfl⟩ := next_leave moved
      rw [(unchanged looping).1, (unchanged looping).2]
      exact ⟨tally.settle (List.Perm.refl _) (todo_of_looping looping) (by simp), by simp⟩
  | release =>
      rcases next_release moved with
        ⟨step, succeeded, releasing, rfl⟩ | ⟨step, succeeded, dependent, todo, releasing, cases⟩
      · have nothing : givesUp state = [] := by
          simp only [givesUp, completes, releasing]
        have idle (other : Nat) : state.todo other = [] := by
          simp [State.todo, releasing]
        simp only [givesUpNext, nothing, List.flatMap_nil, List.append_nil]
        refine ⟨tally.settle (List.perm_insertionSort _ _) idle (by simp), ?_⟩
        simp
      · have spare := spares.spare releasing
        rcases cases with ⟨failed, rfl⟩ | ⟨released, found, rfl⟩
        · rw [tally.releaseOne_eq irreflexive releasing spare] at failed
          simp at failed
        · refine ⟨tally.release irreflexive releasing spare found, ?_⟩
          simp

end Tally

end AetherMesh.Flow
