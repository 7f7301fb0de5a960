import AetherMesh.Core.WorkflowLeast
import Mathlib.Data.List.MinMax

/-!
The waves of a workflow. The depths are filled in along the order, so a step is measured
after everything it names, and its depth is the length of the longest path that ends at it.
-/

namespace AetherMesh.Workflow

open Precedence Relation

/-- One round of the loop that fills in the depths. An index out of range panics. -/
def measure (workflow : Workflow) (depth : List Nat) (index : Nat) : Option (List Nat) := do
  let step ← workflow.steps[index]?
  let above ← step.dependsOn.mapM fun dependency => depth[dependency]?.map (· + 1)
  if index < depth.length then some (depth.set index (above.max?.getD 0)) else none

def pushWave (waves : List (List Nat)) (entry : Nat × Nat) : Option (List (List Nat)) :=
  if entry.1 < waves.length then some (waves.modify entry.1 (· ++ [entry.2])) else none

def waves (workflow : Workflow) : Option (Except WorkflowError (List (List Nat))) :=
  match workflow.order with
  | .error error => some (.error error)
  | .ok order => do
      let depth ← order.foldlM workflow.measure (List.replicate workflow.len 0)
      let count := depth.max?.elim 0 (· + 1)
      let waves ← depth.zipIdx.foldlM pushWave (List.replicate count [])
      some (.ok waves)

variable {workflow : Workflow}

def height (depth : List Nat) (index : Nat) : Nat := depth.getD index 0

def above (workflow : Workflow) (depth : List Nat) (index : Nat) : Nat :=
  ((workflow.dependsOn index).map fun dependency => height depth dependency + 1).max?.getD 0

theorem mapM_eq_some {α β : Type} {items : List α} {parse : α → Option β} {value : α → β}
    (parsed : ∀ item ∈ items, parse item = some (value item)) :
    items.mapM parse = some (items.map value) := by
  induction items with
  | nil => rfl
  | cons item rest ih =>
      rw [List.mapM_cons, parsed item List.mem_cons_self,
        ih fun other member => parsed other (List.mem_cons_of_mem _ member)]
      rfl

theorem measure_eq {depth : List Nat} {index : Nat} (size : depth.length = workflow.len)
    (inside : index < workflow.len)
    (named : ∀ dependency ∈ workflow.dependsOn index, dependency < workflow.len) :
    workflow.measure depth index = some (depth.set index (workflow.above depth index)) := by
  have present : workflow.steps[index]? = some workflow.steps[index] :=
    List.getElem?_eq_getElem inside
  have same : workflow.dependsOn index = workflow.steps[index].dependsOn := by
    simp only [dependsOn, present]
  have levels : workflow.steps[index].dependsOn.mapM
        (fun dependency => depth[dependency]?.map (· + 1)) =
      some ((workflow.dependsOn index).map fun dependency => height depth dependency + 1) := by
    rw [same]
    refine mapM_eq_some ?_
    intro dependency member
    have below : dependency < depth.length := by
      rw [size]
      exact named dependency (same ▸ member)
    simp [height, List.getD_eq_getElem?_getD, below]
  unfold measure
  rw [present, Option.bind_eq_bind, Option.bind_some, levels, Option.bind_eq_bind,
    Option.bind_some, if_pos (by rw [size]; exact inside)]
  rfl

structure Measured (workflow : Workflow) (placed : List Nat) (depth : List Nat) : Prop where
  size : depth.length = workflow.len
  height : ∀ index ∈ placed, height depth index = workflow.above depth index

theorem height_set {depth : List Nat} {index : Nat} (inside : index < depth.length)
    (value other : Nat) :
    height (depth.set index value) other = if index = other then value else height depth other := by
  unfold height
  rw [List.getD_eq_getElem?_getD, List.getElem?_set, List.getD_eq_getElem?_getD]
  by_cases same : index = other
  · rw [if_pos same, if_pos same, if_pos inside, Option.getD_some]
  · rw [if_neg same, if_neg same]

theorem above_set {depth : List Nat} {index other value : Nat} (inside : index < depth.length)
    (unnamed : index ∉ workflow.dependsOn other) :
    workflow.above (depth.set index value) other = workflow.above depth other := by
  unfold above
  congr 2
  refine List.map_congr_left ?_
  intro dependency named
  have different : index ≠ dependency := fun same => unnamed (by rw [same]; exact named)
  rw [height_set inside, if_neg different]

theorem foldlM_measure {steps : List Nat} (ordered : workflow.order = .ok steps) :
    ∀ front back, steps = front ++ back → ∃ depth,
      front.foldlM workflow.measure (List.replicate workflow.len 0) = some depth ∧
        Measured workflow front depth := by
  intro front
  induction front using List.reverseRecOn with
  | nil => exact fun back _ => ⟨_, rfl, List.length_replicate, by simp⟩
  | append_singleton front last ih =>
      intro back split
      have shape : steps = front ++ last :: back := by simpa using split
      obtain ⟨depth, filled, measured⟩ := ih (last :: back) shape
      have inside (index : Nat) (member : index ∈ steps) : index < workflow.len :=
        List.mem_range.mp ((order_perm ordered).subset member)
      have placed : last < workflow.len := inside last (by simp [shape])
      have earlier := order_later ordered shape
      have fresh : last ∉ front := by
        have unique := shape ▸ order_nodup ordered
        exact fun member => (List.nodup_append.mp unique).2.2 last member last (by simp) rfl
      have next := measure_eq measured.size placed fun dependency named =>
        inside dependency (by simp [shape, earlier dependency named])
      have known : last < depth.length := by rw [measured.size]; exact placed
      refine ⟨depth.set last (workflow.above depth last), ?_, ?_, ?_⟩
      · rw [List.foldlM_append, filled, Option.bind_eq_bind, Option.bind_some,
          List.foldlM_cons, next]
        rfl
      · rw [List.length_set, measured.size]
      intro index member
      rcases List.mem_append.mp member with before | same
      · have closed := order_closed ordered shape before
        have different : last ≠ index := fun same => fresh (by rw [same]; exact before)
        rw [height_set known, if_neg different, above_set known fun named => fresh (closed named),
          measured.height index before]
      · rw [List.mem_singleton.mp same, height_set known, if_pos rfl,
          above_set known fun named => fresh (earlier last named)]

theorem dependsOn_inside {steps : List Nat} (ordered : workflow.order = .ok steps)
    {index dependency : Nat} (named : workflow.Needs index dependency) :
    dependency < workflow.len := by
  have member : index ∈ steps :=
    (order_perm ordered).symm.subset (List.mem_range.mpr (lt_of_mem_dependsOn named))
  obtain ⟨front, back, split⟩ := List.append_of_mem member
  refine List.mem_range.mp ((order_perm ordered).subset ?_)
  rw [split]
  exact List.mem_append_left _ (order_later ordered split dependency named)

theorem levelled_of_measured {steps depth : List Nat} (ordered : workflow.order = .ok steps)
    (measured : Measured workflow steps depth) : Levelled workflow.Needs (height depth) := by
  have heights (index : Nat) (inside : index < workflow.len) :
      height depth index = workflow.above depth index :=
    measured.height index ((order_perm ordered).symm.subset (List.mem_range.mpr inside))
  constructor
  · intro index dependency named
    rw [heights index (lt_of_mem_dependsOn named)]
    exact List.le_max?_getD_of_mem
      (List.mem_map_of_mem (f := fun dependency => height depth dependency + 1) named)
  · intro index lower top
    by_cases inside : index < workflow.len
    · rw [heights index inside, above] at top
      cases found : ((workflow.dependsOn index).map
          fun dependency => height depth dependency + 1).max? with
      | none => simp [found] at top
      | some deepest =>
          obtain ⟨dependency, named, deep⟩ := List.mem_map.mp (List.max?_mem found)
          rw [found, Option.getD_some] at top
          exact ⟨dependency, named, by omega⟩
    · have missing : depth[index]? = none :=
        List.getElem?_eq_none (by rw [measured.size]; exact Nat.le_of_not_lt inside)
      simp [height, List.getD_eq_getElem?_getD, missing] at top

theorem foldlM_pushWave (entries : List (Nat × Nat)) (waves : List (List Nat))
    (inside : ∀ entry ∈ entries, entry.1 < waves.length) :
    entries.foldlM pushWave waves = some (waves.zipIdx.map fun wave =>
      wave.1 ++ (entries.filter fun entry => entry.1 = wave.2).map Prod.snd) := by
  induction entries generalizing waves with
  | nil => simp [List.zipIdx_map_fst]
  | cons entry rest ih =>
      have fits := inside entry List.mem_cons_self
      rw [List.foldlM_cons, pushWave, if_pos fits, Option.bind_eq_bind, Option.bind_some, ih _
        (by
          intro other member
          rw [List.length_modify]
          exact inside other (List.mem_cons_of_mem _ member))]
      congr 1
      refine List.ext_getElem (by simp) ?_
      intro number left right
      have position : number < waves.length := by simpa using right
      by_cases same : entry.1 = number
      · simp [same]
      · simp [same]

theorem zipIdx_eq (depth : List Nat) :
    depth.zipIdx = (List.range depth.length).map fun index => (height depth index, index) := by
  refine List.ext_getElem (by simp) ?_
  intro index left right
  have inside : index < depth.length := by simpa using left
  simp [height, List.getD_eq_getElem?_getD, inside]

def wave (workflow : Workflow) (depth : List Nat) (number : Nat) : List Nat :=
  (List.range workflow.len).filter fun index => height depth index = number

theorem mem_wave {depth : List Nat} {number step : Nat} :
    step ∈ workflow.wave depth number ↔ step < workflow.len ∧ height depth step = number := by
  simp [wave]

theorem waves_eq {steps : List Nat} (ordered : workflow.order = .ok steps) :
    ∃ depth, Measured workflow steps depth ∧ workflow.waves =
      some (.ok ((List.range (depth.max?.elim 0 (· + 1))).map (workflow.wave depth))) := by
  obtain ⟨depth, filled, measured⟩ := foldlM_measure ordered steps [] (List.append_nil _).symm
  refine ⟨depth, measured, ?_⟩
  have pushed := foldlM_pushWave depth.zipIdx (List.replicate (depth.max?.elim 0 (· + 1)) []) (by
    intro entry member
    have found : entry.1 ∈ depth := by
      rw [← List.zipIdx_map_fst 0 depth]
      exact List.mem_map_of_mem member
    have within : entry.1 ≤ depth.max?.getD 0 := List.le_max?_getD_of_mem found
    rw [List.length_replicate]
    cases deepest : depth.max? with
    | none =>
        rw [List.max?_eq_none_iff.mp deepest] at found
        cases found
    | some top =>
        rw [deepest] at within
        exact Nat.lt_succ_of_le within)
  unfold waves
  rw [ordered]
  simp only [filled, Option.bind_eq_bind, Option.bind_some, pushed]
  congr 2
  refine List.ext_getElem (by simp) ?_
  intro number left right
  simp only [List.getElem_map, List.getElem_zipIdx, List.getElem_replicate, List.nil_append,
    List.getElem_range, Nat.zero_add, zipIdx_eq, List.filter_map, List.map_map, measured.size, wave]
  simp [Function.comp_def]

theorem wave_nonempty {steps depth : List Nat} (ordered : workflow.order = .ok steps)
    (measured : Measured workflow steps depth) {number : Nat}
    (within : number < depth.max?.elim 0 (· + 1)) : workflow.wave depth number ≠ [] := by
  cases found : depth.max? with
  | none => simp [found] at within
  | some deepest =>
      rw [found, Option.elim_some] at within
      obtain ⟨top, below, high⟩ := List.getElem_of_mem (List.max?_mem found)
      have height : height depth top = deepest := by
        simp [height, List.getD_eq_getElem?_getD, below, high]
      have levelled := levelled_of_measured ordered measured
      obtain ⟨step, path, level⟩ := @levelled.descends _ _ top _ number (by omega)
      refine List.ne_nil_of_mem (mem_wave.mpr ⟨?_, level⟩)
      rcases path.cases_tail with same | ⟨rest, -, needed⟩
      · rw [same, ← measured.size]
        exact below
      · exact dependsOn_inside ordered needed

theorem waves_perm {steps depth : List Nat} (measured : Measured workflow steps depth) :
    ((List.range (depth.max?.elim 0 (· + 1))).map (workflow.wave depth)).flatten.Perm
      (List.range workflow.len) := by
  refine (List.perm_ext_iff_of_nodup ?_ List.nodup_range).mpr ?_
  · refine List.nodup_flatten.mpr ⟨?_, ?_⟩
    · intro wave member
      obtain ⟨number, -, rfl⟩ := List.mem_map.mp member
      exact List.nodup_range.filter _
    · refine List.pairwise_map.mpr (List.pairwise_lt_range.imp ?_)
      intro left right before step first second
      have sameLeft := (mem_wave.mp first).2
      have sameRight := (mem_wave.mp second).2
      omega
  · intro step
    simp only [List.mem_flatten, List.mem_map, List.mem_range, exists_exists_and_eq_and, mem_wave]
    refine ⟨fun ⟨_, _, inside, _⟩ => inside, fun inside => ⟨_, ?_, inside, rfl⟩⟩
    have present : height depth step ∈ depth := by
      have below : step < depth.length := by rw [measured.size]; exact inside
      simp [height, List.getD_eq_getElem?_getD, below]
    have most : height depth step ≤ depth.max?.getD 0 := List.le_max?_getD_of_mem present
    cases found : depth.max? with
    | none =>
        rw [List.max?_eq_none_iff.mp found] at present
        cases present
    | some deepest =>
        rw [found] at most
        exact Nat.lt_succ_of_le most

/-- The waves of a valid workflow are its steps by the length of the longest path that ends at
each: what a step names is in an earlier wave, and some of it in the wave just before. -/
theorem waves_correct (workflow : Workflow) (valid : workflow.validate = .ok ()) :
    ∃ waves, workflow.waves = some (.ok waves) ∧
      (∀ wave ∈ waves, wave ≠ [] ∧ wave.Pairwise (· < ·)) ∧
      waves.flatten.Perm (List.range workflow.len) ∧
      ∀ number wave, waves[number]? = some wave → ∀ step ∈ wave,
        IsGreatest {length | Ends workflow.Needs step length} number ∧
        (∀ dependency ∈ workflow.dependsOn step,
          ∃ earlier < number, ∃ before, waves[earlier]? = some before ∧ dependency ∈ before) ∧
        (0 < number → ∃ dependency ∈ workflow.dependsOn step,
          ∃ before, waves[number - 1]? = some before ∧ dependency ∈ before) := by
  obtain ⟨steps, ordered⟩ := validate_eq_ok valid
  obtain ⟨depth, measured, computed⟩ := waves_eq ordered
  have levelled := levelled_of_measured ordered measured
  refine ⟨_, computed, ?_, waves_perm measured, ?_⟩
  · intro wave member
    obtain ⟨number, within, rfl⟩ := List.mem_map.mp member
    exact ⟨wave_nonempty ordered measured (List.mem_range.mp within),
      List.pairwise_lt_range.filter _⟩
  · intro number wave found step member
    rw [List.getElem?_map] at found
    obtain ⟨same, position, rfl⟩ := Option.map_eq_some_iff.mp found
    obtain ⟨within, rfl⟩ := List.getElem?_eq_some_iff.mp position
    rw [List.length_range] at within
    rw [List.getElem_range] at member
    obtain ⟨inside, level⟩ := mem_wave.mp member
    have held (dependency : Nat) (needed : workflow.Needs step dependency) (number' : Nat)
        (height : height depth dependency = number') (least : number' < number) :
        ∃ before, ((List.range (depth.max?.elim 0 (· + 1))).map (workflow.wave depth))[number']? =
          some before ∧ dependency ∈ before := by
      refine ⟨workflow.wave depth number', ?_,
        mem_wave.mpr ⟨dependsOn_inside ordered needed, height⟩⟩
      simp [show number' < depth.max?.elim 0 (· + 1) by omega]
    refine ⟨level ▸ levelled.longest step, ?_, ?_⟩
    · intro dependency named
      have below := levelled.below step dependency named
      rw [level] at below
      exact ⟨height depth dependency, below, held dependency named _ rfl below⟩
    · intro positive
      obtain ⟨dependency, named, lower⟩ := levelled.tight step (number - 1) (by omega)
      exact ⟨dependency, named, held dependency named _ lower (by omega)⟩

theorem scrambled_waves :
    ∃ waves, scrambled.waves = some (.ok waves) ∧
      (∀ wave ∈ waves, wave ≠ [] ∧ wave.Pairwise (· < ·)) ∧
      waves.flatten.Perm (List.range scrambled.len) ∧
      ∀ number wave, waves[number]? = some wave → ∀ step ∈ wave,
        IsGreatest {length | Ends scrambled.Needs step length} number ∧
        (∀ dependency ∈ scrambled.dependsOn step,
          ∃ earlier < number, ∃ before, waves[earlier]? = some before ∧ dependency ∈ before) ∧
        (0 < number → ∃ dependency ∈ scrambled.dependsOn step,
          ∃ before, waves[number - 1]? = some before ∧ dependency ∈ before) :=
  waves_correct scrambled (by decide)

example : scrambled.waves = some (.ok [[3], [1, 2], [0]]) := by decide

end AetherMesh.Workflow
