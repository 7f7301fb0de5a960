import AetherMesh.Controller.Catalog
import AetherMesh.Core.Node
import AetherMesh.Library.Selection
import Mathlib.Algebra.BigOperators.Group.List.Basic
import Mathlib.Algebra.Order.BigOperators.Group.List

/-!
Where a task should run. Floats are kept as their bits and compared by their total order; how
they are added and multiplied is a parameter. Sizes are summed up in 64 bits, and what a sum that
does not fit does depends on the build.
-/

namespace AetherMesh

/-- The integer whose order is the total order of the singles. -/
def totalValue (bits : BitVec 32) : Int := (bits ^^^ (bits.sshiftRight 31 >>> 1)).toInt

def totalCmp (left right : BitVec 32) : Ordering := compare (totalValue left) (totalValue right)

/-- The negative zero comes before the positive one. -/
example : totalCmp 0x80000000 0 = .lt ∧ totalCmp 0xbf800000 0x80000000 = .lt := by decide

/-- A build either checks additions for overflow or lets them wrap around. -/
inductive Overflow
  | panics
  | wraps
deriving DecidableEq

def addU64 (overflow : Overflow) (left right : Nat) : Option Nat :=
  if left + right < 2 ^ 64 then some (left + right)
  else
    match overflow with
    | .panics => none
    | .wraps => some ((left + right) % 2 ^ 64)

def sumU64 (overflow : Overflow) (sizes : List Nat) : Option Nat := sizes.foldlM (addU64 overflow) 0

namespace DataCatalog

def localSizes (catalog : DataCatalog) (nodeId : NodeId) (inputs : List DataId) : List Nat :=
  ((inputs.filterMap catalog.get).filter fun entry => nodeId ∈ entry.locations).map
    fun entry => entry.descriptor.sizeBytes

def localBytesIn (overflow : Overflow) (catalog : DataCatalog) (nodeId : NodeId)
    (inputs : List DataId) : Option Nat :=
  sumU64 overflow (catalog.localSizes nodeId inputs)

def descriptor (catalog : DataCatalog) (dataId : DataId) : Option DataDescriptor :=
  (catalog.get dataId).map fun entry => entry.descriptor

end DataCatalog

def NodeDescription.eligible (nodes : List NodeDescription) (task : Task) : List NodeDescription :=
  nodes.filter fun node => satisfiesAll node.labels task.constraints

def loadOrder (left right : NodeDescription) : Ordering :=
  (totalCmp left.metrics.cpuUsage right.metrics.cpuUsage).then
    (totalCmp left.metrics.memoryUsage right.metrics.memoryUsage)

/-- Without a result the selection has panicked. -/
def LeastLoadedScheduler.selectNode (nodes : List NodeDescription) (task : Task) :
    Option (Option NodeId) :=
  (Selection.minBy (fun left right => some (loadOrder left right))
      (NodeDescription.eligible nodes task)).map
    fun chosen => chosen.map fun node => node.id

structure LocalityScheduler where
  catalog : DataCatalog

namespace LocalityScheduler

def order (overflow : Overflow) (scheduler : LocalityScheduler) (task : Task)
    (left right : NodeDescription) : Option Ordering := do
  let leftLocal ← scheduler.catalog.localBytesIn overflow left.id task.inputs
  let rightLocal ← scheduler.catalog.localBytesIn overflow right.id task.inputs
  return (compare leftLocal rightLocal).then (loadOrder right left)

def selectNode (overflow : Overflow) (scheduler : LocalityScheduler) (nodes : List NodeDescription)
    (task : Task) : Option (Option NodeId) :=
  (Selection.maxBy (scheduler.order overflow task) (NodeDescription.eligible nodes task)).map
    fun chosen => chosen.map fun node => node.id

end LocalityScheduler

structure SingleArithmetic where
  add : BitVec 32 → BitVec 32 → BitVec 32
  sub : BitVec 32 → BitVec 32 → BitVec 32
  mul : BitVec 32 → BitVec 32 → BitVec 32
  div : BitVec 32 → BitVec 32 → BitVec 32
  ofU64 : Nat → BitVec 32

def defaultBandwidthBytesPerSec : Nat := 12500000

def defaultLatencyMs : BitVec 32 := 0x42480000

structure ScoreWeights where
  cpu : BitVec 32
  memory : BitVec 32
  transfer : BitVec 32
  latency : BitVec 32
  locality : BitVec 32
deriving DecidableEq

def ScoreWeights.default : ScoreWeights where
  cpu := 0x3f800000
  memory := 0x3f000000
  transfer := 0x3f800000
  latency := 0x3f800000
  locality := 0x3f800000

structure Score where
  computeCost : BitVec 32
  transferCost : BitVec 32
  latencyPenalty : BitVec 32
  localityBonus : BitVec 32
deriving DecidableEq

def Score.total (arithmetic : SingleArithmetic) (score : Score) : BitVec 32 :=
  arithmetic.sub
    (arithmetic.add (arithmetic.add score.computeCost score.transferCost) score.latencyPenalty)
    score.localityBonus

structure AdvancedScheduler where
  catalog : DataCatalog
  weights : ScoreWeights

namespace AdvancedScheduler

def new (catalog : DataCatalog) : AdvancedScheduler := ⟨catalog, .default⟩

def withWeights (scheduler : AdvancedScheduler) (weights : ScoreWeights) : AdvancedScheduler :=
  { scheduler with weights }

variable (overflow : Overflow) (arithmetic : SingleArithmetic) (scheduler : AdvancedScheduler)

def inputSizes (task : Task) : List Nat :=
  (task.inputs.filterMap scheduler.catalog.descriptor).map fun descriptor => descriptor.sizeBytes

/-- The divisor of the latency has the bits of 1000.0. -/
def score (node : NodeDescription) (task : Task) : Option Score := do
  let weights := scheduler.weights
  let totalBytes ← sumU64 overflow (scheduler.inputSizes task)
  let localBytes ← scheduler.catalog.localBytesIn overflow node.id task.inputs
  let missingBytes ← addU64 overflow (totalBytes - localBytes) task.payload.length
  let bandwidth := max (node.bandwidthBytesPerSec.getD defaultBandwidthBytesPerSec) 1
  return {
    computeCost := arithmetic.add (arithmetic.mul node.metrics.cpuUsage weights.cpu)
      (arithmetic.mul node.metrics.memoryUsage weights.memory)
    transferCost := arithmetic.mul
      (arithmetic.div (arithmetic.ofU64 missingBytes) (arithmetic.ofU64 bandwidth)) weights.transfer
    latencyPenalty := arithmetic.mul
      (arithmetic.div (node.latencyMs.getD defaultLatencyMs) 0x447a0000) weights.latency
    localityBonus :=
      if totalBytes = 0 then 0
      else arithmetic.mul
        (arithmetic.div (arithmetic.ofU64 localBytes) (arithmetic.ofU64 totalBytes))
        weights.locality }

def order (task : Task) (left right : NodeDescription) : Option Ordering := do
  let leftScore ← scheduler.score overflow arithmetic left task
  let rightScore ← scheduler.score overflow arithmetic right task
  return (totalCmp (leftScore.total arithmetic) (rightScore.total arithmetic)).then
    (loadOrder left right)

def selectNode (nodes : List NodeDescription) (task : Task) : Option (Option NodeId) :=
  (Selection.minBy (scheduler.order overflow arithmetic task)
      (NodeDescription.eligible nodes task)).map
    fun chosen => chosen.map fun node => node.id

end AdvancedScheduler

def DataCatalog.localSize (catalog : DataCatalog) (nodeId : NodeId) (inputs : List DataId) : Nat :=
  (catalog.localSizes nodeId inputs).sum

def AdvancedScheduler.inputSize (scheduler : AdvancedScheduler) (task : Task) : Nat :=
  (scheduler.inputSizes task).sum

def NodeDescription.load (node : NodeDescription) : ℤ ×ₗ ℤ :=
  toLex (totalValue node.metrics.cpuUsage, totalValue node.metrics.memoryUsage)

def LocalityScheduler.rank (scheduler : LocalityScheduler) (task : Task) (node : NodeDescription) :
    ℕᵒᵈ ×ₗ (ℤ ×ₗ ℤ) :=
  toLex (OrderDual.toDual (scheduler.catalog.localSize node.id task.inputs), node.load)

def AdvancedScheduler.rank (arithmetic : SingleArithmetic) (scheduler : AdvancedScheduler)
    (task : Task) (node : NodeDescription) : ℤ ×ₗ (ℤ ×ₗ ℤ) :=
  toLex (((scheduler.score .wraps arithmetic node task).map fun score =>
    totalValue (score.total arithmetic)).getD 0, node.load)

/-- The node that is chosen may run the task and has the least rank of all that may. -/
def Chooses {Rank : Type*} [LE Rank] (rank : NodeDescription → Rank) (nodes : List NodeDescription)
    (task : Task) : Option NodeId → Prop
  | none => ∀ node ∈ nodes, satisfiesAll node.labels task.constraints = false
  | some nodeId => ∃ node ∈ nodes, node.id = nodeId ∧
      satisfiesAll node.labels task.constraints = true ∧
      ∀ other ∈ nodes, satisfiesAll other.labels task.constraints = true → rank node ≤ rank other

section Selecting

variable {Rank : Type*} [LinearOrder Rank] {rank : NodeDescription → Rank} {cmp : NodeDescription →
  NodeDescription → Option Ordering} {pick : NodeDescription → NodeDescription →
  Option NodeDescription} {nodes : List NodeDescription} {task : Task}

theorem NodeDescription.mem_eligible {node : NodeDescription} :
    node ∈ NodeDescription.eligible nodes task ↔
      node ∈ nodes ∧ satisfiesAll node.labels task.constraints = true :=
  List.mem_filter

theorem chooses_of_picks (picks : ∀ left ∈ NodeDescription.eligible nodes task,
    ∀ right ∈ NodeDescription.eligible nodes task,
      Selection.Picks rank pick left right) :
    ∃ chosen, (Selection.reduceM pick (NodeDescription.eligible nodes task)).map
        (fun chosen => chosen.map fun node => node.id) = some chosen ∧
      Chooses rank nodes task chosen := by
  rcases Selection.reduceM_least picks with ⟨empty, none⟩ | ⟨best, found, member, least⟩
  · refine ⟨Option.none, by rw [none]; rfl, ?_⟩
    intro node listed
    by_contra satisfied
    have there := NodeDescription.mem_eligible.mpr ⟨listed, by simpa using satisfied⟩
    rw [empty] at there
    cases there
  · obtain ⟨listed, satisfied⟩ := NodeDescription.mem_eligible.mp member
    refine ⟨some best.id, by rw [found]; rfl, best, listed, rfl, satisfied, ?_⟩
    intro other present fits
    exact least other (NodeDescription.mem_eligible.mpr ⟨present, fits⟩)

theorem chooses_of_few (few : (NodeDescription.eligible nodes task).length ≤ 1) :
    ∃ chosen, (Selection.reduceM pick (NodeDescription.eligible nodes task)).map
        (fun chosen => chosen.map fun node => node.id) = some chosen ∧
      Chooses rank nodes task chosen := by
  match found : NodeDescription.eligible nodes task with
  | [] =>
      refine ⟨none, rfl, ?_⟩
      intro node listed
      by_contra satisfied
      have there := NodeDescription.mem_eligible.mpr ⟨listed, by simpa using satisfied⟩
      rw [found] at there
      cases there
  | [node] =>
      have alone : ∀ other, other ∈ NodeDescription.eligible nodes task ↔ other = node := by
        simp [found]
      obtain ⟨listed, satisfied⟩ := NodeDescription.mem_eligible.mp ((alone node).mpr rfl)
      refine ⟨some node.id, rfl, node, listed, rfl, satisfied, ?_⟩
      intro other present fits
      rw [(alone other).mp (NodeDescription.mem_eligible.mpr ⟨present, fits⟩)]
  | first :: second :: rest =>
      rw [found] at few
      simp at few

theorem picks_min_of (compared : ∀ left ∈ NodeDescription.eligible nodes task,
    ∀ right ∈ NodeDescription.eligible nodes task,
      cmp left right = some (compare (rank left) (rank right))) :
    ∃ chosen, (Selection.minBy cmp (NodeDescription.eligible nodes task)).map
        (fun chosen => chosen.map fun node => node.id) = some chosen ∧
      Chooses rank nodes task chosen :=
  chooses_of_picks fun left one right two => Selection.picks_min (compared left one right two)

/-- Where comparing needs sums that may not fit, the choice is right in every build exactly if
nothing is compared or they all fit. -/
theorem chooses_iff {pick : Overflow → NodeDescription → NodeDescription → Option NodeDescription}
    {Fits : NodeDescription → Prop}
    (picks : ∀ overflow left right, Fits left → Fits right →
      Selection.Picks rank (pick overflow) left right)
    (panics : ∀ bad other, ¬Fits bad →
      pick .panics bad other = none ∧ pick .panics other bad = none) :
    (∀ overflow, ∃ chosen, (Selection.reduceM (pick overflow)
          (NodeDescription.eligible nodes task)).map
        (fun chosen => chosen.map fun node => node.id) = some chosen ∧
      Chooses rank nodes task chosen) ↔
    ((NodeDescription.eligible nodes task).length ≤ 1 ∨
      ∀ node ∈ NodeDescription.eligible nodes task, Fits node) := by
  constructor
  · intro best
    by_contra large
    simp only [not_or, not_le, not_forall] at large
    obtain ⟨several, bad, member, exceeds⟩ := large
    obtain ⟨chosen, selected, -⟩ := best .panics
    rw [Selection.reduceM_fails several member (fun other => (panics bad other exceeds).1)
      fun other => (panics bad other exceeds).2] at selected
    cases selected
  · rintro (few | fits) overflow
    · exact chooses_of_few few
    · exact chooses_of_picks fun left one right two =>
        picks overflow left right (fits left one) (fits right two)

end Selecting

theorem loadOrder_eq (left right : NodeDescription) :
    loadOrder left right = compare left.load right.load := rfl

theorem LeastLoadedScheduler.selectNode_best (nodes : List NodeDescription) (task : Task) :
    ∃ chosen, selectNode nodes task = some chosen ∧
      Chooses NodeDescription.load nodes task chosen :=
  picks_min_of fun left _ right _ => congrArg some (loadOrder_eq left right)

section Sums

variable {overflow : Overflow} {left right : Nat} {sizes : List Nat}

theorem addU64_fits (fits : left + right < 2 ^ 64) :
    addU64 overflow left right = some (left + right) :=
  if_pos fits

theorem addU64_panics (large : 2 ^ 64 ≤ left + right) : addU64 .panics left right = none :=
  if_neg (Nat.not_lt.mpr large)

theorem addU64_wraps : addU64 .wraps left right = some ((left + right) % 2 ^ 64) := by
  unfold addU64
  split
  · rename_i fits
    rw [Nat.mod_eq_of_lt fits]
  · rfl

theorem foldlM_addU64 (start : Nat) (fits : start + sizes.sum < 2 ^ 64) :
    sizes.foldlM (addU64 overflow) start = some (start + sizes.sum) := by
  induction sizes generalizing start with
  | nil => rfl
  | cons first rest ih =>
      rw [List.sum_cons] at fits
      rw [List.foldlM_cons, addU64_fits (by omega), List.sum_cons, ← Nat.add_assoc]
      exact ih (start + first) (by omega)

theorem foldlM_addU64_panics (start : Nat) (bounded : start < 2 ^ 64)
    (large : 2 ^ 64 ≤ start + sizes.sum) : sizes.foldlM (addU64 .panics) start = none := by
  induction sizes generalizing start with
  | nil =>
      rw [List.sum_nil] at large
      omega
  | cons first rest ih =>
      rw [List.sum_cons] at large
      rw [List.foldlM_cons]
      by_cases fits : start + first < 2 ^ 64
      · rw [addU64_fits fits]
        exact ih (start + first) fits (by omega)
      · rw [addU64_panics (by omega)]
        rfl

theorem sumU64_fits (fits : sizes.sum < 2 ^ 64) : sumU64 overflow sizes = some sizes.sum := by
  have folded := @foldlM_addU64 overflow sizes 0 (by omega)
  rwa [Nat.zero_add] at folded

theorem sumU64_panics (large : 2 ^ 64 ≤ sizes.sum) : sumU64 .panics sizes = none :=
  foldlM_addU64_panics 0 (by decide) (by omega)

end Sums

namespace LocalityScheduler

variable {overflow : Overflow} {scheduler : LocalityScheduler} {nodes : List NodeDescription}
  {task : Task}

theorem order_eq {left right : NodeDescription}
    (first : scheduler.catalog.localSize left.id task.inputs < 2 ^ 64)
    (second : scheduler.catalog.localSize right.id task.inputs < 2 ^ 64) :
    scheduler.order overflow task left right =
      some (compare (scheduler.rank task right) (scheduler.rank task left)) := by
  rw [order, DataCatalog.localBytesIn, DataCatalog.localBytesIn, sumU64_fits first,
    sumU64_fits second]
  rfl

theorem order_panics {bad : NodeDescription}
    (large : 2 ^ 64 ≤ scheduler.catalog.localSize bad.id task.inputs) (other : NodeDescription) :
    scheduler.order .panics task bad other = none ∧
      scheduler.order .panics task other bad = none := by
  have panicked : scheduler.catalog.localBytesIn .panics bad.id task.inputs = none :=
    sumU64_panics large
  constructor
  · rw [order, panicked]
    rfl
  · rw [order, panicked]
    cases scheduler.catalog.localBytesIn .panics other.id task.inputs <;> rfl

theorem selectNode_best_iff (scheduler : LocalityScheduler) (nodes : List NodeDescription)
    (task : Task) :
    (∀ overflow, ∃ chosen, scheduler.selectNode overflow nodes task = some chosen ∧
      Chooses (scheduler.rank task) nodes task chosen) ↔
    ((NodeDescription.eligible nodes task).length ≤ 1 ∨
      ∀ node ∈ NodeDescription.eligible nodes task,
      scheduler.catalog.localSize node.id task.inputs < 2 ^ 64) := by
  refine chooses_iff (fun overflow left right one two => Selection.picks_max (order_eq one two)) ?_
  intro bad other large
  obtain ⟨before, after⟩ := order_panics (Nat.not_lt.mp large) other
  exact ⟨by rw [before]; rfl, by rw [after]; rfl⟩

end LocalityScheduler

namespace AdvancedScheduler

variable {overflow : Overflow} {arithmetic : SingleArithmetic} {scheduler : AdvancedScheduler}
  {node : NodeDescription} {task : Task}

theorem localSize_le :
    scheduler.catalog.localSize node.id task.inputs ≤ scheduler.inputSize task := by
  have sizes : scheduler.inputSizes task =
      (task.inputs.filterMap scheduler.catalog.get).map fun entry => entry.descriptor.sizeBytes := by
    rw [inputSizes, show scheduler.catalog.descriptor = fun dataId =>
      (scheduler.catalog.get dataId).map CatalogEntry.descriptor from rfl, ← List.map_filterMap,
      List.map_map]
    rfl
  rw [inputSize, sizes]
  exact ((List.filter_sublist).map _).sum_le_sum fun _ _ => Nat.zero_le _

def Fits (scheduler : AdvancedScheduler) (task : Task) (node : NodeDescription) : Prop :=
  scheduler.inputSize task < 2 ^ 64 ∧
    scheduler.inputSize task - scheduler.catalog.localSize node.id task.inputs +
      task.payload.length < 2 ^ 64

theorem score_fits (fits : Fits scheduler task node) :
    ∃ score, ∀ overflow, scheduler.score overflow arithmetic node task = some score := by
  obtain ⟨whole, missing⟩ := fits
  have held : (scheduler.catalog.localSizes node.id task.inputs).sum < 2 ^ 64 :=
    localSize_le.trans_lt whole
  rw [inputSize, DataCatalog.localSize] at missing
  have same (overflow : Overflow) : scheduler.score overflow arithmetic node task =
      scheduler.score .wraps arithmetic node task := by
    simp only [score, DataCatalog.localBytesIn, sumU64_fits whole, sumU64_fits held,
      addU64_fits missing, Option.bind_eq_bind, Option.bind_some]
  have computed : (scheduler.score .wraps arithmetic node task).isSome = true := by
    simp only [score, DataCatalog.localBytesIn, sumU64_fits whole, sumU64_fits held,
      addU64_fits missing, Option.bind_eq_bind, Option.bind_some]
    rfl
  obtain ⟨score, found⟩ := Option.isSome_iff_exists.mp computed
  exact ⟨score, fun overflow => (same overflow).trans found⟩

theorem score_panics (large : ¬Fits scheduler task node) :
    scheduler.score .panics arithmetic node task = none := by
  rw [score]
  by_cases whole : scheduler.inputSize task < 2 ^ 64
  · have missing : 2 ^ 64 ≤ scheduler.inputSize task -
        scheduler.catalog.localSize node.id task.inputs + task.payload.length :=
      Nat.not_lt.mp fun less => large ⟨whole, less⟩
    have held : (scheduler.catalog.localSizes node.id task.inputs).sum < 2 ^ 64 :=
      localSize_le.trans_lt whole
    rw [inputSize, DataCatalog.localSize] at missing
    simp only [DataCatalog.localBytesIn, sumU64_fits whole, sumU64_fits held, Option.bind_eq_bind,
      Option.bind_some]
    rw [addU64_panics missing]
    rfl
  · rw [sumU64_panics (Nat.not_lt.mp whole)]
    rfl

theorem order_eq {left right : NodeDescription} (first : Fits scheduler task left)
    (second : Fits scheduler task right) :
    scheduler.order overflow arithmetic task left right =
      some (compare (scheduler.rank arithmetic task left) (scheduler.rank arithmetic task right)) := by
  obtain ⟨leftScore, one⟩ : ∃ score, ∀ overflow,
      scheduler.score overflow arithmetic left task = some score := score_fits first
  obtain ⟨rightScore, two⟩ : ∃ score, ∀ overflow,
      scheduler.score overflow arithmetic right task = some score := score_fits second
  rw [order, one, two, rank, rank, one, two]
  rfl

theorem order_panics {bad : NodeDescription} (large : ¬Fits scheduler task bad)
    (other : NodeDescription) :
    scheduler.order .panics arithmetic task bad other = none ∧
      scheduler.order .panics arithmetic task other bad = none := by
  constructor
  · rw [order, score_panics large]
    rfl
  · rw [order, score_panics large]
    cases scheduler.score .panics arithmetic other task <;> rfl

theorem selectNode_best_iff (arithmetic : SingleArithmetic) (scheduler : AdvancedScheduler)
    (nodes : List NodeDescription) (task : Task) :
    (∀ overflow, ∃ chosen, scheduler.selectNode overflow arithmetic nodes task = some chosen ∧
      Chooses (scheduler.rank arithmetic task) nodes task chosen) ↔
    ((NodeDescription.eligible nodes task).length ≤ 1 ∨
      ∀ node ∈ NodeDescription.eligible nodes task,
      Fits scheduler task node) := by
  refine chooses_iff (fun overflow left right one two => Selection.picks_min (order_eq one two)) ?_
  intro bad other large
  obtain ⟨before, after⟩ := order_panics large other
  exact ⟨by rw [before]; rfl, by rw [after]; rfl⟩

end AdvancedScheduler

/-- The least loaded node is always found. The other two schedulers choose the best node in every
build if and only if there is nothing to compare or every sum they need fits. -/
theorem schedulers_choose_best_iff (arithmetic : SingleArithmetic) (weights : ScoreWeights)
    (catalog : DataCatalog) (nodes : List NodeDescription) (task : Task) :
    (∃ chosen, LeastLoadedScheduler.selectNode nodes task = some chosen ∧
      Chooses NodeDescription.load nodes task chosen) ∧
    ((∀ overflow, ∃ chosen,
        (LocalityScheduler.mk catalog).selectNode overflow nodes task = some chosen ∧
        Chooses ((LocalityScheduler.mk catalog).rank task) nodes task chosen) ↔
      ((NodeDescription.eligible nodes task).length ≤ 1 ∨
        ∀ node ∈ NodeDescription.eligible nodes task,
          catalog.localSize node.id task.inputs < 2 ^ 64)) ∧
    ((∀ overflow, ∃ chosen,
        (AdvancedScheduler.mk catalog weights).selectNode overflow arithmetic nodes task =
          some chosen ∧
        Chooses ((AdvancedScheduler.mk catalog weights).rank arithmetic task) nodes task chosen) ↔
      ((NodeDescription.eligible nodes task).length ≤ 1 ∨
        ∀ node ∈ NodeDescription.eligible nodes task,
          (AdvancedScheduler.mk catalog weights).Fits task node)) :=
  ⟨LeastLoadedScheduler.selectNode_best nodes task,
    LocalityScheduler.selectNode_best_iff ⟨catalog⟩ nodes task,
    AdvancedScheduler.selectNode_best_iff arithmetic ⟨catalog, weights⟩ nodes task⟩

def idleNode (number : Nat) : NodeDescription :=
  ⟨⟨⟨BitVec.ofNat 128 number⟩, ∅⟩, "node", "127.0.0.1:7000", 4, none, none, ⟨0, 0, 0⟩⟩

def dataset (number : UInt8) : DataId := ⟨List.replicate dataIdLen number, List.length_replicate⟩

def hugeReports : DataCatalog :=
  ((DataCatalog.new.record ⟨dataset 1, 2 ^ 63⟩ ⟨1⟩).record ⟨dataset 2, 2 ^ 63⟩ ⟨1⟩).record
    ⟨dataset 3, 1⟩ ⟨2⟩

def readsAll : Task := (Task.new ⟨0⟩ "hash" []).withInputs [dataset 1, dataset 2, dataset 3]

theorem sum_wraps_to_nothing :
    hugeReports.localSize ⟨1⟩ readsAll.inputs = 2 ^ 64 ∧
      hugeReports.localSize ⟨2⟩ readsAll.inputs = 1 ∧
      (LocalityScheduler.mk hugeReports).selectNode .panics [idleNode 1, idleNode 2] readsAll =
        none ∧
      (LocalityScheduler.mk hugeReports).selectNode .wraps [idleNode 1, idleNode 2] readsAll =
        some (some ⟨2⟩) ∧
      ¬Chooses ((LocalityScheduler.mk hugeReports).rank readsAll) [idleNode 1, idleNode 2] readsAll
        (some ⟨2⟩) := by
  refine ⟨by decide, by decide, by decide, by decide, ?_⟩
  rintro ⟨node, listed, named, -, least⟩
  have best := least (idleNode 1) List.mem_cons_self (by decide)
  rcases List.mem_pair.mp listed with rfl | rfl
  · exact absurd named (by decide)
  · exact absurd best (by decide)

end AetherMesh
