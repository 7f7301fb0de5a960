import AetherMesh.Core.Data
import Mathlib.Data.List.AList

/-! Tasks, the conditions on the nodes that may run them, and what comes back. -/

namespace AetherMesh

abbrev Labels := AList fun _ : String => String

/-- The source's `Exists` is called `present`. -/
inductive Constraint
  | equals (key value : String)
  | present (key : String)
  | notEquals (key value : String)
deriving DecidableEq

def Constraint.isSatisfiedBy (labels : Labels) : Constraint → Bool
  | .equals key value => labels.lookup key = some value
  | .present key => (labels.lookup key).isSome
  | .notEquals key value => labels.lookup key ≠ some value

def satisfiesAll (labels : Labels) (constraints : List Constraint) : Bool :=
  constraints.all (Constraint.isSatisfiedBy labels)

inductive Priority
  | background
  | low
  | normal
  | high
  | critical
deriving DecidableEq

def Priority.level : Priority → Nat
  | .background => 0
  | .low => 1
  | .normal => 2
  | .high => 3
  | .critical => 4

instance : LE Priority where
  le left right := left.level ≤ right.level

instance : LT Priority where
  lt left right := left.level < right.level

instance (left right : Priority) : Decidable (left ≤ right) :=
  inferInstanceAs (Decidable (left.level ≤ right.level))

instance (left right : Priority) : Decidable (left < right) :=
  inferInstanceAs (Decidable (left.level < right.level))

def Priority.all : List Priority := [.background, .low, .normal, .high, .critical]

def Priority.promoted : Priority → Priority
  | .background => .low
  | .low => .normal
  | .normal => .high
  | .high => .critical
  | .critical => .critical

/-- The source's `module` is called `wasmModule`. -/
structure Task where
  id : TaskId
  kind : String
  payload : Bytes
  inputs : List DataId
  priority : Priority
  constraints : List Constraint
  wasmModule : Option DataId
deriving DecidableEq

def Task.new (id : TaskId) (kind : String) (payload : Bytes) : Task where
  id
  kind
  payload
  inputs := []
  priority := .normal
  constraints := []
  wasmModule := none

def Task.withInputs (task : Task) (inputs : List DataId) : Task :=
  match task.wasmModule with
  | some wasmModule =>
      if wasmModule ∈ inputs then { task with inputs }
      else { task with inputs := wasmModule :: inputs }
  | none => { task with inputs }

inductive TaskOutcome
  | success (output : Bytes)
  | failure (message : String)
deriving DecidableEq

/-- The duration is in nanoseconds. -/
structure TaskResult where
  taskId : TaskId
  nodeId : NodeId
  outcome : TaskOutcome
  duration : Nat
  outputId : Option DataId
deriving DecidableEq

def TaskResult.isSuccess (result : TaskResult) : Bool :=
  match result.outcome with
  | .success _ => true
  | .failure _ => false

def TaskResult.output (result : TaskResult) : Option Bytes :=
  match result.outcome with
  | .success output => some output
  | .failure _ => none

inductive DispatchError
  | noNodeAvailable (taskId : TaskId)
  | unreachable (nodeId : NodeId) (reason : String)
  | timeout (nodeId : NodeId) (taskId : TaskId)
  | unknownInput (dataId : DataId)
  | queueFull (taskId : TaskId)
  | queueTimeout (taskId : TaskId) (waitedMs : Nat)
deriving DecidableEq

theorem Priority.level_le_four (priority : Priority) : priority.level ≤ 4 := by
  cases priority <;> decide

theorem Priority.level_promoted (priority : Priority) :
    priority.promoted.level = min (priority.level + 1) 4 := by
  cases priority <;> rfl

theorem Priority.le_iff {left right : Priority} : left ≤ right ↔ left.level ≤ right.level :=
  Iff.rfl

end AetherMesh
