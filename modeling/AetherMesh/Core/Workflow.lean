import AetherMesh.Core.Task
import Mathlib.Data.List.Sort

/-!
Workflows: steps that name the steps they wait for by index, the check that a
workflow can finish, and the order Kahn's algorithm puts the steps in.
-/

namespace AetherMesh

structure Step where
  task : Task
  dependsOn : List Nat
deriving DecidableEq

inductive WorkflowError
  | empty
  | unknownDependency (step missing : Nat)
  | selfDependency (step : Nat)
  | cycle (stuck : List Nat)
deriving DecidableEq

structure Workflow where
  steps : List Step
deriving DecidableEq

namespace Workflow

def len (workflow : Workflow) : Nat := workflow.steps.length

def dependsOn (workflow : Workflow) (index : Nat) : List Nat :=
  match workflow.steps[index]? with
  | some step => step.dependsOn
  | none => []

def dependentsOf (workflow : Workflow) (step : Nat) : List Nat :=
  (List.range workflow.len).filter fun index => step ∈ workflow.dependsOn index

def mark (index : Nat) (table : List (List Nat)) (dependency : Nat) : List (List Nat) :=
  table.modify dependency (· ++ [index])

/-- For each step the steps waiting for it, one entry for each time it is named. -/
def dependentsTable (workflow : Workflow) : List (List Nat) :=
  workflow.steps.zipIdx.foldl
    (fun table entry => entry.1.dependsOn.foldl (mark entry.2) table)
    (List.replicate workflow.len [])

structure Plan where
  remaining : List Nat
  ready : List Nat
  order : List Nat

def settle (plan : Plan) (dependent : Nat) : Plan :=
  let remaining := plan.remaining.modify dependent (· - 1)
  if remaining[dependent]? = some 0 then
    { plan with remaining, ready := plan.ready.orderedInsert (· ≤ ·) dependent }
  else { plan with remaining }

def place (table : List (List Nat)) (index : Nat) (rest : List Nat) (plan : Plan) : Plan :=
  (table.getD index []).foldl settle { plan with ready := rest, order := plan.order ++ [index] }

def orderLoop (table : List (List Nat)) : Nat → Plan → Plan
  | 0, plan => plan
  | fuel + 1, plan =>
      match plan.ready with
      | [] => plan
      | index :: rest => orderLoop table fuel (place table index rest plan)

def firstPlan (workflow : Workflow) : Plan :=
  let remaining := workflow.steps.map fun step => step.dependsOn.length
  { remaining
    ready := (List.range workflow.len).filter fun index => remaining[index]? = some 0
    order := [] }

/-- A step is placed at most once, so the loop takes no more rounds than there are steps. -/
def finalPlan (workflow : Workflow) : Plan :=
  orderLoop workflow.dependentsTable workflow.len workflow.firstPlan

def order (workflow : Workflow) : Except WorkflowError (List Nat) :=
  let order := workflow.finalPlan.order
  if order.length = workflow.len then .ok order
  else .error (.cycle ((List.range workflow.len).filter fun index => index ∉ order))

def badDependency (workflow : Workflow) : Option WorkflowError :=
  workflow.steps.zipIdx.findSome? fun entry => entry.1.dependsOn.findSome? fun dependency =>
    if dependency = entry.2 then some (.selfDependency entry.2)
    else if workflow.len ≤ dependency then some (.unknownDependency entry.2 dependency)
    else none

def validate (workflow : Workflow) : Except WorkflowError Unit :=
  if workflow.steps.isEmpty then .error .empty
  else
    match workflow.badDependency with
    | some error => .error error
    | none => workflow.order.map fun _ => ()

end Workflow

end AetherMesh
