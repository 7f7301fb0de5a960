import AetherMesh.Core.Workflow
import AetherMesh.Library.Separated

/-!
What the journal remembers of a finished step, and the fingerprint that ties a
run to a workflow. The fingerprint hashes the fields of every step, each field
followed by a zero byte; `digest` stands for BLAKE3.
-/

namespace AetherMesh

structure Record where
  run : String
  fingerprint : String
  step : Nat
  taskId : TaskId
  nodeId : NodeId
  outputId : DataId
  durationMs : Nat
deriving DecidableEq

inductive CheckpointError
  | io (path source : String)
  | fingerprint (run recorded submitted : String)
deriving DecidableEq

def toLeBytes (value : Nat) : Bytes :=
  (List.range 8).map fun index => UInt8.ofNat (value / 256 ^ index % 256)

def Step.fingerprintBytes (step : Step) : Bytes :=
  asBytes step.task.kind ++ [0] ++ step.task.payload ++ [0] ++
    step.task.inputs.flatMap DataId.asBytes ++ [0] ++ step.dependsOn.flatMap toLeBytes ++ [0]

def fingerprintBytes (workflow : Workflow) : Bytes :=
  workflow.steps.flatMap Step.fingerprintBytes

def fingerprint (digest : Bytes → DataId) (workflow : Workflow) : String :=
  (digest (fingerprintBytes workflow)).display

def completedFrom (run submitted : String) :
    (Nat → Option Record) → List Record → Except CheckpointError (Nat → Option Record)
  | known, [] => .ok known
  | known, record :: rest =>
      if record.run ≠ run then completedFrom run submitted known rest
      else if record.fingerprint ≠ submitted then
        .error (.fingerprint run record.fingerprint submitted)
      else completedFrom run submitted (Function.update known record.step (some record)) rest

def completed (records : List Record) (run submitted : String) :
    Except CheckpointError (Nat → Option Record) :=
  completedFrom run submitted (fun _ => none) records

def Step.work (step : Step) : String × Bytes × List DataId × List Nat :=
  (step.task.kind, step.task.payload, step.task.inputs, step.dependsOn)

def Workflow.work (workflow : Workflow) : List (String × Bytes × List DataId × List Nat) :=
  workflow.steps.map Step.work

def Step.fields (step : Step) : List Bytes :=
  [asBytes step.task.kind, step.task.payload, step.task.inputs.flatMap DataId.asBytes,
    step.dependsOn.flatMap toLeBytes]

def Workflow.fields (workflow : Workflow) : List Bytes :=
  workflow.steps.flatMap Step.fields

/-- Every dependency is a value of the source's 64 bit `usize`. -/
def Workflow.IndicesFit (workflow : Workflow) : Prop :=
  ∀ step ∈ workflow.steps, ∀ dependency ∈ step.dependsOn, dependency < 2 ^ 64

instance (workflow : Workflow) : Decidable workflow.IndicesFit :=
  inferInstanceAs (Decidable (∀ step ∈ workflow.steps, ∀ dependency ∈ step.dependsOn, _))

theorem fingerprintBytes_eq_joined (workflow : Workflow) :
    fingerprintBytes workflow = Separated.joined 0 workflow.fields := by
  unfold fingerprintBytes Workflow.fields
  induction workflow.steps with
  | nil => rfl
  | cons step rest ih =>
      rw [List.flatMap_cons, ih]
      simp [Step.fingerprintBytes, Step.fields, Separated.joined]

theorem toLeBytes_injective {left right : Nat} (leftFits : left < 2 ^ 64) (rightFits : right < 2 ^ 64)
    (same : toLeBytes left = toLeBytes right) : left = right := by
  have digit (value index : Nat) :
      (UInt8.ofNat (value / 256 ^ index % 256)).toNat = value / 256 ^ index % 256 := by
    rw [UInt8.toNat_ofNat']
    omega
  have equal (index : Nat) (inside : index < 8) :
      left / 256 ^ index % 256 = right / 256 ^ index % 256 := by
    have entry := congrArg (fun bytes => bytes[index]?) same
    simp only [toLeBytes, List.getElem?_map, List.getElem?_range inside, Option.map_some,
      Option.some.injEq] at entry
    rw [← digit left index, ← digit right index, entry]
  have truncated (count : Nat) (bound : count ≤ 8) : left % 256 ^ count = right % 256 ^ count := by
    induction count with
    | zero => simp [Nat.mod_one]
    | succ count ih =>
        rw [Nat.mod_pow_succ, Nat.mod_pow_succ, ih (by omega), equal count (by omega)]
  have all := truncated 8 (by omega)
  rwa [Nat.mod_eq_of_lt (by omega), Nat.mod_eq_of_lt (by omega)] at all

theorem Step.work_eq_of_fields {left right : Step}
    (leftFits : ∀ dependency ∈ left.dependsOn, dependency < 2 ^ 64)
    (rightFits : ∀ dependency ∈ right.dependsOn, dependency < 2 ^ 64)
    (same : left.fields = right.fields) : left.work = right.work := by
  simp only [Step.fields, List.cons.injEq, and_true] at same
  obtain ⟨kinds, payloads, inputs, dependencies⟩ := same
  have sameInputs : left.task.inputs = right.task.inputs :=
    Separated.flatMap_injective_of_length (by decide : 0 < dataIdLen)
      (fun id _ => id.size)
      (fun id _ other _ equal => by cases id; cases other; simpa using equal) inputs
  have sameDependencies : left.dependsOn = right.dependsOn :=
    Separated.flatMap_injective_of_length (by decide : 0 < 8)
      (fun _ _ => by simp [toLeBytes])
      (fun item member other otherMember equal =>
        toLeBytes_injective (leftFits item member) (rightFits other otherMember) equal)
      dependencies
  simp [Step.work, asBytes_injective kinds, payloads, sameInputs, sameDependencies]

theorem Workflow.work_eq_iff_fields {left right : Workflow} (leftFits : left.IndicesFit)
    (rightFits : right.IndicesFit) : left.work = right.work ↔ left.fields = right.fields := by
  obtain ⟨leftSteps⟩ := left
  obtain ⟨rightSteps⟩ := right
  constructor
  · intro same
    have fieldsOf (step : Step) : step.fields =
        [asBytes step.work.1, step.work.2.1, step.work.2.2.1.flatMap DataId.asBytes,
          step.work.2.2.2.flatMap toLeBytes] := rfl
    have through (steps : List Step) : steps.flatMap Step.fields =
        (steps.map Step.work).flatMap fun work =>
          [asBytes work.1, work.2.1, work.2.2.1.flatMap DataId.asBytes,
            work.2.2.2.flatMap toLeBytes] := by
      induction steps with
      | nil => rfl
      | cons step rest ih =>
          rw [List.flatMap_cons, ih, fieldsOf]
          rfl
    change leftSteps.flatMap Step.fields = rightSteps.flatMap Step.fields
    rw [through, through, show leftSteps.map Step.work = rightSteps.map Step.work from same]
  · intro same
    change leftSteps.map Step.work = rightSteps.map Step.work
    change leftSteps.flatMap Step.fields = rightSteps.flatMap Step.fields at same
    induction leftSteps generalizing rightSteps with
    | nil =>
        cases rightSteps with
        | nil => rfl
        | cons step rest => simp [Step.fields] at same
    | cons step rest ih =>
        cases rightSteps with
        | nil => simp [Step.fields] at same
        | cons other others =>
            obtain ⟨heads, tails⟩ := List.append_inj same (by simp [Step.fields])
            have first := Step.work_eq_of_fields (leftFits step (by simp))
              (rightFits other (by simp)) heads
            have later := ih
              (fun step member => leftFits step (List.mem_cons_of_mem _ member)) others
              (fun step member => rightFits step (List.mem_cons_of_mem _ member)) tails
            rw [List.map_cons, List.map_cons, first, later]

/-- All fields up to the inputs of the last step are the payload of one step. -/
def merged (first : Step) (middle : List Step) (last : Step) : Workflow :=
  ⟨[⟨{ Task.new first.task.id first.task.kind
        (first.task.payload ++ [0] ++ first.task.inputs.flatMap DataId.asBytes ++ [0] ++
          first.dependsOn.flatMap toLeBytes ++ [0] ++ middle.flatMap Step.fingerprintBytes ++
          asBytes last.task.kind ++ [0] ++ last.task.payload) with
        inputs := last.task.inputs },
      last.dependsOn⟩]⟩

theorem merged_bytes (first : Step) (middle : List Step) (last : Step) :
    fingerprintBytes (merged first middle last) =
      fingerprintBytes ⟨first :: middle ++ [last]⟩ := by
  simp [fingerprintBytes, merged, Step.fingerprintBytes, Task.new]

/-- Equal fingerprints mean equal work for two workflows that their first different fields tell
apart. No condition on one workflow would do: one of two or more steps has the fingerprint of one
of a single step. -/
theorem fingerprint_separates (digest : Bytes → DataId) (left right : Workflow)
    (collisionFree : digest (fingerprintBytes left) = digest (fingerprintBytes right) →
      fingerprintBytes left = fingerprintBytes right)
    (leftFits : left.IndicesFit) (rightFits : right.IndicesFit) :
    (Separated.Apart 0 left.fields right.fields →
      fingerprint digest left = fingerprint digest right → left.work = right.work) ∧
    (2 ≤ left.len → ∃ other : Workflow, other.IndicesFit ∧
      fingerprint digest left = fingerprint digest other ∧ left.work ≠ other.work) := by
  constructor
  · intro apart same
    have bytes := collisionFree (DataId.display_injective same)
    rw [fingerprintBytes_eq_joined, fingerprintBytes_eq_joined] at bytes
    exact (Workflow.work_eq_iff_fields leftFits rightFits).mpr (apart.eq_of_joined bytes)
  · intro several
    obtain ⟨steps⟩ := left
    obtain ⟨first, rest, rfl⟩ : ∃ first rest, steps = first :: rest :=
      List.exists_cons_of_ne_nil fun none => by simp [none, Workflow.len] at several
    have more : rest ≠ [] := fun none => by simp [none, Workflow.len] at several
    obtain ⟨middle, last, rfl⟩ := List.eq_nil_or_concat rest |>.resolve_left more
    rw [List.concat_eq_append] at *
    refine ⟨merged first middle last, ?_, ?_, ?_⟩
    · intro step member
      rw [List.mem_singleton.mp member]
      exact leftFits last (by simp)
    · rw [fingerprint, fingerprint, merged_bytes]
      rfl
    · intro same
      have lengths := congrArg List.length same
      simp [Workflow.work, merged] at lengths

def payloadWorkflow : Workflow :=
  ⟨[⟨Task.new ⟨0⟩ "hash" (0 :: List.replicate 31 1), []⟩]⟩

def inputWorkflow : Workflow :=
  ⟨[⟨(Task.new ⟨0⟩ "hash" []).withInputs [⟨List.replicate 31 1 ++ [0], rfl⟩], []⟩]⟩

theorem fingerprint_collides :
    payloadWorkflow.validate = .ok () ∧ inputWorkflow.validate = .ok () ∧
      fingerprintBytes payloadWorkflow = fingerprintBytes inputWorkflow ∧
      (∀ digest : Bytes → DataId,
        fingerprint digest payloadWorkflow = fingerprint digest inputWorkflow) ∧
      payloadWorkflow.work ≠ inputWorkflow.work := by
  have bytes : fingerprintBytes payloadWorkflow = fingerprintBytes inputWorkflow := by
    decide +kernel
  refine ⟨by decide, by decide, bytes, ?_, by decide +kernel⟩
  intro digest
  rw [fingerprint, fingerprint, bytes]

def leadingBytes (bytes : Bytes) : DataId :=
  ⟨(bytes ++ List.replicate dataIdLen 0).take dataIdLen, by simp⟩

def otherPayload : Workflow := ⟨[⟨Task.new ⟨1⟩ "hash" [7], []⟩]⟩

theorem fingerprint_separates_payloads :
    payloadWorkflow.work ≠ otherPayload.work ∧
      fingerprint leadingBytes payloadWorkflow ≠ fingerprint leadingBytes otherPayload := by
  have different : payloadWorkflow.work ≠ otherPayload.work := by decide +kernel
  refine ⟨different, fun same => different ?_⟩
  refine (fingerprint_separates leadingBytes payloadWorkflow otherPayload ?_ (by decide)
    (by decide)).1 (by decide +kernel) same
  decide +kernel

end AetherMesh
