import AetherMesh.Controller.ClientProtocol
import AetherMesh.Controller.Dispatcher
import AetherMesh.Controller.Journal
import AetherMesh.Core.Text

/-!
From what a client asks for to the command that the dispatcher is sent. Each part of a
request is parsed in turn and the first that cannot be is reported. Parsing can also panic:
a data id is taken apart two bytes at a time, and a text can only be cut between characters.
-/

namespace AetherMesh

abbrev Outcome := ExceptT String Option

def Outcome.panics {α : Type} : Outcome α := (none : Option (Except String α))

def Outcome.of {α : Type} (result : Except String α) : Outcome α := ExceptT.mk (some result)

def hexDigit (byte : UInt8) : Option Nat :=
  if 48 ≤ byte ∧ byte ≤ 57 then some (byte.toNat - 48)
  else if 97 ≤ byte ∧ byte ≤ 102 then some (byte.toNat - 87)
  else if 65 ≤ byte ∧ byte ≤ 70 then some (byte.toNat - 55)
  else none

/-- `u8::from_str_radix` of two bytes; it takes a sign. -/
def fromStrRadix (pair : Bytes) : Option UInt8 :=
  match pair with
  | [43, low] => (hexDigit low).map UInt8.ofNat
  | [high, low] =>
      (hexDigit high).bind fun high => (hexDigit low).map fun low => UInt8.ofNat (high * 16 + low)
  | _ => none

def isCharBoundary (bytes : Bytes) (index : Nat) : Bool :=
  index = 0 ||
    match bytes[index]? with
    | some byte => byte < 128 ∨ 192 ≤ byte
    | none => index = bytes.length

inductive DataIdParseError
  | wrongLength (length : Nat)
  | invalidHex (index : Nat)
deriving DecidableEq

def DataIdParseError.display : DataIdParseError → String
  | .wrongLength length =>
      "expected a 64 character hex string, got " ++ toString length ++ " characters"
  | .invalidHex index => "invalid hex character at byte " ++ toString index

def hexPair (bytes : Bytes) (index : Nat) : Option UInt8 :=
  fromStrRadix ((bytes.drop (index * 2)).take 2)

/-- The loop of `DataId::from_str` from `index` on. Cutting inside a character panics. -/
def parsePairs (bytes : Bytes) :
    (count index : Nat) → Option (Except DataIdParseError { parsed : Bytes // parsed.length = count })
  | 0, _ => some (.ok ⟨[], rfl⟩)
  | count + 1, index =>
      if isCharBoundary bytes (index * 2) && isCharBoundary bytes (index * 2 + 2) then
        match hexPair bytes index with
        | none => some (.error (.invalidHex index))
        | some byte =>
            (parsePairs bytes count (index + 1)).map fun later =>
              later.map fun rest => ⟨byte :: rest.1, congrArg Nat.succ rest.2⟩
      else none

def DataId.fromStr (text : String) : Option (Except DataIdParseError DataId) :=
  let bytes := AetherMesh.asBytes text
  if bytes.length ≠ dataIdLen * 2 then some (.error (.wrongLength bytes.length))
  else (parsePairs bytes dataIdLen 0).map fun parsed => parsed.map fun found => ⟨found.1, found.2⟩

def parseDataId (id : String) : Outcome DataId :=
  ExceptT.mk ((DataId.fromStr id).map fun parsed =>
    parsed.mapError fun error => id ++ " is not a data id: " ++ error.display)

def trim (text : List Char) : List Char :=
  ((text.dropWhile isWhitespace).reverse.dropWhile isWhitespace).reverse

def Constraint.fromStr (input : String) : Except String Constraint :=
  let invalid := "`" ++ input ++ "` is not a constraint (expected `key`, `key=value`, or `key!=value`)"
  let text := trim input.toList
  match splitOnce "!=".toList text with
  | some (key, value) =>
      if trim key = [] then .error invalid
      else .ok (.notEquals (String.ofList (trim key)) (String.ofList (trim value)))
  | none =>
      match splitOnce "=".toList text with
      | some (key, value) =>
          if trim key = [] then .error invalid
          else .ok (.equals (String.ofList (trim key)) (String.ofList (trim value)))
      | none => if text = [] then .error invalid else .ok (.present (String.ofList text))

/-- `to_ascii_lowercase` is `Char.toLower`. -/
def Priority.fromStr (input : String) : Except String Priority :=
  let name := String.ofList ((trim input.toList).map Char.toLower)
  if name = "critical" then .ok .critical
  else if name = "high" then .ok .high
  else if name = "normal" ∨ name = "" then .ok .normal
  else if name = "low" then .ok .low
  else if name = "background" then .ok .background
  else .error ("`" ++ input ++ "` is not a priority (critical, high, normal, low, background)")

def Task.wasm (id : TaskId) (wasmModule : DataId) (payload : Bytes) : Task where
  id
  kind := "wasm"
  payload
  inputs := [wasmModule]
  priority := .normal
  constraints := []
  wasmModule := some wasmModule

def defaultHistory : Nat := 64

section

-- `base64` is the decoder of the standard alphabet.
variable (base64 : String → Except String Bytes)

def decode (data : String) : Outcome Bytes :=
  .of ((base64 data).mapError fun error => "payload is not valid base64: " ++ error)

def baseTask (id : TaskId) (request : TaskRequest) (payload : Bytes) : Outcome Task :=
  match request.wasmModule with
  | some wasmModule => do
      let wasmModule ← parseDataId wasmModule
      pure (Task.wasm id wasmModule payload)
  | none => pure (Task.new id request.kind payload)

def buildTask (id : TaskId) (request : TaskRequest) : Outcome Task := do
  let payload ← decode base64 request.payload
  let inputs ← request.inputs.mapM parseDataId
  let constraints ← request.constraints.mapM fun text => .of (Constraint.fromStr text)
  let priority ← .of (Priority.fromStr (request.priority.getD ""))
  let task ← baseTask id request payload
  pure { task.withInputs inputs with constraints, priority }

def buildStep (id : TaskId) (step : WorkflowStep) : Outcome Step := do
  let task ← buildTask base64 id step.toTaskRequest
  pure ⟨task, step.dependsOn⟩

/-- What `serve_request` does before it turns to the gateway. The ids of the tasks it makes and
the channel for the reply are given. -/
def prepare (ids : Nat → TaskId) (reply : Nat) : ClientRequest → Outcome Dispatcher.Command
  | .hello _ => .of (.error "already connected")
  | .publish data => do
      let bytes ← decode base64 data
      pure (.read (.publish bytes) reply)
  | .submit submission => do
      let task ← buildTask base64 (ids 0) submission.toTaskRequest
      pure (.submit task (submission.timeoutMs.map fun timeout => timeout * 10 ^ 6) reply)
  | .workflow steps run => do
      let built ← steps.zipIdx.mapM fun step => buildStep base64 (ids step.2) step.1
      .of ((Workflow.mk built).validate.mapError WorkflowError.display)
      pure (.workflow ⟨built⟩ run reply)
  | .nodes => pure (.read .nodes reply)
  | .recent limit => pure (.read (.recent (min (limit.getD 20) defaultHistory)) reply)
  | .stats => pure (.read .stats reply)

end

namespace Outcome

variable {α β : Type}

def Yields (outcome : Outcome α) (value : α) : Prop := outcome.run = some (.ok value)

def Panics (outcome : Outcome α) : Prop := outcome.run = none

theorem yields_bind {outcome : Outcome α} {next : α → Outcome β} {value : β} :
    (outcome >>= next).Yields value ↔ ∃ first, outcome.Yields first ∧ (next first).Yields value := by
  unfold Yields
  rw [ExceptT.run_bind]
  rcases outcome.run with _ | (error | first) <;> simp [pure, bind, Option.bind]

theorem panics_bind {outcome : Outcome α} {next : α → Outcome β} :
    (outcome >>= next).Panics ↔
      outcome.Panics ∨ ∃ first, outcome.Yields first ∧ (next first).Panics := by
  unfold Panics Yields
  rw [ExceptT.run_bind]
  rcases outcome.run with _ | (error | first) <;> simp [pure, bind, Option.bind]

theorem panics_pure {value : α} : ¬ (pure value : Outcome α).Panics := by
  simp [Panics]

theorem yields_pure {value other : α} : (pure value : Outcome α).Yields other ↔ value = other := by
  simp [Yields]

theorem panics_of {result : Except String α} : ¬ (Outcome.of result).Panics := by
  simp [Panics, Outcome.of]

theorem yields_of {result : Except String α} {value : α} :
    (Outcome.of result).Yields value ↔ result = .ok value := by
  simp [Yields, Outcome.of]

theorem yields_mapM {parse : α → Outcome β} {items : List α} :
    (∃ values, (items.mapM parse).Yields values) ↔ ∀ item ∈ items, ∃ value, (parse item).Yields value := by
  induction items with
  | nil => simp [yields_pure]
  | cons item rest ih =>
      rw [List.mapM_cons, List.forall_mem_cons, ← ih]
      simp only [yields_bind, yields_pure]
      constructor
      · rintro ⟨values, first, here, later, further, -⟩
        exact ⟨⟨first, here⟩, later, further⟩
      · rintro ⟨⟨first, here⟩, later, further⟩
        exact ⟨first :: later, first, here, later, further, rfl⟩

/-- The items are parsed in turn, so what comes before a panic has been parsed. -/
theorem panics_mapM {parse : α → Outcome β} {items : List α} :
    (items.mapM parse).Panics ↔ ∃ front item back, items = front ++ item :: back ∧
      (∀ other ∈ front, ∃ value, (parse other).Yields value) ∧ (parse item).Panics := by
  induction items with
  | nil => simp [panics_pure]
  | cons item rest ih =>
      rw [List.mapM_cons]
      simp only [panics_bind, panics_pure, and_false, exists_false, or_false, ih]
      constructor
      · rintro (here | ⟨value, first, front, other, back, rfl, parsed, panics⟩)
        · exact ⟨[], item, rest, rfl, by simp, here⟩
        · refine ⟨item :: front, other, back, rfl, ?_, panics⟩
          exact List.forall_mem_cons.mpr ⟨⟨value, first⟩, parsed⟩
      · rintro ⟨front, other, back, split, parsed, panics⟩
        cases front with
        | nil =>
            obtain ⟨rfl, -⟩ := List.cons.inj split
            exact .inl panics
        | cons first front =>
            obtain ⟨rfl, rfl⟩ := List.cons.inj split
            obtain ⟨⟨value, yields⟩, later⟩ := List.forall_mem_cons.mp parsed
            exact .inr ⟨value, yields, front, other, back, rfl, later, panics⟩

end Outcome

/-- A character of the text lies across an even offset, and nothing before it stops the parser. -/
def Straddled (text : String) : Prop :=
  (asBytes text).length = dataIdLen * 2 ∧ ∃ index < dataIdLen,
    (∀ earlier < index, (hexPair (asBytes text) earlier).isSome = true ∧
      isCharBoundary (asBytes text) (earlier * 2 + 2) = true) ∧
    isCharBoundary (asBytes text) (index * 2 + 2) = false

theorem first_succ_iff {passes stops : Nat → Prop} {count : Nat} :
    (∃ ahead < count + 1, (∀ earlier < ahead, passes earlier) ∧ stops ahead) ↔
      stops 0 ∨ passes 0 ∧
        ∃ ahead < count, (∀ earlier < ahead, passes (earlier + 1)) ∧ stops (ahead + 1) := by
  constructor
  · rintro ⟨ahead, bound, passed, stop⟩
    cases ahead with
    | zero => exact .inl stop
    | succ ahead =>
        exact .inr ⟨passed 0 (Nat.succ_pos _), ahead, Nat.lt_of_succ_lt_succ bound,
          fun earlier before => passed (earlier + 1) (Nat.succ_lt_succ before), stop⟩
  · rintro (stop | ⟨first, ahead, bound, passed, stop⟩)
    · exact ⟨0, Nat.succ_pos _, nofun, stop⟩
    · refine ⟨ahead + 1, Nat.succ_lt_succ bound, ?_, stop⟩
      intro earlier before
      cases earlier with
      | zero => exact first
      | succ earlier => exact passed earlier (Nat.lt_of_succ_lt_succ before)

theorem parsePairs_none {bytes : Bytes} {count index : Nat}
    (begins : isCharBoundary bytes (index * 2) = true) :
    parsePairs bytes count index = none ↔ ∃ ahead < count,
      (∀ earlier < ahead, (hexPair bytes (index + earlier)).isSome = true ∧
        isCharBoundary bytes ((index + earlier) * 2 + 2) = true) ∧
      isCharBoundary bytes ((index + ahead) * 2 + 2) = false := by
  induction count generalizing index with
  | zero => simp [parsePairs]
  | succ count ih =>
      rw [parsePairs, begins, Bool.true_and, first_succ_iff]
      simp only [Nat.add_zero]
      cases ends : isCharBoundary bytes (index * 2 + 2) with
      | false => exact iff_of_true rfl (.inl rfl)
      | true =>
          rw [if_pos rfl]
          cases pair : hexPair bytes index with
          | none => simp
          | some byte =>
              have onwards : isCharBoundary bytes ((index + 1) * 2) = true := by
                rw [← ends, Nat.succ_mul]
              have next : ∀ offset, index + 1 + offset = index + (offset + 1) := by
                intro offset
                rw [Nat.add_assoc, Nat.add_comm 1]
              simp [ih onwards, next]

theorem parseDataId_panics {text : String} : (parseDataId text).Panics ↔ Straddled text := by
  unfold Outcome.Panics parseDataId
  rw [ExceptT.run_mk, Option.map_eq_none_iff, DataId.fromStr]
  split
  · rename_i other
    refine iff_of_false (by simp) ?_
    rintro ⟨size, -⟩
    exact other size
  · rename_i size
    rw [Option.map_eq_none_iff, parsePairs_none rfl]
    simp only [Nat.zero_add]
    exact (and_iff_right (not_not.mp size)).symm

section

variable {base64 : String → Except String Bytes}

structure TaskRequest.Builds (base64 : String → Except String Bytes) (request : TaskRequest) : Prop where
  payload : ∃ bytes, base64 request.payload = .ok bytes
  inputs : ∀ text ∈ request.inputs, ∃ id, (parseDataId text).Yields id
  constraints : ∀ text ∈ request.constraints, ∃ constraint, Constraint.fromStr text = .ok constraint
  priority : ∃ priority, Priority.fromStr (request.priority.getD "") = .ok priority
  wasmModule : ∀ text ∈ request.wasmModule, ∃ id, (parseDataId text).Yields id

/-- One of the data ids is straddled, and the parser comes as far as that. -/
def TaskRequest.Straddles (base64 : String → Except String Bytes) (request : TaskRequest) : Prop :=
  (∃ bytes, base64 request.payload = .ok bytes) ∧
    ((∃ front text back, request.inputs = front ++ text :: back ∧
      (∀ other ∈ front, ∃ id, (parseDataId other).Yields id) ∧ Straddled text) ∨
    ((∀ other ∈ request.inputs, ∃ id, (parseDataId other).Yields id) ∧
      (∀ other ∈ request.constraints, ∃ constraint, Constraint.fromStr other = .ok constraint) ∧
      (∃ priority, Priority.fromStr (request.priority.getD "") = .ok priority) ∧
      ∃ text ∈ request.wasmModule, Straddled text))

def ClientRequest.Straddles (base64 : String → Except String Bytes) : ClientRequest → Prop
  | .submit submission => submission.toTaskRequest.Straddles base64
  | .workflow steps _ => ∃ front step back, steps = front ++ step :: back ∧
      (∀ other ∈ front, other.toTaskRequest.Builds base64) ∧ step.toTaskRequest.Straddles base64
  | _ => False

theorem decode_panics {data : String} : ¬ (decode base64 data).Panics := Outcome.panics_of

theorem decode_yields {data : String} :
    (∃ bytes, (decode base64 data).Yields bytes) ↔ ∃ bytes, base64 data = .ok bytes := by
  unfold decode
  simp only [Outcome.yields_of]
  cases base64 data <;> simp [Except.mapError]

theorem baseTask_panics {id : TaskId} {request : TaskRequest} {payload : Bytes} :
    (baseTask id request payload).Panics ↔ ∃ text ∈ request.wasmModule, Straddled text := by
  unfold baseTask
  cases request.wasmModule with
  | none => simp [Outcome.panics_pure]
  | some text =>
      simp only [Outcome.panics_bind, Outcome.panics_pure, and_false, exists_false, or_false,
        parseDataId_panics, Option.mem_some_iff, exists_eq_left']

theorem baseTask_yields {id : TaskId} {request : TaskRequest} {payload : Bytes} :
    (∃ task, (baseTask id request payload).Yields task) ↔
      ∀ text ∈ request.wasmModule, ∃ id, (parseDataId text).Yields id := by
  unfold baseTask
  cases request.wasmModule with
  | none => simp [Outcome.yields_pure]
  | some text =>
      simp only [Outcome.yields_bind, Outcome.yields_pure, Option.mem_some_iff, forall_eq']
      constructor
      · rintro ⟨task, wasmModule, parsed, -⟩
        exact ⟨wasmModule, parsed⟩
      · rintro ⟨wasmModule, parsed⟩
        exact ⟨_, wasmModule, parsed, rfl⟩

theorem constraints_yield {texts : List String} :
    (∃ values, (texts.mapM fun text => Outcome.of (Constraint.fromStr text)).Yields values) ↔
      ∀ text ∈ texts, ∃ constraint, Constraint.fromStr text = .ok constraint := by
  simp only [Outcome.yields_mapM, Outcome.yields_of]

theorem buildTask_panics {id : TaskId} {request : TaskRequest} :
    (buildTask base64 id request).Panics ↔ request.Straddles base64 := by
  unfold buildTask TaskRequest.Straddles
  simp only [Outcome.panics_bind, Outcome.panics_pure, Outcome.panics_of, decode_panics,
    Outcome.panics_mapM, parseDataId_panics, baseTask_panics, false_or,
    and_false, exists_false, or_false]
  constructor
  · rintro ⟨payload, decoded, straddled | ⟨inputs, parsed, constraints, read, priority, level, late⟩⟩
    · exact ⟨decode_yields.mp ⟨payload, decoded⟩, .inl straddled⟩
    · refine ⟨decode_yields.mp ⟨payload, decoded⟩, .inr ⟨?_, ?_, ?_, late⟩⟩
      · exact Outcome.yields_mapM.mp ⟨inputs, parsed⟩
      · exact constraints_yield.mp ⟨constraints, read⟩
      · exact ⟨priority, Outcome.yields_of.mp level⟩
  · rintro ⟨decodes, straddled | ⟨parsed, read, ⟨priority, level⟩, late⟩⟩
    · obtain ⟨payload, decoded⟩ := decode_yields.mpr decodes
      exact ⟨payload, decoded, .inl straddled⟩
    · obtain ⟨payload, decoded⟩ := decode_yields.mpr decodes
      obtain ⟨inputs, yielded⟩ := Outcome.yields_mapM.mpr parsed
      obtain ⟨constraints, found⟩ := constraints_yield.mpr read
      exact ⟨payload, decoded, .inr ⟨inputs, yielded, constraints, found, priority,
        Outcome.yields_of.mpr level, late⟩⟩

theorem buildTask_yields {id : TaskId} {request : TaskRequest} :
    (∃ task, (buildTask base64 id request).Yields task) ↔ request.Builds base64 := by
  unfold buildTask
  simp only [Outcome.yields_bind, Outcome.yields_pure]
  constructor
  · rintro ⟨-, payload, decoded, inputs, parsed, constraints, read, priority, level, task, base, -⟩
    exact ⟨decode_yields.mp ⟨payload, decoded⟩, Outcome.yields_mapM.mp ⟨inputs, parsed⟩,
      constraints_yield.mp ⟨constraints, read⟩, ⟨priority, Outcome.yields_of.mp level⟩,
      baseTask_yields.mp ⟨task, base⟩⟩
  · rintro ⟨decodes, parsed, read, ⟨priority, level⟩, late⟩
    obtain ⟨payload, decoded⟩ := decode_yields.mpr decodes
    obtain ⟨inputs, yielded⟩ := Outcome.yields_mapM.mpr parsed
    obtain ⟨constraints, found⟩ := constraints_yield.mpr read
    obtain ⟨task, base⟩ := (@baseTask_yields id request payload).mpr late
    exact ⟨_, payload, decoded, inputs, yielded, constraints, found, priority,
      Outcome.yields_of.mpr level, task, base, rfl⟩

theorem buildStep_panics {id : TaskId} {step : WorkflowStep} :
    (buildStep base64 id step).Panics ↔ step.toTaskRequest.Straddles base64 := by
  unfold buildStep
  simp only [Outcome.panics_bind, Outcome.panics_pure, and_false, exists_false, or_false,
    buildTask_panics]

theorem buildStep_yields {id : TaskId} {step : WorkflowStep} :
    (∃ built, (buildStep base64 id step).Yields built) ↔ step.toTaskRequest.Builds base64 := by
  rw [← @buildTask_yields base64 id]
  unfold buildStep
  simp only [Outcome.yields_bind, Outcome.yields_pure]
  constructor
  · rintro ⟨built, task, base, -⟩
    exact ⟨task, base⟩
  · rintro ⟨task, base⟩
    exact ⟨_, task, base, rfl⟩

theorem split_zipIdx {α : Type} {items : List α} {before here : α → Prop} :
    (∃ front item back, items.zipIdx = front ++ item :: back ∧ (∀ other ∈ front, before other.1) ∧
      here item.1) ↔
    ∃ front item back, items = front ++ item :: back ∧ (∀ other ∈ front, before other) ∧
      here item := by
  constructor
  · rintro ⟨front, item, back, split, earlier, found⟩
    refine ⟨front.map Prod.fst, item.1, back.map Prod.fst, ?_, ?_, found⟩
    · have firsts := congrArg (List.map Prod.fst) split
      simpa using firsts
    · intro other listed
      obtain ⟨entry, member, rfl⟩ := List.mem_map.mp listed
      exact earlier entry member
  · rintro ⟨front, item, back, rfl, earlier, found⟩
    refine ⟨front.zipIdx, (item, front.length), back.zipIdx (front.length + 1), ?_, ?_, found⟩
    · rw [List.zipIdx_append, List.zipIdx_cons, Nat.zero_add]
    · intro other listed
      exact earlier other.1 (List.fst_mem_of_mem_zipIdx listed)

/-- Which requests make `serve_request` panic. -/
theorem prepare_panics (ids : Nat → TaskId) (reply : Nat) (request : ClientRequest) :
    (prepare base64 ids reply request).Panics ↔ request.Straddles base64 := by
  cases request with
  | hello token => exact iff_of_false Outcome.panics_of id
  | publish data =>
      refine iff_of_false ?_ id
      simp only [prepare, Outcome.panics_bind, Outcome.panics_pure, decode_panics, and_false,
        exists_false, or_self, not_false_eq_true]
  | nodes => exact iff_of_false Outcome.panics_pure id
  | recent limit => exact iff_of_false Outcome.panics_pure id
  | stats => exact iff_of_false Outcome.panics_pure id
  | submit submission =>
      simp only [prepare, Outcome.panics_bind, Outcome.panics_pure, and_false, exists_false,
        or_false, buildTask_panics]
      rfl
  | workflow steps run =>
      simp only [prepare, Outcome.panics_bind, Outcome.panics_pure, Outcome.panics_of, and_false,
        exists_false, or_false, Outcome.panics_mapM, buildStep_panics, buildStep_yields]
      exact @split_zipIdx _ steps (fun step => step.toTaskRequest.Builds base64)
        (fun step => step.toTaskRequest.Straddles base64)

end

end AetherMesh
