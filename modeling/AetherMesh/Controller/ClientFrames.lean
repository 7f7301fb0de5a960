import AetherMesh.Controller.ClientProtocol
import AetherMesh.Controller.Journal

/-!
Frames between a client and the controller, read by the other side. Writers send whatever
they are given; readers refuse what is over their limit.
-/

namespace AetherMesh

open Framing

/-- The length in front of a payload is its own, and a reader takes the frame and leaves what
follows it. -/
structure Readable (takes : Bytes → Bytes → Prop) (payload : Bytes) : Prop where
  announced : fromBeBytes (lengthPrefix payload.length) = payload.length
  taken : ∀ rest, takes (lengthPrefix payload.length ++ payload ++ rest) rest

section

variable {T : Type} {json : SerdeJson T} {value : T} {payload : Bytes}

theorem readable_iff_fits {takes : Bytes → Bytes → Prop}
    (body : ∀ stream rest,
      lengthHeader.reading maxClientFrameBytes stream = .body payload rest → takes stream rest)
    (long : ∀ stream rest length left,
      lengthHeader.reading maxClientFrameBytes stream = .tooLong length left → ¬ takes stream rest) :
    Readable takes payload ↔ payload.length ≤ maxClientFrameBytes := by
  constructor
  · rintro ⟨announced, taken⟩
    have bounded : payload.length < lengthHeader.bound := by
      rw [fromBeBytes_lengthPrefix] at announced
      rw [← announced]
      exact Nat.mod_lt _ (by decide)
    by_contra exceeds
    exact long _ [] _ _ (reading_frame_long bounded (Nat.not_le.mp exceeds) []) (taken [])
  · intro fits
    have bounded : payload.length < lengthHeader.bound := Nat.lt_of_le_of_lt fits (by decide)
    refine ⟨?_, fun rest => body _ _ (reading_frame_body bounded fits rest)⟩
    rw [fromBeBytes_lengthPrefix]
    exact Nat.mod_eq_of_lt bounded

theorem readReply_readable_iff (undoes : json.Undoes) (encoded : json.toVec value = .ok payload) :
    Readable (fun stream rest => readReply json stream = (.ok value, rest)) payload ↔
      payload.length ≤ maxClientFrameBytes := by
  apply readable_iff_fits
  · intro stream rest found
    rw [readReply, found]
    simp only [undoes value payload encoded]
  · intro stream rest length left found taken
    rw [readReply, found] at taken
    cases taken

theorem readFrame_readable_iff (undoes : json.Undoes) (encoded : json.toVec value = .ok payload) :
    Readable (fun stream rest => readFrame json stream = (.ok (some value), rest)) payload ↔
      payload.length ≤ maxClientFrameBytes := by
  apply readable_iff_fits
  · intro stream rest found
    rw [readFrame, found]
    simp only [undoes value payload encoded]
  · intro stream rest length left found taken
    rw [readFrame, found] at taken
    cases taken

theorem writeFrame_ok {stream after : Stream} (wrote : writeFrame json stream value = (after, .ok ())) :
    ∃ payload, json.toVec value = .ok payload ∧
      after.written = stream.written ++ lengthPrefix payload.length ++ payload := by
  unfold writeFrame at wrote
  split at wrote
  · cases wrote
  · rename_i payload encoded
    split at wrote
    · cases wrote
      exact ⟨payload, encoded, rfl⟩
    · cases wrote

theorem exchange_ok {requests : SerdeJson ClientRequest} {responses : SerdeJson ClientResponse}
    {stream after : Stream} {incoming left : Bytes} {request : ClientRequest}
    {response : ClientResponse}
    (exchanged : exchange requests responses stream incoming request = (after, .ok response, left)) :
    ∃ payload, requests.toVec request = .ok payload ∧
      after.written = stream.written ++ lengthPrefix payload.length ++ payload := by
  unfold exchange at exchanged
  split at exchanged
  · cases exchanged
  · rename_i payload encoded
    split at exchanged
    · obtain ⟨rfl, -⟩ := Prod.mk.inj exchanged
      exact ⟨payload, encoded, rfl⟩
    · cases exchanged

/-- What has been written without an error can be read exactly if it is within the limit that only
the readers know. -/
theorem written_readable_iff (requests : SerdeJson ClientRequest) (responses : SerdeJson ClientResponse)
    (requestsUndone : requests.Undoes) (responsesUndone : responses.Undoes) :
    (∀ stream response after, writeFrame responses stream response = (after, .ok ()) →
      ∃ payload, responses.toVec response = .ok payload ∧
        after.written = stream.written ++ lengthPrefix payload.length ++ payload ∧
        (Readable (fun stream rest => readReply responses stream = (.ok response, rest)) payload ↔
          payload.length ≤ maxClientFrameBytes)) ∧
    (∀ stream incoming request after response left,
      exchange requests responses stream incoming request = (after, .ok response, left) →
      ∃ payload, requests.toVec request = .ok payload ∧
        after.written = stream.written ++ lengthPrefix payload.length ++ payload ∧
        (Readable (fun stream rest => readFrame requests stream = (.ok (some request), rest)) payload ↔
          payload.length ≤ maxClientFrameBytes)) := by
  constructor
  · intro stream response after wrote
    obtain ⟨payload, encoded, written⟩ := writeFrame_ok wrote
    exact ⟨payload, encoded, written, readReply_readable_iff responsesUndone encoded⟩
  · intro stream incoming request after response left exchanged
    obtain ⟨payload, encoded, written⟩ := exchange_ok exchanged
    exact ⟨payload, encoded, written, readFrame_readable_iff requestsUndone encoded⟩

end

def helloJson : SerdeJson ClientRequest :=
  .table [(.hello none, asBytes "\x7b\"type\":\"hello\",\"token\":null\x7d")]

def welcomeJson : SerdeJson ClientResponse :=
  .table [(.welcome 1, asBytes "\x7b\"type\":\"welcome\",\"protocol\":1\x7d")]

theorem hello_readable :
    ∃ payload, helloJson.toVec (.hello none) = .ok payload ∧
      Readable (fun stream rest => readFrame helloJson stream = (.ok (some (.hello none)), rest))
        payload := by
  have answer : exchange helloJson welcomeJson ⟨[], true⟩
      (lengthPrefix 31 ++ asBytes "\x7b\"type\":\"welcome\",\"protocol\":1\x7d") (.hello none) =
      (⟨lengthPrefix 29 ++ asBytes "\x7b\"type\":\"hello\",\"token\":null\x7d", true⟩,
        .ok (.welcome 1), []) := by
    decide +kernel
  obtain ⟨payload, encoded, -, readable⟩ := (written_readable_iff helloJson welcomeJson
    (SerdeJson.table_undoes (by simp)) (SerdeJson.table_undoes (by simp))).2 _ _ _ _ _ _ answer
  refine ⟨payload, encoded, readable.mpr ?_⟩
  obtain rfl := Except.ok.inj encoded
  decide +kernel

def jsonArray (items : List (List Char)) : List Char :=
  '[' :: [','].intercalate items ++ [']']

def jsonBool (value : Bool) : List Char := (if value then "true" else "false").toList

def jsonWhole (value : ℚ) : List Char := jsonNumber value.floor.toNat ++ ['.', '0']

/-- Without the field for an error, which is left out when there is none. -/
def StepOutcome.json (outcome : StepOutcome) : List Char :=
  jsonObject [
    jsonField "step" (jsonNumber outcome.step),
    jsonField "node_id" (jsonString outcome.nodeId.toList),
    jsonField "success" (jsonBool outcome.success),
    jsonField "output" (jsonString outcome.output.toList),
    jsonField "duration_ms" (jsonWhole outcome.durationMs)]

def workflowJson (steps : List StepOutcome) (skipped : List Nat) (success : Bool) : List Char :=
  jsonObject [
    jsonField "type" (jsonString "workflow".toList),
    jsonField "steps" (jsonArray (steps.map StepOutcome.json)),
    jsonField "skipped" (jsonArray (skipped.map jsonNumber)),
    jsonField "success" (jsonBool success)]

theorem length_base64Chars (bytes : Bytes) :
    (base64Chars bytes).length = 4 * ((bytes.length + 2) / 3) := by
  fun_induction base64Chars bytes with
  | case1 => rfl
  | case2 => simp
  | case3 => simp
  | case4 first second third rest ih =>
      simp only [List.length_cons, ih]
      omega

theorem length_le_jsonString (text : List Char) : text.length ≤ (jsonString text).length := by
  have escaped : ∀ char, 1 ≤ (escapeChar char).length := by
    intro char
    unfold escapeChar
    split_ifs <;> simp
  have grows : text.length ≤ (text.flatMap escapeChar).length := by
    induction text with
    | nil => exact Nat.le_refl _
    | cons char rest ih =>
        rw [List.flatMap_cons, List.length_append, List.length_cons]
        have one := escaped char
        omega
  simp only [jsonString, List.cons_append, List.length_cons, List.length_append]
  omega

theorem length_le_intercalate (separator : List Char) (items : List (List Char)) :
    items.flatten.length ≤ (separator.intercalate items).length := by
  induction items with
  | nil => simp
  | cons item rest ih =>
      cases rest with
      | nil => simp
      | cons next later =>
          rw [List.intercalate_cons_cons, List.flatten_cons, List.length_append,
            List.length_append, List.length_append]
          omega

theorem length_le_asBytes (text : List Char) : text.length ≤ (asBytes (String.ofList text)).length := by
  rw [asBytes_eq_flatMap, String.toList_ofList]
  induction text with
  | nil => exact Nat.le_refl _
  | cons char rest ih =>
      rw [List.flatMap_cons, List.length_append, List.length_cons]
      have one := String.length_utf8EncodeChar char
      have positive := char.utf8Size_pos
      omega

theorem length_le_jsonObject {fields : List (List Char)} {field : List Char} (listed : field ∈ fields) :
    field.length ≤ (jsonObject fields).length := by
  have inside : field.length ≤ fields.flatten.length :=
    (List.sublist_flatten_of_mem listed).length_le
  have joined := length_le_intercalate [','] fields
  simp only [jsonObject, List.cons_append, List.length_cons, List.length_append]
  omega

theorem length_le_jsonField (name : String) (value : List Char) :
    value.length ≤ (jsonField name value).length := by
  simp only [jsonField, List.length_append, List.length_cons]
  omega

theorem length_le_jsonArray (least : Nat) {items : List (List Char)}
    (long : ∀ item ∈ items, least ≤ item.length) : items.length * least ≤ (jsonArray items).length := by
  have total : items.length * least ≤ items.flatten.length := by
    induction items with
    | nil => simp
    | cons item rest ih =>
        rw [List.forall_mem_cons] at long
        have later := ih long.2
        rw [List.flatten_cons, List.length_append, List.length_cons, Nat.succ_mul]
        omega
  have joined := length_le_intercalate [','] items
  simp only [jsonArray, List.cons_append, List.length_cons, List.length_append]
  omega

theorem length_le_stepJson (outcome : StepOutcome) :
    outcome.output.toList.length ≤ outcome.json.length := by
  have field := length_le_jsonField "output" (jsonString outcome.output.toList)
  have object : _ ≤ outcome.json.length :=
    length_le_jsonObject (List.mem_of_getElem? (i := 3) rfl)
  exact Nat.le_trans (length_le_jsonString _) (Nat.le_trans field object)

theorem length_le_workflowJson (least : Nat) {steps : List StepOutcome}
    (long : ∀ outcome ∈ steps, least ≤ outcome.output.toList.length) (skipped : List Nat)
    (success : Bool) : steps.length * least ≤ (workflowJson steps skipped success).length := by
  have array := @length_le_jsonArray least (steps.map StepOutcome.json) (by
    intro item listed
    obtain ⟨outcome, member, rfl⟩ := List.mem_map.mp listed
    exact Nat.le_trans (long outcome member) (length_le_stepJson outcome))
  have field := length_le_jsonField "steps" (jsonArray (steps.map StepOutcome.json))
  have object : _ ≤ (workflowJson steps skipped success).length :=
    length_le_jsonObject (List.mem_of_getElem? (i := 1) rfl)
  rw [List.length_map] at array
  exact Nat.le_trans array (Nat.le_trans field object)

def bigOutput : Bytes := List.replicate (60 * 1024 * 1024) 0

def bigResult : TaskResult where
  taskId := ⟨0⟩
  nodeId := ⟨0⟩
  outcome := .success bigOutput
  duration := 0
  outputId := none

def bigFlow : FlowResult := ⟨List.replicate 4 bigResult, [0, 1, 2, 3], [], [], [], 0⟩

def bigOutcome (step : Nat) : StepOutcome :=
  ⟨step, bigResult.nodeId.display, true, bigResult.encodedOutput, bigResult.durationMs, none⟩

def bigPayload : Bytes :=
  asBytes (String.ofList (workflowJson ([0, 1, 2, 3].map bigOutcome) [] true))

example : flowResponse (.ok bigFlow) = .workflow ([0, 1, 2, 3].map bigOutcome) [] [] true := by
  rfl

theorem bigPayload_long : maxClientFrameBytes < bigPayload.length := by
  have output : bigResult.encodedOutput.toList.length = 80 * 1024 * 1024 := by
    have encoded : bigResult.encodedOutput = base64Encode bigOutput := rfl
    rw [encoded, base64Encode, String.toList_ofList, length_base64Chars, bigOutput,
      List.length_replicate]
  have text := @length_le_workflowJson (80 * 1024 * 1024) ([0, 1, 2, 3].map bigOutcome) (by
    intro outcome listed
    obtain ⟨step, -, rfl⟩ := List.mem_map.mp listed
    exact output.ge) [] true
  have bytes := length_le_asBytes (workflowJson ([0, 1, 2, 3].map bigOutcome) [] true)
  exact Nat.lt_of_lt_of_le (by decide) (Nat.le_trans text bytes)

def bigJson : SerdeJson ClientResponse := .table [(flowResponse (.ok bigFlow), bigPayload)]

/-- The workflow has run and its response is written, but the client refuses it. -/
theorem big_workflow_unreadable :
    (∃ after, writeFrame bigJson ⟨[], true⟩ (flowResponse (.ok bigFlow)) = (after, .ok ()) ∧
      after.written = lengthPrefix bigPayload.length ++ bigPayload) ∧
    ¬ Readable (fun stream rest =>
      readReply bigJson stream = (.ok (flowResponse (.ok bigFlow)), rest)) bigPayload := by
  have encoded : bigJson.toVec (flowResponse (.ok bigFlow)) = .ok bigPayload := by
    rw [bigJson, SerdeJson.table_toVec]
  constructor
  · refine ⟨⟨lengthPrefix bigPayload.length ++ bigPayload, true⟩, ?_, rfl⟩
    rw [writeFrame, encoded]
    rfl
  · have undoes : bigJson.Undoes := SerdeJson.table_undoes (by simp)
    rw [readReply_readable_iff undoes encoded]
    exact Nat.not_le.mpr bigPayload_long

end AetherMesh
