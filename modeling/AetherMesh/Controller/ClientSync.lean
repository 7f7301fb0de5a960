import AetherMesh.Controller.ClientGate

/-!
The client's frames and what the handler reads of them. A client sends frames one after the
other; whether the handler begins each where it begins depends on what it has left of the ones
before.
-/

namespace AetherMesh.ClientHandler

open Framing Runs

def boundary (frames : List Bytes) (count : Nat) : Nat :=
  ((frames.take count).flatMap lengthHeader.frame).length

def classify (json : SerdeJson ClientRequest) (body : Bytes) : Taken :=
  if maxClientFrameBytes < body.length then .bad (tooLarge body.length)
  else
    match json.fromSlice body with
    | .ok request => .request request
    | .error reason => .bad reason

def State.answersTo (state : State) (index : Nat) : List ClientResponse :=
  (state.answered.filter fun entry => entry.1 = index).map Prod.snd

/-- The handler stands at the beginning of a frame and has read the ones before as they were sent.
Each that is bad has been answered with one error, or is about to be. -/
structure InStep (setup : Setup) (frames : List Bytes) (state : State) : Prop where
  position : state.offset = boundary frames state.taken.length
  taken : state.taken = (frames.take state.taken.length).map (classify setup.requests)
  bad : ∀ index message, state.taken[index]? = some (.bad message) →
    state.answersTo index = [.error message] ∨
      index + 1 = state.taken.length ∧ state.answersTo index = [] ∧
        state.stage = .answering (.error message)

def Moderate (frames : List Bytes) (state : State) : Event → Prop
  | .read => ∀ body, frames[state.taken.length]? = some body →
      lengthHeader.width ≤ state.remaining.length → body.length ≤ maxClientFrameBytes
  | _ => True

section

variable {setup : Setup} {frames : List Bytes} {state after : State} {event : Event}

theorem filter_numbered {β : Type} {entries : List (Nat × β)} {index : Nat}
    (numbered : entries.map Prod.fst = List.range entries.length) :
    entries.filter (fun entry => entry.1 = index) = (entries[index]?).toList := by
  induction entries using List.reverseRecOn with
  | nil => rfl
  | append_singleton front last ih =>
      rw [List.map_append, List.length_append, List.length_singleton, List.range_succ,
        List.map_singleton] at numbered
      obtain ⟨earlier, final⟩ := List.append_inj' numbered rfl
      have number : last.1 = front.length := List.singleton_inj.mp final
      rw [List.filter_append, ih earlier, List.filter_singleton, number]
      rcases Nat.lt_trichotomy index front.length with before | rfl | beyond
      · rw [List.getElem?_append_left before]
        simp [Nat.ne_of_gt before]
      · simp
      · have past : (front ++ [last])[index]? = none := by
          rw [List.getElem?_eq_none_iff, List.length_append, List.length_singleton]
          exact beyond
        rw [past, List.getElem?_eq_none_iff.mpr beyond.le]
        simp [Nat.ne_of_lt beyond]

theorem Handled.bad_answered (handled : Handled setup state) {index : Nat} {message : String}
    (bad : state.taken[index]? = some (.bad message)) :
    state.answersTo index = [.error message] ∨
      index + 1 = state.taken.length ∧ state.answersTo index = [] ∧
        state.stage = .answering (.error message) := by
  unfold State.answersTo
  rw [filter_numbered handled.order]
  have bound := (List.getElem?_eq_some_iff.mp bad).1
  cases found : state.answered[index]? with
  | some entry =>
      have number : entry.1 = index := by
        have place := congrArg (·[index]?) handled.order
        simp only [List.getElem?_map, found, Option.map_some] at place
        rw [List.getElem?_range (List.getElem?_eq_some_iff.mp found).1] at place
        exact Option.some.inj place
      obtain ⟨taken, here, fits⟩ := handled.fits entry (List.mem_of_getElem? found)
      rw [number, bad] at here
      obtain rfl := Option.some.inj here
      have response : entry.2 = .error message := fits
      simp [response]
  | none =>
      have missing := List.getElem?_eq_none_iff.mp found
      have handling := handled.handling
      have other : ∀ request, state.taken[state.answered.length]? = some (.request request) →
          state.answered.length + 1 ≠ state.taken.length := by
        intro request here one
        obtain rfl : index = state.answered.length := by omega
        rw [bad] at here
        cases here
      cases stage : state.stage with
      | reading =>
          simp only [Handling, stage] at handling
          omega
      | returned =>
          simp only [Handling, stage] at handling
          omega
      | answering response =>
          simp only [Handling, stage] at handling
          obtain ⟨taken, here, fits, one⟩ := handling
          obtain rfl : index = state.answered.length := by omega
          rw [bad] at here
          obtain rfl := Option.some.inj here
          have response : response = .error message := fits
          exact .inr ⟨one, rfl, congrArg Stage.answering response⟩
      | sending command =>
          obtain ⟨request, here, -, one, -⟩ := handled.serving (.inl stage)
          exact absurd one (other request here)
      | awaiting command =>
          obtain ⟨request, here, -, one, -⟩ := handled.serving (.inr stage)
          exact absurd one (other request here)
      | panicked =>
          simp only [Handling, stage] at handling
          obtain ⟨request, here, one⟩ := handling
          exact absurd one (other request here)

theorem start_inStep (setup : Setup) (frames : List Bytes) : InStep setup frames (start setup) := by
  refine ⟨rfl, rfl, ?_⟩
  intro index message bad
  cases bad

theorem inStep_iff (handled : Handled setup state) :
    InStep setup frames state ↔ state.offset = boundary frames state.taken.length ∧
      state.taken = (frames.take state.taken.length).map (classify setup.requests) :=
  ⟨fun inStep => ⟨inStep.position, inStep.taken⟩,
    fun ⟨position, taken⟩ => ⟨position, taken, fun _ _ bad => handled.bad_answered bad⟩⟩

theorem boundary_succ {count : Nat} {body : Bytes} (found : frames[count]? = some body) :
    boundary frames (count + 1) = boundary frames count + (lengthHeader.width + body.length) := by
  unfold boundary
  rw [List.take_add_one, found, Option.toList_some, List.flatMap_append, List.length_append,
    List.flatMap_singleton, length_frame]

/-- What the handler has before it is the beginning of the frames that it has not read. -/
theorem remaining_begun (position : state.offset = boundary frames state.taken.length)
    (within : state.inbound <+: frames.flatMap lengthHeader.frame) :
    state.remaining <+: (frames.drop state.taken.length).flatMap lengthHeader.frame := by
  have left := within.drop state.offset
  have whole : frames.flatMap lengthHeader.frame =
      (frames.take state.taken.length).flatMap lengthHeader.frame ++
        (frames.drop state.taken.length).flatMap lengthHeader.frame := by
    rw [← List.flatMap_append, List.take_append_drop]
  rw [whole, position, boundary, List.drop_left] at left
  rwa [State.remaining, position]

theorem frame_found (position : state.offset = boundary frames state.taken.length)
    (within : state.inbound <+: frames.flatMap lengthHeader.frame)
    (found : (lengthHeader.reading maxClientFrameBytes state.remaining).isShort = false) :
    ∃ body more after, frames[state.taken.length]? = some body ∧
      state.remaining ++ more = lengthHeader.frame body ++ after := by
  obtain ⟨more, whole⟩ := remaining_begun position within
  cases here : frames[state.taken.length]? with
  | none =>
      rw [List.drop_eq_nil_of_le (List.getElem?_eq_none_iff.mp here), List.flatMap_nil,
        List.append_eq_nil_iff] at whole
      rw [whole.1] at found
      cases found
  | some body =>
      obtain ⟨bound, same⟩ := List.getElem?_eq_some_iff.mp here
      rw [List.drop_eq_getElem_cons bound, List.flatMap_cons, same] at whole
      exact ⟨body, more, _, rfl, whole⟩

inductive Passed (json : SerdeJson ClientRequest) (stream : Bytes) : Taken → Bytes → Prop
  | body (payload rest : Bytes)
      (found : lengthHeader.reading maxClientFrameBytes stream = .body payload rest) :
      Passed json stream (classify json payload) rest
  | tooLong (length : Nat) (rest : Bytes)
      (found : lengthHeader.reading maxClientFrameBytes stream = .tooLong length rest) :
      Passed json stream (.bad (tooLarge length)) rest

/-- A frame within the limit is passed whole, and of one that is over it only the length. -/
theorem passed_iff (position : state.offset = boundary frames state.taken.length)
    (taken : state.taken = (frames.take state.taken.length).map (classify setup.requests))
    (bounded : ∀ body ∈ frames, body.length < 2 ^ 32)
    (within : state.inbound <+: frames.flatMap lengthHeader.frame) {frame : Taken} {rest : Bytes}
    (passed : Passed setup.requests state.remaining frame rest) :
    ((state.take frame rest).offset = boundary frames (state.taken.length + 1) ∧
      state.taken ++ [frame] =
        (frames.take (state.taken.length + 1)).map (classify setup.requests)) ↔
    Moderate frames state .read := by
  have found : (lengthHeader.reading maxClientFrameBytes state.remaining).isShort = false := by
    cases passed with
    | body payload rest found => rw [found]; rfl
    | tooLong length rest found => rw [found]; rfl
  obtain ⟨body, more, after, here, whole⟩ := frame_found position within found
  have small := bounded body (List.mem_of_getElem? here)
  have advance := boundary_succ here
  have inbound : state.remaining.length = state.inbound.length - state.offset :=
    List.length_drop
  have begun := @reading_begun _ lengthHeader maxClientFrameBytes state.remaining body more after
    small whole found
  cases passed with
  | body payload rest reads =>
      rcases begun with ⟨-, left, also⟩ | ⟨-, left, also⟩
      · rw [reads] at also
        obtain ⟨rfl, rfl⟩ := Reading.body.inj also
        obtain ⟨front, stream, width, fits⟩ := reading_body_eq reads
        refine iff_of_true ⟨?_, ?_⟩ ?_
        · change state.inbound.length - rest.length = _
          have size := congrArg List.length stream
          rw [List.length_append, List.length_append, width] at size
          have four : lengthHeader.width = 4 := rfl
          omega
        · rw [List.take_add_one, here, List.map_append, ← taken]
          rfl
        · intro other same _
          obtain rfl := Option.some.inj (here.symm.trans same)
          exact fits
      · rw [reads] at also
        cases also
  | tooLong length rest reads =>
      rcases begun with ⟨-, left, also⟩ | ⟨long, left, also⟩
      · rw [reads] at also
        cases also
      · obtain ⟨front, stream, width⟩ := reading_tooLong_eq reads
        have size := congrArg List.length stream
        rw [List.length_append, width] at size
        have four : lengthHeader.width = 4 := rfl
        refine iff_of_false ?_ ?_
        · rintro ⟨stays, -⟩
          change state.inbound.length - rest.length = _ at stays
          omega
        · intro moderate
          have fits := moderate body here (by omega)
          omega

theorem classify_body {json : SerdeJson ClientRequest} {stream payload rest : Bytes}
    (found : lengthHeader.reading maxClientFrameBytes stream = .body payload rest) :
    classify json payload = match json.fromSlice payload with
      | .ok request => .request request
      | .error reason => .bad reason := by
  obtain ⟨-, -, -, fits⟩ := reading_body_eq found
  exact if_neg (Nat.not_lt.mpr fits)

theorem passed_request {json : SerdeJson ClientRequest} {stream rest : Bytes} {request : ClientRequest}
    (read : readFrame json stream = (.ok (some request), rest)) :
    Passed json stream (.request request) rest := by
  obtain ⟨payload, found, decoded⟩ := readFrame_some read
  have passed : Passed json stream (classify json payload) rest := .body payload rest found
  rwa [classify_body found, decoded] at passed

theorem passed_bad {json : SerdeJson ClientRequest} {stream rest : Bytes} {message : String}
    (read : readFrame json stream = (.error (.invalidData message), rest)) :
    Passed json stream (.bad message) rest := by
  rcases readFrame_invalid read with ⟨length, found, rfl⟩ | ⟨payload, found, refused⟩
  · exact .tooLong length rest found
  · have passed : Passed json stream (classify json payload) rest := .body payload rest found
    rwa [classify_body found, refused] at passed

/-- A stream that breaks off does not hold the length of a frame that is too long. -/
theorem moderate_short (position : state.offset = boundary frames state.taken.length)
    (bounded : ∀ body ∈ frames, body.length < 2 ^ 32)
    (within : state.inbound <+: frames.flatMap lengthHeader.frame)
    (short : (lengthHeader.reading maxClientFrameBytes state.remaining).isShort = true) :
    Moderate frames state .read := by
  intro body here announced
  by_contra long
  obtain ⟨bound, same⟩ := List.getElem?_eq_some_iff.mp here
  obtain ⟨more, whole⟩ := remaining_begun position within
  rw [List.drop_eq_getElem_cons bound, List.flatMap_cons, same] at whole
  have found := reading_long (bounded body (List.mem_of_getElem? here)) (Nat.not_le.mp long) whole
    announced
  rw [short] at found
  cases found

theorem step_inStep (bounded : ∀ body ∈ frames, body.length < 2 ^ 32)
    (within : state.inbound <+: frames.flatMap lengthHeader.frame)
    (inStep : InStep setup frames state) (kept : Handled setup after)
    (moved : next setup state event = some after) :
    InStep setup frames after ↔ Moderate frames state event := by
  rw [inStep_iff kept]
  have same : state.offset = boundary frames state.taken.length ∧
      state.taken = (frames.take state.taken.length).map (classify setup.requests) :=
    ⟨inStep.position, inStep.taken⟩
  have grows : ∀ {frame : Taken} {rest : Bytes}, Passed setup.requests state.remaining frame rest →
      (((state.take frame rest).offset =
          boundary frames (state.take frame rest).taken.length ∧
        (state.take frame rest).taken =
          (frames.take (state.take frame rest).taken.length).map (classify setup.requests)) ↔
        Moderate frames state .read) := by
    intro frame rest passed
    have longer : (state.take frame rest).taken.length = state.taken.length + 1 := by
      simp [State.take]
    rw [longer]
    exact passed_iff inStep.position inStep.taken bounded within passed
  cases next_step moved with
  | arrive bytes => exact iff_of_true same trivial
  | finish => exact iff_of_true same trivial
  | leave => exact iff_of_true same trivial
  | readEnd atRead short =>
      exact iff_of_true same (moderate_short inStep.position bounded within short)
  | readBad message rest atRead found => exact grows (passed_bad found)
  | readWelcome token rest atRead found accepted => exact grows (passed_request found)
  | readRefused request rest message atRead found hello calm => exact grows (passed_request found)
  | readServed request rest command atRead found authorized other prepared =>
      exact grows (passed_request found)
  | readPanics request rest atRead found authorized panics => exact grows (passed_request found)
  | send command atSend => exact iff_of_true same trivial
  | respond _ response command waiting ours =>
      refine iff_of_true same ?_
      cases event with
      | read => cases ours
      | _ => trivial
  | write response atWrite => exact iff_of_true same trivial

theorem inbound_grows (moved : next setup state event = some after) :
    state.inbound <+: after.inbound := by
  cases next_step moved with
  | arrive bytes => exact List.prefix_append _ _
  | _ => exact List.prefix_rfl

/-- However the bytes of the frames arrive, each frame is read from its beginning and a bad one is
answered with one error, exactly as long as none that is read is over the limit. -/
theorem in_step_iff {final : State} {trace : List Event}
    (bounded : ∀ body ∈ frames, body.length < 2 ^ 32)
    (ran : run (next setup) (start setup) trace = some final)
    (within : final.inbound <+: frames.flatMap lengthHeader.frame) :
    Always (next setup) (InStep setup frames) (start setup) trace ↔
      Along (next setup) (Moderate frames) (start setup) trace := by
  have rule := @always_iff_along_within State Event (next setup) (Moderate frames)
    (InStep setup frames) (start setup) final trace (Handled setup)
    (fun state => state.inbound <+: frames.flatMap lengthHeader.frame) (start_handled setup)
    (start_inStep setup frames)
  refine rule ?_ ?_ ran within
  · exact fun state event after moved inside => (inbound_grows moved).trans inside
  · intro state event after handled inStep moved inside
    have kept := handled.step moved
    have before := (inbound_grows moved).trans inside
    exact ⟨step_inStep bounded before inStep kept moved, fun _ => kept⟩

end

def unguarded : Setup := { asksOnly with security := .openTo }

def badThenNodes : List Bytes := [asBytes "nope", nodesJson]

def sendsBadThenNodes : List Event :=
  [.arrive (badThenNodes.flatMap lengthHeader.frame), .read, .write, .read, .send true,
    .reply (some (.nodes [])), .write]

theorem bad_json_in_step :
    ∃ final, run (next unguarded) (start unguarded) sendsBadThenNodes = some final ∧
      final.taken = [.bad "other", .request .nodes] ∧
      Always (next unguarded) (InStep unguarded badThenNodes) (start unguarded) sendsBadThenNodes := by
  have tested : (run (next unguarded) (start unguarded) sendsBadThenNodes).any
      (fun state => state.taken = [.bad "other", .request .nodes] ∧
        state.inbound = badThenNodes.flatMap lengthHeader.frame) = true := by
    decide +kernel
  obtain ⟨final, ran, held⟩ := run_tested tested
  obtain ⟨taken, inbound⟩ := of_decide_eq_true held
  have small : ∀ body ∈ badThenNodes, body.length ≤ maxClientFrameBytes := by decide +kernel
  have moderate := @along_invariant State Event (next unguarded) (Moderate badThenNodes)
    (fun _ => True) (start unguarded) trivial (fun state event _ => by
      cases event with
      | read => exact fun body here _ => small body (List.mem_of_getElem? here)
      | _ => trivial) (fun _ _ _ _ _ => trivial) sendsBadThenNodes
  exact ⟨final, ran, taken, (in_step_iff
    (fun body listed => Nat.lt_of_le_of_lt (small body listed) (by decide)) ran
    (inbound ▸ List.prefix_rfl)).mpr moderate⟩

def longBody : Bytes :=
  lengthHeader.frame nodesJson ++ List.replicate (maxClientFrameBytes + 1 - 20) 0

theorem length_longBody : longBody.length = maxClientFrameBytes + 1 := by
  have front : (lengthHeader.frame nodesJson).length = 20 := by decide +kernel
  rw [longBody, List.length_append, List.length_replicate, front]
  decide

def sendsLongBody : List Event :=
  [.arrive (lengthPrefix (maxClientFrameBytes + 1) ++ lengthHeader.frame nodesJson), .read, .write,
    .read, .send true, .reply (some (.nodes [])), .write]

/-- The one frame is refused, and what it begins with is served as a request. -/
theorem long_body_served :
    ∃ final, run (next unguarded) (start unguarded) sendsLongBody = some final ∧
      final.inbound <+: [longBody].flatMap lengthHeader.frame ∧
      final.taken = [.bad (tooLarge (maxClientFrameBytes + 1)), .request .nodes] ∧
      final.sent.map Prod.fst = [1] ∧
      ¬ Always (next unguarded) (InStep unguarded [longBody]) (start unguarded) sendsLongBody := by
  have tested : (run (next unguarded) (start unguarded) sendsLongBody).any
      (fun state => state.taken = [.bad (tooLarge (maxClientFrameBytes + 1)), .request .nodes] ∧
        state.sent.map Prod.fst = [1] ∧
        state.inbound = lengthPrefix (maxClientFrameBytes + 1) ++ lengthHeader.frame nodesJson) =
      true := by
    decide +kernel
  obtain ⟨final, ran, held⟩ := run_tested tested
  obtain ⟨taken, sent, inbound⟩ := of_decide_eq_true held
  refine ⟨final, ran, ?_, taken, sent, fun always => ?_⟩
  · have whole : lengthHeader.frame longBody = lengthPrefix (maxClientFrameBytes + 1) ++ longBody := by
      rw [Header.frame, length_longBody]
      rfl
    rw [inbound, List.flatMap_singleton, whole, longBody, ← List.append_assoc]
    exact List.prefix_append _ _
  · have counted := congrArg List.length (always_last always ran).taken
    rw [taken, List.length_map] at counted
    simp at counted

end AetherMesh.ClientHandler
