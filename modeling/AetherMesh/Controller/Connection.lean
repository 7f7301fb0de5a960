import AetherMesh.Controller.ClientProtocol
import AetherMesh.Library.Exchange
import AetherMesh.Library.Runs

/-!
The client's connection. `request` gives up after a timeout and drops `exchange` wherever it
stands: part of a frame may have been written and part of another read, and the connection is
used again as it is, as after an error. The server answers each complete frame once, in order,
and may take its time. Where a frame begins in the stream of all that was sent tells the calls
apart.
-/

namespace AetherMesh.Connection

open Exchange Framing Runs

structure Setup where
  requests : SerdeJson ClientRequest
  responses : SerdeJson ClientResponse

structure Call where
  request : ClientRequest
  payload : Bytes
  start : Nat
  stage : Stage UInt8

structure Returned where
  request : ClientRequest
  payload : Bytes
  start : Nat
  outcome : Except ConnectionError ClientResponse
deriving DecidableEq

/-- `served` has the frames that the server has read: where each began, its payload and the
payload of the answer. The buffer of the link is what `read_exact` has got so far. -/
structure State where
  link : Link UInt8
  call : Option Call
  served : List (Nat × Bytes × Bytes)
  returned : List Returned

inductive Event
  | begin (request : ClientRequest)
  | push (count : Nat)
  | pull (count : Nat)
  | timeout
  | fail (error : IoError)
  | serve (answer : Bytes)

def start : State := ⟨.fresh, none, [], []⟩

section

variable (setup : Setup) (state : State)

/-- What a dropped `read_exact` has got is lost. -/
def finish (call : Call) (outcome : Except ConnectionError ClientResponse) : State :=
  { state with
    link := { state.link with buffer := [] }
    call := none
    returned := state.returned ++ [⟨call.request, call.payload, call.start, outcome⟩] }

def decodeReply (body : Bytes) : Except ConnectionError ClientResponse :=
  match setup.responses.fromSlice body with
  | .ok response => .ok response
  | .error reason => .error (.json reason)

def begin (request : ClientRequest) : Option State :=
  match state.call with
  | some _ => none
  | none =>
      match setup.requests.toVec request with
      | .error reason =>
          some { state with
            returned := state.returned ++
              [⟨request, [], state.link.outgoing.length, .error (.json reason)⟩] }
      | .ok payload =>
          some { state with
            call := some ⟨request, payload, state.link.outgoing.length,
              .sending (lengthHeader.frame payload)⟩ }

def push (count : Nat) : Option State :=
  match state.call with
  | some ⟨request, payload, start, .sending pending⟩ =>
      if 0 < count ∧ count ≤ pending.length then
        some { state with
          link := (state.link.push pending count).1
          call := some ⟨request, payload, start, (state.link.push pending count).2⟩ }
      else none
  | _ => none

def missing (link : Link UInt8) : Stage UInt8 → Nat
  | .sending _ => 0
  | .header => lengthHeader.width - link.buffer.length
  | .body length => length - link.buffer.length

def received (call : Call) : Progress UInt8 → State
  | .waits link stage => { state with link, call := some { call with stage } }
  | .tooLong length => finish state call (.error (.frameTooLarge length))
  | .done link body => finish { state with link } call (decodeReply setup body)

def pull (count : Nat) : Option State :=
  match state.call with
  | some call =>
      if 0 < count ∧ count ≤ state.link.unread.length ∧ count ≤ missing state.link call.stage then
        some (received setup { state with link := state.link.recv count } call
          (Link.proceed lengthHeader maxClientFrameBytes (state.link.recv count) call.stage))
      else none
  | none => none

def interrupt (error : ConnectionError) : Option State :=
  state.call.map fun call => finish state call (.error error)

def timeout : Option State := interrupt state .timeout

def fail (error : IoError) : Option State := interrupt state (.io error)

/-- The server takes every length that fits in front of a frame, and its answers fit. -/
def serve (answer : Bytes) : Option State :=
  if answer.length < 2 ^ 32 then
    (state.link.serve lengthHeader answer).map fun (link, payload) =>
      { state with link, served := state.served ++ [(state.link.scanned, payload, answer)] }
  else none

def next : Event → Option State
  | .begin request => begin setup state request
  | .push count => push state count
  | .pull count => pull setup state count
  | .timeout => timeout state
  | .fail error => fail state error
  | .serve answer => serve state answer

end

/-- Every call that has returned a response has returned the one that the server gave to the
frame that the call wrote. -/
def Matched (setup : Setup) (state : State) : Prop :=
  ∀ result ∈ state.returned, ∀ response, result.outcome = .ok response →
    setup.requests.toVec result.request = .ok result.payload ∧
    ∃ answer, (result.start, result.payload, answer) ∈ state.served ∧
      setup.responses.fromSlice answer = .ok response

/-- A call begins to write when nothing is left on its way, in either direction, and its length
fits in front of it. -/
def Clean (setup : Setup) (state : State) : Event → Prop
  | .begin request => ∀ payload, setup.requests.toVec request = .ok payload →
      state.link.scanned = state.link.outgoing.length ∧
        state.link.consumed = state.link.incoming.length ∧ payload.length < 2 ^ 32
  | _ => True

instance decidableClean (setup : Setup) (state : State) : ∀ event, Decidable (Clean setup state event)
  | .begin request =>
      match encoded : setup.requests.toVec request with
      | .error _ => .isTrue (by simp [Clean, encoded])
      | .ok payload =>
          decidable_of_iff (state.link.scanned = state.link.outgoing.length ∧
            state.link.consumed = state.link.incoming.length ∧ payload.length < 2 ^ 32)
            (by simp [Clean, encoded])
  | .push _ | .pull _ | .timeout | .fail _ | .serve _ => .isTrue trivial

def Answered (state : State) (call : Call) : Prop :=
  ∃ answered, state.link.Underway lengthHeader call.start call.payload answered call.stage ∧
    ∀ answer, answered = some answer →
      answer.length < 2 ^ 32 ∧ (call.start, call.payload, answer) ∈ state.served

structure Held (setup : Setup) (state : State) : Prop where
  matched : Matched setup state
  dropped : state.call = none → state.link.buffer = []
  underway : ∀ call ∈ state.call, setup.requests.toVec call.request = .ok call.payload ∧
    call.payload.length < 2 ^ 32 ∧ Answered state call

section

variable {setup : Setup} {state after : State} {event : Event} {call : Call} {count : Nat}

theorem start_held (setup : Setup) : Held setup start := by
  refine ⟨?_, fun _ => rfl, nofun⟩
  intro result listed
  cases listed

theorem Matched.append (matched : Matched setup state) {result : Returned}
    (right : ∀ response, result.outcome = .ok response →
      setup.requests.toVec result.request = .ok result.payload ∧
      ∃ answer, (result.start, result.payload, answer) ∈ state.served ∧
        setup.responses.fromSlice answer = .ok response)
    (link : Link UInt8) (call : Option Call) :
    Matched setup { state with link, call, returned := state.returned ++ [result] } := by
  intro other listed
  rcases List.mem_append.mp listed with old | new
  · exact matched other old
  · rw [List.mem_singleton.mp new]
    exact right

theorem decodeReply_ok {body : Bytes} {response : ClientResponse}
    (decoded : decodeReply setup body = .ok response) :
    setup.responses.fromSlice body = .ok response := by
  unfold decodeReply at decoded
  split at decoded
  · rename_i found
    cases decoded
    exact found
  · cases decoded

theorem Held.finish (held : Held setup state) {outcome : Except ConnectionError ClientResponse}
    (right : ∀ response, outcome = .ok response →
      setup.requests.toVec call.request = .ok call.payload ∧
      ∃ answer, (call.start, call.payload, answer) ∈ state.served ∧
        setup.responses.fromSlice answer = .ok response) (link : Link UInt8) :
    Held setup (finish { state with link } call outcome) :=
  ⟨held.matched.append right _ _, fun _ => rfl, nofun⟩

theorem Held.begin (held : Held setup state) {request : ClientRequest}
    (clean : Clean setup state (.begin request)) (moved : begin setup state request = some after) :
    Held setup after := by
  unfold Connection.begin at moved
  split at moved
  · cases moved
  · rename_i idle
    split at moved
    · cases moved
      exact ⟨held.matched.append (by simp) _ _, held.dropped, held.underway⟩
    · rename_i payload encoded
      obtain ⟨scanned, consumed, short⟩ := clean payload encoded
      have quiet : state.link.Quiet := ⟨scanned, consumed, held.dropped idle⟩
      cases moved
      refine ⟨held.matched, nofun, ?_⟩
      intro call same
      obtain rfl := Option.some.inj same
      exact ⟨encoded, short, none, quiet.begin (by decide) payload, nofun⟩

theorem Held.push (held : Held setup state) (moved : push state count = some after) :
    Held setup after := by
  unfold Connection.push at moved
  split at moved
  · rename_i request payload start pending called
    split at moved
    · cases moved
      obtain ⟨encoded, short, answered, underway, given⟩ := held.underway _ called
      refine ⟨held.matched, nofun, ?_⟩
      intro call same
      obtain rfl := Option.some.inj same
      exact ⟨encoded, short, answered, underway.push, given⟩
    · cases moved
  · cases moved

theorem Matched.serve (matched : Matched setup state) (link : Link UInt8)
    (entry : Nat × Bytes × Bytes) :
    Matched setup { state with link, served := state.served ++ [entry] } := by
  intro result listed response returned
  obtain ⟨encoded, answer, served, decoded⟩ := matched result listed response returned
  exact ⟨encoded, answer, List.mem_append_left _ served, decoded⟩

theorem Held.serve (held : Held setup state) {answer : Bytes}
    (moved : serve state answer = some after) : Held setup after := by
  unfold Connection.serve at moved
  split at moved
  · rename_i short
    obtain ⟨⟨link, payload⟩, served, rfl⟩ := Option.map_eq_some_iff.mp moved
    refine ⟨held.matched.serve _ _, fun idle => (Link.serve_buffer served).trans (held.dropped idle), ?_⟩
    intro call called
    obtain ⟨encoded, fits, answered, underway, -⟩ := held.underway call called
    obtain ⟨-, rfl, onward, scanned⟩ := underway.serve (by decide) fits served
    refine ⟨encoded, fits, some answer, onward, ?_⟩
    intro given same
    obtain rfl := Option.some.inj same
    rw [← scanned]
    exact ⟨short, List.mem_append_right _ (List.mem_singleton.mpr rfl)⟩
  · cases moved

theorem Held.pull (held : Held setup state) (moved : pull setup state count = some after) :
    Held setup after := by
  unfold Connection.pull at moved
  split at moved
  · rename_i call called
    split at moved
    · rename_i bounds
      cases moved
      obtain ⟨encoded, short, answered, underway, given⟩ := held.underway call called
      obtain ⟨answer, known, settled⟩ := @Link.Underway.recv _ _ _ _ maxClientFrameBytes _ _ _ _
        underway bounds.1 bounds.2.1 fun answer same => (given answer same).1
      revert settled
      cases Link.proceed lengthHeader maxClientFrameBytes (state.link.recv count) call.stage with
      | waits later stage =>
          rintro ⟨onward, -, -⟩
          refine ⟨held.matched, nofun, ?_⟩
          intro other same
          obtain rfl := Option.some.inj same
          exact ⟨encoded, short, some answer, onward, fun other same => given other (known.trans same)⟩
      | tooLong length =>
          intro _
          exact held.finish (by simp) _
      | done later body =>
          rintro ⟨rfl, -, -, -⟩
          refine held.finish (fun response decoded => ?_) _
          exact ⟨encoded, body, (given body known).2, decodeReply_ok decoded⟩
    · cases moved
  · cases moved

theorem Held.interrupt (held : Held setup state) {error : ConnectionError}
    (moved : interrupt state error = some after) : Held setup after := by
  obtain ⟨call, called, rfl⟩ := Option.map_eq_some_iff.mp moved
  exact held.finish (by simp) _

theorem Held.next (held : Held setup state) (clean : Clean setup state event)
    (moved : next setup state event = some after) : Held setup after := by
  cases event with
  | begin request => exact held.begin clean moved
  | push count => exact held.push moved
  | pull count => exact held.pull moved
  | timeout => exact held.interrupt moved
  | fail error => exact held.interrupt moved
  | serve answer => exact held.serve moved

/-- Calls may break off anywhere: as long as none begins to write while something is left on its way,
those that return a response return their own. -/
theorem replies_match {final : State} {trace : List Event}
    (ran : run (next setup) start trace = some final)
    (clean : Along (next setup) (Clean setup) start trace) : Matched setup final := by
  have rule := @run_history State Event (next setup) (Clean setup) (fun _ => Held setup) start final
    trace (start_held setup)
  exact (rule (fun _ _ _ _ held moved clean => held.next clean moved) clean ran).matched

end

def nodesRequest : Bytes := asBytes "\x7b\"type\":\"nodes\"\x7d"

def nodesResponse : Bytes := asBytes "\x7b\"type\":\"nodes\",\"nodes\":[]\x7d"

def recentRequest : Bytes := asBytes "\x7b\"type\":\"recent\",\"limit\":5\x7d"

def recentResponse : Bytes := asBytes "\x7b\"type\":\"recent\",\"tasks\":[]\x7d"

def twoRequests : Setup where
  requests := .table [(.nodes, nodesRequest), (.recent (some 5), recentRequest)]
  responses := .table [(.nodes [], nodesResponse), (.recent [], recentResponse)]

def givesUpEarly : List Event :=
  [.begin .nodes, .timeout, .begin (.recent (some 5)), .push 10, .push 21, .serve recentResponse,
    .pull 2, .pull 2, .pull 28]

theorem early_timeout_matched :
    ∃ final, run (next twoRequests) start givesUpEarly = some final ∧
      final.returned.map Returned.outcome = [.error .timeout, .ok (.recent [])] ∧
      Matched twoRequests final := by
  have tested : (run (next twoRequests) start givesUpEarly).any
      (fun state => state.returned.map Returned.outcome = [.error .timeout, .ok (.recent [])]) =
      true := by
    decide +kernel
  have clean : Along (next twoRequests) (Clean twoRequests) start givesUpEarly := by
    decide +kernel
  obtain ⟨final, ran, returned⟩ := run_tested tested
  exact ⟨final, ran, of_decide_eq_true returned, replies_match ran clean⟩

def givesUpLate : List Event :=
  [.begin .nodes, .push 20, .timeout, .begin (.recent (some 5)), .serve nodesResponse, .push 31,
    .pull 4, .pull 27]

theorem late_reply_mismatched :
    ∃ final, run (next twoRequests) start givesUpLate = some final ∧
      final.returned = [⟨.nodes, nodesRequest, 0, .error .timeout⟩,
        ⟨.recent (some 5), recentRequest, 20, .ok (.nodes [])⟩] ∧
      final.served = [(0, nodesRequest, nodesResponse)] ∧ ¬ Matched twoRequests final := by
  have tested : (run (next twoRequests) start givesUpLate).any
      (fun state => state.returned = [⟨.nodes, nodesRequest, 0, .error .timeout⟩,
          ⟨.recent (some 5), recentRequest, 20, .ok (.nodes [])⟩] ∧
        state.served = [(0, nodesRequest, nodesResponse)]) = true := by
    decide +kernel
  obtain ⟨final, ran, held⟩ := run_tested tested
  obtain ⟨returned, served⟩ := of_decide_eq_true held
  refine ⟨final, ran, returned, served, fun matched => ?_⟩
  obtain ⟨-, answer, entry, -⟩ := matched _ (returned ▸ List.mem_cons_of_mem _ List.mem_cons_self)
    (.nodes []) rfl
  rw [served] at entry
  simp at entry

end AetherMesh.Connection
