import AetherMesh.Library.Runs
import AetherMesh.Protocol.NetFrames

/-!
The TypeScript client. Requests are pipelined on one socket and wait for their responses in a
list; a response goes to whoever is first in it. A request that times out leaves the list, but
its response may still come. The server answers each request once and in order, and the socket
hands its bytes over in chunks of any length.
-/

namespace AetherMesh.TypeScript

open Framing Runs

/-- The promise of a call settles once. A resolved one says the place of its response among all
that came. -/
inductive Outcome (Frame : Type)
  | resolved (position : Nat) (frame : Frame)
  | rejected (message : String)
deriving DecidableEq

/-- `JSON.stringify` may throw, and its text is taken as the bytes in UTF-8. -/
structure Setup (Frame : Type) where
  timeoutMs : Nat
  stringify : Frame → Except String Bytes
  parse : Bytes → Except String Frame

/-- An entry of `pending` is named by its call, as is its timer, which runs as long as the entry is
there. `sent` has the frames that were written while the socket was up. -/
structure State (Frame : Type) where
  buffer : Bytes
  pending : List Nat
  closed : Bool
  calls : Nat
  settled : List (Nat × Outcome Frame)
  up : Bool
  sent : List (Nat × Bytes)
  answers : List Bytes
  received : Nat
  taken : Nat

inductive Event (Frame : Type)
  | request (frame : Frame)
  | timeout (call : Nat)
  | answer (payload : Bytes)
  | data (count : Nat)
  | failed (message : String)
  | ended
  | close

section

variable {Frame : Type}

def start : State Frame := ⟨[], [], false, 0, [], true, [], [], 0, 0⟩

namespace State

variable (state : State Frame)

def stream : Bytes := state.answers.flatMap lengthHeader.frame

def unread : Bytes := state.stream.drop state.received

def written : List Nat := state.sent.map Prod.fst

/-- The calls that were written and whose responses have not been cut out of the stream. -/
def owed : List Nat := state.written.drop state.taken

end State

def settle (settled : List (Nat × Outcome Frame)) (call : Nat) (outcome : Outcome Frame) :
    List (Nat × Outcome Frame) :=
  if call ∈ settled.map Prod.fst then settled else settled ++ [(call, outcome)]

def writeUInt32BE (value : Nat) : Except String Bytes :=
  if value < 2 ^ 32 then .ok (lengthPrefix value) else .error "ERR_OUT_OF_RANGE"

variable (setup : Setup Frame) (state : State Frame)

def encode (frame : Frame) : Except String Bytes :=
  match setup.stringify frame with
  | .error thrown => .error thrown
  | .ok payload =>
      match writeUInt32BE payload.length with
      | .error thrown => .error thrown
      | .ok header => .ok (header ++ payload)

/-- The entry is in the list before anything can throw. -/
def request (frame : Frame) : State Frame :=
  if state.closed then
    { state with
      calls := state.calls + 1
      settled := settle state.settled state.calls (.rejected "connection is closed") }
  else
    let waiting := { state with
      calls := state.calls + 1
      pending := state.pending ++ [state.calls] }
    match encode setup frame with
    | .error thrown =>
        { waiting with settled := settle state.settled state.calls (.rejected thrown) }
    | .ok bytes =>
        if state.up then { waiting with sent := state.sent ++ [(state.calls, bytes)] } else waiting

def timeout (call : Nat) : Option (State Frame) :=
  if call ∈ state.pending then
    some { state with
      pending := state.pending.filter (· ≠ call)
      settled := settle state.settled call
        (.rejected ("no response within " ++ toString setup.timeoutMs ++ " ms")) }
  else none

def outcome (payload : Bytes) : Outcome Frame :=
  match setup.parse payload with
  | .ok frame => .resolved state.taken frame
  | .error error => .rejected ("controller sent invalid JSON: " ++ error)

/-- What `onData` does with one frame. -/
def shift (payload : Bytes) : State Frame :=
  match state.pending with
  | [] => { state with taken := state.taken + 1 }
  | waiter :: rest =>
      { state with
        pending := rest
        taken := state.taken + 1
        settled := settle state.settled waiter (outcome setup state payload) }

/-- The loop of `onData`; each turn leaves less in the buffer. -/
def drain : Nat → State Frame → State Frame
  | 0, state => state
  | turns + 1, state =>
      match lengthHeader.reading (2 ^ 32 - 1) state.buffer with
      | .body payload rest => drain turns (shift setup { state with buffer := rest } payload)
      | _ => state

def onData (chunk : Bytes) : State Frame :=
  drain setup (state.buffer ++ chunk).length { state with buffer := state.buffer ++ chunk }

def failAll (message : String) : State Frame :=
  { state with
    pending := []
    settled := state.pending.foldl (fun settled call => settle settled call (.rejected message))
      state.settled }

/-- The server's answers fit the length in front of them. -/
def answer (payload : Bytes) : Option (State Frame) :=
  if state.up ∧ state.answers.length < state.sent.length ∧ payload.length < 2 ^ 32 then
    some { state with answers := state.answers ++ [payload] }
  else none

def data (count : Nat) : Option (State Frame) :=
  if state.up ∧ 0 < count ∧ count ≤ state.unread.length then
    some (onData setup { state with received := state.received + count } (state.unread.take count))
  else none

/-- An error destroys the socket, and then nothing more is received. -/
def failed (message : String) : State Frame := failAll { state with up := false } message

def ended : State Frame :=
  if state.closed then { state with up := false }
  else failAll { state with up := false } "connection closed"

def next : Event Frame → Option (State Frame)
  | .request frame => some (request setup state frame)
  | .timeout call => timeout setup state call
  | .answer payload => answer state payload
  | .data count => data setup state count
  | .failed message => some (failed state message)
  | .ended => some (ended state)
  | .close => some { state with closed := true }

end

variable {Frame : Type}

/-- Each promise that has been resolved has been resolved with the server's answer to the frame that
its call sent. -/
def Matched (setup : Setup Frame) (state : State Frame) : Prop :=
  ∀ call position frame, (call, .resolved position frame) ∈ state.settled →
    state.written[position]? = some call ∧
      ∃ payload, state.answers[position]? = some payload ∧ setup.parse payload = .ok frame

def complete : Nat → Bytes → Nat
  | 0, _ => 0
  | turns + 1, buffer =>
      match lengthHeader.reading (2 ^ 32 - 1) buffer with
      | .body _ rest => complete turns rest + 1
      | _ => 0

/-- As many waiters as there are frames were all sent, and the calls that the frames answer all still
wait. -/
def InTurn (state : State Frame) (frames : Nat) : Prop :=
  (∀ call ∈ state.owed.take (min frames state.pending.length), call ∈ state.pending) ∧
    ∀ call ∈ state.pending.take frames, call ∈ state.written

def Prompt (state : State Frame) : Event Frame → Prop
  | .data count =>
      let buffer := state.buffer ++ state.unread.take count
      InTurn state (complete buffer.length buffer)
  | _ => True

instance decidablePrompt (state : State Frame) : ∀ event, Decidable (Prompt state event)
  | .data _ => inferInstanceAs (Decidable (_ ∧ _))
  | .request _ | .timeout _ | .answer _ | .failed _ | .ended | .close => .isTrue trivial

/-- Calls are written in the order they are made and wait in that order, and a call that waits and
was written is still owed its response. -/
structure Lined (calls : Nat) (written : List Nat) (taken : Nat) (pending : List Nat) : Prop where
  ordered : written.Pairwise (· < ·)
  queued : pending.Pairwise (· < ·)
  wrote : ∀ call ∈ written, call < calls
  waits : ∀ call ∈ pending, call < calls
  owed : ∀ call ∈ pending, call ∈ written → call ∈ written.drop taken

/-- What is in the buffer and what is still to come are the answers that have not been cut out. -/
structure Flowing (state : State Frame) : Prop where
  short : ∀ payload ∈ state.answers, payload.length < 2 ^ 32
  answered : state.answers.length ≤ state.sent.length
  received : state.received ≤ state.stream.length
  taken : state.taken ≤ state.answers.length
  rest : state.buffer ++ state.unread = (state.answers.drop state.taken).flatMap lengthHeader.frame

structure Synced (setup : Setup Frame) (state : State Frame) : Prop where
  lined : Lined state.calls state.written state.taken state.pending
  flowing : Flowing state
  matched : Matched setup state

namespace Lined

variable {calls taken : Nat} {written pending : List Nat}

theorem sublist (lined : Lined calls written taken pending) {fewer : List Nat}
    (sub : fewer.Sublist pending) : Lined calls written taken fewer where
  ordered := lined.ordered
  queued := lined.queued.sublist sub
  wrote := lined.wrote
  waits := fun call waiting => lined.waits call (sub.subset waiting)
  owed := fun call waiting => lined.owed call (sub.subset waiting)

theorem refuse (lined : Lined calls written taken pending) :
    Lined (calls + 1) written taken pending where
  ordered := lined.ordered
  queued := lined.queued
  wrote := fun call wrote => Nat.lt_succ_of_lt (lined.wrote call wrote)
  waits := fun call waiting => Nat.lt_succ_of_lt (lined.waits call waiting)
  owed := lined.owed

theorem wait (lined : Lined calls written taken pending) :
    Lined (calls + 1) written taken (pending ++ [calls]) where
  ordered := lined.ordered
  queued := by
    refine List.pairwise_append.mpr ⟨lined.queued, List.pairwise_singleton _ _, ?_⟩
    intro call waiting last listed
    rw [List.mem_singleton.mp listed]
    exact lined.waits call waiting
  wrote := lined.refuse.wrote
  waits := by
    intro call waiting
    rcases List.mem_append.mp waiting with old | new
    · exact lined.refuse.waits call old
    · rw [List.mem_singleton.mp new]
      exact Nat.lt_succ_self calls
  owed := by
    intro call waiting wrote
    rcases List.mem_append.mp waiting with old | new
    · exact lined.owed call old wrote
    · rw [List.mem_singleton.mp new] at wrote
      exact absurd (lined.wrote calls wrote) (Nat.lt_irrefl calls)

theorem write (lined : Lined calls written taken pending) (bound : taken ≤ written.length) :
    Lined (calls + 1) (written ++ [calls]) taken (pending ++ [calls]) where
  ordered := by
    refine List.pairwise_append.mpr ⟨lined.ordered, List.pairwise_singleton _ _, ?_⟩
    intro call wrote last listed
    rw [List.mem_singleton.mp listed]
    exact lined.wrote call wrote
  queued := lined.wait.queued
  wrote := by
    intro call wrote
    rcases List.mem_append.mp wrote with old | new
    · exact lined.refuse.wrote call old
    · rw [List.mem_singleton.mp new]
      exact Nat.lt_succ_self calls
  waits := lined.wait.waits
  owed := by
    intro call waiting wrote
    rw [List.drop_append_of_le_length bound]
    rcases List.mem_append.mp wrote with old | new
    · exact List.mem_append_left _ (lined.wait.owed call waiting old)
    · exact List.mem_append_right _ new

/-- When whoever is first was sent and the call that is answered waits, they are the same. -/
theorem first_eq {first waiter : Nat} {owed rest : List Nat}
    (lined : Lined calls written taken (waiter :: rest)) (next : written.drop taken = first :: owed)
    (sent : waiter ∈ written) (waits : first ∈ waiter :: rest) : waiter = first := by
  have sorted : (first :: owed).Pairwise (· < ·) :=
    next ▸ lined.ordered.sublist (List.drop_sublist _ _)
  have due : waiter ∈ first :: owed := next ▸ lined.owed waiter List.mem_cons_self sent
  rcases List.mem_cons.mp due with here | later
  · exact here
  rcases List.mem_cons.mp waits with here | behind
  · exact here.symm
  have before := (List.pairwise_cons.mp sorted).1 waiter later
  have after := (List.pairwise_cons.mp lined.queued).1 first behind
  omega

theorem shift {waiter : Nat} {owed rest : List Nat}
    (lined : Lined calls written taken (waiter :: rest)) (next : written.drop taken = waiter :: owed) :
    Lined calls written (taken + 1) rest ∧ ∀ call ∈ owed, call ∈ waiter :: rest → call ∈ rest := by
  have sorted : (waiter :: owed).Pairwise (· < ·) :=
    next ▸ lined.ordered.sublist (List.drop_sublist _ _)
  obtain ⟨before, queued⟩ := List.pairwise_cons.mp lined.queued
  refine ⟨⟨lined.ordered, queued, lined.wrote,
    fun call listed => lined.waits call (List.mem_cons_of_mem _ listed), ?_⟩, ?_⟩
  · intro call listed wrote
    have still := lined.owed call (List.mem_cons_of_mem _ listed) wrote
    rw [next] at still
    rw [← List.drop_drop, next, List.drop_one, List.tail_cons]
    rcases List.mem_cons.mp still with here | owing
    · exact absurd (before call listed) (Nat.not_lt.mpr here.le)
    · exact owing
  · intro call owing listed
    rcases List.mem_cons.mp listed with here | behind
    · exact absurd ((List.pairwise_cons.mp sorted).1 call owing) (Nat.not_lt.mpr here.le)
    · exact behind

end Lined

section

variable {setup : Setup Frame} {state after : State Frame} {event : Event Frame}

theorem mem_settle {settled : List (Nat × Outcome Frame)} {call : Nat} {outcome : Outcome Frame}
    {entry : Nat × Outcome Frame} (listed : entry ∈ settle settled call outcome) :
    entry ∈ settled ∨ entry = (call, outcome) := by
  unfold settle at listed
  split at listed
  · exact .inl listed
  · exact (List.mem_append.mp listed).imp id List.mem_singleton.mp

theorem mem_settle_rejected {settled : List (Nat × Outcome Frame)} {call other position : Nat}
    {message : String} {frame : Frame}
    (listed : (call, .resolved position frame) ∈ settle settled other (.rejected message)) :
    (call, .resolved position frame) ∈ settled := by
  rcases mem_settle listed with old | new
  · exact old
  · cases new

theorem mem_settle_all {settled : List (Nat × Outcome Frame)} {calls : List Nat}
    {call position : Nat} {message : String} {frame : Frame}
    (listed : (call, .resolved position frame) ∈
      calls.foldl (fun settled call => settle settled call (.rejected message)) settled) :
    (call, .resolved position frame) ∈ settled := by
  induction calls generalizing settled with
  | nil => exact listed
  | cons first rest ih => exact mem_settle_rejected (ih listed)

theorem found_in_longer {α : Type} {front whole : List α} (first : front <+: whole) {place : Nat}
    {entry : α} (found : front[place]? = some entry) : whole[place]? = some entry := by
  obtain ⟨rest, rfl⟩ := first
  rw [List.getElem?_append_left (List.getElem?_eq_some_iff.mp found).1]
  exact found

theorem Matched.grow (matched : Matched setup state)
    (settled : ∀ call position frame, (call, .resolved position frame) ∈ after.settled →
      (call, .resolved position frame) ∈ state.settled)
    (written : state.written <+: after.written) (answers : state.answers <+: after.answers) :
    Matched setup after := by
  intro call position frame listed
  obtain ⟨wrote, payload, answered, parsed⟩ := matched call position frame
    (settled call position frame listed)
  exact ⟨found_in_longer written wrote, payload, found_in_longer answers answered, parsed⟩

theorem Flowing.still (flowing : Flowing state) (pending : List Nat) (closed : Bool) (calls : Nat)
    (settled : List (Nat × Outcome Frame)) (up : Bool) :
    Flowing { state with pending, closed, calls, settled, up } :=
  ⟨flowing.short, flowing.answered, flowing.received, flowing.taken, flowing.rest⟩

theorem Flowing.answer (flowing : Flowing state) {payload : Bytes}
    (short : payload.length < 2 ^ 32) (waits : state.answers.length < state.sent.length) :
    Flowing { state with answers := state.answers ++ [payload] } := by
  have longer : State.stream { state with answers := state.answers ++ [payload] } =
      state.stream ++ lengthHeader.frame payload := by
    rw [State.stream, List.flatMap_append, List.flatMap_singleton]
    rfl
  refine ⟨?_, ?_, ?_, ?_, ?_⟩
  · intro other listed
    rcases List.mem_append.mp listed with old | new
    · exact flowing.short other old
    · exact List.mem_singleton.mp new ▸ short
  · rw [List.length_append]
    exact waits
  · rw [longer, List.length_append]
    exact Nat.le_add_right_of_le flowing.received
  · simpa using Nat.le_succ_of_le flowing.taken
  · rw [State.unread, longer, List.drop_append_of_le_length flowing.received,
      List.drop_append_of_le_length flowing.taken, List.flatMap_append, List.flatMap_singleton,
      ← flowing.rest, List.append_assoc]
    rfl

theorem Flowing.receive (flowing : Flowing state) {count : Nat} (enough : count ≤ state.unread.length) :
    Flowing { state with
      received := state.received + count
      buffer := state.buffer ++ state.unread.take count } := by
  refine ⟨flowing.short, flowing.answered, ?_, flowing.taken, ?_⟩
  · rw [State.unread, List.length_drop] at enough
    have before := flowing.received
    change state.received + count ≤ state.stream.length
    omega
  · have further : State.unread { state with
        received := state.received + count
        buffer := state.buffer ++ state.unread.take count } = state.unread.drop count := by
      rw [State.unread, State.unread, List.drop_drop]
      rfl
    rw [further, List.append_assoc, List.take_append_drop]
    exact flowing.rest

theorem Flowing.cut (flowing : Flowing state) {payload rest : Bytes}
    (reads : lengthHeader.reading (2 ^ 32 - 1) state.buffer = .body payload rest) :
    state.answers[state.taken]? = some payload ∧
      Flowing { state with buffer := rest, taken := state.taken + 1 } := by
  obtain ⟨later, next, left⟩ := reading_flatMap (by decide)
    (fun body listed => flowing.short body (List.mem_of_mem_drop listed)) flowing.rest reads
  have here : state.answers[state.taken]? = some payload := by
    rw [← List.head?_drop, next, List.head?_cons]
  obtain ⟨bound, -⟩ := List.getElem?_eq_some_iff.mp here
  refine ⟨here, flowing.short, flowing.answered, flowing.received, bound, ?_⟩
  have behind : state.answers.drop (state.taken + 1) = later := by
    rw [← List.drop_drop, next, List.drop_one, List.tail_cons]
  exact left.trans (congrArg (List.flatMap lengthHeader.frame) behind.symm)

theorem outcome_resolved {payload : Bytes} {position : Nat} {frame : Frame}
    (resolved : outcome setup state payload = .resolved position frame) :
    position = state.taken ∧ setup.parse payload = .ok frame := by
  unfold outcome at resolved
  split at resolved
  · rename_i parsed
    cases resolved
    exact ⟨rfl, parsed⟩
  · cases resolved

theorem Synced.owed_cons (synced : Synced setup state) {payload : Bytes}
    (here : state.answers[state.taken]? = some payload) :
    ∃ first owed, state.owed = first :: owed := by
  have bound : state.taken < state.written.length := by
    rw [State.written, List.length_map]
    exact Nat.lt_of_lt_of_le (List.getElem?_eq_some_iff.mp here).1 synced.flowing.answered
  exact ⟨_, _, List.drop_eq_getElem_cons bound⟩

theorem Synced.shift (synced : Synced setup state) {payload rest : Bytes} {frames : Nat}
    (reads : lengthHeader.reading (2 ^ 32 - 1) state.buffer = .body payload rest)
    (turn : InTurn state (frames + 1)) :
    Synced setup (shift setup { state with buffer := rest } payload) ∧
      InTurn (shift setup { state with buffer := rest } payload) frames := by
  obtain ⟨here, flowing⟩ := synced.flowing.cut reads
  have lined := synced.lined
  unfold InTurn at turn
  unfold TypeScript.shift
  cases waiting : state.pending with
  | nil =>
      dsimp only
      rw [waiting] at lined
      refine ⟨⟨?_, flowing.still _ _ _ _ _, synced.matched⟩, by simp [InTurn]⟩
      exact ⟨lined.ordered, lined.queued, lined.wrote, lined.waits, nofun⟩
  | cons waiter others =>
      rw [waiting] at lined turn
      obtain ⟨first, owed, next⟩ := synced.owed_cons here
      rw [next, List.length_cons, ← Nat.succ_eq_add_one, Nat.succ_min_succ, List.take_succ_cons,
        List.take_succ_cons] at turn
      obtain ⟨waits, sent⟩ := turn
      rw [List.forall_mem_cons] at waits sent
      obtain rfl := lined.first_eq next sent.1 waits.1
      obtain ⟨shifted, remains⟩ := lined.shift next
      have written : state.written[state.taken]? = some waiter := by
        rw [← List.head?_drop]
        exact congrArg List.head? next
      have later : state.written.drop (state.taken + 1) = owed := by
        rw [← List.drop_drop]
        exact congrArg (List.drop 1) next
      dsimp only
      refine ⟨⟨shifted, flowing.still _ _ _ _ _, ?_⟩, ?_, sent.2⟩
      · intro call position frame listed
        rcases mem_settle listed with old | new
        · exact synced.matched call position frame old
        · obtain ⟨rfl, same⟩ := Prod.mk.inj new
          exact ⟨(outcome_resolved same.symm).1 ▸ written, payload,
            (outcome_resolved same.symm).1 ▸ here, (outcome_resolved same.symm).2⟩
      · intro call listed
        change call ∈ (state.written.drop (state.taken + 1)).take _ at listed
        rw [later] at listed
        exact remains call (List.mem_of_mem_take listed) (waits.2 call listed)

theorem shift_buffer (setup : Setup Frame) (state : State Frame) (payload : Bytes) :
    (shift setup state payload).buffer = state.buffer := by
  unfold shift
  split <;> rfl

theorem drain_done (setup : Setup Frame) (turns : Nat) (state : State Frame)
    (enough : state.buffer.length ≤ turns) (payload rest : Bytes) :
    lengthHeader.reading (2 ^ 32 - 1) (drain setup turns state).buffer ≠ .body payload rest := by
  induction turns generalizing state with
  | zero =>
      intro found
      rw [drain, List.length_eq_zero_iff.mp (Nat.le_zero.mp enough)] at found
      cases found
  | succ turns ih =>
      cases reads : lengthHeader.reading (2 ^ 32 - 1) state.buffer with
      | body front left =>
          have shorter := reading_body_shorter reads
          simp only [drain, reads]
          refine ih _ ?_
          rw [shift_buffer]
          exact Nat.le_of_lt_succ (Nat.lt_of_lt_of_le shorter enough)
      | _ =>
          simp only [drain, reads, ne_eq, not_false_eq_true, reduceCtorEq]

theorem Synced.drain (synced : Synced setup state) (turns : Nat)
    (turn : InTurn state (complete turns state.buffer)) : Synced setup (drain setup turns state) := by
  induction turns generalizing state with
  | zero => exact synced
  | succ turns ih =>
      cases reads : lengthHeader.reading (2 ^ 32 - 1) state.buffer with
      | body payload rest =>
          simp only [complete, reads] at turn
          obtain ⟨shifted, onward⟩ := synced.shift reads turn
          simp only [TypeScript.drain, reads]
          refine ih shifted ?_
          rw [shift_buffer]
          exact onward
      | _ =>
          simp only [TypeScript.drain, reads]
          exact synced

theorem Synced.data (synced : Synced setup state) {count : Nat} (prompt : Prompt state (.data count))
    (moved : data setup state count = some after) : Synced setup after := by
  unfold TypeScript.data at moved
  split at moved
  · rename_i enough
    cases moved
    have received : Synced setup { state with
        received := state.received + count
        buffer := state.buffer ++ state.unread.take count } :=
      ⟨synced.lined, synced.flowing.receive enough.2.2, synced.matched⟩
    exact received.drain _ prompt
  · cases moved

theorem Synced.request (synced : Synced setup state) (frame : Frame) :
    Synced setup (request setup state frame) := by
  have flowing := synced.flowing
  have bound : state.taken ≤ state.written.length := by
    rw [State.written, List.length_map]
    exact Nat.le_trans flowing.taken flowing.answered
  unfold TypeScript.request
  split
  · refine ⟨synced.lined.refuse, flowing.still _ _ _ _ _, ?_⟩
    exact synced.matched.grow (fun _ _ _ => mem_settle_rejected) List.prefix_rfl List.prefix_rfl
  dsimp only
  split
  · refine ⟨synced.lined.wait, flowing.still _ _ _ _ _, ?_⟩
    exact synced.matched.grow (fun _ _ _ => mem_settle_rejected) List.prefix_rfl List.prefix_rfl
  · rename_i bytes encoded
    split
    · have longer : State.written { state with sent := state.sent ++ [(state.calls, bytes)] } =
          state.written ++ [state.calls] := by
        rw [State.written, List.map_append]
        rfl
      refine ⟨?_, ?_, ?_⟩
      · have lined := synced.lined.write bound
        rw [← longer] at lined
        exact lined
      · refine ⟨flowing.short, ?_, flowing.received, flowing.taken, flowing.rest⟩
        exact Nat.le_trans flowing.answered (by simp)
      · refine synced.matched.grow (fun _ _ _ => id) ?_ List.prefix_rfl
        exact longer ▸ List.prefix_append _ _
    · exact ⟨synced.lined.wait, flowing.still _ _ _ _ _, synced.matched⟩

theorem Synced.failAll (synced : Synced setup state) (up : Bool) (message : String) :
    Synced setup (failAll { state with up } message) := by
  refine ⟨synced.lined.sublist (List.nil_sublist _), synced.flowing.still _ _ _ _ _, ?_⟩
  exact synced.matched.grow (fun _ _ _ => mem_settle_all) List.prefix_rfl List.prefix_rfl

theorem start_synced (setup : Setup Frame) : Synced setup start where
  lined := ⟨.nil, .nil, nofun, nofun, nofun⟩
  flowing := ⟨nofun, Nat.le_refl _, Nat.le_refl _, Nat.le_refl _, rfl⟩
  matched := nofun

theorem Synced.next (synced : Synced setup state) (prompt : Prompt state event)
    (moved : next setup state event = some after) : Synced setup after := by
  cases event with
  | request frame =>
      cases moved
      exact synced.request frame
  | timeout call =>
      simp only [TypeScript.next, timeout] at moved
      split at moved
      · cases moved
        refine ⟨synced.lined.sublist List.filter_sublist, synced.flowing.still _ _ _ _ _, ?_⟩
        exact synced.matched.grow (fun _ _ _ => mem_settle_rejected) List.prefix_rfl List.prefix_rfl
      · cases moved
  | answer payload =>
      simp only [TypeScript.next, answer] at moved
      split at moved
      · rename_i able
        cases moved
        refine ⟨synced.lined, synced.flowing.answer able.2.2 able.2.1, ?_⟩
        exact synced.matched.grow (fun _ _ _ => id) List.prefix_rfl (List.prefix_append _ _)
      · cases moved
  | data count => exact synced.data prompt moved
  | failed message =>
      cases moved
      exact synced.failAll false message
  | ended =>
      cases moved
      unfold ended
      split
      · exact ⟨synced.lined, synced.flowing.still _ _ _ _ _, synced.matched⟩
      · exact synced.failAll false "connection closed"
  | close =>
      cases moved
      exact ⟨synced.lined, synced.flowing.still _ _ _ _ _, synced.matched⟩

/-- However requests are pipelined and the responses are cut into chunks: as long as no frame comes
while others wait to a call that no longer does, promises resolve with their own responses. -/
theorem resolved_match {final : State Frame} {trace : List (Event Frame)}
    (ran : run (next setup) start trace = some final)
    (prompt : Along (next setup) Prompt start trace) : Matched setup final := by
  have rule := @run_history (State Frame) (Event Frame) (next setup) Prompt
    (fun _ => Synced setup) start final trace (start_synced setup)
  exact (rule (fun _ _ _ _ synced moved prompt => synced.next prompt moved) prompt ran).matched

end

def nodesRequest : String := "\x7b\"type\":\"nodes\"\x7d"

def nodesResponse : String := "\x7b\"type\":\"nodes\",\"nodes\":[]\x7d"

def recentRequest : String := "\x7b\"type\":\"recent\",\"limit\":20\x7d"

def recentResponse : String := "\x7b\"type\":\"recent\",\"tasks\":[]\x7d"

def plain : Setup String where
  timeoutMs := 120000
  stringify text := .ok (asBytes text)
  parse payload :=
    match [nodesResponse, recentResponse].find? fun text => asBytes text = payload with
    | some text => .ok text
    | none => .error "other"

/-- Two requests are pipelined and answered in chunks that end inside frames. One more gives up with
nobody behind it, and its response comes before anyone else waits. -/
def pipelined : List (Event String) :=
  [.request nodesRequest, .request recentRequest, .answer (asBytes nodesResponse),
    .answer (asBytes recentResponse), .data 3, .data 50, .data 10, .request recentRequest, .timeout 2,
    .answer (asBytes recentResponse), .data 32, .request nodesRequest,
    .answer (asBytes nodesResponse), .data 31]

theorem pipelined_match :
    ∃ final, run (next plain) start pipelined = some final ∧
      final.settled = [(0, .resolved 0 nodesResponse), (1, .resolved 1 recentResponse),
        (2, .rejected "no response within 120000 ms"), (3, .resolved 3 nodesResponse)] ∧
      Matched plain final := by
  have tested : (run (next plain) start pipelined).any
      (fun state => state.settled = [(0, .resolved 0 nodesResponse), (1, .resolved 1 recentResponse),
        (2, .rejected "no response within 120000 ms"), (3, .resolved 3 nodesResponse)]) = true := by
    decide +kernel
  have prompt : Along (next plain) Prompt start pipelined := by decide +kernel
  obtain ⟨final, ran, settled⟩ := run_tested tested
  exact ⟨final, ran, of_decide_eq_true settled, resolved_match ran prompt⟩

def overtaken : List (Event String) :=
  [.request nodesRequest, .request recentRequest, .timeout 0, .answer (asBytes nodesResponse),
    .data 31]

theorem late_response_mismatched :
    ∃ final, run (next plain) start overtaken = some final ∧
      final.settled = [(0, .rejected "no response within 120000 ms"), (1, .resolved 0 nodesResponse)] ∧
      ¬ Matched plain final := by
  have tested : (run (next plain) start overtaken).any
      (fun state => state.settled =
          [(0, .rejected "no response within 120000 ms"), (1, .resolved 0 nodesResponse)] ∧
        state.written = [0, 1]) = true := by
    decide +kernel
  obtain ⟨final, ran, held⟩ := run_tested tested
  obtain ⟨settled, written⟩ := of_decide_eq_true held
  refine ⟨final, ran, settled, fun matched => ?_⟩
  have wrote := (matched 1 0 nodesResponse (settled ▸ List.mem_cons_of_mem _ List.mem_cons_self)).1
  rw [written] at wrote
  cases wrote

end AetherMesh.TypeScript
