import AetherMesh.Library.Runs
import AetherMesh.Protocol.Message

/-!
Messages on a connection. Each end gives its messages to a queue, and a writer takes them
from there, frames them and writes them; both ends do it the same way. The writer stops at
the first message that it cannot write.
-/

namespace AetherMesh

open Runs

def maxClientFrameBytes : Nat := 256 * 1024 * 1024

inductive CodecError
  | encode (reason : String)
  | decode (reason : String)
  | trailingBytes (count : Nat)
deriving DecidableEq

inductive NetError
  | io
  | codec (error : CodecError)
  | frameTooLarge (length : Nat)
deriving DecidableEq

def lengthPrefix (length : Nat) : Bytes :=
  [length / 2 ^ 24, length / 2 ^ 16, length / 2 ^ 8, length].map UInt8.ofNat

structure Stream where
  written : Bytes
  up : Bool
deriving DecidableEq

def writeMessage (encode : Message → Except String Bytes) (stream : Stream) (message : Message) :
    Stream × Except NetError Nat :=
  match encode message with
  | .error reason => (stream, .error (.codec (.encode reason)))
  | .ok payload =>
      if maxFrameBytes < payload.length then (stream, .error (.frameTooLarge payload.length))
      else if stream.up then
        ({ stream with written := stream.written ++ lengthPrefix payload.length ++ payload },
          .ok (payload.length + 4))
      else (stream, .error .io)

/-- One end of a connection: the queue, the writer that empties it, and all that was sent. -/
structure Outbox where
  stream : Stream
  queue : List Message
  writing : Bool
  sent : List Message
deriving DecidableEq

namespace Outbox

inductive Event
  | send (message : Message)
  | write
  | lose
deriving DecidableEq

def start : Outbox := ⟨⟨[], true⟩, [], true, []⟩

/-- A writer that stops drops what is still queued, and nothing is queued after that. -/
def next (encode : Message → Except String Bytes) (outbox : Outbox) : Event → Option Outbox
  | .send message =>
      let queue := if outbox.writing then outbox.queue ++ [message] else outbox.queue
      some { outbox with queue, sent := outbox.sent ++ [message] }
  | .write =>
      match outbox.writing, outbox.queue with
      | true, message :: rest =>
          match writeMessage encode outbox.stream message with
          | (stream, .ok _) => some { outbox with stream, queue := rest }
          | (stream, .error _) => some { outbox with stream, queue := [], writing := false }
      | _, _ => none
  | .lose => some { outbox with stream := { outbox.stream with up := false } }

end Outbox

variable {encode : Message → Except String Bytes} {outbox after : Outbox} {event : Outbox.Event}
  {message : Message} {messages : List Message}

def frames (encode : Message → Except String Bytes) (message : Message) : Bool :=
  match encode message with
  | .ok payload => payload.length ≤ maxFrameBytes
  | .error _ => false

def frame (encode : Message → Except String Bytes) (message : Message) : Bytes :=
  match encode message with
  | .ok payload => lengthPrefix payload.length ++ payload
  | .error _ => []

def framed (encode : Message → Except String Bytes) (messages : List Message) : Bytes :=
  (messages.filter (frames encode)).flatMap (frame encode)

namespace Outbox

/-- While the connection is open, every message that can be framed has been written, or is queued
for the writer, in the order in which they were sent. -/
def Delivers (encode : Message → Except String Bytes) (outbox : Outbox) : Prop :=
  outbox.stream.up = true →
    outbox.stream.written ++ framed encode outbox.queue = framed encode outbox.sent

def sends (trace : List Event) : List Message :=
  trace.filterMap fun event =>
    match event with
    | .send message => some message
    | _ => none

/-- No message that cannot be framed comes before one that can. -/
def Fitting (encode : Message → Except String Bytes) (messages : List Message) : Prop :=
  messages.Pairwise fun earlier later => frames encode later = true → frames encode earlier = true

end Outbox

theorem writeMessage_up {stream : Stream} (up : stream.up = true) :
    (frames encode message = true ∧ ∃ count, writeMessage encode stream message =
        (⟨stream.written ++ frame encode message, stream.up⟩, .ok count)) ∨
      frames encode message = false ∧
        ∃ error, writeMessage encode stream message = (stream, .error error) := by
  unfold writeMessage frames frame
  cases encode message with
  | error reason => exact .inr ⟨rfl, _, rfl⟩
  | ok payload =>
      dsimp only
      split
      · rename_i long
        exact .inr ⟨decide_eq_false (Nat.not_le.mpr long), _, rfl⟩
      · rename_i short
        refine .inl ⟨decide_eq_true (Nat.not_lt.mp short), payload.length + 4, ?_⟩
        rw [List.append_assoc]

theorem writeMessage_keeps (stream : Stream) :
    (writeMessage encode stream message).1.up = stream.up := by
  unfold writeMessage
  split
  · rfl
  · split
    · rfl
    · split
      · rfl
      · rfl

theorem framed_append (front back : List Message) :
    framed encode (front ++ back) = framed encode front ++ framed encode back := by
  rw [framed, List.filter_append, List.flatMap_append, framed, framed]

theorem framed_singleton (fits : frames encode message = true) :
    framed encode [message] = frame encode message := by
  simp [framed, fits]

theorem framed_none (unfit : ∀ message, message ∈ messages → frames encode message = false) :
    framed encode messages = [] := by
  have empty : messages.filter (frames encode) = [] := by
    rw [List.filter_eq_nil_iff]
    intro message listed
    rw [unfit message listed]
    exact Bool.false_ne_true
  rw [framed, empty]
  rfl

/-- A frame is never empty, so messages leave a trace if any of them can be framed. -/
theorem framed_eq_nil (empty : framed encode messages = []) (listed : message ∈ messages) :
    frames encode message = false := by
  by_contra fits
  rw [Bool.not_eq_false] at fits
  have member : message ∈ messages.filter (frames encode) := List.mem_filter.mpr ⟨listed, fits⟩
  have nothing := List.flatMap_eq_nil_iff.mp empty message member
  unfold frame at nothing
  unfold frames at fits
  cases encoded : encode message with
  | error reason =>
      rw [encoded] at fits
      cases fits
  | ok payload =>
      rw [encoded] at nothing
      simp [lengthPrefix] at nothing

namespace Outbox

/-- The writer has written what was sent before the queue, or it has stopped at a message that it
could not frame. -/
def Standing (encode : Message → Except String Bytes) (outbox : Outbox) : Prop :=
  outbox.stream.up = true →
    ∃ done, (∀ message, message ∈ done → frames encode message = true) ∧
      outbox.stream.written = framed encode done ∧
      (outbox.writing = true ∧ outbox.sent = done ++ outbox.queue ∨
        outbox.writing = false ∧ outbox.queue = [] ∧
          ∃ bad rest, outbox.sent = done ++ bad :: rest ∧ frames encode bad = false)

theorem Standing.send (standing : Standing encode outbox)
    (moved : next encode outbox (.send message) = some after) : Standing encode after := by
  obtain rfl := Option.some.inj moved
  intro up
  obtain ⟨done, fits, written, ⟨writes, sent⟩ | ⟨stopped, empty, bad, rest, sent, unfit⟩⟩ := standing up
  · refine ⟨done, fits, written, .inl ⟨writes, ?_⟩⟩
    simp only [writes, if_true, sent, List.append_assoc]
  · refine ⟨done, fits, written, .inr ⟨stopped, ?_, bad, rest ++ [message], ?_, unfit⟩⟩
    · simp only [stopped, Bool.false_eq_true, if_false, empty]
    · simp only [sent, List.append_assoc, List.cons_append]

theorem Standing.write (standing : Standing encode outbox)
    (moved : next encode outbox .write = some after) : Standing encode after := by
  dsimp only [next] at moved
  split at moved
  · rename_i message rest writes queued
    by_cases up : outbox.stream.up = true
    · obtain ⟨done, fits, written, ⟨-, sent⟩ | ⟨stopped, -⟩⟩ := standing up
      · rw [queued] at sent
        rcases @writeMessage_up encode message outbox.stream up with
          ⟨framesIt, count, wrote⟩ | ⟨unfit, error, failed⟩
        · rw [wrote] at moved
          obtain rfl := Option.some.inj moved
          intro _
          refine ⟨done ++ [message], ?_, ?_, .inl ⟨writes, ?_⟩⟩
          · intro other listed
            rcases List.mem_append.mp listed with old | last
            · exact fits other old
            · rw [List.mem_singleton.mp last]
              exact framesIt
          · rw [framed_append, framed_singleton framesIt, written]
          · rw [sent, List.append_assoc, List.singleton_append]
        · rw [failed] at moved
          obtain rfl := Option.some.inj moved
          intro _
          exact ⟨done, fits, written, .inr ⟨rfl, rfl, message, rest, sent, unfit⟩⟩
      · rw [stopped] at writes
        cases writes
    · -- A connection that is down stays down.
      have kept := @writeMessage_keeps encode message outbox.stream
      intro now
      split at moved
      · rename_i stream count wrote
        obtain rfl := Option.some.inj moved
        rw [wrote] at kept
        exact absurd (kept.symm.trans now) up
      · rename_i stream error failed
        obtain rfl := Option.some.inj moved
        rw [failed] at kept
        exact absurd (kept.symm.trans now) up
  · cases moved

theorem Standing.step (standing : Standing encode outbox)
    (moved : next encode outbox event = some after) : Standing encode after := by
  cases event with
  | send message => exact standing.send moved
  | write => exact standing.write moved
  | lose =>
      obtain rfl := Option.some.inj moved
      intro up
      cases up

theorem next_sent (moved : next encode outbox event = some after) :
    after.sent = outbox.sent ++ sends [event] := by
  cases event with
  | send message =>
      obtain rfl := Option.some.inj moved
      rfl
  | write =>
      dsimp only [next] at moved
      split at moved
      · split at moved
        · obtain rfl := Option.some.inj moved
          exact (List.append_nil _).symm
        · obtain rfl := Option.some.inj moved
          exact (List.append_nil _).symm
      · cases moved
  | lose =>
      obtain rfl := Option.some.inj moved
      exact (List.append_nil _).symm

theorem run_sent {trace : List Event} {final : Outbox}
    (ran : run (next encode) start trace = some final) :
    Standing encode final ∧ final.sent = sends trace := by
  have rule := @run_reached Outbox Event (next encode)
    (fun past outbox => Standing encode outbox ∧ outbox.sent = sends past) start final trace
  refine rule ⟨?_, rfl⟩ ?_ ran
  · intro _
    exact ⟨[], by simp, rfl, .inl ⟨rfl, rfl⟩⟩
  · rintro past outbox event after - ⟨standing, sent⟩ moved
    refine ⟨standing.step moved, ?_⟩
    rw [next_sent moved, sent, sends, sends, sends, List.filterMap_append]

theorem Fitting.behind {done rest : List Message} {bad : Message}
    (fitting : Fitting encode (done ++ bad :: rest)) (unfit : frames encode bad = false) :
    ∀ message, message ∈ bad :: rest → frames encode message = false := by
  intro message listed
  rcases List.mem_cons.mp listed with rfl | later
  · exact unfit
  · by_contra fits
    have ordered := (List.pairwise_append.mp fitting).2.1
    have before := (List.pairwise_cons.mp ordered).1 message later (Bool.not_eq_false _ ▸ fits)
    rw [unfit] at before
    cases before

theorem fitting_of_behind {done rest : List Message}
    (fits : ∀ message, message ∈ done → frames encode message = true)
    (unfit : ∀ message, message ∈ rest → frames encode message = false) :
    Fitting encode (done ++ rest) := by
  refine List.pairwise_append.mpr ⟨?_, ?_, ?_⟩
  · exact List.pairwise_of_forall_mem_list fun earlier listed _ _ _ => fits earlier listed
  · refine List.pairwise_of_forall_mem_list fun _ _ later listed behind => ?_
    rw [unfit later listed] at behind
    cases behind
  · intro earlier listed _ _ _
    exact fits earlier listed

theorem Standing.delivers (standing : Standing encode outbox)
    (fitting : Fitting encode outbox.sent) : Delivers encode outbox := by
  intro up
  obtain ⟨done, fits, written, ⟨-, sent⟩ | ⟨-, empty, bad, rest, sent, unfit⟩⟩ := standing up
  · rw [written, sent, framed_append]
  · rw [sent] at fitting
    rw [written, sent, empty, framed_append, framed_none (fitting.behind unfit)]
    rfl

theorem Standing.fitting (standing : Standing encode outbox) (up : outbox.stream.up = true)
    (rest : next encode outbox .write = none) (delivers : Delivers encode outbox) :
    Fitting encode outbox.sent := by
  obtain ⟨done, fits, written, ⟨writes, sent⟩ | ⟨-, empty, bad, later, sent, unfit⟩⟩ := standing up
  · have empty : outbox.queue = [] := by
      cases queued : outbox.queue with
      | nil => rfl
      | cons message waiting =>
          dsimp only [next] at rest
          rw [writes, queued] at rest
          dsimp only at rest
          split at rest
          · cases rest
          · cases rest
    rw [sent, empty]
    exact fitting_of_behind fits (by simp)
  · have same := delivers up
    rw [written, sent, empty, framed_append, List.append_right_inj] at same
    rw [sent]
    exact fitting_of_behind fits fun message listed => framed_eq_nil same.symm listed

/-- All messages that can be framed are delivered exactly if none that cannot comes before one that
can. -/
theorem messages_delivered {encode : Message → Except String Bytes} {trace : List Event}
    {final : Outbox} (ran : run (next encode) start trace = some final)
    (up : final.stream.up = true) (rest : next encode final .write = none) :
    Always (next encode) (Delivers encode) start trace ↔ Fitting encode (sends trace) := by
  obtain ⟨standing, sent⟩ := run_sent ran
  constructor
  · intro always
    rw [← sent]
    exact standing.fitting up rest (always_last always ran)
  · rintro fitting front back outbox rfl reached
    obtain ⟨before, sentBefore⟩ := run_sent reached
    refine before.delivers ?_
    rw [sentBefore]
    rw [sends, List.filterMap_append] at fitting
    exact (List.pairwise_append.mp fitting).1

/-- A small number is its own byte, a larger one comes after a mark for its width. -/
def varint (value : Nat) : Bytes :=
  let wide (mark : UInt8) (width : Nat) : Bytes :=
    mark :: (List.range width).map fun index => UInt8.ofNat (value / 256 ^ index)
  if value < 251 then [UInt8.ofNat value]
  else if value < 2 ^ 16 then wide 251 2
  else if value < 2 ^ 32 then wide 252 4
  else wide 253 8

/-- Pings and pongs are encoded whole; of an assignment the number of the variant and the payload are
enough here. -/
def plainEncode : Message → Except String Bytes
  | .taskAssignment _ task => .ok (11 :: varint task.payload.length ++ task.payload)
  | .ping nonce padding => .ok (14 :: varint nonce ++ varint padding.length ++ padding)
  | .pong nonce => .ok (15 :: varint nonce)
  | _ => .ok []

theorem pings_delivered :
    Always (next plainEncode) (Delivers plainEncode) start
      [.send (.ping 0 []), .send (.ping 1 []), .write, .write] := by
  have tested : (run (next plainEncode) start
      [.send (.ping 0 []), .send (.ping 1 []), .write, .write]).any (fun final =>
        final.stream.up = true ∧ (next plainEncode final .write).isNone) = true := by decide
  obtain ⟨final, ran, found⟩ := run_tested tested
  obtain ⟨up, rest⟩ := of_decide_eq_true found
  refine (messages_delivered ran up (Option.isNone_iff_eq_none.mp rest)).mpr ?_
  unfold Fitting
  decide

theorem run_unfit {big small : Message} (unfit : frames encode big = false) :
    run (next encode) start [.send big, .send small, .write] =
      some ⟨⟨[], true⟩, [], false, [big, small]⟩ := by
  rcases @writeMessage_up encode big ⟨[], true⟩ rfl with ⟨fits, -⟩ | ⟨-, error, failed⟩
  · rw [unfit] at fits
    cases fits
  · simp only [run, next, start, if_true, List.nil_append, List.singleton_append, Option.bind_some,
      failed]

def bigTask : Task := Task.new ⟨0⟩ "hash" (List.replicate maxFrameBytes 0)

/-- A client may submit the task, its payload encoded in base64. The assignment stops the writer, and
the ping behind it is lost. -/
theorem ping_lost_behind_task :
    4 * ((bigTask.payload.length + 2) / 3) < maxClientFrameBytes ∧
      frames plainEncode (.ping 0 []) = true ∧
      ∃ final, run (next plainEncode) start
          [.send (.taskAssignment ⟨0⟩ bigTask), .send (.ping 0 []), .write] = some final ∧
        final.stream.up = true ∧ next plainEncode final .write = none ∧
        final.stream.written = [] ∧ ¬ Delivers plainEncode final := by
  have length : bigTask.payload.length = maxFrameBytes := List.length_replicate
  have fits : frames plainEncode (.ping 0 []) = true := by decide
  have unfit : frames plainEncode (.taskAssignment ⟨0⟩ bigTask) = false := by
    rw [frames, plainEncode]
    refine decide_eq_false ?_
    rw [List.length_append, List.length_cons, length]
    omega
  refine ⟨by rw [length]; decide, fits, _, run_unfit unfit, rfl, rfl, rfl, fun delivers => ?_⟩
  have lost := framed_eq_nil (delivers rfl).symm (List.mem_cons_of_mem _ List.mem_cons_self)
  rw [fits] at lost
  cases lost

end Outbox

end AetherMesh
