import AetherMesh.Library.Framing
import AetherMesh.Protocol.Net

/-!
Messages read from a connection. Frames are read back as they were written; a stream that
breaks off inside a frame gives the messages before it and nothing else.
-/

namespace AetherMesh

open Framing

def fromBeBytes (bytes : Bytes) : Nat := bytes.foldl (fun value byte => value * 256 + byte.toNat) 0

theorem fromBeBytes_lengthPrefix (length : Nat) :
    fromBeBytes (lengthPrefix length) = length % 2 ^ 32 := by
  simp only [lengthPrefix, fromBeBytes, List.map_cons, List.map_nil, List.foldl_cons,
    List.foldl_nil, UInt8.toNat_ofNat']
  omega

def lengthHeader : Header UInt8 where
  width := 4
  bound := 2 ^ 32
  write := lengthPrefix
  read := fromBeBytes
  width_write := fun _ => rfl
  read_write := fromBeBytes_lengthPrefix

/-- The encoding of messages; `decodeFromSlice` also says how many bytes it used. -/
structure Bincode where
  encode : Message → Except String Bytes
  decodeFromSlice : Bytes → Except String (Message × Nat)

namespace Bincode

def Undoes (bincode : Bincode) : Prop :=
  ∀ message payload, bincode.encode message = .ok payload →
    bincode.decodeFromSlice payload = .ok (message, payload.length)

def decode (bincode : Bincode) (bytes : Bytes) : Except CodecError Message :=
  match bincode.decodeFromSlice bytes with
  | .error reason => .error (.decode reason)
  | .ok (value, used) =>
      if 0 < bytes.length - used then .error (.trailingBytes (bytes.length - used)) else .ok value

end Bincode

variable {bincode : Bincode} {message : Message} {messages : List Message} {stream rest : Bytes}

/-- The outcome and what is left of the stream. A stream that ends is an `io` error. -/
def readMessage (bincode : Bincode) (stream : Bytes) : Except NetError Message × Bytes :=
  match lengthHeader.reading maxFrameBytes stream with
  | .noHeader => (.error .io, [])
  | .tooLong length rest => (.error (.frameTooLarge length), rest)
  | .noBody _ => (.error .io, [])
  | .body payload rest =>
      match bincode.decode payload with
      | .error error => (.error (.codec error), rest)
      | .ok message => (.ok message, rest)

theorem reading_body_shorter {limit : Nat} {body : Bytes}
    (reads : lengthHeader.reading limit stream = .body body rest) : rest.length < stream.length := by
  obtain ⟨front, whole, width, -⟩ := reading_body_eq reads
  have four : front.length = 4 := width
  rw [whole, List.length_append, List.length_append]
  omega

theorem readMessage_shorter (read : readMessage bincode stream = (.ok message, rest)) :
    rest.length < stream.length := by
  unfold readMessage at read
  split at read
  · cases read
  · cases read
  · cases read
  · rename_i payload left found
    split at read
    · cases read
    · obtain ⟨-, rfl⟩ := Prod.mk.inj read
      exact reading_body_shorter found

def readMessages (bincode : Bincode) (stream : Bytes) : List Message × NetError :=
  match read : readMessage bincode stream with
  | (.error error, _) => ([], error)
  | (.ok message, rest) =>
      have := readMessage_shorter read
      let later := readMessages bincode rest
      (message :: later.1, later.2)
termination_by stream.length

def writeMessages (bincode : Bincode) : Stream → List Message → Stream × List (Except NetError Nat)
  | stream, [] => (stream, [])
  | stream, message :: rest =>
      let wrote := writeMessage bincode.encode stream message
      let later := writeMessages bincode wrote.1 rest
      (later.1, wrote.2 :: later.2)

def succeeded : List Message → List (Except NetError Nat) → List Message
  | message :: messages, .ok _ :: outcomes => message :: succeeded messages outcomes
  | _ :: messages, .error _ :: outcomes => succeeded messages outcomes
  | _, _ => []

theorem writeMessages_up (messages : List Message) (stream : Stream) (up : stream.up = true) :
    (writeMessages bincode stream messages).1.written =
        stream.written ++ framed bincode.encode messages ∧
      succeeded messages (writeMessages bincode stream messages).2 =
        messages.filter (frames bincode.encode) := by
  induction messages generalizing stream with
  | nil => exact ⟨(List.append_nil _).symm, rfl⟩
  | cons message rest ih =>
      rw [← List.singleton_append, framed_append, List.filter_append]
      simp only [List.singleton_append, writeMessages]
      rcases @writeMessage_up bincode.encode message stream up with
        ⟨fits, count, wrote⟩ | ⟨unfit, error, failed⟩
      · obtain ⟨written, kept⟩ := ih ⟨stream.written ++ frame bincode.encode message, stream.up⟩ up
        rw [wrote, written, framed_singleton fits]
        simp only [succeeded, kept, List.append_assoc, true_and]
        rw [List.filter_singleton, fits]
        rfl
      · obtain ⟨written, kept⟩ := ih stream up
        have nothing : framed bincode.encode [message] = [] := framed_none (by simpa using unfit)
        rw [failed, written, nothing]
        simp only [succeeded, kept, List.nil_append, true_and]
        rw [List.filter_singleton, unfit]
        rfl

theorem frame_eq (fits : frames bincode.encode message = true) :
    ∃ payload, bincode.encode message = .ok payload ∧ payload.length ≤ maxFrameBytes ∧
      frame bincode.encode message = lengthHeader.frame payload := by
  unfold frames at fits
  unfold frame
  cases encoded : bincode.encode message with
  | error reason =>
      rw [encoded] at fits
      cases fits
  | ok payload =>
      rw [encoded] at fits
      exact ⟨payload, rfl, of_decide_eq_true fits, rfl⟩

theorem readMessage_frame (undoes : bincode.Undoes) (fits : frames bincode.encode message = true)
    (rest : Bytes) :
    readMessage bincode (frame bincode.encode message ++ rest) = (.ok message, rest) := by
  obtain ⟨payload, encoded, short, framed⟩ := frame_eq fits
  have bounded : payload.length < lengthHeader.bound := Nat.lt_of_le_of_lt short (by decide)
  have decoded : bincode.decode payload = .ok message := by
    rw [Bincode.decode, undoes message payload encoded]
    simp
  rw [framed, readMessage, reading_frame_body bounded short]
  simp only [decoded]

theorem readMessage_cut (fits : frames bincode.encode message = true)
    (begun : stream <+: frame bincode.encode message)
    (cut : stream ≠ frame bincode.encode message) :
    readMessage bincode stream = (.error .io, []) := by
  obtain ⟨payload, -, short, framed⟩ := frame_eq fits
  have bounded : payload.length < lengthHeader.bound := Nat.lt_of_le_of_lt short (by decide)
  rw [framed] at begun cut
  have missing := reading_short bounded short begun cut
  unfold readMessage
  cases reads : lengthHeader.reading maxFrameBytes stream with
  | noHeader => rfl
  | noBody length => rfl
  | tooLong length rest =>
      rw [reads] at missing
      cases missing
  | body body rest =>
      rw [reads] at missing
      cases missing

theorem readMessages_error {error : NetError} (failed : readMessage bincode stream = (.error error, rest)) :
    readMessages bincode stream = ([], error) := by
  rw [readMessages]
  split
  · rename_i other left same
    rw [failed] at same
    cases same
    rfl
  · rename_i same
    rw [failed] at same
    cases same

theorem readMessages_ok (read : readMessage bincode stream = (.ok message, rest)) :
    readMessages bincode stream =
      (message :: (readMessages bincode rest).1, (readMessages bincode rest).2) := by
  rw [readMessages]
  split
  · rename_i same
    rw [read] at same
    cases same
  · rename_i same
    rw [read] at same
    cases same
    rfl

/-- However much of the frames has arrived, the messages whose frames are complete are read. -/
theorem readMessages_begun (undoes : bincode.Undoes) (messages : List Message)
    (fits : ∀ message ∈ messages, frames bincode.encode message = true)
    (begun : stream <+: messages.flatMap (frame bincode.encode)) :
    ∃ seen, readMessages bincode stream = (seen, .io) ∧ seen <+: messages ∧
      (stream = messages.flatMap (frame bincode.encode) → seen = messages) := by
  induction messages generalizing stream with
  | nil =>
      obtain rfl : stream = [] := List.prefix_nil.mp begun
      exact ⟨[], readMessages_error rfl, List.prefix_rfl, fun _ => rfl⟩
  | cons message rest ih =>
      rw [List.flatMap_cons] at begun ⊢
      have here := fits message List.mem_cons_self
      by_cases whole : (frame bincode.encode message).length ≤ stream.length
      · obtain ⟨left, rfl⟩ := List.prefix_of_prefix_length_le (List.prefix_append _ _) begun whole
        obtain ⟨seen, read, front, all⟩ := ih (fun other listed =>
          fits other (List.mem_cons_of_mem _ listed)) ((List.prefix_append_right_inj _).mp begun)
        refine ⟨message :: seen, ?_, List.cons_prefix_cons.mpr ⟨rfl, front⟩, ?_⟩
        · rw [readMessages_ok (readMessage_frame undoes here left), read]
        · intro same
          rw [all (List.append_cancel_left same)]
      · have inner : stream <+: frame bincode.encode message :=
          List.prefix_of_prefix_length_le begun (List.prefix_append _ _) (by omega)
        have cut : stream ≠ frame bincode.encode message := by
          rintro rfl
          exact whole (Nat.le_refl _)
        refine ⟨[], readMessages_error (readMessage_cut here inner cut), List.nil_prefix, ?_⟩
        intro same
        rw [same, List.length_append] at whole
        omega

/-- Whatever was written is read back, in order and up to the end of the stream, and of a stream
that breaks off the first messages are. -/
theorem messages_read_back (bincode : Bincode) (undoes : bincode.Undoes) (messages : List Message)
    {stream : Stream} {outcomes : List (Except NetError Nat)}
    (wrote : writeMessages bincode ⟨[], true⟩ messages = (stream, outcomes)) :
    readMessages bincode stream.written = (succeeded messages outcomes, .io) ∧
      ∀ begun, begun <+: stream.written → begun ≠ stream.written →
        ∃ seen, readMessages bincode begun = (seen, .io) ∧ seen <+: succeeded messages outcomes := by
  obtain ⟨written, kept⟩ := @writeMessages_up bincode messages ⟨[], true⟩ rfl
  rw [wrote] at written kept
  have fits : ∀ message ∈ messages.filter (frames bincode.encode),
      frames bincode.encode message = true := fun message listed => (List.mem_filter.mp listed).2
  rw [List.nil_append, framed] at written
  rw [kept, written]
  constructor
  · obtain ⟨seen, read, -, all⟩ := readMessages_begun undoes _ fits List.prefix_rfl
    rw [read, all rfl]
  · intro begun front _
    obtain ⟨seen, read, first, -⟩ := readMessages_begun undoes _ fits front
    exact ⟨seen, read, first⟩

def pongs : Bincode where
  encode
    | .pong nonce => if nonce < 251 then .ok [15, UInt8.ofNat nonce] else .error "other"
    | _ => .error "other"
  decodeFromSlice
    | 15 :: nonce :: _ => .ok (.pong nonce.toNat, 2)
    | _ => .error "other"

theorem pongs_undoes : pongs.Undoes := by
  intro message payload encoded
  cases message with
  | pong nonce =>
      simp only [pongs] at encoded ⊢
      split at encoded
      · rename_i small
        obtain rfl := Except.ok.inj encoded
        have same : (UInt8.ofNat nonce).toNat = nonce := by
          rw [UInt8.toNat_ofNat']
          omega
        simp only [same, List.length_cons, List.length_nil]
      · cases encoded
  | _ => cases encoded

theorem pongs_read_back :
    readMessages pongs [0, 0, 0, 2, 15, 7, 0, 0, 0, 2, 15, 8] = ([.pong 7, .pong 8], .io) :=
  (messages_read_back pongs pongs_undoes [.pong 7, .pong 251, .pong 8] rfl).1

end AetherMesh
