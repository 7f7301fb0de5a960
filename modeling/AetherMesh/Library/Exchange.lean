import AetherMesh.Library.Framing

/-!
One request and its answer on a stream in each direction. The client writes a frame piece by piece
and then reads a frame through a buffer; the server answers each whole frame it finds. An exchange
that begins on a quiet link ends with the answer to its own frame, and leaves the link quiet.
-/

namespace Exchange

open Framing

/-- All that was sent in each direction, how far the other side has got, and what the client has
received but not used yet. -/
structure Link (α : Type) where
  outgoing : List α
  scanned : Nat
  incoming : List α
  consumed : Nat
  buffer : List α

inductive Stage (α : Type)
  | sending (pending : List α)
  | header
  | body (length : Nat)

inductive Progress (α : Type)
  | waits (link : Link α) (stage : Stage α)
  | tooLong (length : Nat)
  | done (link : Link α) (body : List α)

variable {α : Type}

namespace Link

def fresh : Link α := ⟨[], 0, [], 0, []⟩

def unserved (link : Link α) : List α := link.outgoing.drop link.scanned

def unread (link : Link α) : List α := link.incoming.drop link.consumed

def push (link : Link α) (pending : List α) (count : Nat) : Link α × Stage α :=
  ({ link with outgoing := link.outgoing ++ pending.take count },
    if pending.length ≤ count then .header else .sending (pending.drop count))

def recv (link : Link α) (count : Nat) : Link α :=
  { link with
    consumed := link.consumed + count
    buffer := link.buffer ++ link.unread.take count }

def serve (header : Header α) (link : Link α) (answer : List α) : Option (Link α × List α) :=
  match header.reading (header.bound - 1) link.unserved with
  | .body payload rest =>
      some ({ link with
        scanned := link.outgoing.length - rest.length
        incoming := link.incoming ++ header.frame answer }, payload)
  | _ => none

def takeBody (link : Link α) (length : Nat) : Progress α :=
  if length ≤ link.buffer.length then
    .done { link with buffer := link.buffer.drop length } (link.buffer.take length)
  else .waits link (.body length)

def takeHeader (header : Header α) (limit : Nat) (link : Link α) : Progress α :=
  if header.width ≤ link.buffer.length then
    if limit < header.read (link.buffer.take header.width) then
      .tooLong (header.read (link.buffer.take header.width))
    else
      takeBody { link with buffer := link.buffer.drop header.width }
        (header.read (link.buffer.take header.width))
  else .waits link .header

structure Quiet (link : Link α) : Prop where
  scanned : link.scanned = link.outgoing.length
  consumed : link.consumed = link.incoming.length
  buffer : link.buffer = []

/-- Where both directions stand during an exchange that was begun on a quiet link, before and after
the server has answered. -/
structure Underway (header : Header α) (link : Link α) (start : Nat) (payload : List α)
    (answered : Option (List α)) (stage : Stage α) : Prop where
  scanned : link.scanned ≤ link.outgoing.length
  consumed : link.consumed ≤ link.incoming.length
  before : answered = none →
    link.scanned = start ∧ link.unread = [] ∧ link.buffer = [] ∧
      match stage with
      | .sending pending => pending ≠ [] ∧ link.unserved ++ pending = header.frame payload
      | .header => link.unserved = header.frame payload
      | .body _ => False
  after : ∀ answer, answered = some answer →
    start < link.scanned ∧ link.unserved = [] ∧
      match stage with
      | .sending _ => False
      | .header => link.buffer ++ link.unread = header.frame answer ∧
          link.buffer.length < header.width
      | .body length => link.buffer ++ link.unread = answer ∧ length = answer.length ∧
          link.buffer.length < length

section

variable {header : Header α} {link after : Link α} {start limit length : Nat}
  {payload body answer : List α} {answered : Option (List α)} {stage : Stage α}

theorem fresh_quiet : (fresh : Link α).Quiet := ⟨rfl, rfl, rfl⟩

theorem Quiet.unserved (quiet : link.Quiet) : link.unserved = [] :=
  List.drop_eq_nil_of_le (Nat.le_of_eq quiet.scanned.symm)

theorem Quiet.unread (quiet : link.Quiet) : link.unread = [] :=
  List.drop_eq_nil_of_le (Nat.le_of_eq quiet.consumed.symm)

theorem Quiet.begin (quiet : link.Quiet) (headed : 0 < header.width) (payload : List α) :
    Underway header link link.outgoing.length payload none (.sending (header.frame payload)) := by
  refine ⟨Nat.le_of_eq quiet.scanned, Nat.le_of_eq quiet.consumed, ?_,
    fun answer known => by cases known⟩
  intro _
  refine ⟨quiet.scanned, quiet.unread, quiet.buffer, ?_, ?_⟩
  · intro empty
    have width := congrArg List.length empty
    rw [length_frame, List.length_nil] at width
    omega
  · rw [quiet.unserved, List.nil_append]

theorem Underway.push {pending : List α} {count : Nat}
    (underway : Underway header link start payload answered (.sending pending)) :
    Underway header (link.push pending count).1 start payload answered
      (link.push pending count).2 := by
  have waiting : answered = none := by
    cases known : answered with
    | none => rfl
    | some answer => exact (underway.after answer known).2.2.elim
  obtain ⟨scanned, unread, buffer, more, whole⟩ := underway.before waiting
  have further : (link.push pending count).1.unserved = link.unserved ++ pending.take count :=
    List.drop_append_of_le_length underway.scanned
  refine ⟨?_, underway.consumed, ?_, ?_⟩
  · exact Nat.le_trans underway.scanned (by simp [Link.push])
  · intro _
    refine ⟨scanned, unread, buffer, ?_⟩
    have staged : (link.push pending count).2 =
        if pending.length ≤ count then .header else .sending (pending.drop count) := rfl
    rw [staged]
    by_cases all : pending.length ≤ count
    · rw [if_pos all]
      rw [List.take_of_length_le all] at further
      exact further.trans whole
    · rw [if_neg all]
      refine ⟨?_, ?_⟩
      · rw [ne_eq, List.drop_eq_nil_iff]
        exact all
      · rw [further, List.append_assoc, List.take_append_drop]
        exact whole
  · intro answer known
    rw [waiting] at known
    cases known

theorem Quiet.serve (quiet : link.Quiet) (headed : 0 < header.width) :
    link.serve header answer = none := by
  have nothing : header.reading (header.bound - 1) ([] : List α) = .noHeader := by
    rw [Header.reading, readExact, if_neg (by rw [List.length_nil]; omega)]
  rw [Link.serve, quiet.unserved, nothing]

theorem serve_buffer {found : List α} (served : link.serve header answer = some (after, found)) :
    after.buffer = link.buffer := by
  rw [Link.serve] at served
  split at served
  · cases served
    rfl
  · cases served

/-- The server answers when the frame of the exchange is complete. -/
theorem Underway.serve (underway : Underway header link start payload answered stage)
    (headed : 0 < header.width) (bounded : payload.length < header.bound) {found : List α}
    (served : link.serve header answer = some (after, found)) :
    answered = none ∧ found = payload ∧
      Underway header after start payload (some answer) stage ∧ link.scanned = start := by
  rw [Link.serve] at served
  split at served
  · rename_i body rest read
    obtain ⟨rfl, rfl⟩ := Prod.mk.inj (Option.some.inj served)
    have fits : payload.length ≤ header.bound - 1 := Nat.le_sub_one_of_lt bounded
    have waiting : answered = none := by
      cases known : answered with
      | none => rfl
      | some answer =>
          have nothing := (underway.after answer known).2.1
          rw [nothing, Header.reading, readExact, if_neg (by rw [List.length_nil]; omega)] at read
          cases read
    obtain ⟨scanned, unread, buffer, standing⟩ := underway.before waiting
    cases stage with
    | sending pending =>
        obtain ⟨more, whole⟩ := standing
        have cut : link.unserved ≠ header.frame payload := by
          intro complete
          rw [complete] at whole
          exact more (List.append_right_eq_self.mp whole)
        have broken := reading_short bounded fits ⟨pending, whole⟩ cut
        rw [read] at broken
        cases broken
    | header =>
        have complete := reading_frame_body bounded fits ([] : List α)
        rw [List.append_nil, ← standing, read] at complete
        obtain ⟨rfl, rfl⟩ := Reading.body.inj complete
        have long : 0 < link.unserved.length := by
          rw [standing, length_frame]
          omega
        rw [Link.unserved, List.length_drop] at long
        refine ⟨waiting, rfl, ⟨Nat.sub_le _ _, ?_, fun waits => (by cases waits), ?_⟩,
          scanned⟩
        · exact Nat.le_trans underway.consumed (by simp)
        · intro given same
          obtain rfl := Option.some.inj same
          refine ⟨?_, ?_, ?_, ?_⟩
          · change start < link.outgoing.length - ([] : List α).length
            rw [List.length_nil]
            omega
          · exact List.drop_eq_nil_of_le (Nat.le_refl _)
          · rw [buffer, List.nil_append, Link.unread,
              List.drop_append_of_le_length underway.consumed]
            exact (congrArg (· ++ _) unread).trans (List.nil_append _)
          · rw [buffer]
            exact headed
    | body length => exact standing.elim
  · cases served

theorem unread_recv (link : Link α) (count : Nat) :
    (link.recv count).buffer ++ (link.recv count).unread = link.buffer ++ link.unread := by
  have left : (link.recv count).unread = link.unread.drop count := by
    rw [Link.unread, Link.unread, Link.recv, List.drop_drop]
  rw [left, Link.recv, List.append_assoc, List.take_append_drop]

theorem length_recv {count : Nat} (held : link.consumed ≤ link.incoming.length)
    (enough : count ≤ link.unread.length) :
    (link.recv count).buffer.length = link.buffer.length + count ∧
      (link.recv count).consumed ≤ link.incoming.length := by
  constructor
  · rw [Link.recv, List.length_append, List.length_take_of_le enough]
  · rw [Link.unread, List.length_drop] at enough
    change link.consumed + count ≤ link.incoming.length
    omega

def proceed (header : Header α) (limit : Nat) (link : Link α) : Stage α → Progress α
  | .sending pending => .waits link (.sending pending)
  | .header => takeHeader header limit link
  | .body length => takeBody link length

def Settled (header : Header α) (start : Nat) (payload answer : List α) (link : Link α) :
    Progress α → Prop
  | .waits later stage => Underway header later start payload (some answer) stage ∧
      later.outgoing = link.outgoing ∧ later.scanned = link.scanned
  | .tooLong _ => True
  | .done later body => body = answer ∧ later.Quiet ∧ later.outgoing = link.outgoing ∧
      later.scanned = link.scanned

theorem takeBody_settled (scanned : start < link.scanned ∧ link.scanned ≤ link.outgoing.length)
    (consumed : link.consumed ≤ link.incoming.length) (served : link.unserved = [])
    (whole : link.buffer ++ link.unread = answer) :
    Settled header start payload answer link (takeBody link answer.length) := by
  rw [takeBody]
  have total := congrArg List.length whole
  rw [List.length_append] at total
  split
  · rename_i enough
    have nothing : link.unread = [] := List.eq_nil_of_length_eq_zero (by omega)
    rw [nothing, List.append_nil] at whole
    refine ⟨?_, ⟨?_, ?_, ?_⟩, rfl, rfl⟩
    · rw [← whole, List.take_length]
    · rw [Link.unserved, List.drop_eq_nil_iff] at served
      exact Nat.le_antisymm scanned.2 served
    · rw [Link.unread, List.drop_eq_nil_iff] at nothing
      exact Nat.le_antisymm consumed nothing
    · rw [← whole, List.drop_length]
  · rename_i short
    refine ⟨⟨scanned.2, consumed, fun waits => (by cases waits), ?_⟩, rfl, rfl⟩
    intro given same
    obtain rfl := Option.some.inj same
    exact ⟨scanned.1, served, whole, rfl, Nat.not_le.mp short⟩

theorem takeHeader_settled (bounded : answer.length < header.bound)
    (scanned : start < link.scanned ∧ link.scanned ≤ link.outgoing.length)
    (consumed : link.consumed ≤ link.incoming.length) (served : link.unserved = [])
    (whole : link.buffer ++ link.unread = header.frame answer) :
    Settled header start payload answer link (takeHeader header limit link) := by
  rw [takeHeader]
  split
  · rename_i complete
    have front : link.buffer.take header.width = header.write answer.length := by
      have first := congrArg (List.take header.width) whole
      rw [List.take_append_of_le_length complete, Header.frame] at first
      rw [first, List.take_left' (header.width_write _)]
    have left : link.buffer.drop header.width ++ link.unread = answer := by
      have rest := congrArg (List.drop header.width) whole
      rw [List.drop_append_of_le_length complete, Header.frame] at rest
      rw [rest, List.drop_left' (header.width_write _)]
    have announced : header.read (link.buffer.take header.width) = answer.length := by
      rw [front, header.read_write, Nat.mod_eq_of_lt bounded]
    rw [announced]
    split
    · trivial
    · exact @takeBody_settled _ header { link with buffer := link.buffer.drop header.width } start
        payload answer scanned consumed served left
  · rename_i partly
    refine ⟨⟨scanned.2, consumed, fun waits => (by cases waits), ?_⟩, rfl, rfl⟩
    intro given same
    obtain rfl := Option.some.inj same
    exact ⟨scanned.1, served, whole, Nat.not_le.mp partly⟩

/-- Something can be received only when the exchange was answered, and then it comes nearer to its
end. -/
theorem Underway.recv {count : Nat}
    (underway : Underway header link start payload answered stage) (positive : 0 < count)
    (enough : count ≤ link.unread.length)
    (bounded : ∀ answer, answered = some answer → answer.length < header.bound) :
    ∃ answer, answered = some answer ∧
      Settled header start payload answer link (proceed header limit (link.recv count) stage) := by
  cases known : answered with
  | none =>
      have nothing := (underway.before known).2.1
      rw [nothing, List.length_nil] at enough
      omega
  | some answer =>
      refine ⟨answer, rfl, ?_⟩
      obtain ⟨started, served, standing⟩ := underway.after answer known
      have further := unread_recv link count
      have held := (length_recv underway.consumed enough).2
      cases stage with
      | sending pending => exact standing.elim
      | header =>
          exact @takeHeader_settled _ header (link.recv count) start limit payload answer
            (bounded answer known) ⟨started, underway.scanned⟩ held served
            (further.trans standing.1)
      | body length =>
          obtain ⟨whole, rfl, -⟩ := standing
          exact @takeBody_settled _ header (link.recv count) start payload answer
            ⟨started, underway.scanned⟩ held served (further.trans whole)

end

end Link

end Exchange
