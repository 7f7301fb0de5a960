import Mathlib.Data.List.Basic

/-!
Length-prefixed frames. A frame is a header of fixed width that announces how long the
body is, and the body. A reader takes the header, refuses a body over its limit, and
takes as much as was announced.
-/

namespace Framing

variable {α : Type*}

/-- Lengths are written modulo `bound`. -/
structure Header (α : Type*) where
  width : Nat
  bound : Nat
  write : Nat → List α
  read : List α → Nat
  width_write : ∀ length, (write length).length = width
  read_write : ∀ length, read (write length) = length % bound

def readExact (count : Nat) (stream : List α) : Option (List α × List α) :=
  if count ≤ stream.length then some (stream.take count, stream.drop count) else none

/-- What a reader finds at the front of a stream. `tooLong` leaves the body where it is. -/
inductive Reading (α : Type*)
  | noHeader
  | tooLong (length : Nat) (rest : List α)
  | noBody (length : Nat)
  | body (body rest : List α)

namespace Reading

def isShort : Reading α → Bool
  | .noHeader => true
  | .noBody _ => true
  | _ => false

def extend (more : List α) : Reading α → Reading α
  | .tooLong length rest => .tooLong length (rest ++ more)
  | .body front rest => .body front (rest ++ more)
  | short => short

end Reading

namespace Header

variable (header : Header α)

def frame (body : List α) : List α := header.write body.length ++ body

def reading (limit : Nat) (stream : List α) : Reading α :=
  match readExact header.width stream with
  | none => .noHeader
  | some (front, rest) =>
      if limit < header.read front then .tooLong (header.read front) rest
      else
        match readExact (header.read front) rest with
        | none => .noBody (header.read front)
        | some (body, rest) => .body body rest

end Header

theorem readExact_append {front : List α} {count : Nat} (width : front.length = count)
    (rest : List α) : readExact count (front ++ rest) = some (front, rest) := by
  subst width
  simp [readExact]

theorem readExact_some {count : Nat} {stream front rest : List α}
    (taken : readExact count stream = some (front, rest)) :
    stream = front ++ rest ∧ front.length = count := by
  unfold readExact at taken
  split at taken
  · rename_i enough
    obtain ⟨rfl, rfl⟩ := Prod.mk.inj (Option.some.inj taken)
    exact ⟨(List.take_append_drop count stream).symm, List.length_take_of_le enough⟩
  · cases taken

variable {header : Header α} {limit : Nat} {stream rest body : List α}

theorem length_frame (body : List α) : (header.frame body).length = header.width + body.length := by
  rw [Header.frame, List.length_append, header.width_write]

theorem reading_frame (body rest : List α) :
    header.reading limit (header.frame body ++ rest) =
      if limit < body.length % header.bound then .tooLong (body.length % header.bound) (body ++ rest)
      else
        match readExact (body.length % header.bound) (body ++ rest) with
        | none => .noBody (body.length % header.bound)
        | some (front, rest) => .body front rest := by
  rw [Header.frame, List.append_assoc, Header.reading, readExact_append (header.width_write _)]
  simp only [header.read_write]

theorem reading_frame_body (bounded : body.length < header.bound) (fits : body.length ≤ limit)
    (rest : List α) : header.reading limit (header.frame body ++ rest) = .body body rest := by
  rw [reading_frame, Nat.mod_eq_of_lt bounded, if_neg (Nat.not_lt.mpr fits),
    readExact_append rfl]

theorem reading_frame_long (bounded : body.length < header.bound) (long : limit < body.length)
    (rest : List α) :
    header.reading limit (header.frame body ++ rest) = .tooLong body.length (body ++ rest) := by
  rw [reading_frame, Nat.mod_eq_of_lt bounded, if_pos long]

theorem reading_body_eq (found : header.reading limit stream = .body body rest) :
    ∃ front, stream = front ++ (body ++ rest) ∧ front.length = header.width ∧
      body.length ≤ limit := by
  unfold Header.reading at found
  cases taken : readExact header.width stream with
  | none =>
      rw [taken] at found
      cases found
  | some pair =>
      obtain ⟨front, left⟩ := pair
      obtain ⟨whole, width⟩ := readExact_some taken
      rw [taken] at found
      dsimp only at found
      split at found
      · cases found
      · rename_i fits
        split at found
        · cases found
        · rename_i inner
          obtain ⟨rfl, rfl⟩ := Reading.body.inj found
          obtain ⟨split, size⟩ := readExact_some inner
          exact ⟨front, whole.trans (congrArg _ split), width, size ▸ Nat.not_lt.mp fits⟩

theorem reading_tooLong_eq {length : Nat} (found : header.reading limit stream = .tooLong length rest) :
    ∃ front, stream = front ++ rest ∧ front.length = header.width := by
  unfold Header.reading at found
  cases taken : readExact header.width stream with
  | none =>
      rw [taken] at found
      cases found
  | some pair =>
      obtain ⟨front, left⟩ := pair
      rw [taken] at found
      dsimp only at found
      split at found
      · obtain ⟨-, rfl⟩ := Reading.tooLong.inj found
        exact ⟨front, readExact_some taken⟩
      · split at found <;> cases found

/-- What has been found does not change when more arrives. -/
theorem reading_append (found : (header.reading limit stream).isShort = false) (more : List α) :
    header.reading limit (stream ++ more) = (header.reading limit stream).extend more := by
  unfold Header.reading at found ⊢
  cases taken : readExact header.width stream with
  | none =>
      rw [taken] at found
      cases found
  | some pair =>
      obtain ⟨front, rest⟩ := pair
      obtain ⟨whole, width⟩ := readExact_some taken
      rw [taken] at found
      rw [whole, List.append_assoc, readExact_append width]
      dsimp only at found ⊢
      split at found
      · rename_i long
        rw [if_pos long, if_pos long]
        rfl
      · rename_i fits
        rw [if_neg fits, if_neg fits]
        cases inner : readExact (header.read front) rest with
        | none =>
            rw [inner] at found
            cases found
        | some pair =>
            obtain ⟨body, left⟩ := pair
            obtain ⟨split, size⟩ := readExact_some inner
            rw [split, List.append_assoc, readExact_append size]
            rfl

theorem reading_short (bounded : body.length < header.bound) (fits : body.length ≤ limit)
    (begun : stream <+: header.frame body) (cut : stream ≠ header.frame body) :
    (header.reading limit stream).isShort = true := by
  obtain ⟨more, whole⟩ := begun
  by_contra found
  rw [Bool.not_eq_true] at found
  have extended := reading_append found more
  have complete : header.reading limit (header.frame body ++ []) = .body body [] :=
    reading_frame_body bounded fits []
  rw [List.append_nil, ← whole] at complete
  rw [complete] at extended
  cases reads : header.reading limit stream with
  | noHeader =>
      rw [reads] at found
      cases found
  | noBody length =>
      rw [reads] at found
      cases found
  | tooLong length rest =>
      rw [reads] at extended
      cases extended
  | body front rest =>
      rw [reads] at extended
      simp only [Reading.extend, Reading.body.injEq] at extended
      have nothing : more = [] := (List.append_eq_nil_iff.mp extended.2.symm).2
      exact cut (by rw [← whole, nothing, List.append_nil])

/-- What a reader finds at the front of a frame of which only the beginning may have arrived. -/
theorem reading_begun {more after : List α} (bounded : body.length < header.bound)
    (whole : stream ++ more = header.frame body ++ after)
    (found : (header.reading limit stream).isShort = false) :
    (body.length ≤ limit ∧ ∃ rest, header.reading limit stream = .body body rest) ∨
      limit < body.length ∧ ∃ rest, header.reading limit stream = .tooLong body.length rest := by
  have extended := reading_append found more
  rw [whole] at extended
  rcases Nat.lt_or_ge limit body.length with long | fits
  · rw [reading_frame_long bounded long] at extended
    cases reads : header.reading limit stream with
    | tooLong length rest =>
        rw [reads] at extended
        exact .inr ⟨long, rest, congrArg (Reading.tooLong · rest) (Reading.tooLong.inj extended).1.symm⟩
    | _ =>
        rw [reads] at extended
        cases extended
  · rw [reading_frame_body bounded fits] at extended
    cases reads : header.reading limit stream with
    | body front rest =>
        rw [reads] at extended
        exact .inl ⟨fits, rest, congrArg (Reading.body · rest) (Reading.body.inj extended).1.symm⟩
    | _ =>
        rw [reads] at extended
        cases extended

/-- A body that can be read of the beginning of some frames is that of the first. -/
theorem reading_flatMap {frames : List (List α)} {more : List α} (headed : 0 < header.width)
    (bounded : ∀ body ∈ frames, body.length < header.bound)
    (whole : stream ++ more = frames.flatMap header.frame)
    (found : header.reading limit stream = .body body rest) :
    ∃ later, frames = body :: later ∧ rest ++ more = later.flatMap header.frame := by
  obtain ⟨front, split, width, -⟩ := reading_body_eq found
  cases frames with
  | nil =>
      obtain ⟨rfl, -⟩ := List.append_eq_nil_iff.mp whole
      obtain ⟨rfl, -⟩ := List.append_eq_nil_iff.mp split.symm
      exact absurd width (Nat.ne_of_lt headed)
  | cons first later =>
      rw [List.flatMap_cons] at whole
      have complete : (header.reading limit stream).isShort = false := by
        rw [found]
        rfl
      rcases reading_begun (bounded first List.mem_cons_self) whole complete with
        ⟨-, left, same⟩ | ⟨-, left, same⟩
      · rw [found] at same
        obtain ⟨rfl, rfl⟩ := Reading.body.inj same
        refine ⟨later, rfl, ?_⟩
        rw [split, Header.frame] at whole
        simp only [List.append_assoc] at whole
        obtain ⟨-, left⟩ := List.append_inj whole (width.trans (header.width_write _).symm)
        exact List.append_cancel_left left
      · rw [found] at same
        cases same

theorem reading_long {more after : List α} (bounded : body.length < header.bound)
    (long : limit < body.length) (whole : stream ++ more = header.frame body ++ after)
    (announced : header.width ≤ stream.length) : (header.reading limit stream).isShort = false := by
  have front : header.write body.length <+: stream := by
    refine List.prefix_of_prefix_length_le ⟨body ++ after, ?_⟩ ⟨more, whole⟩ ?_
    · rw [Header.frame, List.append_assoc]
    · rwa [header.width_write]
  obtain ⟨rest, rfl⟩ := front
  rw [Header.reading, readExact_append (header.width_write _)]
  dsimp only
  rw [header.read_write, Nat.mod_eq_of_lt bounded, if_pos long]
  rfl

end Framing
