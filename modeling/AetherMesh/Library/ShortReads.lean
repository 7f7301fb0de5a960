import Mathlib.Data.List.Basic

/-!
A source that is read in pieces of any length until it ends or fails, and a buffer that the pieces
are written into.
-/

namespace ShortReads

/-- What one read gives. At the end of the source nothing is delivered. -/
inductive Read (α : Type)
  | delivered (data : List α)
  | failed
deriving DecidableEq

variable {α : Type} {reads : List (Read α)} {buffer piece rest data : List α} {start index : Nat}

/-- All that is delivered before the source ends or fails; it has ended after the last read. -/
def stream : List (Read α) → List α
  | .delivered (first :: more) :: reads => first :: more ++ stream reads
  | _ => []

def stopsFailing : List (Read α) → Bool
  | .delivered (_ :: _) :: reads => stopsFailing reads
  | .failed :: _ => true
  | _ => false

def overwrite (buffer : List α) (start : Nat) (piece : List α) : List α :=
  buffer.take start ++ piece ++ buffer.drop (start + piece.length)

theorem stream_delivered (some : data ≠ []) :
    stream (.delivered data :: reads) = data ++ stream reads := by
  cases data with
  | nil => exact absurd rfl some
  | cons first more => rfl

theorem stopsFailing_delivered (some : data ≠ []) :
    stopsFailing (.delivered data :: reads) = stopsFailing reads := by
  cases data with
  | nil => exact absurd rfl some
  | cons first more => rfl

theorem overwrite_nil : overwrite buffer start [] = buffer := by
  rw [overwrite, List.append_nil, List.length_nil, Nat.add_zero, List.take_append_drop]

theorem length_overwrite (fits : start + piece.length ≤ buffer.length) :
    (overwrite buffer start piece).length = buffer.length := by
  simp only [overwrite, List.length_append, List.length_take, List.length_drop]
  omega

theorem overwrite_overwrite (fits : start + piece.length ≤ buffer.length) :
    overwrite (overwrite buffer start piece) (start + piece.length) rest =
      overwrite buffer start (piece ++ rest) := by
  have front : (buffer.take start ++ piece).length = start + piece.length := by
    rw [List.length_append, List.length_take_of_le (by omega)]
  have ahead : (overwrite buffer start piece).take (start + piece.length) =
      buffer.take start ++ piece := by
    rw [overwrite, List.take_left' front]
  have behind : (overwrite buffer start piece).drop (start + piece.length + rest.length) =
      buffer.drop (start + (piece ++ rest).length) := by
    rw [overwrite, ← List.drop_drop, List.drop_left' front, List.drop_drop, List.length_append,
      Nat.add_assoc]
  rw [overwrite, ahead, behind, overwrite, List.append_assoc (buffer.take start)]

theorem getElem?_overwrite (fits : start + piece.length ≤ buffer.length)
    (outside : index < start ∨ start + piece.length ≤ index) :
    (overwrite buffer start piece)[index]? = buffer[index]? := by
  have front : (buffer.take start).length = start := List.length_take_of_le (by omega)
  rcases outside with before | after
  · rw [overwrite, List.append_assoc, List.getElem?_append_left (by omega),
      List.getElem?_take_of_lt before]
  · rw [overwrite, List.getElem?_append_right (by rw [List.length_append]; omega),
      List.length_append, front, List.getElem?_drop, Nat.add_sub_cancel' after]

theorem piece_overwrite (fits : start + piece.length ≤ buffer.length) :
    ((overwrite buffer start piece).drop start).take piece.length = piece := by
  have front : (buffer.take start).length = start := List.length_take_of_le (by omega)
  rw [overwrite, List.append_assoc, List.drop_left' front, List.take_left]

theorem overwrite_eq_self_iff (fits : start + piece.length ≤ buffer.length) :
    overwrite buffer start piece = buffer ↔ (buffer.drop start).take piece.length = piece := by
  constructor
  · intro same
    have stands := piece_overwrite fits
    rwa [same] at stands
  · intro stands
    calc overwrite buffer start piece
        = buffer.take start ++ ((buffer.drop start).take piece.length ++
            (buffer.drop start).drop piece.length) := by
          rw [stands, List.drop_drop, overwrite, List.append_assoc]
      _ = buffer := by rw [List.take_append_drop, List.take_append_drop]

theorem overwrite_part {count : Nat} (fits : start + count ≤ buffer.length)
    (short : piece.length ≤ count) :
    overwrite buffer start (overwrite ((buffer.drop start).take count) 0 piece) =
      overwrite buffer start piece := by
  have kept : overwrite ((buffer.drop start).take count) 0 piece =
      piece ++ (buffer.drop (start + piece.length)).take (count - piece.length) := by
    rw [overwrite, List.take_zero, List.nil_append, Nat.zero_add, List.drop_take, List.drop_drop]
  have tail : (overwrite buffer start piece).drop (start + piece.length) =
      buffer.drop (start + piece.length) := by
    refine List.drop_left' ?_
    rw [List.length_append, List.length_take_of_le (by omega)]
  have length : ((buffer.drop (start + piece.length)).take (count - piece.length)).length =
      count - piece.length := by
    rw [List.length_take_of_le]
    rw [List.length_drop]
    omega
  rw [kept, ← overwrite_overwrite (by omega), overwrite_eq_self_iff]
  · rw [tail, length]
  · rw [length, length_overwrite (by omega)]
    omega

end ShortReads
