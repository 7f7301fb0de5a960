import AetherMesh.Controller.ChunkBatch
import AetherMesh.Core.ChunkDelivery

/-!
The byte ranges of the chunks. The size of a chunk is kept in 32 bits, and a range is computed
from it again by multiplication, so larger chunks than 4 GiB are cut at the wrong places.
-/

namespace AetherMesh

open Dispatch

def Contiguous : Nat → Nat → List (Nat × Nat) → Prop
  | first, last, [] => first = last
  | first, last, (start, stop) :: rest => start = first ∧ start ≤ stop ∧ Contiguous stop last rest

namespace ChunkManifest

/-- The bytes `send_chunked` takes for a chunk. Without a range, or with one that does not lie
within the bytes, it panics. -/
def chunkBytes (manifest : ChunkManifest) (bytes : Bytes) (index : Nat) : Option Bytes :=
  match manifest.chunkRange index with
  | some range =>
      if range.1 ≤ range.2 ∧ range.2 ≤ bytes.length then some (slice bytes range) else none
  | none => none

def Accepts (digest : Bytes → DataId) (manifest : ChunkManifest) (index : Nat) (sent : Bytes) :
    Prop :=
  ∀ assembler pending, assembler.pending.lookup manifest.data.id = some pending →
    pending.manifest = manifest → ∀ error,
      (ChunkAssembler.add digest assembler manifest.data.id index sent).2 = .error error →
        ∃ actual, error = .dataMismatch manifest.data.id actual

structure Tiles (digest : Bytes → DataId) (manifest : ChunkManifest) (bytes : Bytes) : Prop where
  contiguous : ∃ ranges, manifest.indexed.map (fun entry => manifest.chunkRange entry.1) =
    ranges.map some ∧ Contiguous 0 bytes.length ranges
  slices : ∀ index descriptor, manifest.chunks[index]? = some descriptor →
    ∃ range, manifest.chunkRange (asU32 index) = some range ∧
      DataDescriptor.of digest (slice bytes range) = descriptor
  sends : ∀ entry ∈ manifest.indexed, ∃ sent, manifest.chunkBytes bytes entry.1 = some sent ∧
    manifest.Accepts digest entry.1 sent

end ChunkManifest

/-- The size of a chunk fits 32 bits, unless there is but one, and so does the index of each. -/
def Addressable (bytes : Bytes) (chunkSize : Nat) : Prop :=
  (splitSize chunkSize < 2 ^ 32 ∨ bytes.length ≤ splitSize chunkSize) ∧
    (chunksOf (splitSize chunkSize) bytes).length ≤ 2 ^ 32

theorem Contiguous.next {first last index : Nat} {ranges : List (Nat × Nat)}
    (contiguous : Contiguous first last ranges) {left right : Nat × Nat}
    (here : ranges[index]? = some left) (there : ranges[index + 1]? = some right) :
    right.1 = left.2 := by
  induction ranges generalizing first index with
  | nil => cases here
  | cons range rest ih =>
      obtain ⟨start, stop⟩ := range
      obtain ⟨-, -, later⟩ := contiguous
      cases index with
      | zero =>
          obtain rfl := Option.some.inj here
          cases rest with
          | nil => cases there
          | cons next others =>
              obtain rfl := Option.some.inj there
              exact later.1
      | succ index => exact ih later here there

theorem contiguous_cuts {cut : Nat → Nat} (rises : ∀ index, cut index ≤ cut (index + 1))
    (first count : Nat) :
    Contiguous (cut first) (cut (first + count))
      ((List.range' first count).map fun index => (cut index, cut (index + 1))) := by
  induction count generalizing first with
  | zero => rfl
  | succ count ih =>
      have rest := ih (first + 1)
      rw [Nat.add_assoc, Nat.add_comm 1 count] at rest
      exact ⟨rfl, rises first, rest⟩

theorem lt_length_chunksOf {size index : Nat} (positive : 0 < size) (bytes : Bytes) :
    index < (chunksOf size bytes).length ↔ index * size < bytes.length := by
  rw [length_chunksOf, ← Nat.succ_le_iff, Nat.le_div_iff_mul_le positive, Nat.succ_mul]
  omega

namespace ChunkManifest

variable {digest : Bytes → DataId} {bytes : Bytes} {chunkSize index : Nat}

theorem chunks_split : (split digest bytes chunkSize).chunks =
    (chunksOf (splitSize chunkSize) bytes).map (DataDescriptor.of digest) := rfl

theorem chunkSize_split :
    (split digest bytes chunkSize).chunkSize = asU32 (splitSize chunkSize) := rfl

def piece (bytes : Bytes) (size index : Nat) : Bytes := (bytes.drop (index * size)).take size

theorem getElem?_chunks (inside : index < (chunksOf (splitSize chunkSize) bytes).length) :
    (split digest bytes chunkSize).chunks[index]? =
      some (DataDescriptor.of digest (piece bytes (splitSize chunkSize) index)) := by
  have placed := List.getElem?_eq_getElem inside
  rw [chunks_split, List.getElem?_map, placed, getElem?_chunksOf placed]
  rfl

theorem chunkRange_split (inside : index < (chunksOf (splitSize chunkSize) bytes).length) :
    (split digest bytes chunkSize).chunkRange index =
      some (index * asU32 (splitSize chunkSize), index * asU32 (splitSize chunkSize) +
        (piece bytes (splitSize chunkSize) index).length) := by
  rw [chunkRange, getElem?_chunks inside, chunkSize_split]
  rfl

theorem asU32_le (number : Nat) : asU32 number ≤ number := Nat.mod_le _ _

theorem asU32_inside {count : Nat} (inside : index < count) : asU32 index < count :=
  Nat.lt_of_le_of_lt (asU32_le index) inside

theorem getElem?_ranges {ranges : List (Nat × Nat)}
    (all : (split digest bytes chunkSize).indexed.map
      (fun entry => (split digest bytes chunkSize).chunkRange entry.1) = ranges.map some)
    (inside : index < (chunksOf (splitSize chunkSize) bytes).length) :
    ranges[index]? = some (asU32 index * asU32 (splitSize chunkSize),
      asU32 index * asU32 (splitSize chunkSize) +
        (piece bytes (splitSize chunkSize) (asU32 index)).length) := by
  have here := congrArg (fun list => list[index]?) all
  simp only [indexed, List.map_map, List.getElem?_map, List.getElem?_zipIdx,
    getElem?_chunks inside, Option.map_some, Function.comp_apply, Nat.zero_add,
    chunkRange_split (asU32_inside inside)] at here
  cases found : ranges[index]? with
  | none => simp [found] at here
  | some range =>
      rw [found] at here
      simpa using here.symm

theorem addressable_of_tiles (tiles : Tiles digest (split digest bytes chunkSize) bytes) :
    Addressable bytes chunkSize := by
  obtain ⟨ranges, all, contiguous⟩ := tiles.contiguous
  have positive := splitSize_pos chunkSize
  constructor
  · -- the second range begins at the size of a chunk in 32 bits, and the first ends at all of it
    by_contra large
    obtain ⟨wide, long⟩ := not_or.mp large
    have second : 1 < (chunksOf (splitSize chunkSize) bytes).length := by
      rw [lt_length_chunksOf positive]
      omega
    have first : 0 < (chunksOf (splitSize chunkSize) bytes).length := by omega
    have meets := contiguous.next (getElem?_ranges all first) (getElem?_ranges all second)
    have zero : asU32 0 = 0 := rfl
    have one : asU32 1 = 1 := rfl
    have cut : (piece bytes (splitSize chunkSize) 0).length = splitSize chunkSize := by
      simp only [piece, Nat.zero_mul, List.drop_zero, List.length_take]
      omega
    have small : asU32 (splitSize chunkSize) < 2 ^ 32 := Nat.mod_lt _ (by decide)
    simp only [zero, one, Nat.zero_mul, Nat.one_mul, Nat.zero_add, cut] at meets
    omega
  · -- the index after the largest starts again from zero
    by_contra many
    have next : 2 ^ 32 - 1 + 1 < (chunksOf (splitSize chunkSize) bytes).length := by omega
    have last : 2 ^ 32 - 1 < (chunksOf (splitSize chunkSize) bytes).length := by omega
    have meets := contiguous.next (getElem?_ranges all last) (getElem?_ranges all next)
    have wraps : asU32 (2 ^ 32 - 1 + 1) = 0 := by decide
    have fits : asU32 (2 ^ 32 - 1) = 2 ^ 32 - 1 := by decide
    have within := (lt_length_chunksOf positive bytes).mp last
    have nonempty : 0 < (piece bytes (splitSize chunkSize) (2 ^ 32 - 1)).length := by
      simp only [piece, List.length_take, List.length_drop]
      omega
    simp only [wraps, fits, Nat.zero_mul] at meets
    omega

theorem slice_piece (inside : index < (chunksOf (splitSize chunkSize) bytes).length) :
    slice bytes (min (index * splitSize chunkSize) bytes.length,
        min ((index + 1) * splitSize chunkSize) bytes.length) =
      piece bytes (splitSize chunkSize) index := by
  have within := (lt_length_chunksOf (splitSize_pos chunkSize) bytes).mp inside
  have left : min (index * splitSize chunkSize) bytes.length = index * splitSize chunkSize := by
    omega
  rw [slice, left, piece, List.take_eq_take_iff, List.length_drop]
  simp only [Nat.succ_mul]
  omega

section Addressable

variable (addressable : Addressable bytes chunkSize)

include addressable

theorem index_mul (inside : index < (chunksOf (splitSize chunkSize) bytes).length) :
    asU32 index = index ∧ index * asU32 (splitSize chunkSize) = index * splitSize chunkSize := by
  have within := (lt_length_chunksOf (splitSize_pos chunkSize) bytes).mp inside
  obtain ⟨small | single, few⟩ := addressable
  · exact ⟨Nat.mod_eq_of_lt (by omega), by rw [asU32, Nat.mod_eq_of_lt small]⟩
  · have only : index = 0 := by
      by_contra later
      have more := Nat.le_mul_of_pos_left (splitSize chunkSize) (Nat.pos_of_ne_zero later)
      omega
    subst only
    exact ⟨rfl, by rw [Nat.zero_mul, Nat.zero_mul]⟩

theorem chunkRange_addressable (inside : index < (chunksOf (splitSize chunkSize) bytes).length) :
    (split digest bytes chunkSize).chunkRange (asU32 index) =
      some (min (index * splitSize chunkSize) bytes.length,
        min ((index + 1) * splitSize chunkSize) bytes.length) := by
  obtain ⟨same, product⟩ := index_mul addressable inside
  have within := (lt_length_chunksOf (splitSize_pos chunkSize) bytes).mp inside
  rw [same, chunkRange_split inside, product]
  simp only [piece, List.length_take, List.length_drop, Nat.succ_mul, Option.some.injEq,
    Prod.mk.injEq]
  omega

theorem tiles_of_addressable : Tiles digest (split digest bytes chunkSize) bytes := by
  have size : (split digest bytes chunkSize).chunks.length =
      (chunksOf (splitSize chunkSize) bytes).length := by rw [chunks_split, List.length_map]
  have known (index : Nat) (descriptor : DataDescriptor)
      (found : (split digest bytes chunkSize).chunks[index]? = some descriptor) :
      index < (chunksOf (splitSize chunkSize) bytes).length ∧
        DataDescriptor.of digest (piece bytes (splitSize chunkSize) index) = descriptor := by
    obtain ⟨bound, -⟩ := List.getElem?_eq_some_iff.mp found
    rw [size] at bound
    exact ⟨bound, Option.some.inj ((getElem?_chunks bound).symm.trans found)⟩
  refine ⟨⟨(List.range' 0 (chunksOf (splitSize chunkSize) bytes).length).map fun index =>
    (min (index * splitSize chunkSize) bytes.length,
      min ((index + 1) * splitSize chunkSize) bytes.length), ?_, ?_⟩, ?_, ?_⟩
  · refine List.ext_getElem (by simp [indexed, size]) ?_
    intro index left right
    have inside : index < (chunksOf (splitSize chunkSize) bytes).length := by simpa using right
    simp only [indexed, List.getElem_map, List.getElem_zipIdx, List.getElem_range', Nat.zero_add,
      Nat.one_mul, chunkRange_addressable addressable inside]
  · have cuts := @contiguous_cuts
      (fun index => min (index * splitSize chunkSize) bytes.length)
      (fun index => by simp only [Nat.succ_mul]; omega) 0
      (chunksOf (splitSize chunkSize) bytes).length
    have all : ¬ (chunksOf (splitSize chunkSize) bytes).length * splitSize chunkSize <
        bytes.length := fun more =>
      absurd ((lt_length_chunksOf (splitSize_pos chunkSize) bytes).mpr more) (Nat.lt_irrefl _)
    simp only [Nat.zero_mul, Nat.zero_min, Nat.zero_add] at cuts
    rwa [Nat.min_eq_right (Nat.le_of_not_lt all)] at cuts
  · intro index descriptor found
    obtain ⟨inside, same⟩ := known index descriptor found
    exact ⟨_, chunkRange_addressable addressable inside, by
      rw [slice_piece inside, same]⟩
  · intro entry listed
    obtain ⟨⟨descriptor, index⟩, placed, rfl⟩ := List.mem_map.mp listed
    obtain ⟨inside, same⟩ := known index descriptor (by
      simpa using List.mem_zipIdx_iff_getElem?.mp placed)
    refine ⟨piece bytes (splitSize chunkSize) index, ?_, ?_⟩
    · rw [chunkBytes, chunkRange_addressable addressable inside]
      simp only [slice_piece inside]
      rw [if_pos]
      simp only [Nat.succ_mul]
      omega
    · intro assembler pending collecting manifest error refused
      rw [(index_mul addressable inside).1] at refused
      unfold ChunkAssembler.add at refused
      simp only [collecting, manifest, getElem?_chunks inside, ne_eq, not_true_eq_false,
        if_false] at refused
      split at refused
      · cases refused
      · split at refused
        · exact ⟨_, (Except.error.inj refused).symm⟩
        · cases refused

end Addressable

/-- The ranges are those of the chunks exactly when the sizes and the indices fit 32 bits. -/
theorem ranges_tile_iff (digest : Bytes → DataId) (bytes : Bytes) (chunkSize : Nat) :
    Tiles digest (split digest bytes chunkSize) bytes ↔ Addressable bytes chunkSize :=
  ⟨addressable_of_tiles, tiles_of_addressable⟩

theorem large_chunks_overlap :
    ∃ bytes chunkSize, chunkSize < 2 ^ 64 ∧ bytes.length = 2 ^ 32 + 1 ∧
      ∀ digest, (split digest bytes chunkSize).chunkRange 0 = some (0, 2 ^ 32) ∧
        (split digest bytes chunkSize).chunkRange 1 = some (0, 1) ∧
        ¬ Tiles digest (split digest bytes chunkSize) bytes := by
  have length : (List.replicate (2 ^ 32 + 1) (0 : UInt8)).length = 2 ^ 32 + 1 :=
    List.length_replicate
  refine ⟨List.replicate (2 ^ 32 + 1) 0, 2 ^ 32, by decide, length, ?_⟩
  intro digest
  have size : splitSize (2 ^ 32) = 2 ^ 32 := rfl
  have kept : asU32 (2 ^ 32) = 0 := by decide
  have inside (index : Nat) (few : index < 2) :
      index < (chunksOf (splitSize (2 ^ 32)) (List.replicate (2 ^ 32 + 1) 0)).length := by
    rw [lt_length_chunksOf (splitSize_pos _), length, size]
    omega
  refine ⟨?_, ?_, ?_⟩
  · rw [chunkRange_split (inside 0 (by omega)), size, kept]
    simp only [piece, List.length_take, List.length_drop, length]
    rfl
  · rw [chunkRange_split (inside 1 (by omega)), size, kept]
    simp only [piece, List.length_take, List.length_drop, length]
    rfl
  · intro tiles
    obtain ⟨small | single, -⟩ := addressable_of_tiles tiles
    · exact absurd small (by decide)
    · rw [length, size] at single
      omega

end ChunkManifest

end AetherMesh
