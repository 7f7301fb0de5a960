import AetherMesh.Core.Store
import Mathlib.Data.List.Sublists

/-!
Splitting a large dataset into content-addressed chunks and putting them back
together. Chunks carry their index as a 32-bit number.
-/

namespace AetherMesh

def defaultChunkSize : Nat := 1024 * 1024

def asU32 (number : Nat) : Nat := number % 2 ^ 32

structure ChunkManifest where
  data : DataDescriptor
  chunkSize : Nat
  chunks : List DataDescriptor
deriving DecidableEq

/-- The pieces of `<[u8]>::chunks`; `size` is not zero. -/
def chunksOf (size : Nat) (bytes : Bytes) : List Bytes :=
  (List.range ((bytes.length + size - 1) / size)).map fun index =>
    (bytes.drop (index * size)).take size

namespace ChunkManifest

def split (digest : Bytes → DataId) (bytes : Bytes) (chunkSize : Nat) : ChunkManifest :=
  let size := if chunkSize = 0 then defaultChunkSize else chunkSize
  { data := DataDescriptor.of digest bytes
    chunkSize := asU32 size
    chunks := (chunksOf size bytes).map (DataDescriptor.of digest) }

def chunkRange (manifest : ChunkManifest) (index : Nat) : Option (Nat × Nat) :=
  manifest.chunks[index]?.map fun descriptor =>
    (index * manifest.chunkSize, index * manifest.chunkSize + descriptor.sizeBytes)

def indexed (manifest : ChunkManifest) : List (Nat × DataDescriptor) :=
  manifest.chunks.zipIdx.map fun entry => (asU32 entry.2, entry.1)

end ChunkManifest

inductive ChunkError
  | unknownData (dataId : DataId)
  | indexOutOfRange (dataId : DataId) (index len : Nat)
  | chunkMismatch (dataId : DataId) (index : Nat)
  | dataMismatch (expected actual : DataId)
deriving DecidableEq

structure Pending where
  manifest : ChunkManifest
  chunks : AList fun _ : Nat => Bytes

structure ChunkAssembler where
  pending : AList fun _ : DataId => Pending

/-- The loop over the collected chunks; when all are counted, all are there. -/
def Pending.assembled (pending : Pending) : Bytes :=
  (List.range (asU32 pending.manifest.chunks.length)).flatMap fun index =>
    (pending.chunks.lookup index).getD []

namespace ChunkAssembler

def new : ChunkAssembler := ⟨∅⟩

def begin (assembler : ChunkAssembler) (manifest : ChunkManifest) : ChunkAssembler :=
  ⟨assembler.pending.insert manifest.data.id ⟨manifest, ∅⟩⟩

def add (digest : Bytes → DataId) (assembler : ChunkAssembler) (dataId : DataId) (index : Nat)
    (bytes : Bytes) : ChunkAssembler × Except ChunkError (Option Bytes) :=
  match assembler.pending.lookup dataId with
  | none => (assembler, .error (.unknownData dataId))
  | some pending =>
      match pending.manifest.chunks[index]? with
      | none =>
          (assembler, .error (.indexOutOfRange dataId index pending.manifest.chunks.length))
      | some expected =>
          if DataDescriptor.of digest bytes ≠ expected then
            (assembler, .error (.chunkMismatch dataId index))
          else
            let grown : Pending := { pending with chunks := pending.chunks.insert index bytes }
            if grown.chunks.keys.length < grown.manifest.chunks.length then
              (⟨assembler.pending.insert dataId grown⟩, .ok none)
            else if digest grown.assembled ≠ dataId then
              (⟨assembler.pending.erase dataId⟩,
                .error (.dataMismatch dataId (digest grown.assembled)))
            else (⟨assembler.pending.erase dataId⟩, .ok (some grown.assembled))

def known (pending : Pending) :
    List (Nat × DataDescriptor) → DataStore → DataStore × List (Nat × Bytes)
  | [], store => (store, [])
  | (index, chunk) :: rest, store =>
      if index ∈ pending.chunks then known pending rest store
      else
        match store.get chunk.id with
        | (read, some bytes) =>
            let found := known pending rest read
            (found.1, (index, bytes) :: found.2)
        | (read, none) => known pending rest read

def addAll (digest : Bytes → DataId) (dataId : DataId) :
    List (Nat × Bytes) → ChunkAssembler → Option Bytes →
      ChunkAssembler × Except ChunkError (Option Bytes)
  | [], assembler, assembled => (assembler, .ok assembled)
  | (index, bytes) :: rest, assembler, _ =>
      match assembler.add digest dataId index bytes with
      | (after, .error error) => (after, .error error)
      | (after, .ok assembled) => addAll digest dataId rest after assembled

def fillFromStore (digest : Bytes → DataId) (assembler : ChunkAssembler) (dataId : DataId)
    (store : DataStore) : ChunkAssembler × DataStore × Except ChunkError (Option Bytes) :=
  match assembler.pending.lookup dataId with
  | none => (assembler, store, .ok none)
  | some pending =>
      let found := known pending pending.manifest.indexed store
      let added := addAll digest dataId found.2 assembler none
      (added.1, found.1, added.2)

def beginWith (digest : Bytes → DataId) (assembler : ChunkAssembler) (manifest : ChunkManifest)
    (store : DataStore) : ChunkAssembler × DataStore × Except ChunkError (Option Bytes) :=
  (assembler.begin manifest).fillFromStore digest manifest.data.id store

def addStored (digest : Bytes → DataId) (assembler : ChunkAssembler) (store : DataStore)
    (dataId : DataId) (index : Nat) (bytes : Bytes) :
    ChunkAssembler × DataStore × Except ChunkError (Option Bytes) :=
  let stored := (store.put digest bytes).1
  match assembler.add digest dataId index bytes with
  | (after, .error error) => (after, stored, .error error)
  | (after, .ok (some assembled)) => (after, stored, .ok (some assembled))
  | (after, .ok none) => after.fillFromStore digest dataId stored

end ChunkAssembler

end AetherMesh
