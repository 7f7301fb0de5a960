import AetherMesh.Core.Chunk
import Mathlib.Data.List.NodupEquivFin
import Mathlib.Data.Finset.Card

/-!
When an assembler completes a dataset. A dataset is collected from the moment its
manifest is begun, and it is put together by the first of its own messages after
which the store holds every chunk.
-/

namespace AetherMesh

theorem flatten_pieces (size count : Nat) (bytes : Bytes) :
    ((List.range count).map fun index => (bytes.drop (index * size)).take size).flatten =
      bytes.take (count * size) := by
  induction count with
  | zero => simp
  | succ count ih =>
      rw [List.range_succ, List.map_append, List.flatten_append, ih]
      simp only [List.map_cons, List.map_nil, List.flatten_cons, List.flatten_nil,
        List.append_nil]
      rw [Nat.succ_mul, List.take_add]

theorem flatten_chunksOf {size : Nat} (positive : 0 < size) (bytes : Bytes) :
    (chunksOf size bytes).flatten = bytes := by
  rw [chunksOf, flatten_pieces]
  apply List.take_of_length_le
  have rounded := Nat.div_add_mod (bytes.length + size - 1) size
  have rest := Nat.mod_lt (bytes.length + size - 1) positive
  rw [Nat.mul_comm] at rounded
  omega

theorem length_chunksOf (size : Nat) (bytes : Bytes) :
    (chunksOf size bytes).length = (bytes.length + size - 1) / size := by
  simp [chunksOf]

theorem getElem?_chunksOf {size index : Nat} {bytes piece : Bytes}
    (placed : (chunksOf size bytes)[index]? = some piece) :
    piece = (bytes.drop (index * size)).take size := by
  rw [chunksOf, List.getElem?_map, Option.map_eq_some_iff] at placed
  obtain ⟨place, found, rfl⟩ := placed
  rw [List.getElem?_eq_some_iff] at found
  obtain ⟨bound, rfl⟩ := found
  rw [List.getElem_range]

/-- A manifest for the given pieces. Nothing else hashes like one of the pieces or like the
whole, and the number of pieces can be told apart by 32-bit indices. -/
structure Chunked (digest : Bytes → DataId) (manifest : ChunkManifest) (pieces : List Bytes) :
    Prop where
  chunks : manifest.chunks = pieces.map (DataDescriptor.of digest)
  data : manifest.data.id = digest pieces.flatten
  occupied : pieces ≠ []
  few : pieces.length < 2 ^ 32
  unique : ∀ piece ∈ pieces, ∀ other, digest other = digest piece → other = piece
  whole : ∀ other, digest other = digest pieces.flatten → other = pieces.flatten

structure Collected (manifest : ChunkManifest) (pieces : List Bytes) (pending : Pending) :
    Prop where
  manifest : pending.manifest = manifest
  right : ∀ index bytes, pending.chunks.lookup index = some bytes → pieces[index]? = some bytes

def Pending.Lacks (pieces : List Bytes) (pending : Pending) : Prop :=
  ∃ index < pieces.length, index ∉ pending.chunks

def ChunkAssembler.Collecting (manifest : ChunkManifest) (pieces : List Bytes)
    (assembler : ChunkAssembler) : Prop :=
  ∃ pending, assembler.pending.lookup manifest.data.id = some pending ∧
    Collected manifest pieces pending ∧ pending.Lacks pieces

def DataStore.HoldsAll (digest : Bytes → DataId) (pieces : List Bytes) (store : DataStore) : Prop :=
  ∀ piece ∈ pieces, store.contains (digest piece) = true

structure Advanced (manifest : ChunkManifest) (pieces : List Bytes) (before after : ChunkAssembler)
    (complete : Prop) (result : Except ChunkError (Option Bytes)) : Prop where
  others : ∀ other ≠ manifest.data.id, after.pending.lookup other = before.pending.lookup other
  completed : complete → result = .ok (some pieces.flatten)
  emptied : complete → after.pending.lookup manifest.data.id = none
  waiting : ¬ complete → result = .ok none ∧ after.Collecting manifest pieces

/-- Whatever is done for one dataset leaves the others alone, and what comes out has its hash. -/
structure Framed (digest : Bytes → DataId) (dataId : DataId) (before after : ChunkAssembler)
    (result : Except ChunkError (Option Bytes)) : Prop where
  others : ∀ other ≠ dataId, after.pending.lookup other = before.pending.lookup other
  named : ∀ bytes, result = .ok (some bytes) → digest bytes = dataId

namespace ChunkAssembler

variable (digest : Bytes → DataId) (assembler : ChunkAssembler) (dataId : DataId)

theorem add_framed (index : Nat) (bytes : Bytes) :
    Framed digest dataId assembler (assembler.add digest dataId index bytes).1
      (assembler.add digest dataId index bytes).2 := by
  unfold add
  split
  · exact ⟨fun _ _ => rfl, nofun⟩
  · split
    · exact ⟨fun _ _ => rfl, nofun⟩
    · dsimp only
      split
      · exact ⟨fun _ _ => rfl, nofun⟩
      · split
        · exact ⟨fun other different => AList.lookup_insert_ne different, nofun⟩
        · split
          · exact ⟨fun other different => AList.lookup_erase_ne different, nofun⟩
          · rename_i same
            refine ⟨fun other different => AList.lookup_erase_ne different, ?_⟩
            intro whole done
            cases done
            exact not_not.mp same

theorem addAll_framed (entries : List (Nat × Bytes)) (assembled : Option Bytes)
    (named : ∀ bytes, assembled = some bytes → digest bytes = dataId) :
    Framed digest dataId assembler (addAll digest dataId entries assembler assembled).1
      (addAll digest dataId entries assembler assembled).2 := by
  induction entries generalizing assembler assembled with
  | nil =>
      refine ⟨fun _ _ => rfl, fun bytes done => ?_⟩
      simp only [addAll, Except.ok.injEq] at done
      exact named bytes done
  | cons entry rest ih =>
      have first := add_framed digest assembler dataId entry.1 entry.2
      simp only [addAll]
      rcases added : assembler.add digest dataId entry.1 entry.2 with ⟨after, error | found⟩
      · rw [added] at first
        exact ⟨first.others, nofun⟩
      · rw [added] at first
        have later := ih after found fun bytes same => first.named bytes (by rw [same])
        refine ⟨fun other different => ?_, later.named⟩
        rw [later.others other different, first.others other different]

theorem fillFromStore_framed (store : DataStore) :
    Framed digest dataId assembler (assembler.fillFromStore digest dataId store).1
      (assembler.fillFromStore digest dataId store).2.2 := by
  unfold fillFromStore
  split
  · exact ⟨fun _ _ => rfl, nofun⟩
  · exact addAll_framed digest assembler dataId _ none nofun

theorem beginWith_framed (manifest : ChunkManifest) (store : DataStore) :
    Framed digest manifest.data.id assembler (assembler.beginWith digest manifest store).1
      (assembler.beginWith digest manifest store).2.2 := by
  have filled := fillFromStore_framed digest (assembler.begin manifest) manifest.data.id store
  refine ⟨fun other different => ?_, filled.named⟩
  rw [beginWith, filled.others other different]
  exact AList.lookup_insert_ne different

theorem addStored_framed (store : DataStore) (index : Nat) (bytes : Bytes) :
    Framed digest dataId assembler (assembler.addStored digest store dataId index bytes).1
      (assembler.addStored digest store dataId index bytes).2.2 := by
  have first := add_framed digest assembler dataId index bytes
  simp only [addStored]
  rcases added : assembler.add digest dataId index bytes with ⟨after, error | assembled⟩
  · rw [added] at first
    exact ⟨first.others, nofun⟩
  · rw [added] at first
    cases assembled with
    | some whole => exact first
    | none =>
        have filled := fillFromStore_framed digest after dataId (store.put digest bytes).1
        refine ⟨fun other different => ?_, filled.named⟩
        rw [filled.others other different, first.others other different]

theorem known_eq (pending : Pending) (entries : List (Nat × DataDescriptor)) (store : DataStore) :
    (known pending entries store).2 =
      entries.filterMap (fun entry => if entry.1 ∈ pending.chunks then none
        else (store.bytesOf entry.2.id).map (Prod.mk entry.1)) ∧
    (known pending entries store).1.bytesOf = store.bytesOf ∧
    (known pending entries store).1.budget = store.budget := by
  induction entries generalizing store with
  | nil => simp [known]
  | cons entry rest ih =>
      obtain ⟨index, chunk⟩ := entry
      have same : (store.touch chunk.id).bytesOf = store.bytesOf :=
        funext (store.bytesOf_touch chunk.id)
      obtain ⟨list, data, budget⟩ := ih (store.touch chunk.id)
      rw [same] at list data
      rw [DataStore.budget_touch] at budget
      by_cases present : index ∈ pending.chunks
      · simpa [known, present] using ih store
      · cases held : store.bytesOf chunk.id with
        | none => simp [known, DataStore.get, present, held, list, data, budget]
        | some bytes => simp [known, DataStore.get, present, held, list, data, budget]

theorem fillFromStore_store (store : DataStore) :
    (assembler.fillFromStore digest dataId store).2.1.bytesOf = store.bytesOf ∧
      (assembler.fillFromStore digest dataId store).2.1.budget = store.budget := by
  unfold fillFromStore
  split
  · exact ⟨rfl, rfl⟩
  · exact (known_eq _ _ store).2

theorem addStored_store (store : DataStore) (index : Nat) (bytes : Bytes) :
    (assembler.addStored digest store dataId index bytes).2.1.bytesOf =
        (store.put digest bytes).1.bytesOf ∧
      (assembler.addStored digest store dataId index bytes).2.1.budget =
        (store.put digest bytes).1.budget := by
  simp only [addStored]
  rcases assembler.add digest dataId index bytes with ⟨after, error | assembled⟩
  · exact ⟨rfl, rfl⟩
  · cases assembled with
    | some whole => exact ⟨rfl, rfl⟩
    | none => exact fillFromStore_store digest after dataId (store.put digest bytes).1

end ChunkAssembler

section

variable {digest : Bytes → DataId} {manifest : ChunkManifest} {pieces : List Bytes}

theorem Collected.inside {pending : Pending} (collected : Collected manifest pieces pending)
    {index : Nat} (present : index ∈ pending.chunks) : index < pieces.length := by
  obtain ⟨bytes, found⟩ := Option.isSome_iff_exists.mp (AList.lookup_isSome.mpr present)
  exact (List.getElem?_eq_some_iff.mp (collected.right index bytes found)).1

theorem Collected.lacks_iff {pending : Pending} (collected : Collected manifest pieces pending) :
    pending.Lacks pieces ↔ pending.chunks.keys.length < pieces.length := by
  have distinct := pending.chunks.keys_nodup
  have counted := List.toFinset_card_of_nodup distinct
  have subset : pending.chunks.keys.toFinset ⊆ Finset.range pieces.length := by
    intro index listed
    rw [List.mem_toFinset, ← AList.mem_keys] at listed
    exact Finset.mem_range.mpr (collected.inside listed)
  constructor
  · rintro ⟨index, bound, missing⟩
    have strict : pending.chunks.keys.toFinset ⊂ Finset.range pieces.length := by
      refine (Finset.ssubset_iff_of_subset subset).mpr ⟨index, Finset.mem_range.mpr bound, ?_⟩
      rw [List.mem_toFinset, ← AList.mem_keys]
      exact missing
    have fewer := Finset.card_lt_card strict
    rw [Finset.card_range] at fewer
    omega
  · intro fewer
    by_contra full
    simp only [Pending.Lacks, not_exists, not_and, not_not] at full
    have all : Finset.range pieces.length ⊆ pending.chunks.keys.toFinset := by
      intro index inside
      rw [List.mem_toFinset, ← AList.mem_keys]
      exact full index (Finset.mem_range.mp inside)
    have bound := Finset.card_le_card all
    rw [Finset.card_range] at bound
    omega

theorem flatMap_range_getD (pieces : List Bytes) :
    ((List.range pieces.length).flatMap fun index => pieces[index]?.getD []) = pieces.flatten := by
  induction pieces with
  | nil => rfl
  | cons first rest ih =>
      rw [List.length_cons, List.range_succ_eq_map, List.flatMap_cons, List.flatMap_map]
      simpa using ih

variable (chunked : Chunked digest manifest pieces)

include chunked

theorem Chunked.assembled {pending : Pending} (collected : Collected manifest pieces pending)
    (full : ¬ pending.Lacks pieces) : pending.assembled = pieces.flatten := by
  have count : asU32 pending.manifest.chunks.length = pieces.length := by
    rw [collected.manifest, chunked.chunks, List.length_map, asU32]
    exact Nat.mod_eq_of_lt chunked.few
  rw [Pending.assembled, count, ← flatMap_range_getD pieces]
  simp only [List.flatMap]
  congr 1
  refine List.map_congr_left fun index listed => ?_
  have inside := List.mem_range.mp listed
  simp only [Pending.Lacks, not_exists, not_and, not_not] at full
  obtain ⟨bytes, found⟩ := Option.isSome_iff_exists.mp
    (AList.lookup_isSome.mpr (full index inside))
  rw [found, collected.right index bytes found]

theorem Chunked.indexed : manifest.indexed =
    pieces.zipIdx.map fun entry => (entry.2, DataDescriptor.of digest entry.1) := by
  rw [ChunkManifest.indexed, chunked.chunks, List.zipIdx_map, List.map_map]
  refine List.map_congr_left fun entry listed => ?_
  have bound := (List.mem_zipIdx' listed).1
  have small := chunked.few
  simp only [Function.comp_apply, Prod.map_fst, Prod.map_snd, id_eq, asU32]
  rw [Nat.mod_eq_of_lt (by omega)]

theorem Chunked.chunk (index : Nat) :
    manifest.chunks[index]? = pieces[index]?.map (DataDescriptor.of digest) := by
  rw [chunked.chunks, List.getElem?_map]

omit chunked in
theorem Collected.insert {pending : Pending} (collected : Collected manifest pieces pending)
    {index : Nat} {bytes : Bytes} (right : pieces[index]? = some bytes) :
    Collected manifest pieces { pending with chunks := pending.chunks.insert index bytes } where
  manifest := collected.manifest
  right other content found := by
    by_cases same : other = index
    · subst same
      rw [AList.lookup_insert, Option.some.injEq] at found
      exact found ▸ right
    · rw [AList.lookup_insert_ne same] at found
      exact collected.right other content found

omit chunked in
theorem not_lacks_of_covered {pending : Pending}
    (covered : ∀ index < pieces.length, index ∈ pending.chunks) : ¬ pending.Lacks pieces := by
  rintro ⟨index, bound, missing⟩
  exact missing (covered index bound)

theorem Chunked.add {assembler : ChunkAssembler} {pending : Pending} {index : Nat} {bytes : Bytes}
    (found : assembler.pending.lookup manifest.data.id = some pending)
    (collected : Collected manifest pieces pending) (right : pieces[index]? = some bytes)
    (grown : Pending)
    (grows : grown = { pending with chunks := pending.chunks.insert index bytes }) :
    (grown.Lacks pieces → assembler.add digest manifest.data.id index bytes =
      (⟨assembler.pending.insert manifest.data.id grown⟩, .ok none)) ∧
    (¬ grown.Lacks pieces → assembler.add digest manifest.data.id index bytes =
      (⟨assembler.pending.erase manifest.data.id⟩, .ok (some pieces.flatten))) := by
  have sound : Collected manifest pieces grown := grows ▸ collected.insert right
  have expected : pending.manifest.chunks[index]? = some (DataDescriptor.of digest bytes) := by
    rw [collected.manifest, chunked.chunk, right, Option.map_some]
  have length : grown.manifest.chunks.length = pieces.length := by
    rw [sound.manifest, chunked.chunks, List.length_map]
  have step : assembler.add digest manifest.data.id index bytes =
      if grown.chunks.keys.length < grown.manifest.chunks.length then
        (⟨assembler.pending.insert manifest.data.id grown⟩, .ok none)
      else if digest grown.assembled ≠ manifest.data.id then
        (⟨assembler.pending.erase manifest.data.id⟩,
          .error (.dataMismatch manifest.data.id (digest grown.assembled)))
      else (⟨assembler.pending.erase manifest.data.id⟩, .ok (some grown.assembled)) := by
    simp only [ChunkAssembler.add, found, expected, ne_eq, not_true, if_false, grows]
  rw [step, length]
  constructor
  · intro lacks
    rw [if_pos (sound.lacks_iff.mp lacks)]
  · intro full
    have whole := chunked.assembled sound full
    rw [if_neg (fun fewer => full (sound.lacks_iff.mpr fewer)), whole, if_neg (by simp [chunked.data])]

omit chunked in
theorem Collected.new : Collected manifest pieces ⟨manifest, ∅⟩ where
  manifest := rfl
  right index bytes found := by simp at found

omit chunked in
theorem Advanced.of_frame {before middle after : ChunkAssembler} {complete : Prop}
    {result : Except ChunkError (Option Bytes)}
    (advanced : Advanced manifest pieces middle after complete result)
    (others : ∀ other ≠ manifest.data.id,
      middle.pending.lookup other = before.pending.lookup other) :
    Advanced manifest pieces before after complete result where
  others other different := by rw [advanced.others other different, others other different]
  completed := advanced.completed
  emptied := advanced.emptied
  waiting := advanced.waiting

omit chunked in
theorem Advanced.of_iff {before after : ChunkAssembler} {complete other : Prop}
    {result : Except ChunkError (Option Bytes)}
    (advanced : Advanced manifest pieces before after complete result)
    (same : complete ↔ other) : Advanced manifest pieces before after other result where
  others := advanced.others
  completed all := advanced.completed (same.mpr all)
  emptied all := advanced.emptied (same.mpr all)
  waiting missing := advanced.waiting fun all => missing (same.mp all)

theorem Chunked.addAll {pending : Pending} (new : List (Nat × Bytes))
    {assembler : ChunkAssembler}
    (found : assembler.pending.lookup manifest.data.id = some pending)
    (collected : Collected manifest pieces pending) (lacks : pending.Lacks pieces)
    (distinct : (new.map Prod.fst).Nodup)
    (fresh : ∀ entry ∈ new, entry.1 ∉ pending.chunks)
    (right : ∀ entry ∈ new, pieces[entry.1]? = some entry.2) :
    Advanced manifest pieces assembler
      (ChunkAssembler.addAll digest manifest.data.id new assembler none).1
      (∀ index < pieces.length, index ∈ pending.chunks ∨ index ∈ new.map Prod.fst)
      (ChunkAssembler.addAll digest manifest.data.id new assembler none).2 := by
  induction new generalizing assembler pending with
  | nil =>
      have missing : ¬ ∀ index < pieces.length,
          index ∈ pending.chunks ∨ index ∈ ([] : List (Nat × Bytes)).map Prod.fst := by
        intro covered
        exact not_lacks_of_covered (by simpa using covered) lacks
      exact ⟨fun _ _ => rfl, fun covered => absurd covered missing,
        fun covered => absurd covered missing, fun _ => ⟨rfl, pending, found, collected, lacks⟩⟩
  | cons entry rest ih =>
      obtain ⟨index, bytes⟩ := entry
      rw [List.map_cons, List.nodup_cons] at distinct
      have here := right (index, bytes) List.mem_cons_self
      obtain ⟨keeps, completes⟩ := chunked.add found collected here _ rfl
      by_cases more : ({ pending with chunks := pending.chunks.insert index bytes } : Pending).Lacks
          pieces
      · simp only [ChunkAssembler.addAll, keeps more]
        have deeper := @ih { pending with chunks := pending.chunks.insert index bytes }
          ⟨assembler.pending.insert manifest.data.id
            { pending with chunks := pending.chunks.insert index bytes }⟩
          (AList.lookup_insert _) (collected.insert here) more distinct.2
          (fun other listed => by
            rw [AList.mem_insert]
            rintro (same | old)
            · exact distinct.1 (List.mem_map.mpr ⟨other, listed, same⟩)
            · exact fresh other (List.mem_cons_of_mem _ listed) old)
          (fun other listed => right other (List.mem_cons_of_mem _ listed))
        refine (deeper.of_frame fun other different => AList.lookup_insert_ne different).of_iff ?_
        refine forall₂_congr fun other _ => ?_
        rw [AList.mem_insert, List.map_cons, List.mem_cons]
        tauto
      · -- The chunk completed the dataset, so it was the last one on the list.
        have last : rest = [] := by
          by_contra another
          obtain ⟨next, others, rfl⟩ := List.exists_cons_of_ne_nil another
          refine more ⟨next.1, ?_, ?_⟩
          · have placed := right next (by simp)
            exact (List.getElem?_eq_some_iff.mp placed).1
          · rw [AList.mem_insert]
            rintro (same | old)
            · exact distinct.1 (by simp [same])
            · exact fresh next (by simp) old
        subst last
        simp only [ChunkAssembler.addAll, completes more]
        refine ⟨fun other different => AList.lookup_erase_ne different, fun _ => rfl,
          fun _ => AList.lookup_erase _ _, ?_⟩
        intro missing
        refine absurd (fun other bound => ?_) missing
        have kept : other ∈ pending.chunks.insert index bytes := by
          by_contra absent
          exact more ⟨other, bound, absent⟩
        rw [AList.mem_insert] at kept
        rw [List.map_cons, List.mem_cons]
        tauto

def DataStore.HoldsPiece (digest : Bytes → DataId) (pieces : List Bytes) (store : DataStore)
    (index : Nat) : Prop :=
  ∃ piece, pieces[index]? = some piece ∧ store.contains (digest piece) = true

omit chunked in
theorem mem_known_iff {pending : Pending} {entries : List (Nat × DataDescriptor)}
    {store : DataStore} {index : Nat} {bytes : Bytes} :
    (index, bytes) ∈ (ChunkAssembler.known pending entries store).2 ↔
      ∃ chunk, (index, chunk) ∈ entries ∧ index ∉ pending.chunks ∧
        store.bytesOf chunk.id = some bytes := by
  rw [(ChunkAssembler.known_eq pending entries store).1, List.mem_filterMap]
  constructor
  · rintro ⟨⟨other, chunk⟩, listed, kept⟩
    by_cases present : other ∈ pending.chunks
    · simp [present] at kept
    · simp only [present, if_false, Option.map_eq_some_iff, Prod.mk.injEq] at kept
      obtain ⟨content, held, rfl, rfl⟩ := kept
      exact ⟨chunk, listed, present, held⟩
  · rintro ⟨chunk, listed, missing, held⟩
    exact ⟨(index, chunk), listed, by simp [missing, held]⟩

theorem Chunked.mem_indexed {index : Nat} {chunk : DataDescriptor} :
    (index, chunk) ∈ manifest.indexed ↔
      ∃ piece, pieces[index]? = some piece ∧ chunk = DataDescriptor.of digest piece := by
  rw [chunked.indexed, List.mem_map]
  constructor
  · rintro ⟨⟨piece, place⟩, listed, same⟩
    obtain ⟨rfl, rfl⟩ := Prod.mk.inj same
    exact ⟨piece, List.mem_zipIdx_iff_getElem?.mp listed, rfl⟩
  · rintro ⟨piece, placed, rfl⟩
    exact ⟨(piece, index), List.mem_zipIdx_iff_getElem?.mpr placed, rfl⟩

omit chunked in
theorem known_distinct {pending : Pending} {entries : List (Nat × DataDescriptor)}
    (distinct : (entries.map Prod.fst).Nodup) (store : DataStore) :
    ((ChunkAssembler.known pending entries store).2.map Prod.fst).Nodup := by
  rw [List.Nodup, List.pairwise_map] at distinct ⊢
  rw [(ChunkAssembler.known_eq pending entries store).1]
  refine distinct.filterMap _ ?_
  intro first second different left kept right also
  simp only [Option.ite_none_left_eq_some, Option.map_eq_some_iff] at kept also
  obtain ⟨-, bytes, -, rfl⟩ := kept
  obtain ⟨-, content, -, rfl⟩ := also
  exact different

theorem Chunked.indexed_distinct : (manifest.indexed.map Prod.fst).Nodup := by
  rw [chunked.indexed, List.map_map]
  exact List.nodup_zipIdx_map_snd pieces

theorem Chunked.fillFromStore {assembler : ChunkAssembler} {pending : Pending} {store : DataStore}
    (found : assembler.pending.lookup manifest.data.id = some pending)
    (collected : Collected manifest pieces pending) (lacks : pending.Lacks pieces)
    (keyed : store.Keyed digest) :
    Advanced manifest pieces assembler
      (assembler.fillFromStore digest manifest.data.id store).1
      (∀ index < pieces.length, index ∈ pending.chunks ∨ store.HoldsPiece digest pieces index)
      (assembler.fillFromStore digest manifest.data.id store).2.2 := by
  simp only [ChunkAssembler.fillFromStore, found, collected.manifest]
  have right : ∀ entry ∈ (ChunkAssembler.known pending manifest.indexed store).2,
      entry.1 ∉ pending.chunks ∧ pieces[entry.1]? = some entry.2 ∧
        store.HoldsPiece digest pieces entry.1 := by
    rintro ⟨index, bytes⟩ listed
    obtain ⟨chunk, entered, missing, held⟩ := mem_known_iff.mp listed
    obtain ⟨piece, placed, rfl⟩ := chunked.mem_indexed.mp entered
    have same : bytes = piece :=
      chunked.unique piece (List.mem_of_getElem? placed) bytes (keyed _ _ held)
    exact ⟨missing, same ▸ placed, piece, placed, DataStore.contains_iff.mpr ⟨bytes, held⟩⟩
  have distinct := @known_distinct pending _ chunked.indexed_distinct store
  have advanced := chunked.addAll _ found collected lacks distinct
    (fun entry listed => (right entry listed).1) (fun entry listed => (right entry listed).2.1)
  refine advanced.of_iff ?_
  refine forall₂_congr fun index bound => ?_
  constructor
  · rintro (old | listed)
    · exact .inl old
    · obtain ⟨entry, member, rfl⟩ := List.mem_map.mp listed
      exact .inr (right entry member).2.2
  · rintro (old | ⟨piece, placed, held⟩)
    · exact .inl old
    · by_cases present : index ∈ pending.chunks
      · exact .inl present
      · obtain ⟨bytes, stored⟩ := DataStore.contains_iff.mp held
        have entered := chunked.mem_indexed.mpr ⟨piece, placed, rfl⟩
        exact .inr (List.mem_map_of_mem
          (mem_known_iff.mpr ⟨_, entered, present, stored⟩ : (index, bytes) ∈ _))

theorem Chunked.beginWith (assembler : ChunkAssembler) {store : DataStore}
    (keyed : store.Keyed digest) :
    Advanced manifest pieces assembler (assembler.beginWith digest manifest store).1
      (store.HoldsAll digest pieces) (assembler.beginWith digest manifest store).2.2 := by
  have found : (assembler.begin manifest).pending.lookup manifest.data.id =
      some ⟨manifest, ∅⟩ := AList.lookup_insert _
  have lacks : Pending.Lacks pieces ⟨manifest, ∅⟩ :=
    ⟨0, List.length_pos_iff.mpr chunked.occupied, AList.notMem_empty 0⟩
  have advanced := chunked.fillFromStore found Collected.new lacks keyed
  refine (advanced.of_frame fun other different => AList.lookup_insert_ne different).of_iff ?_
  constructor
  · intro all piece member
    obtain ⟨index, bound, rfl⟩ := List.getElem_of_mem member
    rcases all index bound with none | ⟨other, placed, held⟩
    · exact absurd none (AList.notMem_empty index)
    · rw [List.getElem?_eq_getElem bound, Option.some.injEq] at placed
      rw [placed]
      exact held
  · intro all index bound
    exact .inr ⟨pieces[index], List.getElem?_eq_getElem bound, all _ (List.getElem_mem bound)⟩

theorem Chunked.addStored {assembler : ChunkAssembler} {store : DataStore} {index : Nat}
    {bytes : Bytes} (collecting : assembler.Collecting manifest pieces)
    (keyed : store.Keyed digest) (right : pieces[index]? = some bytes) :
    ∃ complete : Prop, ((store.put digest bytes).1.HoldsAll digest pieces → complete) ∧
      Advanced manifest pieces assembler
        (assembler.addStored digest store manifest.data.id index bytes).1 complete
        (assembler.addStored digest store manifest.data.id index bytes).2.2 := by
  obtain ⟨pending, found, collected, -⟩ := collecting
  obtain ⟨keeps, completes⟩ := chunked.add found collected right _ rfl
  by_cases more : ({ pending with chunks := pending.chunks.insert index bytes } : Pending).Lacks
      pieces
  · simp only [ChunkAssembler.addStored, keeps more]
    have advanced := @Chunked.fillFromStore digest manifest pieces chunked
      ⟨assembler.pending.insert manifest.data.id
        { pending with chunks := pending.chunks.insert index bytes }⟩ _ (store.put digest bytes).1
      (AList.lookup_insert _) (collected.insert right) more (keyed.store bytes)
    refine ⟨_, ?_, advanced.of_frame fun other different => AList.lookup_insert_ne different⟩
    intro all other bound
    exact .inr ⟨pieces[other], List.getElem?_eq_getElem bound, all _ (List.getElem_mem bound)⟩
  · simp only [ChunkAssembler.addStored, completes more]
    exact ⟨True, fun _ => trivial,
      fun other different => AList.lookup_erase_ne different, fun _ => rfl,
      fun _ => AList.lookup_erase _ _, nofun⟩

theorem Chunked.addStored_wrong {assembler : ChunkAssembler} {store : DataStore} {index : Nat}
    {bytes : Bytes} (collecting : assembler.Collecting manifest pieces)
    (wrong : pieces[index]? ≠ some bytes) :
    (assembler.addStored digest store manifest.data.id index bytes).1 = assembler := by
  obtain ⟨pending, found, collected, -⟩ := collecting
  have refused : ∃ error, assembler.add digest manifest.data.id index bytes =
      (assembler, .error error) := by
    simp only [ChunkAssembler.add, found, collected.manifest, chunked.chunk]
    cases placed : pieces[index]? with
    | none => exact ⟨_, rfl⟩
    | some piece =>
        have different : DataDescriptor.of digest bytes ≠ DataDescriptor.of digest piece := by
          intro same
          have equal := chunked.unique piece (List.mem_of_getElem? placed) bytes
            (congrArg DataDescriptor.id same)
          exact wrong (equal ▸ placed)
        simp only [Option.map_some, ne_eq, different, not_false_eq_true, if_true]
        exact ⟨_, rfl⟩
  obtain ⟨error, failed⟩ := refused
  simp only [ChunkAssembler.addStored, failed]

end

theorem chunked_split {digest : Bytes → DataId} {bytes : Bytes} {size : Nat} (positive : 0 < size)
    (occupied : bytes ≠ []) (few : (chunksOf size bytes).length < 2 ^ 32)
    (unique : ∀ piece ∈ bytes :: chunksOf size bytes, ∀ other, digest other = digest piece →
      other = piece) :
    Chunked digest (ChunkManifest.split digest bytes size) (chunksOf size bytes) where
  chunks := by simp [ChunkManifest.split, Nat.ne_of_gt positive]
  data := by rw [flatten_chunksOf positive]; rfl
  occupied none := by
    have whole := flatten_chunksOf positive bytes
    rw [none] at whole
    exact occupied whole.symm
  few := few
  unique piece member := unique piece (List.mem_cons_of_mem _ member)
  whole := by
    rw [flatten_chunksOf positive]
    exact unique bytes List.mem_cons_self

end AetherMesh
