import AetherMesh.Core.ChunkAssembly
import Mathlib.Data.List.Sort

/-!
What an assembler answers while the chunks of a dataset are delivered in any order, more than
once, spoiled, or to the wrong dataset. It counts chunks and their indices in 32 bits.
-/

namespace AetherMesh

def splitSize (chunkSize : Nat) : Nat := if chunkSize = 0 then defaultChunkSize else chunkSize

def takeChunk (taken : Bytes × AList fun _ : Nat => Bytes) (index : Nat) :
    Option (Bytes × AList fun _ : Nat => Bytes) :=
  (taken.2.lookup index).map fun bytes => (taken.1 ++ bytes, taken.2.erase index)

/-- The loop over the collected chunks as the source runs it: a chunk that is not there panics. -/
def Pending.assembledChecked (pending : Pending) : Option Bytes :=
  ((List.range (asU32 pending.manifest.chunks.length)).foldlM takeChunk ([], pending.chunks)).map
    Prod.fst

structure Delivery where
  dataId : DataId
  index : Nat
  bytes : Bytes
deriving DecidableEq

namespace ChunkAssembler

def missing (assembler : ChunkAssembler) (dataId : DataId) : List Nat :=
  match assembler.pending.lookup dataId with
  | some pending =>
      (List.range (asU32 pending.manifest.chunks.length)).filter (· ∉ pending.chunks)
  | none => []

def addChecked (digest : Bytes → DataId) (assembler : ChunkAssembler) (dataId : DataId)
    (index : Nat) (bytes : Bytes) : Option (ChunkAssembler × Except ChunkError (Option Bytes)) :=
  match assembler.pending.lookup dataId with
  | none => some (assembler, .error (.unknownData dataId))
  | some pending =>
      match pending.manifest.chunks[index]? with
      | none =>
          some (assembler, .error (.indexOutOfRange dataId index pending.manifest.chunks.length))
      | some expected =>
          if DataDescriptor.of digest bytes ≠ expected then
            some (assembler, .error (.chunkMismatch dataId index))
          else
            let grown : Pending := { pending with chunks := pending.chunks.insert index bytes }
            if grown.chunks.keys.length < grown.manifest.chunks.length then
              some (⟨assembler.pending.insert dataId grown⟩, .ok none)
            else
              grown.assembledChecked.map fun assembled =>
                if digest assembled ≠ dataId then
                  (⟨assembler.pending.erase dataId⟩,
                    .error (.dataMismatch dataId (digest assembled)))
                else (⟨assembler.pending.erase dataId⟩, .ok (some assembled))

def take (digest : Bytes → DataId) (assembler : ChunkAssembler) (delivery : Delivery) :
    ChunkAssembler × Except ChunkError (Option Bytes) :=
  assembler.add digest delivery.dataId delivery.index delivery.bytes

def takeAll (digest : Bytes → DataId) (assembler : ChunkAssembler) (deliveries : List Delivery) :
    ChunkAssembler :=
  deliveries.foldl (fun assembler delivery => (assembler.take digest delivery).1) assembler

end ChunkAssembler

def Delivered (dataId : DataId) (pieces : List Bytes) (past : List Delivery) (index : Nat) : Prop :=
  ∃ delivery ∈ past, delivery.dataId = dataId ∧ delivery.index = index ∧
    pieces[index]? = some delivery.bytes

def Completes (dataId : DataId) (pieces : List Bytes) (past : List Delivery) (delivery : Delivery) :
    Prop :=
  delivery.dataId = dataId ∧ pieces[delivery.index]? = some delivery.bytes ∧
    ¬ Delivered dataId pieces past delivery.index ∧
    ∀ index < pieces.length, index ≠ delivery.index → Delivered dataId pieces past index

structure Listed (dataId : DataId) (pieces : List Bytes) (past : List Delivery)
    (missing : List Nat) : Prop where
  increasing : missing.Pairwise (· < ·)
  undelivered : ∀ index,
    index ∈ missing ↔ index < pieces.length ∧ ¬ Delivered dataId pieces past index

structure Answered (digest : Bytes → DataId) (dataId : DataId) (pieces : List Bytes)
    (past : List Delivery) (assembler : ChunkAssembler) (delivery : Delivery) : Prop where
  completed : Completes dataId pieces past delivery →
    (assembler.take digest delivery).2 = .ok (some pieces.flatten)
  only : ∀ whole, (assembler.take digest delivery).2 = .ok (some whole) →
    Completes dataId pieces past delivery
  rejected : ∀ error, (assembler.take digest delivery).2 = .error error →
    (assembler.take digest delivery).1 = assembler
  sound : assembler.addChecked digest delivery.dataId delivery.index delivery.bytes =
    some (assembler.take digest delivery)

/-- Whatever has been delivered, the assembler knows what is missing, and a further delivery is
answered as it should be, unless it is for another dataset that was being collected before. -/
def Assembles (digest : Bytes → DataId) (bytes : Bytes) (chunkSize : Nat) : Prop :=
  ∀ (before : ChunkAssembler) (past : List Delivery),
    let pieces := chunksOf (splitSize chunkSize) bytes
    let reached := (before.begin (.split digest bytes chunkSize)).takeAll digest past
    Listed (digest bytes) pieces past (reached.missing (digest bytes)) ∧
      ∀ delivery, delivery.dataId = digest bytes ∨
          before.pending.lookup delivery.dataId = none →
        Answered digest (digest bytes) pieces past reached delivery

def NoCollision (digest : Bytes → DataId) (bytes : Bytes) (chunkSize : Nat) : Prop :=
  ∀ piece ∈ bytes :: chunksOf (splitSize chunkSize) bytes, ∀ other,
    digest other = digest piece → other = piece

theorem splitSize_pos (chunkSize : Nat) : 0 < splitSize chunkSize := by
  unfold splitSize
  split
  · decide
  · omega

theorem split_splitSize (digest : Bytes → DataId) (bytes : Bytes) (chunkSize : Nat) :
    ChunkManifest.split digest bytes (splitSize chunkSize) =
      ChunkManifest.split digest bytes chunkSize := by
  unfold splitSize
  split
  · rename_i zero
    rw [zero]
    rfl
  · rfl

section

variable {digest : Bytes → DataId} {manifest : ChunkManifest} {pieces : List Bytes}
  {past : List Delivery} {delivery : Delivery} {index : Nat}

theorem delivered_snoc {dataId : DataId} :
    Delivered dataId pieces (past ++ [delivery]) index ↔ Delivered dataId pieces past index ∨
      delivery.dataId = dataId ∧ delivery.index = index ∧ pieces[index]? = some delivery.bytes := by
  simp only [Delivered, List.mem_append, List.mem_singleton]
  constructor
  · rintro ⟨other, old | rfl, right⟩
    · exact .inl ⟨other, old, right⟩
    · exact .inr right
  · rintro (⟨other, old, right⟩ | right)
    · exact ⟨other, .inl old, right⟩
    · exact ⟨delivery, .inr rfl, right⟩

theorem delivered_snoc_wrong {dataId : DataId}
    (wrong : delivery.dataId ≠ dataId ∨ pieces[delivery.index]? ≠ some delivery.bytes) :
    Delivered dataId pieces (past ++ [delivery]) index ↔ Delivered dataId pieces past index := by
  rw [delivered_snoc]
  refine or_iff_left ?_
  rintro ⟨same, rfl, right⟩
  exact wrong.elim (fun other => other same) fun spoiled => spoiled right

theorem foldlM_takeChunk (chunks : AList fun _ : Nat => Bytes) (count : Nat)
    (present : ∀ index < count, index ∈ chunks) :
    ∃ left, (List.range count).foldlM takeChunk ([], chunks) =
        some ((List.range count).flatMap fun index => (chunks.lookup index).getD [], left) ∧
      ∀ index, count ≤ index → left.lookup index = chunks.lookup index := by
  induction count with
  | zero => exact ⟨chunks, rfl, fun _ _ => rfl⟩
  | succ count ih =>
      obtain ⟨left, taken, rest⟩ := ih fun index before => present index (by omega)
      obtain ⟨bytes, found⟩ := Option.isSome_iff_exists.mp
        (AList.lookup_isSome.mpr (present count (Nat.lt_succ_self count)))
      refine ⟨left.erase count, ?_, ?_⟩
      · rw [List.range_succ, List.foldlM_append, taken, Option.bind_eq_bind, Option.bind_some,
          List.foldlM_cons, takeChunk, rest count (Nat.le_refl count), found]
        simp [found]
      · intro index after
        rw [AList.lookup_erase_ne (by omega), rest index (by omega)]

theorem Pending.assembledChecked_eq {pending : Pending}
    (present : ∀ index < asU32 pending.manifest.chunks.length, index ∈ pending.chunks) :
    pending.assembledChecked = some pending.assembled := by
  obtain ⟨left, taken, -⟩ := foldlM_takeChunk pending.chunks _ present
  rw [assembledChecked, taken]
  rfl

structure Stands (manifest : ChunkManifest) (pieces : List Bytes) (before : ChunkAssembler)
    (past : List Delivery) (assembler : ChunkAssembler) : Prop where
  others : ∀ other ≠ manifest.data.id, before.pending.lookup other = none →
    assembler.pending.lookup other = none
  own : (∃ pending, assembler.pending.lookup manifest.data.id = some pending ∧
      Collected manifest pieces pending ∧ pending.Lacks pieces ∧
      ∀ index, index ∈ pending.chunks ↔ Delivered manifest.data.id pieces past index) ∨
    (assembler.pending.lookup manifest.data.id = none ∧
      ∀ index < pieces.length, Delivered manifest.data.id pieces past index)

theorem Chunked.stands_begin (chunked : Chunked digest manifest pieces) (before : ChunkAssembler) :
    Stands manifest pieces before [] (before.begin manifest) where
  others other different none := by
    rw [ChunkAssembler.begin, AList.lookup_insert_ne different]
    exact none
  own := by
    refine .inl ⟨⟨manifest, ∅⟩, AList.lookup_insert _, Collected.new, ?_, ?_⟩
    · exact ⟨0, List.length_pos_iff.mpr chunked.occupied, AList.notMem_empty 0⟩
    · intro index
      simp [Delivered, AList.notMem_empty]

variable {before assembler : ChunkAssembler}

theorem Stands.listed (stands : Stands manifest pieces before past assembler)
    (chunked : Chunked digest manifest pieces) :
    Listed manifest.data.id pieces past (assembler.missing manifest.data.id) := by
  unfold ChunkAssembler.missing
  rcases stands.own with ⟨pending, found, collected, -, known⟩ | ⟨none, all⟩
  · have count : asU32 pending.manifest.chunks.length = pieces.length := by
      rw [collected.manifest, chunked.chunks, List.length_map, asU32,
        Nat.mod_eq_of_lt chunked.few]
    rw [found]
    refine ⟨List.pairwise_lt_range.filter _, ?_⟩
    intro index
    simp only [List.mem_filter, List.mem_range, count, decide_eq_true_eq, known]
  · rw [none]
    refine ⟨.nil, ?_⟩
    intro index
    simp only [List.not_mem_nil, false_iff, not_and, not_not]
    exact all index

/-- The assembler does not move, and nothing comes out. -/
theorem Answered.of_error {dataId : DataId} {error : ChunkError}
    (step : assembler.take digest delivery = (assembler, .error error))
    (checked : assembler.addChecked digest delivery.dataId delivery.index delivery.bytes =
      some (assembler, .error error))
    (incomplete : ¬ Completes dataId pieces past delivery) :
    Answered digest dataId pieces past assembler delivery where
  completed complete := absurd complete incomplete
  only whole same := by
    rw [step] at same
    cases same
  rejected other _ := by rw [step]
  sound := by rw [step, checked]

theorem Stands.of_wrong (stands : Stands manifest pieces before past assembler)
    (wrong : delivery.dataId ≠ manifest.data.id ∨ pieces[delivery.index]? ≠ some delivery.bytes) :
    Stands manifest pieces before (past ++ [delivery]) assembler where
  others := stands.others
  own := by simpa only [delivered_snoc_wrong wrong] using stands.own

theorem ChunkAssembler.take_unknown (unknown : assembler.pending.lookup delivery.dataId = none) :
    assembler.take digest delivery = (assembler, .error (.unknownData delivery.dataId)) ∧
      assembler.addChecked digest delivery.dataId delivery.index delivery.bytes =
        some (assembler, .error (.unknownData delivery.dataId)) := by
  simp only [take, add, addChecked, unknown, and_self]

theorem Stands.foreign (stands : Stands manifest pieces before past assembler)
    (foreign : delivery.dataId ≠ manifest.data.id) :
    Stands manifest pieces before (past ++ [delivery]) (assembler.take digest delivery).1 := by
  have framed := ChunkAssembler.add_framed digest assembler delivery.dataId delivery.index
    delivery.bytes
  have same := stands.of_wrong (.inl foreign)
  refine ⟨?_, ?_⟩
  · intro other different none
    by_cases own : other = delivery.dataId
    · have unknown := stands.others other different none
      rw [own] at unknown ⊢
      rw [(ChunkAssembler.take_unknown unknown).1]
      exact unknown
    · exact (framed.others other own).trans (stands.others other different none)
  · have kept : (assembler.take digest delivery).1.pending.lookup manifest.data.id =
        assembler.pending.lookup manifest.data.id := framed.others _ foreign.symm
    rw [kept]
    exact same.own

theorem Stands.answers_unknown (stands : Stands manifest pieces before past assembler)
    (unknown : assembler.pending.lookup delivery.dataId = none) :
    Answered digest manifest.data.id pieces past assembler delivery := by
  obtain ⟨step, checked⟩ := @ChunkAssembler.take_unknown digest _ _ unknown
  refine .of_error step checked ?_
  rintro ⟨own, right, undelivered, -⟩
  rcases stands.own with ⟨pending, found, -⟩ | ⟨-, all⟩
  · rw [own, found] at unknown
    cases unknown
  · exact undelivered (all delivery.index (List.getElem?_eq_some_iff.mp right).1)

theorem Chunked.take_wrong (chunked : Chunked digest manifest pieces) {pending : Pending}
    (found : assembler.pending.lookup manifest.data.id = some pending)
    (collected : Collected manifest pieces pending) (own : delivery.dataId = manifest.data.id)
    (wrong : pieces[delivery.index]? ≠ some delivery.bytes) :
    ∃ error, assembler.take digest delivery = (assembler, .error error) ∧
      assembler.addChecked digest delivery.dataId delivery.index delivery.bytes =
        some (assembler, .error error) := by
  have there : assembler.pending.lookup delivery.dataId = some pending := by rw [own, found]
  have expected : pending.manifest.chunks[delivery.index]? =
      pieces[delivery.index]?.map (DataDescriptor.of digest) := by
    rw [collected.manifest, chunked.chunk]
  cases placed : pieces[delivery.index]? with
  | none =>
      rw [placed, Option.map_none] at expected
      refine ⟨.indexOutOfRange delivery.dataId delivery.index pending.manifest.chunks.length,
        ?_, ?_⟩
      · simp only [ChunkAssembler.take, ChunkAssembler.add, there, expected]
      · simp only [ChunkAssembler.addChecked, there, expected]
  | some piece =>
      have different :
          DataDescriptor.of digest delivery.bytes ≠ DataDescriptor.of digest piece := by
        intro same
        refine wrong (placed.trans (congrArg some ?_))
        exact (chunked.unique piece (List.mem_of_getElem? placed) delivery.bytes
          (congrArg DataDescriptor.id same)).symm
      rw [placed, Option.map_some] at expected
      refine ⟨.chunkMismatch delivery.dataId delivery.index, ?_, ?_⟩
      · simp only [ChunkAssembler.take, ChunkAssembler.add, there, expected, ne_eq, different,
          not_false_eq_true, if_true]
      · simp only [ChunkAssembler.addChecked, there, expected, ne_eq, different,
          not_false_eq_true, if_true]

theorem Chunked.take_right (chunked : Chunked digest manifest pieces) {pending : Pending}
    (found : assembler.pending.lookup manifest.data.id = some pending)
    (collected : Collected manifest pieces pending) (own : delivery.dataId = manifest.data.id)
    (right : pieces[delivery.index]? = some delivery.bytes) (grown : Pending)
    (grows : grown =
      { pending with chunks := pending.chunks.insert delivery.index delivery.bytes }) :
    (grown.Lacks pieces → assembler.take digest delivery =
      (⟨assembler.pending.insert manifest.data.id grown⟩, .ok none)) ∧
    (¬ grown.Lacks pieces → assembler.take digest delivery =
      (⟨assembler.pending.erase manifest.data.id⟩, .ok (some pieces.flatten))) ∧
    assembler.addChecked digest delivery.dataId delivery.index delivery.bytes =
      some (assembler.take digest delivery) := by
  obtain ⟨keeps, completes⟩ := chunked.add found collected right grown grows
  rw [ChunkAssembler.take, own]
  refine ⟨keeps, completes, ?_⟩
  have sound : Collected manifest pieces grown := grows ▸ collected.insert right
  have expected : pending.manifest.chunks[delivery.index]? =
      some (DataDescriptor.of digest delivery.bytes) := by
    rw [collected.manifest, chunked.chunk, right, Option.map_some]
  have length : grown.manifest.chunks.length = pieces.length := by
    rw [sound.manifest, chunked.chunks, List.length_map]
  have step : assembler.addChecked digest manifest.data.id delivery.index delivery.bytes =
      if grown.chunks.keys.length < grown.manifest.chunks.length then
        some (⟨assembler.pending.insert manifest.data.id grown⟩, .ok none)
      else
        grown.assembledChecked.map fun assembled =>
          if digest assembled ≠ manifest.data.id then
            (⟨assembler.pending.erase manifest.data.id⟩,
              .error (.dataMismatch manifest.data.id (digest assembled)))
          else (⟨assembler.pending.erase manifest.data.id⟩, .ok (some assembled)) := by
    simp only [ChunkAssembler.addChecked, found, expected, ne_eq, not_true, if_false, grows]
  rw [step, length]
  by_cases lacks : grown.Lacks pieces
  · rw [if_pos (sound.lacks_iff.mp lacks), keeps lacks]
  · have present : ∀ index < asU32 grown.manifest.chunks.length, index ∈ grown.chunks := by
      intro index inside
      rw [length, asU32, Nat.mod_eq_of_lt chunked.few] at inside
      by_contra missing
      exact lacks ⟨index, inside, missing⟩
    have whole := chunked.assembled sound lacks
    rw [if_neg fun fewer => lacks (sound.lacks_iff.mpr fewer), completes lacks,
      Pending.assembledChecked_eq present, whole, Option.map_some, if_neg (by simp [chunked.data])]

theorem Stands.take_right (stands : Stands manifest pieces before past assembler)
    (chunked : Chunked digest manifest pieces) {pending : Pending}
    (found : assembler.pending.lookup manifest.data.id = some pending)
    (collected : Collected manifest pieces pending) (lacks : pending.Lacks pieces)
    (known : ∀ index, index ∈ pending.chunks ↔ Delivered manifest.data.id pieces past index)
    (own : delivery.dataId = manifest.data.id)
    (right : pieces[delivery.index]? = some delivery.bytes) :
    Stands manifest pieces before (past ++ [delivery]) (assembler.take digest delivery).1 ∧
      Answered digest manifest.data.id pieces past assembler delivery := by
  obtain ⟨grown, grows⟩ : ∃ grown : Pending,
    grown = { pending with chunks := pending.chunks.insert delivery.index delivery.bytes } :=
    ⟨_, rfl⟩
  obtain ⟨keeps, completes, checked⟩ := chunked.take_right found collected own right grown grows
  have member (index : Nat) :
      index ∈ grown.chunks ↔ index = delivery.index ∨ index ∈ pending.chunks := by
    rw [grows, AList.mem_insert]
  have knows (index : Nat) : index ∈ grown.chunks ↔
      Delivered manifest.data.id pieces (past ++ [delivery]) index := by
    rw [member, delivered_snoc, known, or_comm]
    refine or_congr_right ⟨?_, fun both => both.2.1.symm⟩
    rintro rfl
    exact ⟨own, rfl, right⟩
  by_cases more : grown.Lacks pieces
  · have step := keeps more
    obtain ⟨gap, inside, absent⟩ := more
    have incomplete : ¬ Completes manifest.data.id pieces past delivery := by
      rintro ⟨-, -, -, others⟩
      rw [member, not_or] at absent
      exact absent.2 ((known gap).mpr (others gap inside absent.1))
    refine ⟨?_, fun complete => absurd complete incomplete, ?_, ?_, checked⟩
    · rw [step]
      refine ⟨?_, .inl ⟨grown, AList.lookup_insert _, grows ▸ collected.insert right,
        ⟨gap, inside, absent⟩, knows⟩⟩
      intro other different none
      rw [AList.lookup_insert_ne different]
      exact stands.others other different none
    · intro whole same
      rw [step] at same
      cases same
    · intro error same
      rw [step] at same
      cases same
  · have step := completes more
    have full : ∀ index < pieces.length, index ∈ grown.chunks := by
      simpa only [Pending.Lacks, not_exists, not_and, not_not] using more
    refine ⟨?_, fun _ => by rw [step], ?_, ?_, checked⟩
    · rw [step]
      have all (index : Nat) (inside : index < pieces.length) := (knows index).mp (full index inside)
      refine ⟨?_, .inr ⟨AList.lookup_erase _ _, all⟩⟩
      intro other different none
      rw [AList.lookup_erase_ne different]
      exact stands.others other different none
    · -- what was missing before can only be the piece that came now
      intro whole _
      obtain ⟨gap, inside, absent⟩ := lacks
      have last : gap = delivery.index := ((member gap).mp (full gap inside)).resolve_right absent
      subst last
      refine ⟨own, right, fun already => absent ((known _).mpr already), ?_⟩
      intro index bound different
      exact (known index).mp (((member index).mp (full index bound)).resolve_left different)
    · intro error same
      rw [step] at same
      cases same

theorem Stands.take_own (stands : Stands manifest pieces before past assembler)
    (chunked : Chunked digest manifest pieces) (own : delivery.dataId = manifest.data.id) :
    Stands manifest pieces before (past ++ [delivery]) (assembler.take digest delivery).1 ∧
      Answered digest manifest.data.id pieces past assembler delivery := by
  rcases stands.own with ⟨pending, found, collected, lacks, known⟩ | ⟨none, all⟩
  · by_cases right : pieces[delivery.index]? = some delivery.bytes
    · exact stands.take_right chunked found collected lacks known own right
    · obtain ⟨error, step, checked⟩ := chunked.take_wrong found collected own right
      refine ⟨?_, .of_error step checked fun complete => right complete.2.1⟩
      rw [step]
      exact stands.of_wrong (.inr right)
  · have unknown : assembler.pending.lookup delivery.dataId = Option.none := by rw [own, none]
    refine ⟨?_, stands.answers_unknown unknown⟩
    rw [(ChunkAssembler.take_unknown unknown).1]
    refine ⟨stands.others, .inr ⟨none, fun index inside => ?_⟩⟩
    exact delivered_snoc.mpr (.inl (all index inside))

theorem Stands.take (stands : Stands manifest pieces before past assembler)
    (chunked : Chunked digest manifest pieces) (delivery : Delivery) :
    Stands manifest pieces before (past ++ [delivery]) (assembler.take digest delivery).1 := by
  by_cases own : delivery.dataId = manifest.data.id
  · exact (stands.take_own chunked own).1
  · exact stands.foreign own

theorem Chunked.stands_takeAll (chunked : Chunked digest manifest pieces) (before : ChunkAssembler)
    (past : List Delivery) :
    Stands manifest pieces before past ((before.begin manifest).takeAll digest past) := by
  induction past using List.reverseRecOn with
  | nil => exact chunked.stands_begin before
  | append_singleton past last ih =>
      rw [ChunkAssembler.takeAll, List.foldl_append]
      exact ih.take chunked last

end

section Whole

variable {digest : Bytes → DataId} {bytes : Bytes} {chunkSize : Nat}

theorem assembles_of_few (occupied : bytes ≠ []) (unique : NoCollision digest bytes chunkSize)
    (few : (chunksOf (splitSize chunkSize) bytes).length < 2 ^ 32) :
    Assembles digest bytes chunkSize := by
  intro before past
  have chunked := chunked_split (splitSize_pos chunkSize) occupied few unique
  rw [split_splitSize] at chunked
  have stands := chunked.stands_takeAll before past
  refine ⟨stands.listed chunked, ?_⟩
  intro delivery concerned
  by_cases own : delivery.dataId = digest bytes
  · exact (stands.take_own chunked own).2
  · exact stands.answers_unknown (stands.others _ own (concerned.resolve_left own))

/-- At first everything that 32 bits can count is listed. -/
theorem missing_begin (digest : Bytes → DataId) (bytes : Bytes) (chunkSize : Nat) :
    (ChunkAssembler.new.begin (.split digest bytes chunkSize)).missing (digest bytes) =
      List.range (asU32 (chunksOf (splitSize chunkSize) bytes).length) := by
  have length : (ChunkManifest.split digest bytes chunkSize).chunks.length =
      (chunksOf (splitSize chunkSize) bytes).length := by
    rw [← split_splitSize]
    simp [ChunkManifest.split, Nat.ne_of_gt (splitSize_pos chunkSize)]
  have begun : (ChunkAssembler.new.begin (.split digest bytes chunkSize)).pending.lookup
      (digest bytes) = some ⟨.split digest bytes chunkSize, ∅⟩ := AList.lookup_insert _
  simp only [ChunkAssembler.missing, begun, length]
  exact List.filter_eq_self.mpr fun index _ => decide_eq_true (AList.notMem_empty index)

theorem few_of_assembles (assembles : Assembles digest bytes chunkSize) :
    (chunksOf (splitSize chunkSize) bytes).length < 2 ^ 32 := by
  by_contra many
  have wrapped : asU32 (chunksOf (splitSize chunkSize) bytes).length < 2 ^ 32 :=
    Nat.mod_lt _ (by decide)
  have nothing : ¬ Delivered (digest bytes) (chunksOf (splitSize chunkSize) bytes) []
      (asU32 (chunksOf (splitSize chunkSize) bytes).length) := by
    rintro ⟨delivery, none, -⟩
    cases none
  have listed := ((assembles .new []).1.undelivered _).mpr ⟨by omega, nothing⟩
  rw [ChunkAssembler.takeAll, List.foldl_nil, missing_begin, List.mem_range] at listed
  exact Nat.lt_irrefl _ listed

/-- Pieces are put together again whatever is delivered in between exactly when there are fewer
of them than 32 bits can count. -/
theorem assembles_iff (occupied : bytes ≠ []) (unique : NoCollision digest bytes chunkSize) :
    Assembles digest bytes chunkSize ↔ (chunksOf (splitSize chunkSize) bytes).length < 2 ^ 32 :=
  ⟨few_of_assembles, assembles_of_few occupied unique⟩

def marking (marked : List Bytes) (bytes : Bytes) : DataId :=
  ⟨List.replicate dataIdLen (UInt8.ofNat (marked.idxOf bytes)), by simp⟩

theorem marking_unique {marked : List Bytes} (few : marked.length < 256) {piece other : Bytes}
    (member : piece ∈ marked) (same : marking marked other = marking marked piece) :
    other = piece := by
  have bytes : UInt8.ofNat (marked.idxOf other) = UInt8.ofNat (marked.idxOf piece) := by
    have nonzero : dataIdLen ≠ 0 := by decide
    exact (List.replicate_right_inj nonzero).mp (congrArg DataId.asBytes same)
  have numbers := congrArg UInt8.toNat bytes
  have inside := List.idxOf_lt_length_of_mem member
  have bound : marked.idxOf other ≤ marked.length := List.idxOf_le_length
  simp only [UInt8.toNat_ofNat'] at numbers
  have equal : marked.idxOf other = marked.idxOf piece := by omega
  exact ((List.idxOf_inj member).mp equal.symm).symm

theorem noCollision_marking {marked : List Bytes} (few : marked.length < 256)
    (all : ∀ piece ∈ bytes :: chunksOf (splitSize chunkSize) bytes, piece ∈ marked) :
    NoCollision (marking marked) bytes chunkSize :=
  fun piece member _ same => marking_unique few (all piece member) same

end Whole

theorem too_many_to_list :
    ∃ digest bytes chunkSize, bytes ≠ [] ∧ NoCollision digest bytes chunkSize ∧
      (chunksOf (splitSize chunkSize) bytes).length = 2 ^ 32 ∧
      (ChunkAssembler.new.begin (.split digest bytes chunkSize)).missing (digest bytes) = [] ∧
      ¬ Assembles digest bytes chunkSize := by
  have count : (chunksOf (splitSize 1) (List.replicate (2 ^ 32) (0 : UInt8))).length = 2 ^ 32 := by
    rw [length_chunksOf, List.length_replicate, show splitSize 1 = 1 from rfl, Nat.div_one,
      Nat.add_sub_cancel]
  refine ⟨marking [List.replicate (2 ^ 32) 0, [0]], List.replicate (2 ^ 32) 0, 1, ?_, ?_, count,
    ?_, ?_⟩
  · exact List.ne_nil_of_length_pos (by rw [List.length_replicate]; decide)
  · refine noCollision_marking (by decide) ?_
    intro piece member
    rcases List.mem_cons.mp member with rfl | chunk
    · exact List.mem_cons_self
    · obtain ⟨index, inside, rfl⟩ := List.mem_map.mp chunk
      have below : index < 2 ^ 32 := by
        rw [← length_chunksOf, count] at inside
        exact List.mem_range.mp inside
      have one : min (splitSize 1) (2 ^ 32 - index * splitSize 1) = 1 := by
        rw [show splitSize 1 = 1 from rfl]
        omega
      rw [List.drop_replicate, List.take_replicate, one]
      exact List.mem_cons_of_mem _ List.mem_cons_self
  · rw [missing_begin, count]
    rfl
  · intro assembles
    have few := few_of_assembles assembles
    omega

theorem repeats_assemble :
    Assembles (marking [[1, 2, 1], [1], [2]]) [1, 2, 1] 1 :=
  (assembles_iff (by decide) (noCollision_marking (by decide) (by decide))).mpr (by decide)

end AetherMesh
