import AetherMesh.Core.Data
import Mathlib.Data.List.AList
import Mathlib.Data.List.MinMax

/-!
The content-addressed byte store. `digest` is the hash that names a blob. Over its
budget a store drops the blobs that were used longest ago; the counters are unbounded.
-/

namespace AetherMesh

structure Blob where
  bytes : Bytes
  usedAt : Nat
deriving DecidableEq

structure DataStore where
  blobs : AList fun _ : DataId => Blob
  bytes : Nat
  budget : Option Nat
  clock : Nat

def DataDescriptor.of (digest : Bytes → DataId) (bytes : Bytes) : DataDescriptor :=
  ⟨digest bytes, bytes.length⟩

namespace DataStore

def new : DataStore := ⟨∅, 0, none, 0⟩

def withBudget (budget : Nat) : DataStore := ⟨∅, 0, some budget, 0⟩

def bytesOf (store : DataStore) (dataId : DataId) : Option Bytes :=
  (store.blobs.lookup dataId).map Blob.bytes

def contains (store : DataStore) (dataId : DataId) : Bool := (store.blobs.lookup dataId).isSome

def touch (store : DataStore) (dataId : DataId) : DataStore :=
  match store.blobs.lookup dataId with
  | some blob =>
      { store with
        clock := store.clock + 1
        blobs := store.blobs.insert dataId { blob with usedAt := store.clock + 1 } }
  | none => { store with clock := store.clock + 1 }

def dropBlob (store : DataStore) (dataId : DataId) : DataStore × Bool :=
  match store.blobs.lookup dataId with
  | some blob =>
      ({ store with
         blobs := store.blobs.erase dataId
         bytes := store.bytes - blob.bytes.length }, true)
  | none => (store, false)

def oldest (store : DataStore) (keep : DataId) : Option DataId :=
  ((store.blobs.entries.filter fun entry => entry.1 ≠ keep).argmin
    fun entry => entry.2.usedAt).map Sigma.fst

/-- Every round but the last drops a blob, so there are at most as many rounds as blobs. -/
def evictFrom (keep : DataId) (budget : Nat) :
    (left : Nat) → DataStore → List DataId → DataStore × List DataId
  | 0, store, evicted => (store, evicted)
  | left + 1, store, evicted =>
      if budget < store.bytes then
        match store.oldest keep with
        | some dataId => evictFrom keep budget left (store.dropBlob dataId).1 (evicted ++ [dataId])
        | none => (store, evicted)
      else (store, evicted)

def evictOverBudget (store : DataStore) (keep : DataId) : DataStore × List DataId :=
  match store.budget with
  | none => (store, [])
  | some budget => evictFrom keep budget store.blobs.entries.length store []

def store (store : DataStore) (dataId : DataId) (bytes : Bytes) : DataStore × List DataId :=
  if store.contains dataId then (store.touch dataId, [])
  else
    evictOverBudget
      { store with
        clock := store.clock + 1
        bytes := store.bytes + bytes.length
        blobs := store.blobs.insert dataId ⟨bytes, store.clock + 1⟩ } dataId

def putEvicting (digest : Bytes → DataId) (store : DataStore) (bytes : Bytes) :
    DataStore × DataDescriptor × List DataId :=
  let stored := store.store (digest bytes) bytes
  (stored.1, DataDescriptor.of digest bytes, stored.2)

def put (digest : Bytes → DataId) (store : DataStore) (bytes : Bytes) :
    DataStore × DataDescriptor :=
  let stored := store.putEvicting digest bytes
  (stored.1, stored.2.1)

inductive Error
  | hashMismatch (expected actual : DataId)
deriving DecidableEq

def insertEvicting (digest : Bytes → DataId) (store : DataStore) (descriptor : DataDescriptor)
    (bytes : Bytes) : DataStore × Except Error (Bool × List DataId) :=
  let actual := DataDescriptor.of digest bytes
  if actual.id ≠ descriptor.id then (store, .error (.hashMismatch descriptor.id actual.id))
  else if store.contains descriptor.id then (store.touch descriptor.id, .ok (false, []))
  else
    let stored := store.store descriptor.id bytes
    (stored.1, .ok (true, stored.2))

def get (store : DataStore) (dataId : DataId) : DataStore × Option Bytes :=
  (store.touch dataId, store.bytesOf dataId)

def Keyed (digest : Bytes → DataId) (store : DataStore) : Prop :=
  ∀ dataId bytes, store.bytesOf dataId = some bytes → digest bytes = dataId

theorem contains_iff {store : DataStore} {dataId : DataId} :
    store.contains dataId = true ↔ ∃ bytes, store.bytesOf dataId = some bytes := by
  simp [contains, bytesOf, Option.isSome_iff_exists]

theorem contains_eq_isSome (store : DataStore) (dataId : DataId) :
    store.contains dataId = (store.bytesOf dataId).isSome := by
  simp [contains, bytesOf]

@[simp]
theorem bytesOf_touch (store : DataStore) (dataId other : DataId) :
    (store.touch dataId).bytesOf other = store.bytesOf other := by
  unfold touch bytesOf
  split
  · rename_i blob found
    by_cases same : other = dataId
    · subst same
      simp [found]
    · simp [AList.lookup_insert_ne same]
  · rfl

@[simp]
theorem budget_touch (store : DataStore) (dataId : DataId) :
    (store.touch dataId).budget = store.budget := by
  unfold touch
  split <;> rfl

theorem bytesOf_dropBlob (store : DataStore) (dataId other : DataId) :
    (store.dropBlob dataId).1.bytesOf other =
      if other = dataId then none else store.bytesOf other := by
  unfold dropBlob
  split
  · by_cases same : other = dataId
    · subst same
      simp [bytesOf]
    · simp [same, bytesOf, AList.lookup_erase_ne same]
  · rename_i missing
    by_cases same : other = dataId
    · subst same
      simp [bytesOf, missing]
    · simp [same]

theorem budget_dropBlob (store : DataStore) (dataId : DataId) :
    (store.dropBlob dataId).1.budget = store.budget := by
  unfold dropBlob
  split <;> rfl

theorem oldest_eq_some {store : DataStore} {keep dataId : DataId}
    (found : store.oldest keep = some dataId) :
    store.contains dataId = true ∧ dataId ≠ keep := by
  simp only [oldest, Option.map_eq_some_iff] at found
  obtain ⟨entry, least, rfl⟩ := found
  have member := List.argmin_mem least
  simp only [List.mem_filter, ne_eq, decide_not, Bool.not_eq_true', decide_eq_false_iff_not]
    at member
  refine ⟨?_, member.2⟩
  rw [contains, AList.lookup_isSome, AList.mem_keys]
  exact List.mem_map_of_mem member.1

structure Evicted (before after : DataStore) (keep : DataId) (evicted : List DataId) : Prop where
  held : ∀ dataId ∈ evicted, before.contains dataId = true
  distinct : evicted.Nodup
  spared : keep ∉ evicted
  left : ∀ other, after.bytesOf other = if other ∈ evicted then none else before.bytesOf other
  budget : after.budget = before.budget

theorem evictFrom_spec (keep : DataId) (budget left : Nat) (before store after : DataStore)
    (evicted all : List DataId) (already : Evicted before store keep evicted)
    (done : evictFrom keep budget left store evicted = (after, all)) :
    Evicted before after keep all := by
  induction left generalizing store evicted with
  | zero =>
      cases done
      exact already
  | succ left ih =>
      simp only [evictFrom] at done
      split at done
      · split at done
        · rename_i dataId found
          obtain ⟨contained, other⟩ := oldest_eq_some found
          refine ih _ _ ?_ done
          have fresh : dataId ∉ evicted := by
            intro gone
            rw [contains_eq_isSome, already.left, if_pos gone] at contained
            cases contained
          refine ⟨?_, ?_, ?_, ?_, ?_⟩
          · intro gone listed
            rcases List.mem_append.mp listed with old | new
            · exact already.held gone old
            · obtain rfl := List.mem_singleton.mp new
              obtain ⟨bytes, present⟩ := contains_iff.mp contained
              rw [already.left] at present
              split at present
              · cases present
              · exact contains_iff.mpr ⟨bytes, present⟩
          · exact List.nodup_append_comm.mp (List.nodup_cons.mpr ⟨fresh, already.distinct⟩)
          · simp only [List.mem_append, List.mem_singleton, not_or]
            exact ⟨already.spared, Ne.symm other⟩
          · intro third
            rw [bytesOf_dropBlob, already.left]
            by_cases same : third = dataId
            · simp [same]
            · simp [same]
          · rw [budget_dropBlob]
            exact already.budget
        · cases done
          exact already
      · cases done
        exact already

theorem evictOverBudget_spec (store : DataStore) (keep : DataId) :
    Evicted store (store.evictOverBudget keep).1 keep (store.evictOverBudget keep).2 := by
  have start : Evicted store store keep [] := ⟨by simp, by simp, by simp, by simp, rfl⟩
  unfold evictOverBudget
  split
  · exact start
  · exact evictFrom_spec keep _ _ store store _ [] _ start rfl

section

variable (before : DataStore) (dataId : DataId) (bytes : Bytes)

theorem stored_spared : dataId ∉ (before.store dataId bytes).2 := by
  unfold store
  split
  · simp
  · exact (evictOverBudget_spec _ dataId).spared

theorem bytesOf_store (other : DataId) :
    (before.store dataId bytes).1.bytesOf other =
      if other ∈ (before.store dataId bytes).2 then none
      else if other = dataId then some ((before.bytesOf dataId).getD bytes)
      else before.bytesOf other := by
  unfold store
  split
  · rename_i present
    obtain ⟨old, found⟩ := contains_iff.mp present
    by_cases same : other = dataId
    · simp [same, found]
    · simp [same]
  · rename_i missing
    have absent : before.bytesOf dataId = none := by
      rw [contains_eq_isSome] at missing
      simpa using missing
    rw [(evictOverBudget_spec _ dataId).left]
    by_cases same : other = dataId
    · subst same
      rw [absent]
      simp [bytesOf]
    · simp [same, bytesOf, AList.lookup_insert_ne same]

theorem budget_store : (before.store dataId bytes).1.budget = before.budget := by
  unfold store
  split
  · exact budget_touch before dataId
  · exact (evictOverBudget_spec _ dataId).budget

theorem held_of_evicted {gone : DataId} (evicted : gone ∈ (before.store dataId bytes).2) :
    before.contains gone = true := by
  have other : gone ≠ dataId := by
    rintro rfl
    exact stored_spared before gone bytes evicted
  unfold store at evicted
  split at evicted
  · cases evicted
  · have held := (evictOverBudget_spec _ dataId).held gone evicted
    rw [contains_eq_isSome] at held ⊢
    simpa [bytesOf, AList.lookup_insert_ne other] using held

theorem evicted_distinct : (before.store dataId bytes).2.Nodup := by
  unfold store
  split
  · simp
  · exact (evictOverBudget_spec _ dataId).distinct

theorem evicted_unbounded (unbounded : before.budget = none) :
    (before.store dataId bytes).2 = [] := by
  unfold store
  split
  · rfl
  · simp [evictOverBudget, unbounded]

end

theorem Keyed.store {digest : Bytes → DataId} {before : DataStore} (keyed : before.Keyed digest)
    (bytes : Bytes) : (before.store (digest bytes) bytes).1.Keyed digest := by
  intro other content found
  rw [bytesOf_store] at found
  split at found
  · cases found
  · split at found
    · rename_i same
      subst same
      cases old : before.bytesOf (digest bytes) with
      | none => simp_all
      | some held =>
          simp only [old, Option.getD_some, Option.some.injEq] at found
          subst found
          exact keyed _ _ old
    · exact keyed _ _ found

/-- Storing the blob evicts nothing: it is there, it fits, or there is nothing else to evict. -/
def hasRoom (store : DataStore) (dataId : DataId) (bytes : Bytes) : Bool :=
  store.contains dataId || store.blobs.entries.isEmpty ||
    match store.budget with
    | none => true
    | some budget => store.bytes + bytes.length ≤ budget

theorem evictFrom_evicted (keep : DataId) (budget left : Nat) (store : DataStore)
    (evicted : List DataId) : evicted.IsPrefix (evictFrom keep budget left store evicted).2 := by
  induction left generalizing store evicted with
  | zero => exact List.prefix_refl evicted
  | succ left ih =>
      simp only [evictFrom]
      split
      · split
        · exact (List.prefix_append _ _).trans (ih _ _)
        · exact List.prefix_refl evicted
      · exact List.prefix_refl evicted

theorem oldest_insert {store : DataStore} {dataId : DataId} (absent : dataId ∉ store.blobs)
    (bytes clock : Nat) (budget : Option Nat) (blob : Blob) :
    oldest ⟨store.blobs.insert dataId blob, bytes, budget, clock⟩ dataId = none ↔
      store.blobs.entries = [] := by
  have others : store.blobs.entries.filter (fun entry => entry.1 ≠ dataId) =
      store.blobs.entries := by
    refine List.filter_eq_self.mpr fun entry listed => ?_
    rw [decide_eq_true_eq]
    rintro rfl
    exact absent (AList.mem_keys.mpr (List.mem_map_of_mem listed))
  rw [oldest, Option.map_eq_none_iff, List.argmin_eq_none, AList.entries_insert_of_notMem absent,
    List.filter_cons_of_neg (by simp), others]

theorem evicted_nil_iff (store : DataStore) (dataId : DataId) (bytes : Bytes) :
    (store.store dataId bytes).2 = [] ↔ store.hasRoom dataId bytes = true := by
  unfold DataStore.store hasRoom
  by_cases present : store.contains dataId = true
  · simp [present]
  · have absent : dataId ∉ store.blobs := by
      rw [contains, AList.lookup_isSome] at present
      exact present
    simp only [present, Bool.false_eq_true, if_false, Bool.false_or, evictOverBudget]
    cases store.budget with
    | none => simp
    | some budget =>
        have length : (store.blobs.insert dataId ⟨bytes, store.clock + 1⟩).entries.length =
            store.blobs.entries.length + 1 := by
          rw [AList.entries_insert_of_notMem absent, List.length_cons]
        simp only [length, evictFrom]
        by_cases exceeds : budget < store.bytes + bytes.length
        · simp only [exceeds, if_true]
          split
          · rename_i gone found
            have some : store.blobs.entries ≠ [] := fun none => by
              rw [(oldest_insert absent _ _ _ _).mpr none] at found
              cases found
            have kept := evictFrom_evicted dataId budget store.blobs.entries.length
              (dropBlob ⟨store.blobs.insert dataId ⟨bytes, store.clock + 1⟩,
                store.bytes + bytes.length, .some budget, store.clock + 1⟩ gone).1 [gone]
            simp only [List.nil_append]
            constructor
            · intro none
              rw [none] at kept
              simp at kept
            · intro room
              simp [some, Nat.not_le_of_lt exceeds] at room
          · rename_i found
            simp [(oldest_insert absent _ _ _ _).mp found]
        · simp [exceeds, Nat.le_of_not_lt exceeds]

structure Grown (digest : Bytes → DataId) (before after : DataStore) : Prop where
  unbounded : after.budget = none
  keyed : after.Keyed digest
  within : ∀ dataId bytes, before.bytesOf dataId = some bytes → after.bytesOf dataId = some bytes

namespace Grown

variable {digest : Bytes → DataId} {first second third : DataStore}

theorem trans (early : Grown digest first second) (late : Grown digest second third) :
    Grown digest first third where
  unbounded := late.unbounded
  keyed := late.keyed
  within dataId bytes held := late.within dataId bytes (early.within dataId bytes held)

theorem contains (grown : Grown digest first second) {dataId : DataId}
    (held : first.contains dataId = true) : second.contains dataId = true := by
  obtain ⟨bytes, found⟩ := contains_iff.mp held
  exact contains_iff.mpr ⟨bytes, grown.within dataId bytes found⟩

theorem of_same (unbounded : first.budget = none) (keyed : first.Keyed digest)
    (same : second.bytesOf = first.bytesOf) (budget : second.budget = first.budget) :
    Grown digest first second where
  unbounded := budget.trans unbounded
  keyed dataId bytes held := keyed dataId bytes (by rw [← same]; exact held)
  within dataId bytes held := by rw [same]; exact held

theorem store (unbounded : first.budget = none) (keyed : first.Keyed digest) (bytes : Bytes) :
    Grown digest first (first.store (digest bytes) bytes).1 where
  unbounded := (budget_store first _ bytes).trans unbounded
  keyed := keyed.store bytes
  within dataId content held := by
    rw [bytesOf_store, evicted_unbounded first _ bytes unbounded]
    by_cases same : dataId = digest bytes
    · simp [← same, held]
    · simp [same, held]

end Grown

theorem contains_store_iff {before : DataStore} {dataId other : DataId} {bytes : Bytes} :
    (before.store dataId bytes).1.contains other = true ↔
      other ∉ (before.store dataId bytes).2 ∧ (other = dataId ∨ before.contains other = true) := by
  rw [contains_eq_isSome, contains_eq_isSome, bytesOf_store]
  by_cases gone : other ∈ (before.store dataId bytes).2
  · simp [gone]
  · by_cases same : other = dataId
    · simp [same]
    · simp [gone, same]

theorem contains_congr {first second : DataStore} (same : first.bytesOf = second.bytesOf) :
    first.contains = second.contains := by
  funext dataId
  rw [contains_eq_isSome, contains_eq_isSome, same]

theorem contains_store (before : DataStore) (dataId : DataId) (bytes : Bytes) :
    (before.store dataId bytes).1.contains dataId = true := by
  have spared := stored_spared before dataId bytes
  rw [contains_eq_isSome, bytesOf_store]
  simp [spared]

end DataStore

end AetherMesh
