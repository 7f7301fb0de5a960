import AetherMesh.Core.Store
import Mathlib.Algebra.BigOperators.Group.List.Basic
import Mathlib.Algebra.GroupWithZero.Nat
import Mathlib.Data.List.Lex
import Mathlib.Data.List.Sort

/-!
What holds of a store after any calls: keys are hashes, the counter is the sum of the lengths,
no two blobs carry the same stamp, and a blob that was just stored leaves the rest within the
budget.
-/

namespace AetherMesh.DataStore

def insert (digest : Bytes → DataId) (store : DataStore) (descriptor : DataDescriptor)
    (bytes : Bytes) : DataStore × Except Error Bool :=
  let inserted := store.insertEvicting digest descriptor bytes
  (inserted.1, inserted.2.map Prod.fst)

def remove (store : DataStore) (dataId : DataId) : DataStore × Bool := store.dropBlob dataId

def ordinals (dataId : DataId) : List Nat := dataId.asBytes.map UInt8.toNat

def descriptors (store : DataStore) : List DataDescriptor :=
  (store.blobs.entries.map fun entry => ⟨entry.1, entry.2.bytes.length⟩).insertionSort
    fun left right => ordinals left.id ≤ ordinals right.id

/-- A counter that would pass below zero panics. -/
def dropBlobChecked (store : DataStore) (dataId : DataId) : Option (DataStore × Bool) :=
  match store.blobs.lookup dataId with
  | some blob => if blob.bytes.length ≤ store.bytes then some (store.dropBlob dataId) else none
  | none => some (store.dropBlob dataId)

def evictFromChecked (keep : DataId) (budget : Nat) :
    (left : Nat) → DataStore → List DataId → Option (DataStore × List DataId)
  | 0, store, evicted => some (store, evicted)
  | left + 1, store, evicted =>
      if budget < store.bytes then
        match store.oldest keep with
        | some dataId =>
            (store.dropBlobChecked dataId).bind fun dropped =>
              evictFromChecked keep budget left dropped.1 (evicted ++ [dataId])
        | none => some (store, evicted)
      else some (store, evicted)

def evictOverBudgetChecked (store : DataStore) (keep : DataId) : Option (DataStore × List DataId) :=
  match store.budget with
  | none => some (store, [])
  | some budget => evictFromChecked keep budget store.blobs.entries.length store []

def enter (store : DataStore) (dataId : DataId) (bytes : Bytes) : DataStore :=
  { store with
    clock := store.clock + 1
    bytes := store.bytes + bytes.length
    blobs := store.blobs.insert dataId ⟨bytes, store.clock + 1⟩ }

def storeChecked (store : DataStore) (dataId : DataId) (bytes : Bytes) :
    Option (DataStore × List DataId) :=
  if store.contains dataId then some (store.touch dataId, [])
  else (store.enter dataId bytes).evictOverBudgetChecked dataId

inductive Call
  | put (bytes : Bytes)
  | putEvicting (bytes : Bytes)
  | insert (descriptor : DataDescriptor) (bytes : Bytes)
  | insertEvicting (descriptor : DataDescriptor) (bytes : Bytes)
  | get (dataId : DataId)
  | remove (dataId : DataId)
deriving DecidableEq

def call (digest : Bytes → DataId) (store : DataStore) : Call → DataStore
  | .put bytes => (store.put digest bytes).1
  | .putEvicting bytes => (store.putEvicting digest bytes).1
  | .insert descriptor bytes => (store.insert digest descriptor bytes).1
  | .insertEvicting descriptor bytes => (store.insertEvicting digest descriptor bytes).1
  | .get dataId => (store.get dataId).1
  | .remove dataId => (store.remove dataId).1

def calls (digest : Bytes → DataId) (store : DataStore) (made : List Call) : DataStore :=
  made.foldl (call digest) store

def insertChecked (digest : Bytes → DataId) (store : DataStore) (descriptor : DataDescriptor)
    (bytes : Bytes) : Option DataStore :=
  if digest bytes ≠ descriptor.id then some store
  else (store.storeChecked descriptor.id bytes).map Prod.fst

def callChecked (digest : Bytes → DataId) (store : DataStore) : Call → Option DataStore
  | .put bytes => (store.storeChecked (digest bytes) bytes).map Prod.fst
  | .putEvicting bytes => (store.storeChecked (digest bytes) bytes).map Prod.fst
  | .insert descriptor bytes => store.insertChecked digest descriptor bytes
  | .insertEvicting descriptor bytes => store.insertChecked digest descriptor bytes
  | .get dataId => some (store.touch dataId)
  | .remove dataId => (store.dropBlobChecked dataId).map Prod.fst

inductive Offers (digest : Bytes → DataId) : Call → Bytes → Prop
  | put (bytes : Bytes) : Offers digest (.put bytes) bytes
  | putEvicting (bytes : Bytes) : Offers digest (.putEvicting bytes) bytes
  | insert (descriptor : DataDescriptor) (bytes : Bytes) (right : digest bytes = descriptor.id) :
      Offers digest (.insert descriptor bytes) bytes
  | insertEvicting (descriptor : DataDescriptor) (bytes : Bytes)
      (right : digest bytes = descriptor.id) :
      Offers digest (.insertEvicting descriptor bytes) bytes

abbrev Entry := Sigma fun _ : DataId => Blob

def total (entries : List Entry) : Nat := (entries.map fun entry => entry.2.bytes.length).sum

structure Sound (digest : Bytes → DataId) (store : DataStore) : Prop where
  keyed : ∀ entry ∈ store.blobs.entries, digest entry.2.bytes = entry.1
  counted : store.bytes = total store.blobs.entries
  stamped : (store.blobs.entries.map fun entry => entry.2.usedAt).Nodup
  ticked : ∀ entry ∈ store.blobs.entries, entry.2.usedAt ≤ store.clock

variable {digest : Bytes → DataId} {store : DataStore} {dataId : DataId} {bytes : Bytes}

theorem perm_erase {blob : Blob} (found : store.blobs.lookup dataId = some blob) :
    store.blobs.entries.Perm (⟨dataId, blob⟩ :: (store.blobs.erase dataId).entries) := by
  have member : dataId ∈ store.blobs.keys := by
    rw [← AList.mem_keys, ← AList.lookup_isSome, found]
    rfl
  obtain ⟨other, front, back, -, whole, erased⟩ := List.exists_of_kerase member
  have same : other = blob := by
    have listed : (⟨dataId, other⟩ : Entry) ∈ store.blobs.entries := by simp [whole]
    have known := AList.mem_lookup_iff.mpr listed
    rw [found] at known
    exact (Option.some.inj known).symm
  have left : (store.blobs.erase dataId).entries = front ++ back := erased
  rw [left, whole, same]
  exact List.perm_middle

theorem total_cons (entry : Entry) (rest : List Entry) :
    total (entry :: rest) = entry.2.bytes.length + total rest := by
  simp [total]

theorem total_perm {first second : List Entry} (same : first.Perm second) :
    total first = total second :=
  (same.map fun entry : Entry => entry.2.bytes.length).sum_eq

theorem Sound.without (sound : Sound digest store) {blob : Blob}
    (found : store.blobs.lookup dataId = some blob) :
    store.bytes = blob.bytes.length + total (store.blobs.erase dataId).entries ∧
      ((store.blobs.erase dataId).entries.map fun entry => entry.2.usedAt).Nodup ∧
      ∀ entry ∈ (store.blobs.erase dataId).entries, entry ∈ store.blobs.entries := by
  have parted := perm_erase found
  refine ⟨?_, ?_, ?_⟩
  · rw [sound.counted, total_perm parted, total_cons]
  · have stamps := (parted.map fun entry : Entry => entry.2.usedAt).nodup_iff.mp sound.stamped
    exact (List.nodup_cons.mp stamps).2
  · exact fun entry listed => parted.symm.subset (List.mem_cons_of_mem _ listed)

theorem dropBlobChecked_eq (sound : Sound digest store) :
    store.dropBlobChecked dataId = some (store.dropBlob dataId) := by
  unfold dropBlobChecked
  split
  · rename_i blob found
    exact if_pos (by have counted := (sound.without found).1; omega)
  · rfl

theorem Sound.dropBlob (sound : Sound digest store) : Sound digest (store.dropBlob dataId).1 := by
  unfold DataStore.dropBlob
  split
  · rename_i blob found
    obtain ⟨counted, stamps, within⟩ := sound.without found
    refine ⟨fun entry listed => sound.keyed entry (within entry listed), ?_, stamps,
      fun entry listed => sound.ticked entry (within entry listed)⟩
    simp only
    omega
  · exact sound

theorem Sound.touch (sound : Sound digest store) : Sound digest (store.touch dataId) := by
  unfold DataStore.touch
  split
  · rename_i blob found
    obtain ⟨counted, stamps, within⟩ := sound.without found
    have entries : (store.blobs.insert dataId { blob with usedAt := store.clock + 1 }).entries =
        ⟨dataId, { blob with usedAt := store.clock + 1 }⟩ ::
          (store.blobs.erase dataId).entries := rfl
    have old := sound.keyed ⟨dataId, blob⟩ (AList.mem_lookup_iff.mp found)
    constructor
    · simp only [entries, List.forall_mem_cons]
      exact ⟨old, fun entry listed => sound.keyed entry (within entry listed)⟩
    · simp only [entries, total_cons]
      exact counted
    · simp only [entries, List.map_cons, List.nodup_cons]
      refine ⟨?_, stamps⟩
      intro again
      obtain ⟨entry, listed, same⟩ := List.mem_map.mp again
      have early := sound.ticked entry (within entry listed)
      omega
    · simp only [entries, List.forall_mem_cons]
      refine ⟨Nat.le_refl _, fun entry listed => ?_⟩
      have early := sound.ticked entry (within entry listed)
      omega
  · exact ⟨sound.keyed, sound.counted, sound.stamped, fun entry listed =>
      Nat.le_succ_of_le (sound.ticked entry listed)⟩

theorem not_mem_blobs (absent : store.contains dataId = false) : dataId ∉ store.blobs := by
  intro member
  rw [contains, AList.lookup_isSome.mpr member] at absent
  cases absent

theorem enter_entries (absent : store.contains dataId = false) :
    (store.enter dataId bytes).blobs.entries =
      ⟨dataId, bytes, store.clock + 1⟩ :: store.blobs.entries :=
  AList.entries_insert_of_notMem (not_mem_blobs absent)

theorem Sound.enter (sound : Sound digest store) (absent : store.contains dataId = false)
    (right : digest bytes = dataId) : Sound digest (store.enter dataId bytes) := by
  have entries := @enter_entries store dataId bytes absent
  constructor
  · rw [entries, List.forall_mem_cons]
    exact ⟨right, sound.keyed⟩
  · rw [entries, total_cons, ← sound.counted]
    exact Nat.add_comm _ _
  · rw [entries, List.map_cons, List.nodup_cons]
    refine ⟨?_, sound.stamped⟩
    intro again
    obtain ⟨entry, listed, same⟩ := List.mem_map.mp again
    have early := sound.ticked entry listed
    simp only at same
    omega
  · rw [entries, List.forall_mem_cons]
    exact ⟨Nat.le_refl _, fun entry listed => Nat.le_succ_of_le (sound.ticked entry listed)⟩

theorem evictFrom_sound {keep : DataId} {budget : Nat} (left : Nat) (evicted : List DataId)
    (sound : Sound digest store) :
    Sound digest (evictFrom keep budget left store evicted).1 ∧
      evictFromChecked keep budget left store evicted =
        some (evictFrom keep budget left store evicted) := by
  induction left generalizing store evicted with
  | zero => exact ⟨sound, rfl⟩
  | succ left ih =>
      simp only [evictFrom, evictFromChecked]
      split
      · cases store.oldest keep with
        | none => exact ⟨sound, rfl⟩
        | some dataId =>
            simp only [dropBlobChecked_eq sound, Option.bind_some]
            exact ih _ sound.dropBlob
      · exact ⟨sound, rfl⟩

theorem contains_enter : (store.enter dataId bytes).contains dataId = true :=
  AList.lookup_isSome.mpr ((AList.mem_insert _).mpr (.inl rfl))

theorem store_absent (absent : store.contains dataId = false) :
    store.store dataId bytes = (store.enter dataId bytes).evictOverBudget dataId := by
  rw [DataStore.store, if_neg (by simp [absent])]
  rfl

theorem store_present (present : store.contains dataId = true) :
    store.store dataId bytes = (store.touch dataId, []) := if_pos present

theorem Sound.store_checked (sound : Sound digest store) (right : digest bytes = dataId) :
    Sound digest (store.store dataId bytes).1 ∧
      store.storeChecked dataId bytes = some (store.store dataId bytes) := by
  cases present : store.contains dataId with
  | true =>
      rw [store_present present, storeChecked, if_pos present]
      exact ⟨sound.touch, rfl⟩
  | false =>
      have entered := sound.enter present right
      rw [store_absent present, storeChecked, if_neg (by simp [present]), evictOverBudget,
        evictOverBudgetChecked]
      cases (store.enter dataId bytes).budget with
      | none => exact ⟨entered, rfl⟩
      | some budget => exact evictFrom_sound _ [] entered

theorem insertEvicting_cases (descriptor : DataDescriptor) :
    (digest bytes ≠ descriptor.id ∧
      (store.insertEvicting digest descriptor bytes).1 = store) ∨
    (digest bytes = descriptor.id ∧
      (store.insertEvicting digest descriptor bytes).1 = (store.store descriptor.id bytes).1) := by
  by_cases right : digest bytes = descriptor.id
  · refine .inr ⟨right, ?_⟩
    have same : (DataDescriptor.of digest bytes).id = descriptor.id := right
    rw [insertEvicting, if_neg (not_not.mpr same)]
    cases present : store.contains descriptor.id with
    | true => rw [if_pos rfl, store_present present]
    | false => rfl
  · refine .inl ⟨right, ?_⟩
    have other : (DataDescriptor.of digest bytes).id ≠ descriptor.id := right
    rw [insertEvicting, if_pos other]

theorem Sound.insert_checked (sound : Sound digest store) (descriptor : DataDescriptor) :
    Sound digest (store.insertEvicting digest descriptor bytes).1 ∧
      store.insertChecked digest descriptor bytes =
        some (store.insertEvicting digest descriptor bytes).1 := by
  rcases @insertEvicting_cases digest store bytes descriptor with
    ⟨wrong, same⟩ | ⟨right, same⟩
  · rw [same, insertChecked, if_pos wrong]
    exact ⟨sound, rfl⟩
  · obtain ⟨stored, checked⟩ := sound.store_checked right
    rw [same, insertChecked, if_neg (not_not.mpr right), checked]
    exact ⟨stored, rfl⟩

theorem Sound.call (sound : Sound digest store) (made : Call) :
    Sound digest (store.call digest made) ∧
      store.callChecked digest made = some (store.call digest made) := by
  cases made with
  | put bytes =>
      obtain ⟨stored, checked⟩ := @Sound.store_checked digest store (digest bytes) bytes sound rfl
      exact ⟨stored, by rw [callChecked, checked]; rfl⟩
  | putEvicting bytes =>
      obtain ⟨stored, checked⟩ := @Sound.store_checked digest store (digest bytes) bytes sound rfl
      exact ⟨stored, by rw [callChecked, checked]; rfl⟩
  | insert descriptor bytes => exact sound.insert_checked descriptor
  | insertEvicting descriptor bytes => exact sound.insert_checked descriptor
  | get dataId => exact ⟨sound.touch, rfl⟩
  | remove dataId =>
      exact ⟨sound.dropBlob, by rw [callChecked, dropBlobChecked_eq sound]; rfl⟩

theorem calls_sound (sound : Sound digest store) (made : List Call) :
    Sound digest (store.calls digest made) ∧
      made.foldlM (callChecked digest) store = some (store.calls digest made) := by
  induction made generalizing store with
  | nil => exact ⟨sound, rfl⟩
  | cons first rest ih =>
      obtain ⟨after, checked⟩ := sound.call first
      rw [List.foldlM_cons, checked, Option.bind_eq_bind, Option.bind_some]
      exact ih after

theorem ordinals_injective : Function.Injective ordinals := by
  intro left right same
  have bytes : left.asBytes = right.asBytes :=
    List.map_injective_iff.mpr (fun _ _ equal => UInt8.toNat_inj.mp equal) same
  cases left
  cases right
  cases bytes
  rfl

structure Described (store : DataStore) (held : List DataDescriptor) : Prop where
  increasing : held.Pairwise fun left right => ordinals left.id < ordinals right.id
  exact : ∀ descriptor, descriptor ∈ held ↔
    ∃ bytes, store.bytesOf descriptor.id = some bytes ∧ descriptor.sizeBytes = bytes.length

theorem descriptors_described (store : DataStore) : store.Described store.descriptors := by
  constructor
  · have sorted : store.descriptors.Pairwise
        fun left right => ordinals left.id ≤ ordinals right.id :=
      List.pairwise_insertionSort _ _
    have perm : store.descriptors.Perm
        (store.blobs.entries.map fun entry => ⟨entry.1, entry.2.bytes.length⟩) :=
      List.perm_insertionSort _ _
    have unique : (store.descriptors.map DataDescriptor.id).Nodup := by
      rw [(perm.map DataDescriptor.id).nodup_iff, List.map_map]
      exact store.blobs.keys_nodup
    refine (sorted.and (List.pairwise_map.mp unique)).imp ?_
    rintro left right ⟨before, different⟩
    exact lt_of_le_of_ne before fun same => different (ordinals_injective same)
  · intro descriptor
    rw [descriptors, List.mem_insertionSort, List.mem_map]
    constructor
    · rintro ⟨⟨dataId, blob⟩, listed, rfl⟩
      refine ⟨blob.bytes, ?_, rfl⟩
      rw [bytesOf, AList.mem_lookup_iff.mpr listed]
      rfl
    · rintro ⟨bytes, found, size⟩
      obtain ⟨blob, known, rfl⟩ := Option.map_eq_some_iff.mp found
      refine ⟨⟨descriptor.id, blob⟩, AList.mem_lookup_iff.mp known, ?_⟩
      rw [← size]

def Fits (store : DataStore) (dataId : DataId) : Prop :=
  (∀ budget, store.budget = some budget → total store.blobs.entries ≤ budget) ∨
    ∀ other, store.contains other = true ↔ other = dataId

theorem erase_length {blob : Blob} (found : store.blobs.lookup dataId = some blob) :
    (store.blobs.erase dataId).entries.length + 1 = store.blobs.entries.length :=
  (perm_erase found).length_eq.symm

theorem evictFrom_ends {keep : DataId} {budget left : Nat} (evicted : List DataId)
    (held : store.contains keep = true) (enough : store.blobs.entries.length ≤ left) :
    (evictFrom keep budget left store evicted).1.bytes ≤ budget ∨
      (evictFrom keep budget left store evicted).1.oldest keep = none := by
  induction left generalizing store evicted with
  | zero =>
      obtain ⟨blob, found⟩ := Option.isSome_iff_exists.mp held
      have some := List.length_pos_of_mem (AList.mem_lookup_iff.mp found)
      omega
  | succ left ih =>
      rw [evictFrom]
      by_cases exceeds : budget < store.bytes
      · rw [if_pos exceeds]
        cases found : store.oldest keep with
        | none => exact .inr found
        | some gone =>
            obtain ⟨contained, other⟩ := oldest_eq_some found
            obtain ⟨blob, there⟩ := Option.isSome_iff_exists.mp contained
            have dropped : (store.dropBlob gone).1.blobs = store.blobs.erase gone := by
              simp only [DataStore.dropBlob, there]
            refine ih _ ?_ ?_
            · rw [contains, dropped, AList.lookup_erase_ne other.symm]
              exact held
            · have shorter := erase_length there
              rw [dropped]
              omega
      · rw [if_neg exceeds]
        exact .inl (Nat.le_of_not_lt exceeds)

theorem oldest_eq_none {keep : DataId} (none : store.oldest keep = none) {other : DataId}
    (held : store.contains other = true) : other = keep := by
  rw [oldest, Option.map_eq_none_iff, List.argmin_eq_none, List.filter_eq_nil_iff] at none
  obtain ⟨blob, found⟩ := Option.isSome_iff_exists.mp held
  simpa using none ⟨other, blob⟩ (AList.mem_lookup_iff.mp found)

theorem Sound.store_fits (sound : Sound digest store) (right : digest bytes = dataId)
    (absent : store.contains dataId = false) : (store.store dataId bytes).1.Fits dataId := by
  have stored := (sound.store_checked right).1
  have budgeted := budget_store store dataId bytes
  cases limit : store.budget with
  | none =>
      refine .inl fun budget some => ?_
      rw [budgeted, limit] at some
      cases some
  | some budget =>
      have ends := @evictFrom_ends (store.enter dataId bytes) dataId budget _ [] contains_enter
        (Nat.le_refl _)
      have whole : store.store dataId bytes = evictFrom dataId budget
          (store.enter dataId bytes).blobs.entries.length (store.enter dataId bytes) [] := by
        rw [store_absent absent, evictOverBudget, show (store.enter dataId bytes).budget =
          store.budget from rfl, limit]
      rw [← whole] at ends
      rcases ends with within | alone
      · refine .inl fun other same => ?_
        rw [budgeted, limit] at same
        rw [← stored.counted, ← Option.some.inj same]
        exact within
      · refine .inr fun other => ⟨oldest_eq_none alone, ?_⟩
        rintro rfl
        exact contains_store store other bytes

theorem call_offered {made : Call} (offers : Offers digest made bytes) :
    store.call digest made = (store.store (digest bytes) bytes).1 := by
  have inserted (descriptor : DataDescriptor) (right : digest bytes = descriptor.id) :
      (store.insertEvicting digest descriptor bytes).1 = (store.store (digest bytes) bytes).1 := by
    rcases @insertEvicting_cases digest store bytes descriptor with
      ⟨wrong, -⟩ | ⟨-, same⟩
    · exact absurd right wrong
    · rw [same, right]
  cases offers with
  | put => rfl
  | putEvicting => rfl
  | insert descriptor _ right => exact inserted descriptor right
  | insertEvicting descriptor _ right => exact inserted descriptor right

def opened (budget : Option Nat) : DataStore :=
  match budget with
  | none => new
  | some budget => withBudget budget

theorem opened_sound (budget : Option Nat) : Sound digest (opened budget) := by
  cases budget with
  | none => exact ⟨by simp [opened, new], rfl, .nil, by simp [opened, new]⟩
  | some budget => exact ⟨by simp [opened, withBudget], rfl, .nil, by simp [opened, withBudget]⟩

/-- What holds of every store after any calls, and of it after one more that stores a new blob.
No call lets the counter pass below zero. -/
theorem store_keeps_invariant (digest : Bytes → DataId) (budget : Option Nat) (made : List Call) :
    Sound digest ((opened budget).calls digest made) ∧
      made.foldlM (callChecked digest) (opened budget) =
        some ((opened budget).calls digest made) ∧
      Described ((opened budget).calls digest made)
        ((opened budget).calls digest made).descriptors ∧
      ∀ next bytes, Offers digest next bytes →
        ((opened budget).calls digest made).contains (digest bytes) = false →
          (((opened budget).calls digest made).call digest next).Fits (digest bytes) := by
  obtain ⟨sound, checked⟩ := calls_sound (@opened_sound digest budget) made
  refine ⟨sound, checked, descriptors_described _, ?_⟩
  intro next bytes offers absent
  rw [call_offered offers]
  exact sound.store_fits rfl absent

end AetherMesh.DataStore
