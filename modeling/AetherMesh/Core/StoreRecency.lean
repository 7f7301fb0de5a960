import AetherMesh.Core.StoreInvariant
import AetherMesh.Library.Recency

/-!
What a store with a budget evicts: the blobs whose last use lies furthest back, as few as make
room. The stamps put the blobs in the order of the last calls that used them.
-/

namespace AetherMesh.DataStore

open Recency

/-- The blob that a call uses. A read of a blob that is not there counts as well. -/
def uses (digest : Bytes → DataId) : Call → Option DataId
  | .put bytes => some (digest bytes)
  | .putEvicting bytes => some (digest bytes)
  | .insert descriptor bytes => if digest bytes = descriptor.id then some descriptor.id else none
  | .insertEvicting descriptor bytes =>
      if digest bytes = descriptor.id then some descriptor.id else none
  | .get dataId => some dataId
  | .remove _ => none

/-- The stored blobs, those whose last use lies furthest back first. -/
def recency (digest : Bytes → DataId) (past : List Call) (store : DataStore) : List DataId :=
  (byLastUse (past.filterMap (uses digest))).filter fun dataId => store.contains dataId

def evictedBy (digest : Bytes → DataId) (store : DataStore) : Call → List DataId
  | .putEvicting bytes => (store.putEvicting digest bytes).2.2
  | .insertEvicting descriptor bytes =>
      match (store.insertEvicting digest descriptor bytes).2 with
      | .ok inserted => inserted.2
      | .error _ => []
  | _ => []

inductive Evicts (digest : Bytes → DataId) : Call → Bytes → Prop
  | put (bytes : Bytes) : Evicts digest (.putEvicting bytes) bytes
  | insert (descriptor : DataDescriptor) (bytes : Bytes) (right : digest bytes = descriptor.id) :
      Evicts digest (.insertEvicting descriptor bytes) bytes

def byUse (store : DataStore) : List DataId :=
  (store.blobs.entries.insertionSort fun left right => left.2.usedAt ≤ right.2.usedAt).map Sigma.fst

def stamp (store : DataStore) (dataId : DataId) : Nat :=
  ((store.blobs.lookup dataId).map Blob.usedAt).getD 0

def lengthOf (store : DataStore) (dataId : DataId) : Nat :=
  ((store.bytesOf dataId).map List.length).getD 0

structure Recent (used : List DataId) (store : DataStore) : Prop where
  known : ∀ dataId, store.contains dataId = true → dataId ∈ used
  order : ((byLastUse used).filter fun dataId => store.contains dataId).Pairwise
    fun left right => store.stamp left < store.stamp right

variable {digest : Bytes → DataId} {store after : DataStore} {dataId : DataId} {bytes : Bytes}
  {used order : List DataId}

theorem stamp_of_mem {entry : Entry} (listed : entry ∈ store.blobs.entries) :
    store.stamp entry.1 = entry.2.usedAt := by
  rw [stamp, AList.mem_lookup_iff.mpr listed]
  rfl

theorem lengthOf_of_mem {entry : Entry} (listed : entry ∈ store.blobs.entries) :
    store.lengthOf entry.1 = entry.2.bytes.length := by
  rw [lengthOf, bytesOf, AList.mem_lookup_iff.mpr listed]
  rfl

theorem exists_entry (held : store.contains dataId = true) :
    ∃ entry ∈ store.blobs.entries, entry.1 = dataId := by
  obtain ⟨blob, found⟩ := Option.isSome_iff_exists.mp held
  exact ⟨⟨dataId, blob⟩, AList.mem_lookup_iff.mp found, rfl⟩

theorem Sound.stamp_le (sound : Sound digest store) (held : store.contains dataId = true) :
    store.stamp dataId ≤ store.clock := by
  obtain ⟨entry, listed, rfl⟩ := exists_entry held
  rw [stamp_of_mem listed]
  exact sound.ticked entry listed

theorem Recent.shrink (recent : Recent used store)
    (fewer : ∀ other, after.contains other = true →
      store.contains other = true ∧ after.stamp other = store.stamp other) : Recent used after := by
  refine ⟨fun other held => recent.known other (fewer other held).1, ?_⟩
  have within : ((byLastUse used).filter fun other => after.contains other).Sublist
      ((byLastUse used).filter fun other => store.contains other) :=
    List.monotone_filter_right _ fun other held => (fewer other held).1
  refine (recent.order.sublist within).imp_of_mem ?_
  intro left right first second before
  rw [(fewer left (List.mem_filter.mp first).2).2, (fewer right (List.mem_filter.mp second).2).2]
  exact before

/-- A use gives the blob, if it is there afterwards, the latest stamp. -/
theorem Recent.use (recent : Recent used store) (sound : Sound digest store)
    (others : ∀ other ≠ dataId, after.contains other = store.contains other ∧
      after.stamp other = store.stamp other)
    (latest : after.contains dataId = true → after.stamp dataId = store.clock + 1) :
    Recent (used ++ [dataId]) after := by
  constructor
  · intro other held
    by_cases same : other = dataId
    · simp [same]
    · exact List.mem_append_left _ (recent.known other ((others other same).1 ▸ held))
  · rw [byLastUse_snoc, List.filter_append, List.pairwise_append]
    have front (other : DataId) (member : other ∈
        ((byLastUse used).filter (· ≠ dataId)).filter fun other => after.contains other) :
        other ≠ dataId ∧ store.contains other = true := by
      obtain ⟨listed, held⟩ := List.mem_filter.mp member
      have different := of_decide_eq_true (List.mem_filter.mp listed).2
      exact ⟨different, (others other different).1 ▸ held⟩
    refine ⟨?_, ?_, ?_⟩
    · have within : (((byLastUse used).filter (· ≠ dataId)).filter
          fun other => after.contains other).Sublist
            ((byLastUse used).filter fun other => store.contains other) := by
        have same : ((byLastUse used).filter (· ≠ dataId)).filter
            (fun other => after.contains other) = ((byLastUse used).filter (· ≠ dataId)).filter
              fun other => store.contains other := by
          refine List.filter_congr fun other listed => ?_
          exact (others other (of_decide_eq_true (List.mem_filter.mp listed).2)).1
        rw [same]
        exact List.filter_sublist.filter _
      refine (recent.order.sublist within).imp_of_mem ?_
      intro left right first second before
      rw [(others left (front left first).1).2, (others right (front right second).1).2]
      exact before
    · exact (List.pairwise_singleton _ _).filter _
    · intro left first right second
      obtain ⟨last, held⟩ := List.mem_filter.mp second
      obtain rfl := List.mem_singleton.mp last
      obtain ⟨different, stored⟩ := front left first
      have early := sound.stamp_le stored
      rw [(others left different).2, latest held]
      omega

theorem Recent.touch (recent : Recent used store) (sound : Sound digest store) :
    Recent (used ++ [dataId]) (store.touch dataId) := by
  cases found : store.blobs.lookup dataId with
  | some blob =>
      have blobs : (store.touch dataId).blobs =
          store.blobs.insert dataId { blob with usedAt := store.clock + 1 } := by
        simp only [DataStore.touch, found]
      refine recent.use sound ?_ ?_
      · intro other different
        rw [contains, contains, stamp, stamp, blobs, AList.lookup_insert_ne different]
        exact ⟨rfl, rfl⟩
      · intro _
        rw [stamp, blobs, AList.lookup_insert]
        rfl
  | none =>
      have blobs : (store.touch dataId).blobs = store.blobs := by
        simp only [DataStore.touch, found]
      refine recent.use sound ?_ ?_
      · intro other _
        rw [contains, contains, stamp, stamp, blobs]
        exact ⟨rfl, rfl⟩
      · intro held
        rw [contains, blobs, found] at held
        cases held

theorem Recent.enter (recent : Recent used store) (sound : Sound digest store) :
    Recent (used ++ [dataId]) (store.enter dataId bytes) := by
  refine recent.use sound ?_ ?_
  · intro other different
    rw [contains, contains, stamp, stamp, DataStore.enter, AList.lookup_insert_ne different]
    exact ⟨rfl, rfl⟩
  · intro _
    rw [stamp, DataStore.enter, AList.lookup_insert]
    rfl

theorem Recent.dropBlob (recent : Recent used store) : Recent used (store.dropBlob dataId).1 := by
  cases found : store.blobs.lookup dataId with
  | some blob =>
      have blobs : (store.dropBlob dataId).1.blobs = store.blobs.erase dataId := by
        simp only [DataStore.dropBlob, found]
      refine recent.shrink ?_
      intro other held
      by_cases same : other = dataId
      · rw [same, contains, blobs, AList.lookup_erase] at held
        cases held
      · rw [contains, blobs, AList.lookup_erase_ne same] at held
        rw [stamp, stamp, blobs, AList.lookup_erase_ne same]
        exact ⟨held, rfl⟩
  | none =>
      have same : (store.dropBlob dataId).1 = store := by simp only [DataStore.dropBlob, found]
      rw [same]
      exact recent

theorem Recent.evictFrom {keep : DataId} {budget : Nat} (left : Nat) (evicted : List DataId)
    (recent : Recent used store) : Recent used (evictFrom keep budget left store evicted).1 := by
  induction left generalizing store evicted with
  | zero => exact recent
  | succ left ih =>
      simp only [DataStore.evictFrom]
      split
      · cases store.oldest keep with
        | none => exact recent
        | some dataId => exact ih _ recent.dropBlob
      · exact recent

theorem Recent.stored (recent : Recent used store) (sound : Sound digest store) :
    Recent (used ++ [dataId]) (store.store dataId bytes).1 := by
  cases present : store.contains dataId with
  | true =>
      rw [store_present present]
      exact recent.touch sound
  | false =>
      rw [store_absent present, evictOverBudget]
      cases (DataStore.enter store dataId bytes).budget with
      | none => exact recent.enter sound
      | some budget => exact (recent.enter sound).evictFrom _ []

theorem Recent.insert (recent : Recent used store) (sound : Sound digest store)
    (descriptor : DataDescriptor) :
    Recent (used ++ (if digest bytes = descriptor.id then some descriptor.id else none).toList)
      (store.insertEvicting digest descriptor bytes).1 := by
  rcases @insertEvicting_cases digest store bytes descriptor with
    ⟨wrong, same⟩ | ⟨right, same⟩
  · rw [same, if_neg wrong, Option.toList_none, List.append_nil]
    exact recent
  · rw [same, if_pos right]
    exact recent.stored sound

theorem Recent.call (recent : Recent used store) (sound : Sound digest store) (made : Call) :
    Recent (used ++ (uses digest made).toList) (store.call digest made) := by
  cases made with
  | put bytes => exact recent.stored sound
  | putEvicting bytes => exact recent.stored sound
  | insert descriptor bytes => exact recent.insert sound descriptor
  | insertEvicting descriptor bytes => exact recent.insert sound descriptor
  | get dataId => exact recent.touch sound
  | remove dataId =>
      have kept : used ++ (uses digest (.remove dataId)).toList = used := List.append_nil used
      rw [kept]
      exact recent.dropBlob

theorem uses_snoc (past : List Call) (made : Call) :
    (past ++ [made]).filterMap (uses digest) =
      past.filterMap (uses digest) ++ (uses digest made).toList := by
  cases found : uses digest made with
  | none => simp [found]
  | some dataId => simp [found]

theorem calls_recent (budget : Option Nat) (past : List Call) :
    Sound digest ((opened budget).calls digest past) ∧
      Recent (past.filterMap (uses digest)) ((opened budget).calls digest past) := by
  induction past using List.reverseRecOn with
  | nil =>
      refine ⟨opened_sound budget, ?_, .nil⟩
      intro dataId held
      cases budget <;> simp [calls, opened, new, withBudget, contains] at held
  | append_singleton past made ih =>
      have step : (opened budget).calls digest (past ++ [made]) =
          ((opened budget).calls digest past).call digest made := by
        rw [calls, List.foldl_append]
        rfl
      rw [step, uses_snoc]
      exact ⟨(ih.1.call made).1, ih.2.call ih.1 made⟩

/-- The stamps are an order of the blobs, and it is that of the uses. -/
theorem Recent.byUse_eq (recent : Recent used store) :
    store.byUse = (byLastUse used).filter fun dataId => store.contains dataId := by
  have perm : store.byUse.Perm store.blobs.keys := (List.perm_insertionSort _ _).map Sigma.fst
  have same : store.byUse.Perm ((byLastUse used).filter fun dataId => store.contains dataId) := by
    refine perm.trans ((List.perm_ext_iff_of_nodup store.blobs.keys_nodup
      ((byLastUse_nodup used).filter _)).mpr ?_)
    intro dataId
    rw [List.mem_filter, mem_byLastUse, ← AList.mem_keys, ← AList.lookup_isSome]
    exact ⟨fun held => ⟨recent.known dataId held, held⟩, fun both => both.2⟩
  have distinct : (((byLastUse used).filter fun dataId => store.contains dataId).map
      store.stamp).Nodup :=
    (List.pairwise_map.mpr recent.order).imp Nat.ne_of_lt
  have sorted : store.byUse.Pairwise fun left right => store.stamp left ≤ store.stamp right := by
    refine List.pairwise_map.mpr ((List.pairwise_insertionSort _ _).imp_of_mem ?_)
    intro left right first second before
    rw [stamp_of_mem ((List.mem_insertionSort _).mp first),
      stamp_of_mem ((List.mem_insertionSort _).mp second)]
    exact before
  refine same.eq_of_pairwise ?_ sorted (recent.order.imp Nat.le_of_lt)
  intro left right first second before behind
  exact List.inj_on_of_nodup_map distinct (same.subset first) second (Nat.le_antisymm before behind)

section Evict

variable {keep : DataId} {budget : Nat}

structure Candidates (store : DataStore) (keep : DataId) (order : List DataId) : Prop where
  exact : ∀ dataId, dataId ∈ order ↔ store.contains dataId = true ∧ dataId ≠ keep
  stamped : order.Pairwise fun left right => store.stamp left < store.stamp right

theorem Candidates.oldest_eq (candidates : Candidates store keep order) :
    store.oldest keep = order.head? := by
  cases found : store.oldest keep with
  | none =>
      cases order with
      | nil => rfl
      | cons first rest =>
          obtain ⟨held, other⟩ := (candidates.exact first).mp List.mem_cons_self
          exact absurd (oldest_eq_none found held) other
  | some gone =>
      have among := (candidates.exact gone).mpr (oldest_eq_some found)
      cases order with
      | nil => cases among
      | cons first rest =>
          rcases List.mem_cons.mp among with same | later
          · rw [same]
            rfl
          · -- a later blob is not the oldest
            have before := (List.pairwise_cons.mp candidates.stamped).1 gone later
            obtain ⟨held, other⟩ := (candidates.exact first).mp List.mem_cons_self
            obtain ⟨entry, listed, rfl⟩ := exists_entry held
            rw [oldest, Option.map_eq_some_iff] at found
            obtain ⟨least, argmin, rfl⟩ := found
            have there := (List.mem_filter.mp (List.argmin_mem argmin)).1
            have below : least.2.usedAt ≤ entry.2.usedAt :=
              List.le_of_mem_argmin (f := fun entry : Entry => entry.2.usedAt)
                (List.mem_filter.mpr ⟨listed, decide_eq_true other⟩) argmin
            rw [stamp_of_mem listed, stamp_of_mem there] at before
            omega

theorem Candidates.tail {first : DataId} {rest : List DataId}
    (candidates : Candidates store keep (first :: rest)) :
    Candidates (store.dropBlob first).1 keep rest ∧
      (∀ dataId ∈ rest, (store.dropBlob first).1.lengthOf dataId = store.lengthOf dataId) ∧
      (store.dropBlob first).1.bytes = store.bytes - store.lengthOf first := by
  obtain ⟨held, other⟩ := (candidates.exact first).mp List.mem_cons_self
  obtain ⟨blob, found⟩ := Option.isSome_iff_exists.mp held
  obtain ⟨before, ordered⟩ := List.pairwise_cons.mp candidates.stamped
  have blobs : (store.dropBlob first).1.blobs = store.blobs.erase first := by
    simp only [DataStore.dropBlob, found]
  have different (dataId : DataId) (later : dataId ∈ rest) : dataId ≠ first := by
    rintro rfl
    exact Nat.lt_irrefl _ (before dataId later)
  refine ⟨⟨?_, ?_⟩, ?_, ?_⟩
  · intro dataId
    by_cases same : dataId = first
    · subst same
      have gone : (store.dropBlob dataId).1.contains dataId = false := by
        rw [contains, blobs, AList.lookup_erase]
        rfl
      simp only [gone, Bool.false_eq_true, false_and, iff_false]
      exact fun later => different dataId later rfl
    · have known := candidates.exact dataId
      rw [List.mem_cons, or_iff_right same] at known
      rw [known, contains, contains, blobs, AList.lookup_erase_ne same]
  · refine ordered.imp_of_mem ?_
    intro left right one two less
    rw [stamp, stamp, blobs, AList.lookup_erase_ne (different left one),
      AList.lookup_erase_ne (different right two)]
    exact less
  · intro dataId later
    rw [lengthOf, lengthOf, bytesOf_dropBlob, if_neg (different dataId later)]
  · simp only [DataStore.dropBlob, found, lengthOf, bytesOf, Option.map_some, Option.getD_some]

theorem evictFrom_order {size : DataId → Nat} (left : Nat) (evicted : List DataId)
    (candidates : Candidates store keep order)
    (sized : ∀ dataId ∈ order, store.lengthOf dataId = size dataId)
    (enough : order.length ≤ left) :
    (evictFrom keep budget left store evicted).2 =
      evicted ++ evictions size budget store.bytes order := by
  induction order generalizing store evicted left with
  | nil =>
      have none : store.oldest keep = none := candidates.oldest_eq
      have nothing : evictions size budget store.bytes [] = [] := rfl
      rw [nothing, List.append_nil]
      cases left with
      | zero => rfl
      | succ left =>
          simp only [DataStore.evictFrom, none]
          split <;> rfl
  | cons first rest ih =>
      obtain ⟨left, rfl⟩ : ∃ fewer, left = fewer + 1 :=
        ⟨left - 1, by simp only [List.length_cons] at enough; omega⟩
      have oldest : store.oldest keep = some first := candidates.oldest_eq
      by_cases exceeds : budget < store.bytes
      · obtain ⟨fewer, same, bytes⟩ := candidates.tail
        have later := @ih (store.dropBlob first).1 left (evicted ++ [first]) fewer
          (fun dataId listed => by
            rw [same dataId listed, sized dataId (List.mem_cons_of_mem _ listed)])
          (Nat.le_of_succ_le_succ enough)
        rw [sized first List.mem_cons_self] at bytes
        rw [bytes] at later
        simp only [DataStore.evictFrom, if_pos exceeds, oldest, later, evictions,
          List.append_assoc, List.singleton_append]
      · simp only [DataStore.evictFrom, if_neg exceeds, evictions, List.append_nil]

end Evict

theorem mem_recency {past : List Call} (recent : Recent (past.filterMap (uses digest)) store) :
    dataId ∈ recency digest past store ↔ store.contains dataId = true := by
  rw [recency, List.mem_filter, mem_byLastUse]
  exact ⟨fun both => both.2, fun held => ⟨recent.known dataId held, held⟩⟩

theorem byUse_total (store : DataStore) :
    (store.byUse.map store.lengthOf).sum = total store.blobs.entries := by
  have perm := List.perm_insertionSort (fun left right : Entry => left.2.usedAt ≤ right.2.usedAt)
    store.blobs.entries
  rw [← total_perm perm, total, byUse, List.map_map]
  congr 1
  refine List.map_congr_left fun entry listed => ?_
  exact lengthOf_of_mem (perm.subset listed)

theorem lengthOf_enter {other : DataId} (different : other ≠ dataId) :
    (store.enter dataId bytes).lengthOf other = store.lengthOf other := by
  rw [lengthOf, lengthOf, bytesOf, bytesOf, enter, AList.lookup_insert_ne different]

theorem Recent.candidates {past : List Call} (recent : Recent (past.filterMap (uses digest)) store)
    (absent : store.contains dataId = false) :
    Candidates (store.enter dataId bytes) dataId (recency digest past store) := by
  have others (other : DataId) (different : other ≠ dataId) :
      (store.enter dataId bytes).contains other = store.contains other ∧
        (store.enter dataId bytes).stamp other = store.stamp other := by
    rw [contains, contains, stamp, stamp, DataStore.enter, AList.lookup_insert_ne different]
    exact ⟨rfl, rfl⟩
  have apart (other : DataId) (held : store.contains other = true) : other ≠ dataId := by
    rintro rfl
    rw [absent] at held
    cases held
  constructor
  · intro other
    rw [mem_recency recent]
    constructor
    · exact fun held => ⟨(others other (apart other held)).1 ▸ held, apart other held⟩
    · rintro ⟨held, different⟩
      exact (others other different).1 ▸ held
  · refine recent.order.imp_of_mem ?_
    intro left right first second less
    rw [(others left (apart left (List.mem_filter.mp first).2)).2,
      (others right (apart right (List.mem_filter.mp second).2)).2]
    exact less

/-- A new blob costs the shortest prefix of the others that makes room. -/
theorem store_evicts {past : List Call} {budget : Nat} (sound : Sound digest store)
    (recent : Recent (past.filterMap (uses digest)) store) (limit : store.budget = some budget)
    (absent : store.contains dataId = false) :
    ShortestPrefix store.lengthOf budget (total store.blobs.entries + bytes.length)
      (recency digest past store) (store.store dataId bytes).2 := by
  have ordered : store.byUse = recency digest past store := recent.byUse_eq
  have size : (recency digest past store).length = store.blobs.entries.length := by
    rw [← ordered, byUse, List.length_map, List.length_insertionSort]
  have counted : (store.enter dataId bytes).bytes = total store.blobs.entries + bytes.length := by
    rw [← sound.counted]
    rfl
  have evicted : (store.store dataId bytes).2 =
      [] ++ evictions store.lengthOf budget (store.enter dataId bytes).bytes
        (recency digest past store) := by
    have same : (store.enter dataId bytes).budget = some budget := limit
    rw [store_absent absent, evictOverBudget, same]
    refine evictFrom_order _ [] (recent.candidates absent) ?_ ?_
    · intro other member
      refine lengthOf_enter ?_
      rintro rfl
      rw [mem_recency recent, absent] at member
      cases member
    · rw [size, enter_entries absent, List.length_cons]
      exact Nat.le_succ _
  rw [evicted, List.nil_append, counted]
  refine evictions_shortest ?_
  rw [← ordered, byUse_total]
  exact Nat.le_add_right _ _

theorem evictedBy_eq {made : Call} (evicts : Evicts digest made bytes) :
    store.evictedBy digest made = (store.store (digest bytes) bytes).2 := by
  cases evicts with
  | put => rfl
  | insert descriptor _ right =>
      have same : (DataDescriptor.of digest bytes).id = descriptor.id := right
      rw [evictedBy, insertEvicting, if_neg (not_not.mpr same), right]
      cases present : store.contains descriptor.id with
      | true => rw [if_pos rfl, store_present present]
      | false => rfl

theorem Evicts.offers {made : Call} (evicts : Evicts digest made bytes) :
    Offers digest made bytes := by
  cases evicts with
  | put => exact .putEvicting bytes
  | insert descriptor _ right => exact .insertEvicting descriptor bytes right

theorem budget_call (made : Call) : (store.call digest made).budget = store.budget := by
  have inserted (descriptor : DataDescriptor) (bytes : Bytes) :
      (store.insertEvicting digest descriptor bytes).1.budget = store.budget := by
    rcases @insertEvicting_cases digest store bytes descriptor with
      ⟨-, same⟩ | ⟨-, same⟩
    · rw [same]
    · rw [same, budget_store]
  cases made with
  | put bytes => exact budget_store store _ bytes
  | putEvicting bytes => exact budget_store store _ bytes
  | insert descriptor bytes => exact inserted descriptor bytes
  | insertEvicting descriptor bytes => exact inserted descriptor bytes
  | get dataId => exact budget_touch store dataId
  | remove dataId => exact budget_dropBlob store dataId

theorem budget_calls (past : List Call) : (store.calls digest past).budget = store.budget := by
  induction past generalizing store with
  | nil => rfl
  | cons first rest ih => exact ih.trans (budget_call first)

/-- What a store with a budget answers to a blob. A new one is stored at the cost of the shortest
prefix of the others, in the order of their last use, that makes room for it; one that is held
becomes the most recent; and one that is not what it says it is changes nothing. -/
theorem evicts_least_recent (digest : Bytes → DataId) (budget : Nat) (past : List Call) :
    ∃ store, store = (withBudget budget).calls digest past ∧
      store.byUse = recency digest past store ∧
      (∀ made bytes, Evicts digest made bytes → store.contains (digest bytes) = false →
        ShortestPrefix store.lengthOf budget (total store.blobs.entries + bytes.length)
          (recency digest past store) (store.evictedBy digest made) ∧
        ∀ other, (store.call digest made).bytesOf other =
          if other ∈ store.evictedBy digest made then none
          else if other = digest bytes then some bytes
          else store.bytesOf other) ∧
      (∀ made bytes, Evicts digest made bytes → store.contains (digest bytes) = true →
        store.evictedBy digest made = [] ∧
        (store.call digest made).bytesOf = store.bytesOf ∧
        (store.call digest made).byUse =
          store.byUse.filter (· ≠ digest bytes) ++ [digest bytes]) ∧
      ∀ descriptor bytes, digest bytes ≠ descriptor.id →
        (store.insertEvicting digest descriptor bytes).1 = store ∧
          (store.insert digest descriptor bytes).1 = store := by
  obtain ⟨sound, recent⟩ := @calls_recent digest (some budget) past
  have limit : ((opened (some budget)).calls digest past).budget = some budget := budget_calls past
  refine ⟨(opened (some budget)).calls digest past, rfl, recent.byUse_eq, ?_, ?_, ?_⟩
  · intro made bytes evicts absent
    rw [evictedBy_eq evicts, call_offered evicts.offers]
    refine ⟨store_evicts sound recent limit absent, ?_⟩
    intro other
    have missing : ((opened (some budget)).calls digest past).bytesOf (digest bytes) = none := by
      rw [contains_eq_isSome] at absent
      exact Option.not_isSome_iff_eq_none.mp (by simp [absent])
    rw [bytesOf_store, missing, Option.getD_none]
  · intro made bytes evicts present
    rw [evictedBy_eq evicts, call_offered evicts.offers, store_present present]
    refine ⟨rfl, funext fun other => bytesOf_touch _ _ _, ?_⟩
    have touched := @Recent.touch digest _ (digest bytes) _ recent sound
    have same : (((opened (some budget)).calls digest past).touch (digest bytes)).contains =
        ((opened (some budget)).calls digest past).contains :=
      contains_congr (funext fun other => bytesOf_touch _ _ _)
    rw [touched.byUse_eq, recent.byUse_eq, byLastUse_snoc, List.filter_append, same]
    congr 1
    · rw [List.filter_filter, List.filter_filter]
      exact List.filter_congr fun other _ => Bool.and_comm _ _
    · simp [present]
  · intro descriptor bytes wrong
    rcases @insertEvicting_cases digest ((opened (some budget)).calls digest past) bytes
      descriptor with ⟨-, same⟩ | ⟨right, -⟩
    · exact ⟨same, same⟩
    · exact absurd right wrong

end AetherMesh.DataStore
