import AetherMesh.Controller.Checkpoint
import Mathlib.Algebra.GroupWithZero.Nat
import Mathlib.Data.Finset.Card
import Mathlib.Data.List.AList
import Mathlib.Data.List.MinMax

/-!
What the controller remembers of finished tasks. A full cache drops its oldest entry before it
looks at the key it is given, so a result that is stored again can push out another one.
-/

namespace AetherMesh

/-- The source's `module` is called `wasmModule`. -/
structure WorkKey where
  kind : String
  payload : DataId
  wasmModule : Option DataId
  inputs : List DataId
deriving DecidableEq

def WorkKey.of (digest : Bytes → DataId) (task : Task) : WorkKey where
  kind := task.kind
  payload := digest task.payload
  wasmModule := task.wasmModule
  inputs := task.inputs

structure CachedResult where
  result : TaskResult
  stored : Nat
deriving DecidableEq

structure ResultCache where
  entries : AList fun _ : WorkKey => CachedResult
  hits : Nat
  misses : Nat
  capacity : Nat
  ttl : Option Nat

namespace ResultCache

abbrev Entry := Sigma fun _ : WorkKey => CachedResult

def new (capacity : Nat) : ResultCache := ⟨∅, 0, 0, capacity, none⟩

def withTtl (cache : ResultCache) (ttl : Nat) : ResultCache := { cache with ttl := some ttl }

def retain (cache : ResultCache) (kept : CachedResult → Bool) : ResultCache :=
  { cache with
    entries := ⟨cache.entries.entries.filter fun entry => kept entry.2,
      cache.entries.nodupKeys.sublist List.filter_sublist⟩ }

def expire (cache : ResultCache) (now : Nat) : ResultCache :=
  match cache.ttl with
  | some ttl => cache.retain fun entry => now - entry.stored < ttl
  | none => cache

def get (digest : Bytes → DataId) (cache : ResultCache) (task : Task) (now : Nat) :
    ResultCache × Option TaskResult :=
  let cache := cache.expire now
  match cache.entries.lookup (WorkKey.of digest task) with
  | some entry =>
      ({ cache with hits := cache.hits + 1 }, some { entry.result with taskId := task.id })
  | none => ({ cache with misses := cache.misses + 1 }, none)

/-- Of several entries that are the oldest, the source drops any one. -/
def oldest (cache : ResultCache) : Option WorkKey :=
  (cache.entries.entries.argmin fun entry => entry.2.stored).map Sigma.fst

def len (cache : ResultCache) : Nat := cache.entries.entries.length

def makeRoom (cache : ResultCache) : ResultCache :=
  if cache.capacity ≤ cache.len then
    match cache.oldest with
    | some key => { cache with entries := cache.entries.erase key }
    | none => cache
  else cache

def put (digest : Bytes → DataId) (cache : ResultCache) (task : Task) (result : TaskResult)
    (now : Nat) : ResultCache :=
  if !result.isSuccess then cache
  else if cache.capacity = 0 then cache
  else
    { cache.makeRoom with
      entries := cache.makeRoom.entries.insert (WorkKey.of digest task) ⟨result, now⟩ }

end ResultCache

inductive CacheCall
  | get (task : Task) (now : Nat)
  | put (task : Task) (result : TaskResult) (now : Nat)
deriving DecidableEq

namespace CacheCall

def task : CacheCall → Task
  | .get task _ => task
  | .put task _ _ => task

def apply (digest : Bytes → DataId) (cache : ResultCache) : CacheCall → ResultCache
  | .get task now => (cache.get digest task now).1
  | .put task result now => cache.put digest task result now

def puts : CacheCall → Option (Task × CachedResult)
  | .get _ _ => none
  | .put task result now => if result.isSuccess then some (task, ⟨result, now⟩) else none

end CacheCall

def Task.work (task : Task) : String × Bytes × Option DataId × List DataId :=
  (task.kind, task.payload, task.wasmModule, task.inputs)

namespace ResultCache

variable (digest : Bytes → DataId) (capacity : Nat)

def after (calls : List CacheCall) : ResultCache :=
  calls.foldl (CacheCall.apply digest) (new capacity)

def keysPut (calls : List CacheCall) : List WorkKey :=
  (calls.filterMap CacheCall.puts).map fun put => WorkKey.of digest put.1

def latest (calls : List CacheCall) (task : Task) : Option TaskResult :=
  ((calls.filterMap CacheCall.puts).filter fun put => put.1.work = task.work).getLast?.map
    fun put => put.2.result

def Held (cache : ResultCache) (task : Task) : Prop := WorkKey.of digest task ∈ cache.entries

def Oldest (cache : ResultCache) (key : WorkKey) : Prop :=
  ∃ entry, cache.entries.lookup key = some entry ∧
    ∀ other another, cache.entries.lookup other = some another → entry.stored ≤ another.stored

def Stores (before after : ResultCache) (key : WorkKey) (entry : CachedResult)
    (gone : WorkKey → Prop) : Prop :=
  after.entries.lookup key = some entry ∧
    ∀ other ≠ key, (gone other → after.entries.lookup other = none) ∧
      (¬gone other → after.entries.lookup other = before.entries.lookup other)

/-- A held key has its entry replaced; a new one takes the place of the oldest entry when the
cache is full. What is held is answered with the latest result of that work. -/
def Behaves (past : List CacheCall) (cache : ResultCache) : CacheCall → Prop
  | .get task now =>
      (cache.get digest task now).1.entries = cache.entries ∧
        (Held digest cache task → ∃ result, latest past task = some result ∧
          (cache.get digest task now).2 = some { result with taskId := task.id }) ∧
        (¬Held digest cache task → (cache.get digest task now).2 = none)
  | .put task result now => result.isSuccess = true →
      let stores := Stores cache (cache.put digest task result now) (WorkKey.of digest task)
        ⟨result, now⟩
      (Held digest cache task → stores fun _ => False) ∧
        (¬Held digest cache task → cache.len < cache.capacity → stores fun _ => False) ∧
        (¬Held digest cache task → cache.len = cache.capacity →
          ∃ oldest, Oldest cache oldest ∧ stores fun other => other = oldest)

def Fills (past : List CacheCall) (cache : ResultCache) : Prop :=
  cache.len ≤ cache.capacity ∧
    cache.len = min cache.capacity (keysPut digest past).toFinset.card

def KeepsLatest (calls : List CacheCall) : Prop :=
  (∀ past rest, calls = past ++ rest → Fills digest past (after digest capacity past)) ∧
    ∀ past call rest, calls = past ++ call :: rest →
      Behaves digest past (after digest capacity past) call

/-- Whenever a held key is put into the full cache, its entry is the oldest one. -/
def OnlyOldestAgain (calls : List CacheCall) : Prop :=
  ∀ past task result now rest, calls = past ++ .put task result now :: rest →
    result.isSuccess = true → Held digest (after digest capacity past) task →
      (after digest capacity past).len = capacity →
        (after digest capacity past).oldest = some (WorkKey.of digest task)

/-- Different payloads of the calls have different hashes. -/
def NoCollision (calls : List CacheCall) : Prop :=
  ∀ first ∈ calls, ∀ second ∈ calls,
    digest first.task.payload = digest second.task.payload →
      first.task.payload = second.task.payload

instance (calls : List CacheCall) : Decidable (NoCollision digest calls) :=
  inferInstanceAs (Decidable (∀ first ∈ calls, ∀ second ∈ calls,
    digest first.task.payload = digest second.task.payload →
      first.task.payload = second.task.payload))

variable {digest capacity} {cache : ResultCache} {past : List CacheCall} {call : CacheCall}
  {task : Task} {result : TaskResult} {now : Nat} {key : WorkKey}

theorem keysPut_snoc : keysPut digest (past ++ [call]) =
    keysPut digest past ++ (call.puts.map fun put => WorkKey.of digest put.1).toList := by
  rw [keysPut, List.filterMap_append, List.map_append]
  cases found : call.puts with
  | none => simp [found, keysPut]
  | some put => simp [found, keysPut]

theorem after_snoc : after digest capacity (past ++ [call]) =
    call.apply digest (after digest capacity past) := by
  rw [after, List.foldl_append]
  rfl

def lastPut (digest : Bytes → DataId) (past : List CacheCall) (key : WorkKey) :
    Option (Task × CachedResult) :=
  ((past.filterMap CacheCall.puts).filter fun put => WorkKey.of digest put.1 = key).getLast?

theorem lastPut_snoc : lastPut digest (past ++ [call]) key =
    ((call.puts.filter fun put => WorkKey.of digest put.1 = key).or (lastPut digest past key)) := by
  rw [lastPut, List.filterMap_append, List.filter_append, List.getLast?_append]
  cases found : call.puts with
  | none => simp [found, lastPut]
  | some put =>
      by_cases same : WorkKey.of digest put.1 = key
      · simp [found, same, Option.filter]
      · simp [found, same, Option.filter, lastPut]

structure Sound (digest : Bytes → DataId) (capacity : Nat) (past : List CacheCall)
    (cache : ResultCache) : Prop where
  limit : cache.capacity = capacity
  ageless : cache.ttl = none
  recorded : ∀ key entry, cache.entries.lookup key = some entry →
    ∃ task, lastPut digest past key = some (task, entry)
  bounded : cache.len ≤ capacity

theorem oldest_spec (found : cache.oldest = some key) : Oldest cache key := by
  obtain ⟨entry, least, rfl⟩ := Option.map_eq_some_iff.mp found
  refine ⟨entry.2, AList.mem_lookup_iff.mpr (List.argmin_mem least), ?_⟩
  intro other another listed
  exact List.le_of_mem_argmin (f := fun entry : Entry => entry.2.stored)
    (AList.mem_lookup_iff.mp listed) least

theorem exists_oldest (occupied : 0 < cache.len) : ∃ key, cache.oldest = some key := by
  cases found : cache.entries.entries.argmin fun entry => entry.2.stored with
  | none =>
      rw [List.argmin_eq_none] at found
      rw [len, found] at occupied
      cases occupied
  | some entry => exact ⟨entry.1, by rw [oldest, found]; rfl⟩

def keySet (cache : ResultCache) : Finset WorkKey := cache.entries.keys.toFinset

theorem mem_keySet : key ∈ cache.keySet ↔ key ∈ cache.entries := by
  rw [keySet, List.mem_toFinset, AList.mem_keys]

theorem len_eq_card : cache.len = cache.keySet.card := by
  rw [keySet, List.toFinset_card_of_nodup cache.entries.keys_nodup]
  exact (List.length_map _).symm

inductive Put (cache after : ResultCache) (key : WorkKey) (entry : CachedResult) : Prop
  | room (free : cache.len < cache.capacity)
      (entries : after.entries = cache.entries.insert key entry)
  | full (oldest : WorkKey) (packed : cache.capacity ≤ cache.len)
      (found : cache.oldest = some oldest)
      (entries : after.entries = (cache.entries.erase oldest).insert key entry)

theorem put_cases (space : 0 < cache.capacity) (success : result.isSuccess = true) :
    Put cache (cache.put digest task result now) (WorkKey.of digest task) ⟨result, now⟩ := by
  have stored : (cache.put digest task result now).entries =
      cache.makeRoom.entries.insert (WorkKey.of digest task) ⟨result, now⟩ := by
    rw [put, if_neg (by simp [success]), if_neg (by omega)]
  by_cases packed : cache.capacity ≤ cache.len
  · have occupied : 0 < cache.len := by omega
    obtain ⟨oldest, found⟩ := exists_oldest occupied
    refine .full oldest packed found ?_
    rw [stored, makeRoom, if_pos packed, found]
  · refine .room (by omega) ?_
    rw [stored, makeRoom, if_neg packed]

@[simp] theorem put_failed (failed : result.isSuccess = false) :
    cache.put digest task result now = cache := by
  rw [put, if_pos (by simp [failed])]

theorem makeRoom_frame : ∃ entries, cache.makeRoom = { cache with entries := entries } := by
  unfold makeRoom
  split
  · split <;> exact ⟨_, rfl⟩
  · exact ⟨_, rfl⟩

@[simp] theorem put_capacity : (cache.put digest task result now).capacity = cache.capacity := by
  obtain ⟨entries, frame⟩ := @makeRoom_frame cache
  unfold put
  rw [frame]
  split
  · rfl
  · split <;> rfl

@[simp] theorem put_ttl : (cache.put digest task result now).ttl = cache.ttl := by
  obtain ⟨entries, frame⟩ := @makeRoom_frame cache
  unfold put
  rw [frame]
  split
  · rfl
  · split <;> rfl

theorem get_frame (ageless : cache.ttl = none) : (cache.get digest task now).1.entries = cache.entries ∧
    (cache.get digest task now).1.capacity = cache.capacity ∧
    (cache.get digest task now).1.ttl = cache.ttl ∧
    (cache.get digest task now).2 = (cache.entries.lookup (WorkKey.of digest task)).map
      fun entry => { entry.result with taskId := task.id } := by
  unfold get expire
  rw [ageless]
  simp only
  split
  · rename_i entry found
    rw [found]
    exact ⟨rfl, rfl, ageless, rfl⟩
  · rename_i missing
    rw [missing]
    exact ⟨rfl, rfl, ageless, rfl⟩

namespace Put

variable {before after : ResultCache} {entry another : CachedResult} {other oldest : WorkKey}

theorem keySet_insert (entries : after.entries = before.entries.insert key entry) :
    after.keySet = insert key before.keySet := by
  ext other
  rw [mem_keySet, entries, AList.mem_insert, Finset.mem_insert, mem_keySet]

theorem keySet_replace (entries : after.entries = (before.entries.erase oldest).insert key entry) :
    after.keySet = insert key (before.keySet.erase oldest) := by
  ext other
  rw [mem_keySet, entries, AList.mem_insert, Finset.mem_insert, Finset.mem_erase, mem_keySet,
    AList.mem_erase]

theorem oldest_mem (found : before.oldest = some oldest) : oldest ∈ before.keySet := by
  obtain ⟨entry, listed, -⟩ := oldest_spec found
  exact mem_keySet.mpr (AList.lookup_isSome.mp (by rw [listed]; rfl))

theorem lookup_same (put : Put before after key entry) : after.entries.lookup key = some entry := by
  cases put with
  | room free entries => rw [entries, AList.lookup_insert]
  | full oldest packed found entries => rw [entries, AList.lookup_insert]

theorem lookup_other (put : Put before after key entry) (different : other ≠ key)
    (found : after.entries.lookup other = some another) :
    before.entries.lookup other = some another := by
  cases put with
  | room free entries => rwa [entries, AList.lookup_insert_ne different] at found
  | full oldest packed first entries =>
      rw [entries, AList.lookup_insert_ne different] at found
      by_cases same : other = oldest
      · rw [same, AList.lookup_erase] at found
        cases found
      · rwa [AList.lookup_erase_ne same] at found

theorem len_le (put : Put before after key entry) (bounded : before.len ≤ before.capacity) :
    after.len ≤ before.capacity := by
  rw [len_eq_card] at bounded ⊢
  cases put with
  | room free entries =>
      rw [len_eq_card] at free
      rw [keySet_insert entries]
      exact (Finset.card_insert_le _ _).trans free
  | full oldest packed found entries =>
      have fewer := Finset.card_erase_add_one (oldest_mem found)
      have grown := Finset.card_insert_le key (before.keySet.erase oldest)
      rw [keySet_replace entries]
      omega

theorem stores (put : Put before after key entry)
    (kept : before.capacity ≤ before.len → before.oldest = some key) :
    Stores before after key entry fun _ => False := by
  refine ⟨put.lookup_same, fun other different => ⟨False.elim, fun _ => ?_⟩⟩
  cases put with
  | room free entries => rw [entries, AList.lookup_insert_ne different]
  | full oldest packed found entries =>
      obtain rfl := Option.some.inj (found.symm.trans (kept packed))
      rw [entries, AList.lookup_insert_ne different, AList.lookup_erase_ne different]

theorem oldest_of_stores (put : Put before after key entry)
    (right : Stores before after key entry fun _ => False) (packed : before.capacity ≤ before.len) :
    before.oldest = some key := by
  cases put with
  | room free entries => omega
  | full oldest packed found entries =>
      rw [found]
      by_contra different
      have other : oldest ≠ key := fun same => different (by rw [same])
      obtain ⟨held, listed, -⟩ := oldest_spec found
      have kept := (right.2 oldest other).2 id
      rw [entries, AList.lookup_insert_ne other, AList.lookup_erase, listed] at kept
      cases kept

theorem stores_oldest (put : Put before after key entry) (packed : before.capacity ≤ before.len)
    (fresh : key ∉ before.entries) :
    ∃ oldest, Oldest before oldest ∧ Stores before after key entry fun other => other = oldest := by
  cases put with
  | room free entries => omega
  | full oldest packed found entries =>
      have other : oldest ≠ key := by
        rintro rfl
        exact fresh (mem_keySet.mp (oldest_mem found))
      refine ⟨oldest, oldest_spec found, by rw [entries, AList.lookup_insert], ?_⟩
      intro another different
      rw [entries, AList.lookup_insert_ne different]
      constructor
      · rintro rfl
        rw [AList.lookup_erase]
      · intro kept
        rw [AList.lookup_erase_ne kept]

end Put

theorem Sound.step (sound : Sound digest capacity past cache) (space : 0 < capacity) :
    Sound digest capacity (past ++ [call]) (call.apply digest cache) := by
  cases call with
  | get task now =>
      obtain ⟨entries, limit, ttl, -⟩ := @get_frame digest cache task now sound.ageless
      refine ⟨limit.trans sound.limit, ttl.trans sound.ageless, ?_, ?_⟩
      · intro key entry found
        rw [CacheCall.apply, entries] at found
        rw [lastPut_snoc]
        exact sound.recorded key entry found
      · rw [CacheCall.apply, len, entries]
        exact sound.bounded
  | put task result now =>
      cases success : result.isSuccess with
      | false =>
          rw [CacheCall.apply, put_failed success]
          refine ⟨sound.limit, sound.ageless, ?_, sound.bounded⟩
          intro key entry found
          rw [lastPut_snoc, CacheCall.puts, success]
          exact sound.recorded key entry found
      | true =>
          have limit := sound.limit
          have put := @put_cases digest cache task result now (limit ▸ space) success
          refine ⟨put_capacity.trans limit, put_ttl.trans sound.ageless, ?_, ?_⟩
          · intro key entry found
            rw [lastPut_snoc, CacheCall.puts, success]
            by_cases same : key = WorkKey.of digest task
            · rw [CacheCall.apply, same, put.lookup_same] at found
              obtain rfl := Option.some.inj found
              exact ⟨task, by simp [Option.filter, same]⟩
            · have different : WorkKey.of digest task ≠ key := fun equal => same equal.symm
              obtain ⟨earlier, last⟩ := sound.recorded key entry (put.lookup_other same found)
              exact ⟨earlier, by simp [Option.filter, different, last]⟩
          · exact (put.len_le (limit ▸ sound.bounded)).trans limit.le

theorem after_sound (space : 0 < capacity) (calls : List CacheCall) :
    Sound digest capacity calls (after digest capacity calls) := by
  induction calls using List.reverseRecOn with
  | nil => exact ⟨rfl, rfl, by simp [after, new], Nat.zero_le _⟩
  | append_singleton past call ih =>
      rw [after_snoc]
      exact ih.step space

theorem key_eq_iff {first second : Task}
    (unique : digest first.payload = digest second.payload → first.payload = second.payload) :
    WorkKey.of digest first = WorkKey.of digest second ↔ first.work = second.work := by
  simp only [WorkKey.of, WorkKey.mk.injEq, Task.work, Prod.mk.injEq]
  constructor
  · rintro ⟨kind, payload, wasmModule, inputs⟩
    exact ⟨kind, unique payload, wasmModule, inputs⟩
  · rintro ⟨kind, payload, wasmModule, inputs⟩
    exact ⟨kind, by rw [payload], wasmModule, inputs⟩

theorem task_of_puts {put : Task × CachedResult} (found : call.puts = some put) :
    call.task = put.1 := by
  cases call with
  | get task now => cases found
  | put task result now =>
      rw [CacheCall.puts] at found
      split at found
      · cases found
        rfl
      · cases found

/-- Without collisions the entries of a key are those of the same work. -/
theorem latest_eq (unique : ∀ call ∈ past, digest call.task.payload = digest task.payload →
      call.task.payload = task.payload) :
    latest past task = (lastPut digest past (WorkKey.of digest task)).map fun put => put.2.result := by
  rw [latest, lastPut]
  congr 2
  refine List.filter_congr fun put member => ?_
  obtain ⟨call, made, found⟩ := List.mem_filterMap.mp member
  have same := unique call made
  rw [task_of_puts found] at same
  exact decide_eq_decide.mpr (key_eq_iff same).symm

theorem mem_keysPut {put : Task × CachedResult} (found : lastPut digest past key = some put) :
    key ∈ keysPut digest past := by
  obtain ⟨member, same⟩ := List.mem_filter.mp (List.mem_of_getLast? found)
  exact List.mem_map.mpr ⟨put, member, of_decide_eq_true same⟩

theorem Sound.keySet_subset (sound : Sound digest capacity past cache) :
    cache.keySet ⊆ (keysPut digest past).toFinset := by
  intro key held
  obtain ⟨entry, found⟩ := Option.isSome_iff_exists.mp (AList.lookup_isSome.mpr (mem_keySet.mp held))
  obtain ⟨task, last⟩ := sound.recorded key entry found
  exact List.mem_toFinset.mpr (mem_keysPut last)

theorem Fills.put {after : ResultCache} {entry : CachedResult} (fills : Fills digest past cache)
    (sound : Sound digest capacity past cache) (put : Put cache after key entry)
    (limit : after.capacity = cache.capacity)
    (keys : (keysPut digest (past ++ [call])).toFinset = insert key (keysPut digest past).toFinset)
    (again : key ∈ cache.entries → cache.capacity ≤ cache.len → cache.oldest = some key) :
    Fills digest (past ++ [call]) after := by
  obtain ⟨bounded, filled⟩ := fills
  have more := Finset.card_le_card (Finset.subset_insert key (keysPut digest past).toFinset)
  rw [Fills, limit, keys]
  refine ⟨put.len_le bounded, ?_⟩
  rw [len_eq_card] at filled bounded ⊢
  cases put with
  | room free entries =>
      -- no key has been dropped yet
      rw [len_eq_card] at free
      have all : cache.keySet = (keysPut digest past).toFinset :=
        Finset.eq_of_subset_of_card_le sound.keySet_subset (by omega)
      have grown := Finset.card_insert_le key cache.keySet
      rw [Put.keySet_insert entries, all] at *
      omega
  | full oldest packed found entries =>
      have fewer := Finset.card_erase_add_one (Put.oldest_mem found)
      rw [len_eq_card] at packed
      rw [Put.keySet_replace entries]
      by_cases held : key ∈ cache.entries
      · obtain rfl := Option.some.inj (found.symm.trans (again held (by rwa [len_eq_card])))
        rw [Finset.insert_erase (mem_keySet.mpr held)]
        omega
      · have fresh : key ∉ cache.keySet.erase oldest := fun member =>
          held (mem_keySet.mp (Finset.mem_of_mem_erase member))
        rw [Finset.card_insert_of_notMem fresh]
        omega

theorem OnlyOldestAgain.front {rest : List CacheCall}
    (only : OnlyOldestAgain digest capacity (past ++ rest)) :
    OnlyOldestAgain digest capacity past := by
  intro before task result now later split
  exact only before task result now (later ++ rest) (by rw [split]; simp)

theorem after_fills (space : 0 < capacity) (only : OnlyOldestAgain digest capacity past) :
    Fills digest past (after digest capacity past) := by
  induction past using List.reverseRecOn with
  | nil => exact ⟨Nat.zero_le _, by simp [after, new, len, keysPut]⟩
  | append_singleton past call ih =>
      have fills := ih only.front
      have sound := @after_sound digest capacity space past
      rw [after_snoc]
      cases call with
      | get task now =>
          obtain ⟨entries, limit, -⟩ := @get_frame digest _ task now sound.ageless
          rw [Fills, CacheCall.apply, len, entries, limit, keysPut_snoc]
          simpa [CacheCall.puts, Fills, len] using fills
      | put task result now =>
          cases success : result.isSuccess with
          | false =>
              rw [Fills, CacheCall.apply, put_failed success, keysPut_snoc]
              simpa [CacheCall.puts, success, Fills] using fills
          | true =>
              have put := @put_cases digest _ task result now (sound.limit ▸ space) success
              refine fills.put sound put put_capacity ?_ ?_
              · rw [keysPut_snoc, CacheCall.puts, if_pos success]
                simp [List.toFinset_append]
              · intro held packed
                rw [sound.limit] at packed
                exact only past task result now [] rfl success held
                  (Nat.le_antisymm sound.bounded packed)

theorem behaves_get (sound : Sound digest capacity past cache)
    (unique : ∀ call ∈ past, digest call.task.payload = digest task.payload →
      call.task.payload = task.payload) : Behaves digest past cache (.get task now) := by
  obtain ⟨entries, -, -, answer⟩ := @get_frame digest cache task now sound.ageless
  refine ⟨entries, ?_, ?_⟩
  · intro held
    obtain ⟨entry, found⟩ := Option.isSome_iff_exists.mp (AList.lookup_isSome.mpr held)
    obtain ⟨earlier, last⟩ := sound.recorded _ entry found
    refine ⟨entry.result, by rw [latest_eq unique, last]; rfl, ?_⟩
    rw [answer, found]
    rfl
  · intro absent
    rw [answer, AList.lookup_eq_none.mpr absent]
    rfl

theorem behaves_put_iff (sound : Sound digest capacity past cache) (space : 0 < capacity) :
    Behaves digest past cache (.put task result now) ↔
      (result.isSuccess = true → Held digest cache task → cache.len = capacity →
        cache.oldest = some (WorkKey.of digest task)) := by
  have limit := sound.limit
  have bounded := sound.bounded
  constructor
  · intro behaves success held packed
    have put := @put_cases digest cache task result now (limit ▸ space) success
    exact put.oldest_of_stores ((behaves success).1 held) (by omega)
  · intro only success
    have put := @put_cases digest cache task result now (limit ▸ space) success
    refine ⟨fun held => put.stores fun packed => only success held (by omega), ?_, ?_⟩
    · intro fresh free
      exact put.stores fun packed => absurd free (by omega)
    · intro fresh packed
      exact put.stores_oldest packed.ge fresh

/-- The cache keeps what it should exactly if no key that it holds is put again while it is full,
unless the entry of that key is the oldest one. -/
theorem keeps_latest_iff (digest : Bytes → DataId) (capacity : Nat) (calls : List CacheCall)
    (space : 0 < capacity) (unique : NoCollision digest calls) :
    KeepsLatest digest capacity calls ↔ OnlyOldestAgain digest capacity calls := by
  constructor
  · rintro ⟨-, behaves⟩ past task result now rest split
    exact (behaves_put_iff (after_sound space past) space).mp (behaves past _ rest split)
  · intro only
    constructor
    · rintro past rest rfl
      exact after_fills space only.front
    · rintro past call rest split
      have sound := @after_sound digest capacity space past
      cases call with
      | get task now =>
          refine behaves_get sound fun earlier made => ?_
          exact unique earlier (by rw [split]; exact List.mem_append_left _ made)
            (.get task now) (by simp [split])
      | put task result now =>
          exact (behaves_put_iff sound space).mpr (only past task result now rest split)

def hashing (payload : UInt8) : Task := Task.new ⟨0⟩ "hash" [payload]

def putting (payload : UInt8) (now : Nat) : CacheCall :=
  .put (hashing payload) ⟨⟨0⟩, ⟨0⟩, .success [payload], 5, none⟩ now

theorem stored_again_drops_another :
    ∃ calls, NoCollision leadingBytes calls ∧
      (calls.filterMap CacheCall.puts).map (fun put => put.2.stored) = [1, 2, 3] ∧
      keysPut leadingBytes calls =
        [WorkKey.of leadingBytes (hashing 1), WorkKey.of leadingBytes (hashing 2),
          WorkKey.of leadingBytes (hashing 2)] ∧
      (after leadingBytes 2 calls).entries.keys = [WorkKey.of leadingBytes (hashing 2)] ∧
      ¬KeepsLatest leadingBytes 2 calls := by
  refine ⟨[putting 1 1, putting 2 2, putting 2 3], by decide, by decide, by decide, by decide, ?_⟩
  rintro ⟨fills, -⟩
  obtain ⟨-, filled⟩ := fills [putting 1 1, putting 2 2, putting 2 3] [] rfl
  exact absurd filled (by decide)

theorem oldest_stored_again : KeepsLatest leadingBytes 1 [putting 1 1, putting 1 2] := by
  refine (keeps_latest_iff leadingBytes 1 [putting 1 1, putting 1 2] (by decide)
    (by decide)).mpr ?_
  intro past task result now rest split success held packed
  rcases past with _ | ⟨first, _ | ⟨second, later⟩⟩
  · cases split
    exact absurd packed (by decide)
  · cases split
    decide
  · have shorter := congrArg List.length split
    simp at shorter

end ResultCache

end AetherMesh
