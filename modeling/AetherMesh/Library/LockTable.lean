import AetherMesh.Library.Counting

/-!
A table that hands out one lock for each key. A lock is shared by reference: its strong
count is the number of parties that have it, and one more while it is in the table.
Whoever is done with a lock takes it out of the table if nobody else can have it.
-/

namespace LockTable

open Counting

/-- A lock is known by a number. `owners` says which party has locked it. -/
structure Locks (Key : Type*) where
  table : Key → Option Nat
  strong : Nat → Nat
  owners : Nat → Option Nat
  fresh : Nat

/-- What a party has to do with the table. One that is leaving has unlocked; one that is parting
has left the table alone and has only its reference to the lock. -/
inductive Standing (Key : Type*)
  | away
  | waiting (key : Key) (lock : Nat)
  | holding (key : Key) (lock : Nat)
  | leaving (key : Key) (lock : Nat)
  | parting (lock : Nat)

variable {Key : Type*}

namespace Standing

def lock : Standing Key → Option Nat
  | .away => none
  | .waiting _ lock | .holding _ lock | .leaving _ lock | .parting lock => some lock

def entry : Standing Key → Option (Key × Nat)
  | .waiting key lock | .holding key lock | .leaving key lock => some (key, lock)
  | _ => none

def refers (lock : Nat) (standing : Standing Key) : Bool := standing.lock = some lock

theorem refers_own {standing : Standing Key} {lock : Nat} (has : standing.lock = some lock) :
    standing.refers lock = true :=
  decide_eq_true has

theorem refers_other {standing : Standing Key} {lock other : Nat}
    (has : standing.lock = some lock) (different : other ≠ lock) :
    standing.refers other = false := by
  refine decide_eq_false fun also => different ?_
  exact Option.some.inj (also.symm.trans has)

theorem refers_away (lock : Nat) : (away : Standing Key).refers lock = false := rfl

theorem lock_of_entry {standing : Standing Key} {key : Key} {lock : Nat}
    (goes : standing.entry = some (key, lock)) : standing.lock = some lock := by
  cases standing with
  | away | parting => cases goes
  | waiting | holding | leaving =>
      cases goes
      rfl

end Standing

namespace Locks

variable [DecidableEq Key] (locks : Locks Key)

def lookup (key : Key) : Locks Key × Nat :=
  match locks.table key with
  | some lock =>
      ({ locks with strong := Function.update locks.strong lock (locks.strong lock + 1) }, lock)
  | none =>
      ({ table := Function.update locks.table key (some locks.fresh)
         strong := Function.update locks.strong locks.fresh 2
         owners := Function.update locks.owners locks.fresh none
         fresh := locks.fresh + 1 }, locks.fresh)

def acquire (lock party : Nat) : Locks Key :=
  { locks with owners := Function.update locks.owners lock (some party) }

def unlock (lock : Nat) : Locks Key :=
  { locks with owners := Function.update locks.owners lock none }

def drop (lock : Nat) : Locks Key :=
  { locks with strong := Function.update locks.strong lock (locks.strong lock - 1) }

def remove (key : Key) : Locks Key :=
  match locks.table key with
  | some lock => { locks.drop lock with table := Function.update locks.table key none }
  | none => locks

def retire (key : Key) (lock : Nat) : Locks Key :=
  if locks.strong lock ≤ 2 then locks.remove key else locks

end Locks

/-- The strong count of a lock in the table is one more than the number of parties that have it,
and every party that goes by a key has the lock that the table has for it. -/
structure Sound (count : Nat) (locks : Locks Key) (standing : Nat → Standing Key) : Prop where
  counted : ∀ key lock, locks.table key = some lock →
    locks.strong lock = tally count (fun party => (standing party).refers lock) + 1
  distinct : ∀ key other lock, locks.table key = some lock → locks.table other = some lock →
    key = other
  known : ∀ key lock, locks.table key = some lock → lock < locks.fresh
  issued : ∀ party lock, (standing party).lock = some lock → lock < locks.fresh
  current : ∀ party key lock, (standing party).entry = some (key, lock) →
    locks.table key = some lock
  owned : ∀ party key lock, standing party = .holding key lock → locks.owners lock = some party

namespace Sound

variable {count party other : Nat} {locks : Locks Key} {standing : Nat → Standing Key} {key : Key}
  {lock : Nat} {new : Standing Key}

theorem start : Sound count (⟨fun _ => none, fun _ => 0, fun _ => none, 0⟩ : Locks Key)
    (fun _ => .away) where
  counted := fun _ _ entered => nomatch entered
  distinct := fun _ _ _ entered => nomatch entered
  known := fun _ _ entered => nomatch entered
  issued := fun _ _ has => nomatch has
  current := fun _ _ _ goes => nomatch goes
  owned := fun _ _ _ holds => nomatch holds

/-- At most one party holds the lock of a key. -/
theorem holder_unique (sound : Sound count locks standing) {mutex : Nat}
    (first : standing party = .holding key lock) (second : standing other = .holding key mutex) :
    party = other := by
  have left := sound.current party key lock (by rw [first]; rfl)
  have right := sound.current other key mutex (by rw [second]; rfl)
  obtain rfl := Option.some.inj (left.symm.trans right)
  exact Option.some.inj ((sound.owned party key lock first).symm.trans
    (sound.owned other key lock second))

theorem alone (sound : Sound count locks standing)
    (outside : ∀ party, count ≤ party → standing party = .away)
    (leaves : standing party = .leaving key lock) (few : locks.strong lock ≤ 2)
    (different : other ≠ party) : (standing other).lock ≠ some lock := by
  intro has
  have bound : ∀ party, (standing party).lock = some lock → party < count := by
    intro party has
    by_contra away
    rw [outside party (by omega)] at has
    cases has
  have also : (standing party).lock = some lock := by rw [leaves]; rfl
  have counted := sound.counted key lock (sound.current party key lock (by rw [leaves]; rfl))
  have passing := @only_passing count party (fun party => (standing party).refers lock)
    (bound party also) (Standing.refers_own also) (by omega) other (bound other has)
  exact different (passing (Standing.refers_own has))

theorem counted_move (sound : Sound count locks standing) (inside : party < count)
    (entered : locks.table key = some lock) (new : Standing Key) :
    tally count (fun other => (Function.update standing party new other).refers lock) + 1 +
        ((standing party).refers lock).toNat =
      locks.strong lock + (new.refers lock).toNat := by
  have shifted := tally_update inside (Standing.refers lock) standing new
  have counted := sound.counted key lock entered
  omega

theorem issued_move (sound : Sound count locks standing)
    (has : ∀ lock, new.lock = some lock → lock < locks.fresh) (other lock : Nat)
    (refers : (Function.update standing party new other).lock = some lock) : lock < locks.fresh := by
  by_cases same : other = party
  · rw [same, Function.update_self] at refers
    exact has lock refers
  · rw [Function.update_of_ne same] at refers
    exact sound.issued other lock refers

theorem current_move (sound : Sound count locks standing)
    (goes : ∀ key lock, new.entry = some (key, lock) → locks.table key = some lock) (other : Nat)
    (key : Key) (lock : Nat)
    (entry : (Function.update standing party new other).entry = some (key, lock)) :
    locks.table key = some lock := by
  by_cases same : other = party
  · rw [same, Function.update_self] at entry
    exact goes key lock entry
  · rw [Function.update_of_ne same] at entry
    exact sound.current other key lock entry

theorem owned_move (sound : Sound count locks standing) (free : ∀ key lock, new ≠ .holding key lock)
    (other : Nat) (key : Key) (lock : Nat)
    (holds : Function.update standing party new other = .holding key lock) :
    locks.owners lock = some other := by
  by_cases same : other = party
  · rw [same, Function.update_self] at holds
    exact absurd holds (free key lock)
  · rw [Function.update_of_ne same] at holds
    exact sound.owned other key lock holds

theorem reown (sound : Sound count locks standing) (inside : party < count)
    (same : new.lock = (standing party).lock)
    (goes : ∀ key lock, new.entry = some (key, lock) →
      (standing party).entry = some (key, lock))
    {owners : Nat → Option Nat}
    (owned : ∀ other key lock, Function.update standing party new other = .holding key lock →
      owners lock = some other) :
    Sound count { locks with owners := owners } (Function.update standing party new) where
  counted := by
    intro key lock entered
    have moved := sound.counted_move inside entered new
    rw [Standing.refers, Standing.refers, same] at moved
    exact (Nat.add_right_cancel moved).symm
  distinct := sound.distinct
  known := sound.known
  issued := sound.issued_move fun lock has => sound.issued party lock (same ▸ has)
  current := sound.current_move fun key lock entry => sound.current party key lock (goes key lock entry)
  owned := owned

theorem acquire (sound : Sound count locks standing) (inside : party < count)
    (waits : standing party = .waiting key lock) (free : locks.owners lock = none) :
    Sound count (locks.acquire lock party) (Function.update standing party (.holding key lock)) := by
  refine sound.reown inside (by rw [waits]; rfl) (fun _ _ entry => by rw [waits]; exact entry) ?_
  intro other otherKey otherLock holds
  by_cases same : other = party
  · subst same
    rw [Function.update_self, Standing.holding.injEq] at holds
    rw [← holds.2, Function.update_self]
  · rw [Function.update_of_ne same] at holds
    have owned := sound.owned other otherKey otherLock holds
    have different : otherLock ≠ lock := by
      rintro rfl
      rw [free] at owned
      cases owned
    rw [Function.update_of_ne different]
    exact owned

theorem unlock (sound : Sound count locks standing) (inside : party < count)
    (holds : standing party = .holding key lock) :
    Sound count (locks.unlock lock) (Function.update standing party (.leaving key lock)) := by
  refine sound.reown inside (by rw [holds]; rfl) (fun _ _ entry => by rw [holds]; exact entry) ?_
  intro other otherKey otherLock also
  have different : other ≠ party := by
    rintro rfl
    rw [Function.update_self] at also
    cases also
  rw [Function.update_of_ne different] at also
  have owned := sound.owned other otherKey otherLock also
  have apart : otherLock ≠ lock := by
    rintro rfl
    exact different (Option.some.inj (owned.symm.trans (sound.owned party key otherLock holds)))
  rw [Function.update_of_ne apart]
  exact owned

theorem drop (sound : Sound count locks standing) (inside : party < count)
    (has : (standing party).lock = some lock) :
    Sound count (locks.drop lock) (Function.update standing party .away) where
  counted := by
    intro key other entered
    have moved := sound.counted_move inside entered .away
    rw [Standing.refers_away, Bool.toNat_false] at moved
    change Function.update locks.strong lock (locks.strong lock - 1) other = _
    by_cases same : other = lock
    · subst same
      rw [Standing.refers_own has, Bool.toNat_true] at moved
      rw [Function.update_self]
      omega
    · rw [Standing.refers_other has same, Bool.toNat_false] at moved
      rw [Function.update_of_ne same]
      omega
  distinct := sound.distinct
  known := sound.known
  issued := sound.issued_move fun _ has => nomatch has
  current := sound.current_move fun _ _ entry => nomatch entry
  owned := sound.owned_move fun _ _ holds => nomatch holds

theorem lookup_known (sound : Sound count locks standing) (inside : party < count)
    (away : standing party = .away) (entered : locks.table key = some lock) :
    Sound count { locks with strong := Function.update locks.strong lock (locks.strong lock + 1) }
      (Function.update standing party (.waiting key lock)) where
  counted := by
    intro otherKey other found
    have moved := sound.counted_move inside found (.waiting key lock)
    rw [away, Standing.refers_away, Bool.toNat_false] at moved
    change Function.update locks.strong lock (locks.strong lock + 1) other = _
    by_cases same : other = lock
    · subst same
      rw [Standing.refers_own rfl, Bool.toNat_true] at moved
      rw [Function.update_self]
      omega
    · rw [Standing.refers_other rfl same, Bool.toNat_false] at moved
      rw [Function.update_of_ne same]
      omega
  distinct := sound.distinct
  known := sound.known
  issued := by
    refine sound.issued_move fun other has => ?_
    cases has
    exact sound.known key lock entered
  current := by
    refine sound.current_move fun otherKey other entry => ?_
    cases entry
    exact entered
  owned := sound.owned_move fun _ _ holds => nomatch holds

theorem unissued (sound : Sound count locks standing) (party : Nat) (_ : party < count) :
    (standing party).refers locks.fresh = false :=
  decide_eq_false fun has => Nat.lt_irrefl _ (sound.issued party _ has)

variable [DecidableEq Key]

theorem entered_new {other : Key}
    (found : Function.update locks.table key (some locks.fresh) other = some lock) :
    other = key ∧ lock = locks.fresh ∨ other ≠ key ∧ locks.table other = some lock := by
  by_cases same : other = key
  · rw [same, Function.update_self, Option.some.injEq] at found
    exact .inl ⟨same, found.symm⟩
  · rw [Function.update_of_ne same] at found
    exact .inr ⟨same, found⟩

theorem lookup_new (sound : Sound count locks standing) (inside : party < count)
    (away : standing party = .away) (missing : locks.table key = none) :
    Sound count
      { table := Function.update locks.table key (some locks.fresh)
        strong := Function.update locks.strong locks.fresh 2
        owners := Function.update locks.owners locks.fresh none
        fresh := locks.fresh + 1 }
      (Function.update standing party (.waiting key locks.fresh)) where
  counted := by
    intro other lock found
    have shifted := tally_update inside (Standing.refers lock) standing (.waiting key locks.fresh)
    rw [away, Standing.refers_away, Bool.toNat_false] at shifted
    change Function.update locks.strong locks.fresh 2 lock = _
    rcases entered_new found with ⟨rfl, rfl⟩ | ⟨-, old⟩
    · rw [Standing.refers_own rfl, Bool.toNat_true, tally_eq_zero.mpr sound.unissued] at shifted
      rw [Function.update_self]
      omega
    · have different := Nat.ne_of_lt (sound.known other lock old)
      rw [Standing.refers_other rfl different, Bool.toNat_false] at shifted
      rw [Function.update_of_ne different, sound.counted other lock old]
      omega
  distinct := by
    intro first second lock left right
    rcases entered_new left with ⟨rfl, rfl⟩ | ⟨-, old⟩
    · rcases entered_new right with ⟨rfl, -⟩ | ⟨-, also⟩
      · rfl
      · exact absurd (sound.known second _ also) (Nat.lt_irrefl _)
    · rcases entered_new right with ⟨rfl, rfl⟩ | ⟨-, also⟩
      · exact absurd (sound.known first _ old) (Nat.lt_irrefl _)
      · exact sound.distinct first second lock old also
  known := by
    intro other lock found
    rcases entered_new found with ⟨-, rfl⟩ | ⟨-, old⟩
    · exact Nat.lt_succ_self _
    · exact Nat.lt_succ_of_lt (sound.known other lock old)
  issued := by
    intro other lock has
    by_cases same : other = party
    · rw [same, Function.update_self] at has
      cases has
      exact Nat.lt_succ_self _
    · rw [Function.update_of_ne same] at has
      exact Nat.lt_succ_of_lt (sound.issued other lock has)
  current := by
    intro other otherKey lock entry
    change Function.update locks.table key (some locks.fresh) otherKey = some lock
    by_cases same : other = party
    · rw [same, Function.update_self] at entry
      cases entry
      exact Function.update_self ..
    · rw [Function.update_of_ne same] at entry
      have entered := sound.current other otherKey lock entry
      have different : otherKey ≠ key := by
        rintro rfl
        rw [missing] at entered
        cases entered
      rw [Function.update_of_ne different]
      exact entered
  owned := by
    intro other otherKey lock holds
    change Function.update locks.owners locks.fresh none lock = some other
    have apart : other ≠ party := by
      rintro rfl
      rw [Function.update_self] at holds
      cases holds
    rw [Function.update_of_ne apart] at holds
    have different := Nat.ne_of_lt (sound.issued other lock (by rw [holds]; rfl))
    rw [Function.update_of_ne different]
    exact sound.owned other otherKey lock holds

theorem lookup (sound : Sound count locks standing) (inside : party < count)
    (away : standing party = .away) (key : Key) :
    Sound count (locks.lookup key).1
      (Function.update standing party (.waiting key (locks.lookup key).2)) := by
  unfold Locks.lookup
  split
  · rename_i lock entered
    exact sound.lookup_known inside away entered
  · rename_i missing
    exact sound.lookup_new inside away missing

theorem entered_removed {other : Key} {mutex : Nat}
    (found : Function.update locks.table key none other = some mutex) :
    other ≠ key ∧ locks.table other = some mutex := by
  by_cases same : other = key
  · rw [same, Function.update_self] at found
    cases found
  · rw [Function.update_of_ne same] at found
    exact ⟨same, found⟩

theorem remove (sound : Sound count locks standing) (entered : locks.table key = some lock)
    (nobody : ∀ party mutex, (standing party).entry ≠ some (key, mutex)) :
    Sound count (locks.remove key) standing := by
  rw [Locks.remove, entered]
  refine ⟨?_, ?_, ?_, sound.issued, ?_, sound.owned⟩
  · intro other mutex found
    obtain ⟨different, old⟩ := entered_removed found
    have apart : mutex ≠ lock := by
      rintro rfl
      exact different (sound.distinct other key mutex old entered)
    exact (Function.update_of_ne apart _ _).trans (sound.counted other mutex old)
  · intro first second mutex left right
    exact sound.distinct first second mutex (entered_removed left).2 (entered_removed right).2
  · intro other mutex found
    exact sound.known other mutex (entered_removed found).2
  · intro party other mutex entry
    have different : other ≠ key := by
      rintro rfl
      exact nobody party mutex entry
    exact (Function.update_of_ne different _ _).trans (sound.current party other mutex entry)

theorem retire (sound : Sound count locks standing)
    (outside : ∀ party, count ≤ party → standing party = .away) (inside : party < count)
    (leaves : standing party = .leaving key lock) :
    Sound count (locks.retire key lock) (Function.update standing party (.parting lock)) := by
  have entered := sound.current party key lock (by rw [leaves]; rfl)
  have parted : Sound count locks (Function.update standing party (.parting lock)) :=
    sound.reown inside (by rw [leaves]; rfl) (fun _ _ => by nofun)
      (sound.owned_move fun _ _ => by nofun)
  rw [Locks.retire]
  split
  · rename_i few
    refine parted.remove entered fun other mutex entry => ?_
    have different : other ≠ party := by
      rintro rfl
      rw [Function.update_self] at entry
      cases entry
    rw [Function.update_of_ne different] at entry
    obtain rfl := Option.some.inj (entered.symm.trans (sound.current other key mutex entry))
    exact sound.alone outside leaves few different (Standing.lock_of_entry entry)
  · exact parted

/-- Whoever takes an entry out of the table leaves no other party that goes by its key or lock. -/
theorem retire_alone (sound : Sound count locks standing)
    (outside : ∀ party, count ≤ party → standing party = .away)
    (leaves : standing party = .leaving key lock) {gone : Key} {mutex : Nat}
    (entered : locks.table gone = some mutex) (removed : (locks.retire key lock).table gone = none)
    (different : other ≠ party) {wanted : Key} {held : Nat}
    (goes : (standing other).entry = some (wanted, held)) : wanted ≠ gone ∧ held ≠ mutex := by
  have current := sound.current party key lock (by rw [leaves]; rfl)
  have wants := sound.current other wanted held goes
  by_cases few : locks.strong lock ≤ 2
  · rw [Locks.retire, if_pos few, Locks.remove, current] at removed
    have same : gone = key := by
      by_contra apart
      have stays : locks.table gone = none := (Function.update_of_ne apart _ _).symm.trans removed
      rw [entered] at stays
      cases stays
    subst same
    obtain rfl := Option.some.inj (entered.symm.trans current)
    have free : held ≠ mutex := by
      rintro rfl
      exact sound.alone outside leaves few different (Standing.lock_of_entry goes)
    refine ⟨?_, free⟩
    rintro rfl
    exact free (Option.some.inj (wants.symm.trans entered))
  · rw [Locks.retire, if_neg few, entered] at removed
    cases removed

end Sound

def Tended (locks : Locks Key) : Prop :=
  ∀ key lock, locks.table key = some lock → 2 ≤ locks.strong lock

namespace Tended

variable {count : Nat} {locks : Locks Key} {standing : Nat → Standing Key} {key : Key} {lock : Nat}

theorem start : Tended (⟨fun _ => none, fun _ => 0, fun _ => none, 0⟩ : Locks Key) := by
  intro key lock entered
  cases entered

theorem drop_iff (tended : Tended locks) :
    Tended (locks.drop lock) ↔ ∀ key, locks.table key = some lock → 2 < locks.strong lock := by
  constructor
  · intro left key entered
    have stays := left key lock entered
    change 2 ≤ Function.update locks.strong lock (locks.strong lock - 1) lock at stays
    rw [Function.update_self] at stays
    omega
  · intro shared key other entered
    change 2 ≤ Function.update locks.strong lock (locks.strong lock - 1) other
    by_cases same : other = lock
    · subst same
      have more := shared key entered
      rw [Function.update_self]
      omega
    · rw [Function.update_of_ne same]
      exact tended key other entered

theorem vacant (tended : Tended locks) (sound : Sound count locks standing)
    (away : ∀ party < count, standing party = .away) (key : Key) : locks.table key = none := by
  cases entered : locks.table key with
  | none => rfl
  | some lock =>
      have nobody : tally count (fun party => (standing party).refers lock) = 0 := by
        refine tally_eq_zero.mpr fun party inside => ?_
        rw [away party inside]
        rfl
      have counted := sound.counted key lock entered
      have two := tended key lock entered
      omega

variable [DecidableEq Key]

theorem lookup (tended : Tended locks) (sound : Sound count locks standing) (key : Key) :
    Tended (locks.lookup key).1 := by
  unfold Locks.lookup
  split
  · rename_i lock entered
    intro other mutex found
    have two := tended other mutex found
    change 2 ≤ Function.update locks.strong lock (locks.strong lock + 1) mutex
    by_cases same : mutex = lock
    · subst same
      rw [Function.update_self]
      omega
    · rw [Function.update_of_ne same]
      exact two
  · intro other mutex found
    change 2 ≤ Function.update locks.strong locks.fresh 2 mutex
    rcases Sound.entered_new found with ⟨-, rfl⟩ | ⟨-, old⟩
    · rw [Function.update_self]
    · rw [Function.update_of_ne (Nat.ne_of_lt (sound.known other mutex old))]
      exact tended other mutex old

theorem retire (tended : Tended locks) (sound : Sound count locks standing)
    (entered : locks.table key = some lock) : Tended (locks.retire key lock) := by
  rw [Locks.retire]
  split
  · rw [Locks.remove, entered]
    intro other mutex found
    obtain ⟨different, old⟩ := Sound.entered_removed found
    have apart : mutex ≠ lock := by
      rintro rfl
      exact different (sound.distinct other key mutex old entered)
    exact (tended other mutex old).trans_eq (Function.update_of_ne apart _ _).symm
  · exact tended

end Tended

def Manned (locks : Locks Key) (standing : Nat → Standing Key) : Prop :=
  ∀ lock party, locks.owners lock = some party → ∃ key, standing party = .holding key lock

namespace Manned

variable {locks : Locks Key} {standing : Nat → Standing Key} {key : Key} {lock party : Nat}
  {new : Standing Key}

theorem start : Manned (⟨fun _ => none, fun _ => 0, fun _ => none, 0⟩ : Locks Key) standing := by
  intro lock party owns
  cases owns

/-- A party that holds nothing may move, and no lock is given to anybody. -/
theorem move (manned : Manned locks standing) {others : Locks Key}
    (fewer : ∀ lock party, others.owners lock = some party → locks.owners lock = some party)
    (free : ∀ key lock, standing party = .holding key lock → others.owners lock ≠ some party) :
    Manned others (Function.update standing party new) := by
  intro lock other owns
  obtain ⟨key, holds⟩ := manned lock other (fewer lock other owns)
  have different : other ≠ party := by
    rintro rfl
    exact free key lock holds owns
  exact ⟨key, by rw [Function.update_of_ne different, holds]⟩

theorem acquire (manned : Manned locks standing) (waits : standing party = .waiting key lock) :
    Manned (locks.acquire lock party) (Function.update standing party (.holding key lock)) := by
  intro mutex other owns
  change Function.update locks.owners lock (some party) mutex = some other at owns
  by_cases same : mutex = lock
  · subst same
    rw [Function.update_self, Option.some.injEq] at owns
    subst owns
    exact ⟨key, Function.update_self ..⟩
  · rw [Function.update_of_ne same] at owns
    obtain ⟨otherKey, holds⟩ := manned mutex other owns
    have different : other ≠ party := by
      rintro rfl
      rw [waits] at holds
      cases holds
    exact ⟨otherKey, by rw [Function.update_of_ne different, holds]⟩

theorem unlock (manned : Manned locks standing) (holds : standing party = .holding key lock) :
    Manned (locks.unlock lock) (Function.update standing party new) := by
  refine manned.move ?_ ?_
  · intro mutex other owns
    change Function.update locks.owners lock none mutex = some other at owns
    by_cases same : mutex = lock
    · rw [same, Function.update_self] at owns
      cases owns
    · rwa [Function.update_of_ne same] at owns
  · intro otherKey mutex also owns
    rw [holds, Standing.holding.injEq] at also
    rw [← also.2] at owns
    change Function.update locks.owners lock none lock = some party at owns
    rw [Function.update_self] at owns
    cases owns

theorem lookup [DecidableEq Key] (manned : Manned locks standing) (away : standing party = .away)
    (key : Key) : Manned (locks.lookup key).1 (Function.update standing party new) := by
  refine manned.move ?_ ?_
  · intro mutex other owns
    unfold Locks.lookup at owns
    split at owns
    · exact owns
    · change Function.update locks.owners locks.fresh none mutex = some other at owns
      by_cases same : mutex = locks.fresh
      · rw [same, Function.update_self] at owns
        cases owns
      · rwa [Function.update_of_ne same] at owns
  · intro otherKey mutex holds
    rw [away] at holds
    cases holds

end Manned

end LockTable
