import AetherMesh.Core.Duration
import AetherMesh.Core.Task
import Mathlib.Data.List.MinMax
import Mathlib.Data.List.Perm.Basic
import Mathlib.Data.Prod.Lex
import Mathlib.Order.OrderDual

/-!
What runs next when more work waits than there are nodes to take it. Instants and
durations are in nanoseconds. How many levels a wait is worth is a parameter: the
source divides two floats, and an exact division can be put in their place.
-/

namespace AetherMesh

inductive Rejection
  | reject
  | dropOldest
  | dropLowestPriority
deriving DecidableEq

structure Queued (T : Type) where
  task : Task
  payload : T
  queuedAt : Nat
  deadline : Option Nat
  sequence : Nat
deriving DecidableEq

inductive Admitted (T : Type)
  | queued
  | refused (task : Task) (payload : T)
  | displaced (entry : Queued T)

structure Queue (T : Type) where
  entries : List (Queued T)
  nextSequence : Nat
  aging : Nat
  maxSize : Option Nat
  timeout : Option Nat
  rejection : Rejection

variable {T : Type}

/-- The quotient as the source takes it, cut off to a `u32`. -/
def floatLevels (waited aging : Nat) : Nat :=
  min ⌊double (asSecsF64 waited / asSecsF64 aging)⌋.toNat (2 ^ 32 - 1)

def exactLevels (waited aging : Nat) : Nat := waited / aging

namespace Queued

def effectivePriority (entry : Queued T) (levels : Nat → Nat → Nat) (now aging : Nat) : Priority :=
  if aging = 0 then entry.task.priority
  else
    Priority.promoted^[min (levels (now - entry.queuedAt) aging) Priority.all.length]
      entry.task.priority

def gained (entry : Queued T) (now later aging : Nat) : Nat :=
  floatLevels (later - entry.queuedAt) aging - floatLevels (now - entry.queuedAt) aging

def waited (entry : Queued T) (now : Nat) : Nat := now - entry.queuedAt

def expired (entry : Queued T) (now : Nat) : Bool :=
  match entry.deadline with
  | some deadline => deadline ≤ now
  | none => false

def rank (entry : Queued T) (levels : Nat → Nat → Nat) (now aging : Nat) : Nat ×ₗ Natᵒᵈ :=
  toLex ((entry.effectivePriority levels now aging).level, OrderDual.toDual entry.sequence)

def dropRank (entry : Queued T) (levels : Nat → Nat → Nat) (now aging : Nat) : Nat ×ₗ Nat :=
  toLex ((entry.effectivePriority levels now aging).level, entry.sequence)

end Queued

/-- `Instant::checked_add`; the seconds of an instant are a signed 64-bit number. -/
def checkedAdd (now timeout : Nat) : Option Nat :=
  if now + timeout < 2 ^ 63 * 10 ^ 9 then some (now + timeout) else none

namespace Queue

def new : Queue T where
  entries := []
  nextSequence := 0
  aging := 30 * 10 ^ 9
  maxSize := none
  timeout := none
  rejection := .reject

def withAging (queue : Queue T) (aging : Nat) : Queue T := { queue with aging }

def withMaxSize (queue : Queue T) (maxSize : Nat) : Queue T :=
  { queue with maxSize := if 0 < maxSize then some maxSize else none }

def withRejection (queue : Queue T) (rejection : Rejection) : Queue T := { queue with rejection }

def withTimeout (queue : Queue T) (timeout : Nat) : Queue T :=
  { queue with timeout := if timeout = 0 then none else some timeout }

def isFull (queue : Queue T) : Bool :=
  match queue.maxSize with
  | some maxSize => maxSize ≤ queue.entries.length
  | none => false

def remove (queue : Queue T) (index : Nat) : Queue T :=
  { queue with entries := queue.entries.eraseIdx index }

/-- `min_by_key` keeps the first of equal keys, and so does `argmin`. No policy makes room
without dropping an entry, so the source's inner `Option` is left out. -/
def makeRoom (queue : Queue T) (levels : Nat → Nat → Nat) (incoming : Task) (now : Nat) :
    Option (Queue T × Queued T) :=
  match queue.rejection with
  | .reject => none
  | .dropOldest =>
      (queue.entries.zipIdx.argmin fun entry => entry.1.sequence).map fun oldest =>
        (queue.remove oldest.2, oldest.1)
  | .dropLowestPriority =>
      match queue.entries.zipIdx.argmin fun entry => entry.1.dropRank levels now queue.aging with
      | none => none
      | some victim =>
          if incoming.priority ≤ victim.1.effectivePriority levels now queue.aging then none
          else some (queue.remove victim.2, victim.1)

def append (queue : Queue T) (task : Task) (payload : T) (now : Nat) (timeout : Option Nat) :
    Queue T :=
  { queue with
    entries := queue.entries ++
      [{ task
         payload
         queuedAt := now
         deadline := (timeout.or queue.timeout).bind (checkedAdd now)
         sequence := queue.nextSequence }]
    nextSequence := queue.nextSequence + 1 }

def pushWithTimeout (queue : Queue T) (levels : Nat → Nat → Nat) (task : Task) (payload : T)
    (now : Nat) (timeout : Option Nat) : Queue T × Admitted T :=
  if queue.isFull then
    match queue.makeRoom levels task now with
    | some (roomy, dropped) => (roomy.append task payload now timeout, .displaced dropped)
    | none => (queue, .refused task payload)
  else (queue.append task payload now timeout, .queued)

def push (queue : Queue T) (levels : Nat → Nat → Nat) (task : Task) (payload : T) (now : Nat) :
    Queue T × Admitted T :=
  queue.pushWithTimeout levels task payload now none

/-- `max_by_key` keeps the last of equal keys, so the scan starts from the end. -/
def pop (queue : Queue T) (levels : Nat → Nat → Nat) (now : Nat) : Option (Queue T × Queued T) :=
  (queue.entries.zipIdx.reverse.argmax fun entry => entry.1.rank levels now queue.aging).map fun best =>
    (queue.remove best.2, best.1)

/-- The scan of `expire`; `left` is how far `index` still is from the end. -/
def expireFrom (now : Nat) :
    (left index : Nat) → List (Queued T) → List (Queued T) → List (Queued T) × List (Queued T)
  | 0, _, entries, expired => (entries, expired)
  | left + 1, index, entries, expired =>
      match entries[index]? with
      | none => (entries, expired)
      | some entry =>
          if entry.expired now then
            expireFrom now left index (entries.eraseIdx index) (expired ++ [entry])
          else expireFrom now left (index + 1) entries expired

def expire (queue : Queue T) (now : Nat) : Queue T × List (Queued T) :=
  let scanned := expireFrom now queue.entries.length 0 queue.entries []
  ({ queue with entries := scanned.1 }, scanned.2)

end Queue

namespace Queued

theorem level_promoted_iterate (times : Nat) (priority : Priority) :
    (Priority.promoted^[times] priority).level = min (priority.level + times) 4 := by
  induction times generalizing priority with
  | zero =>
      have bound := priority.level_le_four
      simp only [Function.iterate_zero, id_eq, Nat.add_zero]
      omega
  | succ times ih =>
      rw [Function.iterate_succ_apply, ih, Priority.level_promoted]
      omega

theorem level_effectivePriority (entry : Queued T) (levels : Nat → Nat → Nat) (now aging : Nat)
    (positive : 0 < aging) :
    (entry.effectivePriority levels now aging).level =
      min (entry.task.priority.level + levels (now - entry.queuedAt) aging) 4 := by
  have nonzero : aging ≠ 0 := by omega
  have all : Priority.all.length = 5 := rfl
  simp only [effectivePriority, if_neg nonzero, level_promoted_iterate, all]
  omega

theorem floatLevels_zero (waited : Nat) : floatLevels waited 0 = 0 := by
  have none : asSecsF64 0 = 0 := by
    simp [asSecsF64, double, Rounding.round_zero]
  have same : double 0 = 0 := Rounding.round_zero
  simp [floatLevels, none, same]

theorem floatLevels_mono {shorter longer : Nat} (order : shorter ≤ longer) (aging : Nat) :
    floatLevels shorter aging ≤ floatLevels longer aging := by
  have quotient : double (asSecsF64 shorter / asSecsF64 aging) ≤
      double (asSecsF64 longer / asSecsF64 aging) :=
    double_mono (div_nonneg (asSecsF64_nonneg shorter) (asSecsF64_nonneg aging))
      (div_le_div_of_nonneg_right (asSecsF64_mono order) (asSecsF64_nonneg aging))
  have whole := Int.floor_mono quotient
  unfold floatLevels
  omega

theorem level_later (entry : Queued T) {now later : Nat} (order : now ≤ later) (aging : Nat) :
    (entry.effectivePriority floatLevels later aging).level =
      min ((entry.effectivePriority floatLevels now aging).level + entry.gained now later aging) 4 := by
  rcases aging.eq_zero_or_pos with rfl | positive
  · have bound := entry.task.priority.level_le_four
    simp only [effectivePriority, if_true, gained, floatLevels_zero]
    omega
  · have more := floatLevels_mono (Nat.sub_le_sub_right order entry.queuedAt) aging
    rw [level_effectivePriority _ _ _ _ positive, level_effectivePriority _ _ _ _ positive, gained]
    omega

-- The third period of a tenth of a second is lost.
example : floatLevels 300000000 100000000 = 2 := by decide +kernel

theorem expired_iff {entry : Queued T} {now : Nat} :
    entry.expired now = true ↔ ∃ deadline, entry.deadline = some deadline ∧ deadline ≤ now := by
  unfold expired
  cases entry.deadline with
  | none => simp
  | some deadline => simp

theorem expired_later {entry : Queued T} {now later : Nat} (order : now ≤ later)
    (past : entry.expired now = true) : entry.expired later = true := by
  unfold expired at past ⊢
  split at past
  · simp only [decide_eq_true_eq] at past ⊢
    omega
  · cases past

theorem level_le_of_rank_le {left right : Queued T} {levels : Nat → Nat → Nat} {now aging : Nat}
    (below : left.rank levels now aging ≤ right.rank levels now aging) :
    left.effectivePriority levels now aging ≤ right.effectivePriority levels now aging := by
  rw [Priority.le_iff]
  rcases Prod.Lex.toLex_le_toLex.mp below with lower | ⟨same, -⟩
  · exact lower.le
  · exact same.le

end Queued

namespace Queue

variable {queue after : Queue T} {levels : Nat → Nat → Nat} {now : Nat}

theorem getElem?_of_mem_zipIdx {entries : List (Queued T)} {found : Queued T × Nat}
    (member : found ∈ entries.zipIdx) : entries[found.2]? = some found.1 := by
  obtain ⟨entry, index⟩ := found
  simpa using List.mem_zipIdx_iff_getElem?.mp member

theorem makeRoom_eq_some {incoming : Task} {dropped : Queued T}
    (made : queue.makeRoom levels incoming now = some (after, dropped)) :
    ∃ index, queue.entries[index]? = some dropped ∧ after = queue.remove index := by
  unfold makeRoom at made
  split at made
  · cases made
  · simp only [Option.map_eq_some_iff, Prod.mk.injEq] at made
    obtain ⟨oldest, found, rfl, rfl⟩ := made
    exact ⟨oldest.2, getElem?_of_mem_zipIdx (List.argmin_mem found), rfl⟩
  · split at made
    · cases made
    · rename_i victim found
      split at made
      · cases made
      · simp only [Option.some.injEq, Prod.mk.injEq] at made
        obtain ⟨rfl, rfl⟩ := made
        exact ⟨victim.2, getElem?_of_mem_zipIdx (List.argmin_mem found), rfl⟩

theorem pushWithTimeout_cases {task : Task} {payload : T} {timeout : Option Nat}
    {admitted : Admitted T}
    (pushed : queue.pushWithTimeout levels task payload now timeout = (after, admitted)) :
    (admitted = .queued ∧ queue.isFull = false ∧
      after = queue.append task payload now timeout) ∨
    (admitted = .refused task payload ∧ after = queue) ∨
    (∃ index dropped, admitted = .displaced dropped ∧ queue.entries[index]? = some dropped ∧
      after = (queue.remove index).append task payload now timeout) := by
  unfold pushWithTimeout at pushed
  split at pushed
  · split at pushed
    · rename_i roomy dropped made
      obtain ⟨index, found, rfl⟩ := makeRoom_eq_some made
      cases pushed
      exact .inr (.inr ⟨index, dropped, rfl, found, rfl⟩)
    · cases pushed
      exact .inr (.inl ⟨rfl, rfl⟩)
  · rename_i room
    cases pushed
    exact .inl ⟨rfl, Bool.eq_false_of_not_eq_true room, rfl⟩

theorem pop_eq_none : queue.pop levels now = none ↔ queue.entries = [] := by
  simp [pop]

theorem pop_eq_some {entry : Queued T} (popped : queue.pop levels now = some (after, entry)) :
    ∃ index, queue.entries[index]? = some entry ∧ after = queue.remove index ∧
      ∀ other ∈ queue.entries, other.rank levels now queue.aging ≤ entry.rank levels now queue.aging := by
  simp only [pop, Option.map_eq_some_iff, Prod.mk.injEq] at popped
  obtain ⟨best, found, rfl, rfl⟩ := popped
  have member := List.mem_reverse.mp (List.argmax_mem found)
  refine ⟨best.2, getElem?_of_mem_zipIdx member, rfl, ?_⟩
  intro other waiting
  obtain ⟨index, place⟩ := List.mem_iff_getElem?.mp waiting
  have listed : (other, index) ∈ queue.entries.zipIdx.reverse := by
    rw [List.mem_reverse, List.mem_zipIdx_iff_getElem?]
    exact place
  exact List.le_of_mem_argmax (f := fun entry => entry.1.rank levels now queue.aging) listed found

theorem expireFrom_eq (left : Nat) (kept rest expired : List (Queued T))
    (length : rest.length = left) :
    expireFrom now left kept.length (kept ++ rest) expired =
      (kept ++ rest.filter (fun entry => !entry.expired now),
        expired ++ rest.filter (fun entry => entry.expired now)) := by
  -- The entries before the index have been looked at and stay.
  induction left generalizing kept rest expired with
  | zero =>
      obtain rfl := List.length_eq_zero_iff.mp length
      simp [expireFrom]
  | succ left ih =>
      obtain ⟨entry, tail, rfl⟩ : ∃ entry tail, rest = entry :: tail :=
        List.exists_cons_of_length_eq_add_one length
      have shorter : tail.length = left := by simpa using length
      have here : (kept ++ entry :: tail)[kept.length]? = some entry := by simp
      simp only [expireFrom, here]
      split
      · rename_i past
        have erased : (kept ++ entry :: tail).eraseIdx kept.length = kept ++ tail := by
          simp [List.eraseIdx_append_of_length_le]
        rw [erased, ih kept tail (expired ++ [entry]) shorter]
        simp [past]
      · rename_i waiting
        have moved := ih (kept ++ [entry]) tail expired shorter
        simp only [List.length_append, List.length_singleton, List.append_assoc,
          List.singleton_append] at moved
        rw [moved]
        simp [waiting]

theorem expire_eq (queue : Queue T) (now : Nat) :
    queue.expire now =
      ({ queue with entries := queue.entries.filter fun entry => !entry.expired now },
        queue.entries.filter fun entry => entry.expired now) := by
  have scanned := @expireFrom_eq T now queue.entries.length [] queue.entries [] rfl
  simp only [List.length_nil, List.nil_append] at scanned
  simp only [expire, scanned]

theorem perm_of_getElem? {entries : List (Queued T)} {index : Nat} {entry : Queued T}
    (found : entries[index]? = some entry) : (entry :: entries.eraseIdx index).Perm entries := by
  obtain ⟨inside, rfl⟩ := List.getElem?_eq_some_iff.mp found
  exact List.getElem_cons_eraseIdx_perm inside

end Queue

end AetherMesh
