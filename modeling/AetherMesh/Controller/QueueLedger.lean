import AetherMesh.Controller.Queue

/-!
What becomes of the tasks offered to a queue over a whole run of calls. A ledger
keeps the queue beside everything that was offered to it and everything its
calls have returned.
-/

namespace AetherMesh

variable {T : Type}

inductive QueueCall (T : Type)
  | push (task : Task) (payload : T) (now : Nat)
  | pushWithTimeout (task : Task) (payload : T) (now : Nat) (timeout : Option Nat)
  | pop (now : Nat)
  | expire (now : Nat)

def QueueCall.time : QueueCall T → Nat
  | .push _ _ now => now
  | .pushWithTimeout _ _ now _ => now
  | .pop now => now
  | .expire now => now

structure Ledger (T : Type) where
  queue : Queue T
  offered : List (Task × T)
  accepted : List (Queued T)
  refused : List (Task × T)
  displaced : List (Queued T)
  popped : List (Queued T)
  expired : List (Queued T)

def Queued.offer (entry : Queued T) : Task × T := (entry.task, entry.payload)

def Queue.configured (aging maxSize timeout : Nat) (rejection : Rejection) : Queue T :=
  (((Queue.new.withAging aging).withMaxSize maxSize).withRejection rejection).withTimeout timeout

namespace Ledger

def opened (queue : Queue T) : Ledger T where
  queue
  offered := []
  accepted := []
  refused := []
  displaced := []
  popped := []
  expired := []

def settle (ledger : Ledger T) (task : Task) (payload : T) (queue : Queue T) :
    Admitted T → Ledger T
  | .queued =>
      { ledger with
        queue
        offered := ledger.offered ++ [(task, payload)]
        accepted := ledger.accepted ++ queue.entries.getLast?.toList }
  | .refused back returned =>
      { ledger with
        queue
        offered := ledger.offered ++ [(task, payload)]
        refused := ledger.refused ++ [(back, returned)] }
  | .displaced dropped =>
      { ledger with
        queue
        offered := ledger.offered ++ [(task, payload)]
        accepted := ledger.accepted ++ queue.entries.getLast?.toList
        displaced := ledger.displaced ++ [dropped] }

def call (ledger : Ledger T) (levels : Nat → Nat → Nat) : QueueCall T → Ledger T
  | .push task payload now =>
      let pushed := ledger.queue.push levels task payload now
      ledger.settle task payload pushed.1 pushed.2
  | .pushWithTimeout task payload now timeout =>
      let pushed := ledger.queue.pushWithTimeout levels task payload now timeout
      ledger.settle task payload pushed.1 pushed.2
  | .pop now =>
      match ledger.queue.pop levels now with
      | none => ledger
      | some (queue, entry) => { ledger with queue, popped := ledger.popped ++ [entry] }
  | .expire now =>
      let scanned := ledger.queue.expire now
      { ledger with queue := scanned.1, expired := ledger.expired ++ scanned.2 }

def calls (ledger : Ledger T) (levels : Nat → Nat → Nat) (made : List (QueueCall T)) : Ledger T :=
  made.foldl (call · levels) ledger

def returned (ledger : Ledger T) : List (Task × T) :=
  ledger.refused ++ ledger.displaced.map Queued.offer ++ ledger.popped.map Queued.offer ++
    ledger.expired.map Queued.offer

inductive Call (ledger : Ledger T) : QueueCall T → Ledger T → Prop
  | queued (call : QueueCall T) (task : Task) (payload : T) (timeout : Option Nat)
      (room : ledger.queue.isFull = false) :
      Call ledger call
        (ledger.settle task payload (ledger.queue.append task payload call.time timeout) .queued)
  | refused (call : QueueCall T) (task : Task) (payload : T) :
      Call ledger call (ledger.settle task payload ledger.queue (.refused task payload))
  | displaced (call : QueueCall T) (task : Task) (payload : T) (timeout : Option Nat)
      (index : Nat) (dropped : Queued T) (found : ledger.queue.entries[index]? = some dropped) :
      Call ledger call
        (ledger.settle task payload
          ((ledger.queue.remove index).append task payload call.time timeout) (.displaced dropped))
  | empty (now : Nat) (none : ledger.queue.entries = []) : Call ledger (.pop now) ledger
  | popped (now index : Nat) (entry : Queued T)
      (found : ledger.queue.entries[index]? = some entry) :
      Call ledger (.pop now)
        { ledger with queue := ledger.queue.remove index, popped := ledger.popped ++ [entry] }
  | expired (now : Nat) :
      Call ledger (.expire now)
        { ledger with
          queue := { ledger.queue with
            entries := ledger.queue.entries.filter fun entry => !entry.expired now }
          expired := ledger.expired ++
            ledger.queue.entries.filter fun entry => entry.expired now }

theorem settled (ledger : Ledger T) (levels : Nat → Nat → Nat) (made : QueueCall T) (task : Task) (payload : T)
    (timeout : Option Nat) :
    ledger.Call made
      (ledger.settle task payload
        (ledger.queue.pushWithTimeout levels task payload made.time timeout).1
        (ledger.queue.pushWithTimeout levels task payload made.time timeout).2) := by
  rcases pushed : ledger.queue.pushWithTimeout levels task payload made.time timeout with
    ⟨queue, admitted⟩
  rcases Queue.pushWithTimeout_cases pushed with
    ⟨rfl, room, rfl⟩ | ⟨rfl, rfl⟩ | ⟨index, dropped, rfl, found, rfl⟩
  · exact .queued made task payload timeout room
  · exact .refused made task payload
  · exact .displaced made task payload timeout index dropped found

theorem call_eq (ledger : Ledger T) (levels : Nat → Nat → Nat) (made : QueueCall T) :
    ledger.Call made (ledger.call levels made) := by
  cases made with
  | push task payload now => exact ledger.settled levels (.push task payload now) task payload none
  | pushWithTimeout task payload now timeout =>
      exact ledger.settled levels (.pushWithTimeout task payload now timeout) task payload timeout
  | pop now =>
      simp only [call]
      split
      · rename_i none
        exact .empty now (Queue.pop_eq_none.mp none)
      · rename_i queue entry taken
        obtain ⟨index, found, rfl, -⟩ := Queue.pop_eq_some taken
        exact .popped now index entry found
  | expire now =>
      simp only [call, Queue.expire_eq]
      exact .expired now

end Ledger

structure Queue.Numbered (queue : Queue T) : Prop where
  distinct : (queue.entries.map Queued.sequence).Nodup
  below : ∀ entry ∈ queue.entries, entry.sequence < queue.nextSequence

theorem Queue.Numbered.shrink {queue : Queue T} (numbered : queue.Numbered)
    {entries : List (Queued T)} (fewer : entries.Sublist queue.entries) :
    { queue with entries }.Numbered where
  distinct := numbered.distinct.sublist (fewer.map _)
  below entry waiting := numbered.below entry (fewer.subset waiting)

theorem Queue.Numbered.append {queue : Queue T} (numbered : queue.Numbered) (task : Task)
    (payload : T) (now : Nat) (timeout : Option Nat) :
    (queue.append task payload now timeout).Numbered where
  distinct := by
    simp only [Queue.append, List.map_append, List.map_cons, List.map_nil]
    refine List.nodup_append.mpr ⟨numbered.distinct, List.nodup_singleton _, ?_⟩
    intro sequence listed other new
    obtain ⟨entry, waiting, rfl⟩ := List.mem_map.mp listed
    have below := numbered.below entry waiting
    have last := List.mem_singleton.mp new
    omega
  below entry waiting := by
    simp only [Queue.append, List.mem_append, List.mem_singleton] at waiting ⊢
    rcases waiting with old | rfl
    · have below := numbered.below entry old
      omega
    · exact Nat.lt_succ_self _

namespace Ledger

structure Accounted (start : Queue T) (ledger : Ledger T) : Prop where
  places : ledger.offered.Perm (ledger.queue.entries.map Queued.offer ++ ledger.returned)
  bound : ∀ maxSize, start.maxSize = some maxSize → ledger.queue.entries.length ≤ maxSize
  numbered : ledger.queue.Numbered
  limit : ledger.queue.maxSize = start.maxSize
  aging : ledger.queue.aging = start.aging

theorem accounted_opened {start : Queue T} (empty : start.entries = []) :
    Accounted start (opened start) where
  places := by simp [opened, returned, empty]
  bound := by simp [opened, empty]
  numbered := ⟨by simp [opened, empty], by simp [opened, empty]⟩
  limit := rfl
  aging := rfl

open Classical in
theorem count_offer_erased {entries : List (Queued T)} {index : Nat} {entry : Queued T}
    (found : entries[index]? = some entry) (offer : Task × T) :
    ((entries.eraseIdx index).map Queued.offer).count offer + [entry.offer].count offer =
      (entries.map Queued.offer).count offer := by
  have moved := ((Queue.perm_of_getElem? found).map Queued.offer).count_eq offer
  rw [List.map_cons, List.count_cons] at moved
  rw [List.count_singleton]
  exact moved

theorem length_lt_of_not_full {queue : Queue T} (room : queue.isFull = false) {maxSize : Nat}
    (limit : queue.maxSize = some maxSize) : queue.entries.length < maxSize := by
  simpa [Queue.isFull, limit] using room

section

variable {start : Queue T} {ledger after : Ledger T} {made : QueueCall T} {levels : Nat → Nat → Nat}

open Classical in
theorem Accounted.step (accounted : Accounted start ledger) (step : ledger.Call made after) :
    Accounted start after := by
  have counted := fun offer => accounted.places.count_eq offer
  simp only [returned, List.count_append] at counted
  cases step with
  | queued _ task payload timeout room =>
      refine ⟨?_, ?_, accounted.numbered.append task payload _ timeout, accounted.limit,
        accounted.aging⟩
      · refine List.perm_iff_count.mpr fun offer => ?_
        have before := counted offer
        simp only [settle, returned, Queue.append, List.map_append, List.count_append,
          List.map_cons, List.map_nil, Queued.offer] at before ⊢
        omega
      · intro maxSize limit
        have fewer := length_lt_of_not_full room (accounted.limit.trans limit)
        simp only [settle, Queue.append, List.length_append, List.length_singleton]
        omega
  | refused _ task payload =>
      refine ⟨?_, accounted.bound, accounted.numbered, accounted.limit, accounted.aging⟩
      refine List.perm_iff_count.mpr fun offer => ?_
      have before := counted offer
      simp only [settle, returned, List.count_append] at before ⊢
      omega
  | displaced _ task payload timeout index dropped found =>
      have removed : (ledger.queue.remove index).Numbered :=
        accounted.numbered.shrink (List.eraseIdx_sublist _ _)
      refine ⟨?_, ?_, removed.append task payload _ timeout, accounted.limit, accounted.aging⟩
      · refine List.perm_iff_count.mpr fun offer => ?_
        have before := counted offer
        have erased := count_offer_erased found offer
        simp only [settle, returned, Queue.append, Queue.remove, List.map_append,
          List.count_append, List.map_cons, List.map_nil, Queued.offer] at before erased ⊢
        omega
      · intro maxSize limit
        have inside := (List.getElem?_eq_some_iff.mp found).1
        have bound := accounted.bound maxSize limit
        simp only [settle, Queue.append, Queue.remove, List.length_append, List.length_singleton,
          List.length_eraseIdx_of_lt inside]
        omega
  | empty => exact accounted
  | popped _ index entry found =>
      have fewer := List.eraseIdx_sublist ledger.queue.entries index
      refine ⟨?_, ?_, accounted.numbered.shrink fewer, accounted.limit, accounted.aging⟩
      · refine List.perm_iff_count.mpr fun offer => ?_
        have before := counted offer
        have erased := count_offer_erased found offer
        simp only [returned, Queue.remove, List.map_append, List.count_append, List.map_cons,
          List.map_nil] at before erased ⊢
        omega
      · intro maxSize limit
        exact fewer.length_le.trans (accounted.bound maxSize limit)
  | expired now =>
      have fewer := List.filter_sublist (l := ledger.queue.entries)
        (p := fun entry => !entry.expired now)
      refine ⟨?_, ?_, accounted.numbered.shrink fewer, accounted.limit, accounted.aging⟩
      · refine List.perm_iff_count.mpr fun offer => ?_
        have before := counted offer
        have parted := ((List.filter_append_perm (fun entry => entry.expired now)
          ledger.queue.entries).map Queued.offer).count_eq offer
        simp only [returned, List.map_append, List.count_append] at before parted ⊢
        omega
      · intro maxSize limit
        exact fewer.length_le.trans (accounted.bound maxSize limit)

theorem accounted_calls (levels : Nat → Nat → Nat) (empty : start.entries = []) (made : List (QueueCall T)) :
    Accounted start ((opened start).calls levels made) := by
  induction made using List.reverseRecOn with
  | nil => exact accounted_opened empty
  | append_singleton past last ih =>
      rw [calls, List.foldl_append]
      exact ih.step (call_eq _ levels last)

/-- What was offered waits or has been handed back by exactly one call, the limit holds, the
waiting entries have numbers of their own, and `expire` hands back what is due. -/
structure Books (maxSize : Nat) (ledger : Ledger T) : Prop where
  places : ledger.offered.Perm
    (ledger.queue.entries.map Queued.offer ++ ledger.refused ++
      ledger.displaced.map Queued.offer ++ ledger.popped.map Queued.offer ++
      ledger.expired.map Queued.offer)
  bound : 0 < maxSize → ledger.queue.entries.length ≤ maxSize
  distinct : (ledger.queue.entries.map Queued.sequence).Nodup
  below : ∀ entry ∈ ledger.queue.entries, entry.sequence < ledger.queue.nextSequence
  due : ∀ now entry, entry ∈ (ledger.queue.expire now).2 ↔ entry ∈ ledger.queue.entries ∧
    ∃ deadline, entry.deadline = some deadline ∧ deadline ≤ now
  parted : ∀ now,
    ((ledger.queue.expire now).2 ++ (ledger.queue.expire now).1.entries).Perm ledger.queue.entries

theorem queue_keeps_its_books (levels : Nat → Nat → Nat) (aging maxSize timeout : Nat)
    (rejection : Rejection) (made : List (QueueCall T)) :
    Books maxSize
      ((opened (Queue.configured aging maxSize timeout rejection)).calls levels made) := by
  have accounted := @accounted_calls T (Queue.configured aging maxSize timeout rejection) levels rfl
    made
  refine ⟨?_, ?_, accounted.numbered.distinct, accounted.numbered.below, ?_, ?_⟩
  · simpa [returned] using accounted.places
  · intro capped
    exact accounted.bound maxSize (if_pos capped)
  · intro now entry
    rw [Queue.expire_eq, List.mem_filter, Queued.expired_iff]
  · intro now
    rw [Queue.expire_eq]
    exact List.filter_append_perm _ _

/-- The calls are made at instants of one clock that does not run backwards. -/
def Ordered (made : List (QueueCall T)) : Prop :=
  (made.map QueueCall.time).Pairwise (· ≤ ·)

structure Arrived (made : List (QueueCall T)) (ledger : Ledger T) : Prop where
  order : ledger.accepted.Pairwise fun first second =>
    first.sequence < second.sequence ∧ first.queuedAt ≤ second.queuedAt
  below : ∀ entry ∈ ledger.accepted, entry.sequence < ledger.queue.nextSequence
  timed : ∀ entry ∈ ledger.accepted, ∃ call ∈ made, entry.queuedAt = QueueCall.time call

theorem Arrived.append {past : List (QueueCall T)} (arrived : Arrived past ledger)
    (ordered : Ordered (past ++ [made])) {newcomer : Queued T}
    (number : newcomer.sequence = ledger.queue.nextSequence)
    (time : newcomer.queuedAt = made.time)
    (accepted : after.accepted = ledger.accepted ++ [newcomer])
    (counted : after.queue.nextSequence = ledger.queue.nextSequence + 1) :
    Arrived (past ++ [made]) after where
  order := by
    rw [accepted, List.pairwise_append]
    refine ⟨arrived.order, List.pairwise_singleton _ _, ?_⟩
    intro entry old other new
    obtain rfl := List.mem_singleton.mp new
    obtain ⟨call, earlier, joined⟩ := arrived.timed entry old
    have below := arrived.below entry old
    refine ⟨by omega, ?_⟩
    rw [Ordered, List.map_append, List.pairwise_append] at ordered
    rw [joined, time]
    exact ordered.2.2 _ (List.mem_map_of_mem earlier) _ (List.mem_singleton_self _)
  below entry listed := by
    rw [counted]
    rw [accepted, List.mem_append, List.mem_singleton] at listed
    rcases listed with old | rfl
    · have below := arrived.below entry old
      omega
    · omega
  timed entry listed := by
    rw [accepted, List.mem_append, List.mem_singleton] at listed
    rcases listed with old | rfl
    · obtain ⟨call, earlier, joined⟩ := arrived.timed entry old
      exact ⟨call, List.mem_append_left _ earlier, joined⟩
    · exact ⟨made, List.mem_append_right _ (List.mem_singleton_self made), time⟩

theorem Arrived.same {past : List (QueueCall T)} (arrived : Arrived past ledger)
    (accepted : after.accepted = ledger.accepted)
    (counted : after.queue.nextSequence = ledger.queue.nextSequence) :
    Arrived (past ++ [made]) after where
  order := accepted ▸ arrived.order
  below := by
    rw [accepted, counted]
    exact arrived.below
  timed entry listed := by
    rw [accepted] at listed
    obtain ⟨call, earlier, joined⟩ := arrived.timed entry listed
    exact ⟨call, List.mem_append_left _ earlier, joined⟩

theorem Arrived.step {past : List (QueueCall T)} (arrived : Arrived past ledger)
    (ordered : Ordered (past ++ [made])) (step : ledger.Call made after) :
    Arrived (past ++ [made]) after := by
  cases step with
  | queued _ task payload timeout room =>
      exact arrived.append ordered rfl rfl (by simp [settle, Queue.append]; rfl) rfl
  | displaced _ task payload timeout index dropped found =>
      exact arrived.append ordered rfl rfl (by simp [settle, Queue.append]; rfl) rfl
  | _ => exact arrived.same rfl rfl

theorem arrived_calls (made : List (QueueCall T)) (ordered : Ordered made) :
    Arrived made ((opened start).calls levels made) := by
  induction made using List.reverseRecOn with
  | nil => exact ⟨.nil, nofun, nofun⟩
  | append_singleton past last ih =>
      have before : Ordered past := by
        rw [Ordered, List.map_append, List.pairwise_append] at ordered
        exact ordered.1
      rw [calls, List.foldl_append]
      exact (ih before).step ordered (call_eq _ levels last)

end

/-- The head start in levels that `second` has over `first` has been waited off when `second`
joins, and so it stays at every later instant. -/
theorem level_le_level {first second : Queued T} {now aging : Nat} (positive : 0 < aging)
    (joined : first.queuedAt ≤ second.queuedAt) (past : second.queuedAt ≤ now)
    (waited : (second.task.priority.level - first.task.priority.level) * aging ≤
      second.queuedAt - first.queuedAt) :
    (second.effectivePriority exactLevels now aging).level ≤
      (first.effectivePriority exactLevels now aging).level := by
  rw [second.level_effectivePriority exactLevels now aging positive,
    first.level_effectivePriority exactLevels now aging positive, exactLevels, exactLevels]
  have caught : (now - second.queuedAt) / aging +
      (second.task.priority.level - first.task.priority.level) ≤
        (now - first.queuedAt) / aging := by
    rw [← Nat.add_mul_div_right _ _ positive]
    exact Nat.div_le_div_right (by omega)
  omega

/-- A pop at `now` takes `second` while `first` is still waiting. -/
def Overtaken (ledger : Ledger T) (levels : Nat → Nat → Nat) (now : Nat) (first second : Queued T) : Prop :=
  first ∈ ledger.queue.entries ∧ ∃ after, ledger.queue.pop levels now = some (after, second)

theorem not_overtaken {ledger : Ledger T} {levels : Nat → Nat → Nat} {now : Nat}
    {first second : Queued T}
    (number : first.sequence < second.sequence)
    (level : (second.effectivePriority levels now ledger.queue.aging).level ≤
      (first.effectivePriority levels now ledger.queue.aging).level) :
    ¬ Overtaken ledger levels now first second := by
  rintro ⟨waiting, after, taken⟩
  obtain ⟨-, -, -, highest⟩ := Queue.pop_eq_some taken
  rcases Prod.Lex.toLex_le_toLex.mp (highest first waiting) with lower | ⟨-, earlier⟩
  · exact absurd level (Nat.not_le_of_lt lower)
  · exact absurd number (Nat.not_lt_of_le earlier)

/-- Bounded overtaking with the exact division: an entry whose head start has been waited off by the time it is pushed
is never popped before the entry that was pushed first. One priority level is first in first
out, and nothing overtakes what has waited four ageing periods longer. -/
theorem pop_never_overtakes (aging maxSize timeout : Nat) (rejection : Rejection)
    (positive : 0 < aging) (made : List (QueueCall T)) (now : Nat)
    (ordered : Ordered (made ++ [.pop now])) (ledger : Ledger T)
    (reached : (opened (Queue.configured aging maxSize timeout rejection)).calls exactLevels made =
      ledger)
    (first second : Queued T) (pushed : [first, second].Sublist ledger.accepted) :
    ((second.task.priority.level - first.task.priority.level) * aging ≤
      second.queuedAt - first.queuedAt → ¬ Overtaken ledger exactLevels now first second) ∧
    (first.task.priority = second.task.priority → ¬ Overtaken ledger exactLevels now first second) ∧
    (4 * aging ≤ second.queuedAt - first.queuedAt → ¬ Overtaken ledger exactLevels now first second) := by
  have split := ordered
  rw [Ordered, List.map_append, List.pairwise_append] at split
  subst reached
  have arrived := @arrived_calls T (Queue.configured aging maxSize timeout rejection) exactLevels made
    split.1
  have accounted := @accounted_calls T (Queue.configured aging maxSize timeout rejection) exactLevels
    rfl made
  have order := (List.pairwise_pair.mp (arrived.order.sublist pushed))
  obtain ⟨call, earlier, joined⟩ := arrived.timed second (pushed.subset (by simp))
  have past : second.queuedAt ≤ now := by
    rw [joined]
    exact split.2.2 _ (List.mem_map_of_mem earlier) _ (List.mem_singleton_self _)
  have general : (second.task.priority.level - first.task.priority.level) * aging ≤
      second.queuedAt - first.queuedAt →
        ¬ Overtaken ((opened (Queue.configured aging maxSize timeout rejection)).calls exactLevels
          made) exactLevels now first second := by
    intro waited
    refine not_overtaken order.1 ?_
    rw [accounted.aging]
    exact level_le_level positive order.2 past waited
  refine ⟨general, ?_, ?_⟩
  · intro same
    exact general (by simp [same])
  · intro long
    refine general (le_trans (Nat.mul_le_mul_right aging ?_) long)
    have bound := second.task.priority.level_le_four
    omega

def lowTask : Task := { Task.new ⟨0⟩ "echo" [] with priority := .low }

def lowThenNormal : List (QueueCall Nat) :=
  [.push lowTask 0 0, .push (Task.new ⟨1⟩ "echo" []) 1 10]

def lowEntry : Queued Nat := ⟨lowTask, 0, 0, none, 0⟩

def normalEntry : Queued Nat := ⟨Task.new ⟨1⟩ "echo" [], 1, 10, none, 1⟩

theorem low_before_normal_after_one_period :
    Ordered (lowThenNormal ++ [.pop 12]) ∧
    [lowEntry, normalEntry].Sublist
      ((opened (Queue.configured 10 0 0 .reject)).calls exactLevels lowThenNormal).accepted ∧
    ¬ Overtaken ((opened (Queue.configured 10 0 0 .reject)).calls exactLevels lowThenNormal)
      exactLevels 12 lowEntry normalEntry := by
  have ordered : Ordered (lowThenNormal ++ [.pop 12]) := by unfold Ordered; decide
  have pushed : [lowEntry, normalEntry].Sublist
      ((opened (Queue.configured 10 0 0 .reject)).calls exactLevels lowThenNormal).accepted := by decide
  refine ⟨ordered, pushed, ?_⟩
  exact (pop_never_overtakes 10 0 0 .reject (by decide) lowThenNormal 12 ordered _ rfl
    lowEntry normalEntry pushed).1 (by decide)

end Ledger

end AetherMesh
