import AetherMesh.Controller.QueueLedger

/-!
Which entry gives way when the queue is full and the lowest priority is to be dropped. The
newest of the least urgent entries should go; the one that goes is the oldest of them.
-/

namespace AetherMesh

variable {T : Type}

namespace Queue

def Lowest (queue : Queue T) (levels : Nat → Nat → Nat) (now : Nat) (entry : Queued T) : Prop :=
  entry ∈ queue.entries ∧ ∀ other ∈ queue.entries,
    entry.effectivePriority levels now queue.aging ≤ other.effectivePriority levels now queue.aging

def Victim (queue : Queue T) (levels : Nat → Nat → Nat) (now : Nat) (entry : Queued T) : Prop :=
  queue.Lowest levels now entry ∧ ∀ other, queue.Lowest levels now other → other.sequence ≤ entry.sequence

/-- The victim makes room for a task that is more urgent, and no other task gets in. -/
def DropsVictim (queue : Queue T) (levels : Nat → Nat → Nat) (task : Task) (payload : T) (now : Nat)
    (timeout : Option Nat) : Prop :=
  ∀ victim, queue.Victim levels now victim →
    if victim.effectivePriority levels now queue.aging < task.priority then
      ∃ index, queue.entries[index]? = some victim ∧
        queue.pushWithTimeout levels task payload now timeout =
          ((queue.remove index).append task payload now timeout, .displaced victim)
    else queue.pushWithTimeout levels task payload now timeout = (queue, .refused task payload)

def AtMostLowest (queue : Queue T) (levels : Nat → Nat → Nat) (task : Task) (now : Nat) : Prop :=
  ∀ entry ∈ queue.entries, task.priority ≤ entry.effectivePriority levels now queue.aging

def LowestAlone (queue : Queue T) (levels : Nat → Nat → Nat) (now : Nat) : Prop :=
  ∀ first second, queue.Lowest levels now first → queue.Lowest levels now second → first = second

variable {queue : Queue T} {levels : Nat → Nat → Nat} {task : Task} {payload : T} {now : Nat} {timeout : Option Nat}

theorem Lowest.level_eq {first second : Queued T} (one : queue.Lowest levels now first)
    (two : queue.Lowest levels now second) :
    (first.effectivePriority levels now queue.aging).level =
      (second.effectivePriority levels now queue.aging).level :=
  Nat.le_antisymm (Priority.le_iff.mp (one.2 second two.1)) (Priority.le_iff.mp (two.2 first one.1))

theorem exists_victim (waiting : queue.entries ≠ []) : ∃ victim, queue.Victim levels now victim := by
  cases found : queue.entries.argmin fun entry => entry.rank levels now queue.aging with
  | none => exact absurd (List.argmin_eq_none.mp found) waiting
  | some victim =>
      have least (other : Queued T) (member : other ∈ queue.entries) :
          victim.rank levels now queue.aging ≤ other.rank levels now queue.aging :=
        List.le_of_mem_argmin (f := fun entry => entry.rank levels now queue.aging) member found
      have lowest : queue.Lowest levels now victim :=
        ⟨List.argmin_mem found, fun other member => Queued.level_le_of_rank_le (least other member)⟩
      refine ⟨victim, lowest, ?_⟩
      intro other same
      rcases Prod.Lex.toLex_le_toLex.mp (least other same.1) with lower | ⟨-, newer⟩
      · exact absurd (lowest.level_eq same) lower.ne
      · exact newer

/-- What makes room is the oldest of the lowest entries. -/
theorem makeRoom_lowest (policy : queue.rejection = .dropLowestPriority)
    (waiting : queue.entries ≠ []) :
    ∃ index oldest, queue.entries[index]? = some oldest ∧ queue.Lowest levels now oldest ∧
      (∀ other, queue.Lowest levels now other → oldest.sequence ≤ other.sequence) ∧
      queue.makeRoom levels task now =
        if task.priority ≤ oldest.effectivePriority levels now queue.aging then none
        else some (queue.remove index, oldest) := by
  cases found : queue.entries.zipIdx.argmin fun entry => entry.1.dropRank levels now queue.aging with
  | none =>
      rw [List.argmin_eq_none, List.zipIdx_eq_nil_iff] at found
      exact absurd found waiting
  | some chosen =>
      have place := getElem?_of_mem_zipIdx (List.argmin_mem found)
      have least (other : Queued T) (member : other ∈ queue.entries) :
          chosen.1.dropRank levels now queue.aging ≤ other.dropRank levels now queue.aging := by
        obtain ⟨index, there⟩ := List.mem_iff_getElem?.mp member
        have listed : (other, index) ∈ queue.entries.zipIdx :=
          List.mem_zipIdx_iff_getElem?.mpr there
        exact List.le_of_mem_argmin
          (f := fun entry => entry.1.dropRank levels now queue.aging) listed found
      have lowest : queue.Lowest levels now chosen.1 := by
        refine ⟨List.mem_of_getElem? place, ?_⟩
        intro other member
        rw [Priority.le_iff]
        rcases Prod.Lex.toLex_le_toLex.mp (least other member) with lower | ⟨same, -⟩
        · exact lower.le
        · exact same.le
      refine ⟨chosen.2, chosen.1, place, lowest, ?_, ?_⟩
      · intro other same
        rcases Prod.Lex.toLex_le_toLex.mp (least other same.1) with lower | ⟨-, older⟩
        · exact absurd (lowest.level_eq same) lower.ne
        · exact older
      · simp only [makeRoom, policy, found]

theorem not_lt_priority {left right : Priority} : ¬ left < right ↔ right ≤ left := Nat.not_lt

theorem dropsVictim_iff (numbered : queue.Numbered) (policy : queue.rejection = .dropLowestPriority)
    (waiting : queue.entries ≠ []) (full : queue.isFull = true) :
    queue.DropsVictim levels task payload now timeout ↔
      queue.AtMostLowest levels task now ∨ queue.LowestAlone levels now := by
  obtain ⟨index, oldest, place, lowest, older, room⟩ := @makeRoom_lowest _ queue levels task now
    policy waiting
  obtain ⟨victim, newest⟩ := @exists_victim _ queue levels now waiting
  have level := lowest.level_eq newest.1
  have pushed : queue.pushWithTimeout levels task payload now timeout =
      if task.priority ≤ oldest.effectivePriority levels now queue.aging then
        (queue, .refused task payload)
      else ((queue.remove index).append task payload now timeout, .displaced oldest) := by
    rw [pushWithTimeout, if_pos full, room]
    by_cases refused : task.priority ≤ oldest.effectivePriority levels now queue.aging
    · rw [if_pos refused, if_pos refused]
    · rw [if_neg refused, if_neg refused]
  by_cases refused : task.priority ≤ oldest.effectivePriority levels now queue.aging
  · -- nobody is displaced, and nobody should be
    rw [if_pos refused] at pushed
    have most : queue.AtMostLowest levels task now := fun other member =>
      Nat.le_trans refused (lowest.2 other member)
    refine ⟨fun _ => .inl most, fun _ => ?_⟩
    intro other same
    rw [if_neg (not_lt_priority.mpr (most other same.1.1))]
    exact pushed
  · rw [if_neg refused] at pushed
    have urgent : ¬ queue.AtMostLowest levels task now := fun most => refused (most oldest lowest.1)
    constructor
    · intro drops
      refine .inr ?_
      have above : victim.effectivePriority levels now queue.aging < task.priority :=
        Nat.not_le.mp fun most => refused (Nat.le_trans most level.ge)
      have asked := drops victim newest
      rw [if_pos above] at asked
      obtain ⟨_, _, dropped⟩ := asked
      rw [pushed] at dropped
      obtain rfl : oldest = victim := Admitted.displaced.inj (Prod.mk.inj dropped).2
      -- the oldest is the newest, so all the lowest entries have one number
      intro first second one two
      have number : first.sequence = second.sequence := by
        have firstBelow := newest.2 first one
        have firstAbove := older first one
        have secondBelow := newest.2 second two
        have secondAbove := older second two
        omega
      exact List.inj_on_of_nodup_map numbered.distinct one.1 two.1 number
    · rintro (most | alone)
      · exact absurd most urgent
      · intro other same
        obtain rfl := alone oldest other lowest same.1
        have above : oldest.effectivePriority levels now queue.aging < task.priority :=
          Nat.not_le.mp refused
        rw [if_pos above]
        exact ⟨index, place, pushed⟩

end Queue

namespace Ledger

open Queue

theorem Call.rejection {ledger after : Ledger T} {made : QueueCall T}
    (step : ledger.Call made after) : after.queue.rejection = ledger.queue.rejection := by
  cases step <;> rfl

theorem calls_rejection (ledger : Ledger T) (levels : Nat → Nat → Nat) (made : List (QueueCall T)) :
    (ledger.calls levels made).queue.rejection = ledger.queue.rejection := by
  induction made generalizing ledger with
  | nil => rfl
  | cons first rest ih => exact (ih (ledger.call levels first)).trans (call_eq ledger levels first).rejection

theorem drops_newest_lowest_iff (aging maxSize timeout : Nat) (made : List (QueueCall T))
    (queue : Queue T)
    (reached : ((opened (Queue.configured aging maxSize timeout .dropLowestPriority)).calls
      floatLevels made).queue = queue)
    (full : queue.isFull = true) (task : Task) (payload : T) (now : Nat) (own : Option Nat) :
    queue.DropsVictim floatLevels task payload now own ↔
      queue.AtMostLowest floatLevels task now ∨ queue.LowestAlone floatLevels now := by
  subst reached
  have accounted := @accounted_calls T
    (Queue.configured aging maxSize timeout .dropLowestPriority) floatLevels rfl made
  refine dropsVictim_iff accounted.numbered (calls_rejection _ _ made) ?_ full
  intro empty
  rw [Queue.isFull, accounted.limit, empty] at full
  have sized : (Queue.configured aging maxSize timeout .dropLowestPriority : Queue T).maxSize =
      if 0 < maxSize then some maxSize else none := rfl
  rw [sized] at full
  by_cases capped : 0 < maxSize
  · rw [if_pos capped] at full
    have none : maxSize ≤ 0 := of_decide_eq_true full
    omega
  · rw [if_neg capped] at full
    cases full

def lowPushes (count : Nat) : List (QueueCall Nat) :=
  (List.range count).map fun number => .push lowTask number number

def lowPushed (number : Nat) : Queued Nat := ⟨lowTask, number, number, none, number⟩

theorem drops_the_older :
    ∃ queue : Queue Nat, ((opened (Queue.configured 0 2 0 .dropLowestPriority)).calls
        floatLevels (lowPushes 2)).queue = queue ∧ queue.isFull = true ∧
      queue.Victim floatLevels 2 (lowPushed 1) ∧
      (queue.push floatLevels (Task.new ⟨1⟩ "echo" []) 2 2).2 = .displaced (lowPushed 0) ∧
      ¬ queue.DropsVictim floatLevels (Task.new ⟨1⟩ "echo" []) 2 2 none := by
  have victim : (((opened (Queue.configured 0 2 0 .dropLowestPriority)).calls
      floatLevels (lowPushes 2)).queue).Victim floatLevels 2 (lowPushed 1) := by
    refine ⟨⟨by decide, by decide⟩, ?_⟩
    intro other lowest
    have listed : other ∈ [lowPushed 0, lowPushed 1] := lowest.1
    rcases List.mem_pair.mp listed with rfl | rfl <;> decide
  refine ⟨_, rfl, by decide, victim, rfl, ?_⟩
  intro drops
  have asked := drops _ victim
  rw [if_pos (by decide)] at asked
  obtain ⟨index, place, dropped⟩ := asked
  exact absurd (Admitted.displaced.inj (congrArg Prod.snd dropped)) (by decide)

theorem drops_the_only_one :
    ∃ queue : Queue Nat, ((opened (Queue.configured 0 1 0 .dropLowestPriority)).calls
        floatLevels (lowPushes 1)).queue = queue ∧ queue.isFull = true ∧
      queue.DropsVictim floatLevels (Task.new ⟨1⟩ "echo" []) 1 1 none := by
  refine ⟨_, rfl, by decide, ?_⟩
  refine (drops_newest_lowest_iff 0 1 0 (lowPushes 1) _ rfl (by decide) _ 1 1 none).mpr (.inr ?_)
  intro first second one two
  have here : first ∈ [lowPushed 0] := one.1
  have there : second ∈ [lowPushed 0] := two.1
  rw [List.mem_singleton.mp here, List.mem_singleton.mp there]

end Ledger

end AetherMesh
