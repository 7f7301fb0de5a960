import AetherMesh.Controller.Registry
import AetherMesh.Library.Runs

/-!
How often an idle node has to speak up. The pacer doubles the gap between two heartbeats
while nothing happens, up to half the timeout that the controller declared when the node
registered. The controller counts a node as stale when it has not heard from it for longer
than the timeout. Times are in nanoseconds, and the change between two samples is taken
exactly, where the source rounds a difference of floats.
-/

namespace AetherMesh

open Runs

def maxDuration : Nat := (2 ^ 64 - 1) * 10 ^ 9 + 999999999

/-- `Duration * 2`, which panics when the product is too long. -/
def doubled (duration : Nat) : Option Nat :=
  if duration * 2 ≤ maxDuration then some (duration * 2) else none

/-- The single nearest to 0.05. -/
def significantChange : ℚ := singleValue 0x3D4CCCCD

def changed (before after : NodeMetrics) : Bool :=
  significantChange ≤ |singleValue before.cpuUsage - singleValue after.cpuUsage| ||
    significantChange ≤ |singleValue before.memoryUsage - singleValue after.memoryUsage|

structure HeartbeatPacer where
  base : Nat
  ceiling : Nat
  current : Nat
  last : Option NodeMetrics
deriving DecidableEq

namespace HeartbeatPacer

def new (base ceiling : Nat) : HeartbeatPacer := ⟨base, max ceiling base, base, none⟩

def ceilingForTimeout (base timeout : Nat) : Nat :=
  if timeout = 0 then base else max (timeout / 2) base

def interval (pacer : HeartbeatPacer) : Nat := pacer.current

def record (pacer : HeartbeatPacer) (metrics : NodeMetrics) (didWork : Bool) :
    Option (HeartbeatPacer × Nat) :=
  let moved := pacer.last.any fun last => changed last metrics
  let gap := if didWork || moved then some pacer.base
    else (doubled pacer.current).map fun twice => min twice pacer.ceiling
  gap.map fun current => ({ pacer with current, last := some metrics }, current)

def recordAll : HeartbeatPacer → List (NodeMetrics × Bool) → Option (List Nat)
  | _, [] => some []
  | pacer, sample :: rest =>
      match pacer.record sample.1 sample.2 with
      | none => none
      | some (after, gap) => (recordAll after rest).map fun later => gap :: later

structure Paced (base ceiling : Nat) (pacer : HeartbeatPacer) : Prop where
  bottom : pacer.base = base
  top : pacer.ceiling = ceiling
  least : base ≤ pacer.current
  most : pacer.current ≤ ceiling

variable {base ceiling timeout : Nat} {pacer after : HeartbeatPacer}

theorem paced_new (base ceiling : Nat) : Paced base (max ceiling base) (new base ceiling) :=
  ⟨rfl, rfl, Nat.le_refl _, Nat.le_max_right _ _⟩

theorem ceilingForTimeout_eq (base timeout : Nat) :
    max (ceilingForTimeout base timeout) base = max base (timeout / 2) := by
  unfold ceilingForTimeout
  split
  · rename_i none
    simp [none]
  · omega

theorem record_paced {metrics : NodeMetrics} {didWork : Bool} {gap : Nat}
    (paced : Paced base ceiling pacer)
    (recorded : pacer.record metrics didWork = some (after, gap)) :
    Paced base ceiling after ∧ after.current = gap := by
  obtain ⟨rfl, rfl, least, most⟩ := paced
  unfold record at recorded
  rw [Option.map_eq_some_iff] at recorded
  obtain ⟨current, chosen, same⟩ := recorded
  obtain ⟨rfl, rfl⟩ := Prod.mk.inj same
  refine ⟨⟨rfl, rfl, ?_, ?_⟩, rfl⟩
  all_goals
    dsimp only at chosen ⊢
    split at chosen
    · obtain rfl := Option.some.inj chosen
      omega
    · obtain ⟨twice, double, rfl⟩ := Option.map_eq_some_iff.mp chosen
      unfold doubled at double
      split at double
      · obtain rfl := Option.some.inj double
        omega
      · cases double

theorem record_some (paced : Paced base ceiling pacer) (short : ceiling * 2 ≤ maxDuration)
    (metrics : NodeMetrics) (didWork : Bool) :
    ∃ after gap, pacer.record metrics didWork = some (after, gap) := by
  have fits : pacer.current * 2 ≤ maxDuration := by
    have most := paced.most
    omega
  unfold record
  dsimp only
  split
  · exact ⟨_, _, rfl⟩
  · rw [doubled, if_pos fits]
    exact ⟨_, _, rfl⟩

theorem recordAll_paced (samples : List (NodeMetrics × Bool)) {gaps : List Nat}
    (paced : Paced base ceiling pacer) (recorded : pacer.recordAll samples = some gaps) :
    ∀ gap ∈ gaps, base ≤ gap ∧ gap ≤ ceiling := by
  induction samples generalizing pacer gaps with
  | nil =>
      obtain rfl := Option.some.inj recorded
      simp
  | cons sample rest ih =>
      rw [recordAll] at recorded
      split at recorded
      · cases recorded
      · rename_i after gap first
        obtain ⟨later, further, rfl⟩ := Option.map_eq_some_iff.mp recorded
        obtain ⟨kept, current⟩ := record_paced paced first
        refine List.forall_mem_cons.mpr ⟨?_, ih kept further⟩
        rw [← current]
        exact ⟨kept.least, kept.most⟩

theorem recordAll_some (samples : List (NodeMetrics × Bool)) (paced : Paced base ceiling pacer)
    (short : ceiling * 2 ≤ maxDuration) : ∃ gaps, pacer.recordAll samples = some gaps := by
  induction samples generalizing pacer with
  | nil => exact ⟨[], rfl⟩
  | cons sample rest ih =>
      obtain ⟨after, gap, first⟩ := record_some paced short sample.1 sample.2
      obtain ⟨later, further⟩ := ih (record_paced paced first).1
      refine ⟨gap :: later, ?_⟩
      rw [recordAll, first]
      simp only [further, Option.map_some]

end HeartbeatPacer

namespace Heartbeats

structure Setup where
  info : NodeDescription
  interval : Nat
  minSampleInterval : Nat
  timeout : Option Nat
  lasting : ∀ limit, timeout = some limit → limit ≤ maxDuration

/-- The timeout as the agent is told it: in whole seconds, and none at all if they are zero. -/
def Setup.heartbeatTimeoutSecs (setup : Setup) : Nat :=
  (setup.timeout.map fun timeout => timeout / 10 ^ 9).getD 0

def Setup.declared (setup : Setup) : Nat := setup.heartbeatTimeoutSecs * 10 ^ 9

def Setup.base (setup : Setup) : Nat := max setup.interval setup.minSampleInterval

def Setup.pacer (setup : Setup) : HeartbeatPacer :=
  .new setup.base (HeartbeatPacer.ceilingForTimeout setup.base setup.declared)

def Setup.ceiling (setup : Setup) : Nat := max setup.base (setup.declared / 2)

structure State where
  registry : NodeRegistry
  clock : Nat
  pacer : HeartbeatPacer
  /-- When the pacer's sleep is over. -/
  due : Nat
  /-- The last heartbeat did not arrive. -/
  lost : Bool

inductive Event
  | pass (elapsed : Nat)
  | beat (metrics : NodeMetrics) (didWork delivered : Bool)
  | arrive (info : NodeDescription)
  | hear (nodeId : NodeId) (metrics : NodeMetrics)
  | leave (nodeId : NodeId)
  | evict

def heard (registry : NodeRegistry) (nodeId : NodeId) (metrics : NodeMetrics) (now : Nat) :
    NodeRegistry :=
  match registry.recordHeartbeat nodeId metrics now with
  | .ok after => after
  | .error _ => registry

def evictStale (registry : NodeRegistry) (timeout : Option Nat) (now : Nat) : NodeRegistry :=
  match timeout with
  | none => registry
  | some timeout => (registry.staleNodes now timeout).foldl NodeRegistry.remove registry

section

variable (setup : Setup)

def start (registry : NodeRegistry) (registered : Nat) : State where
  registry := registry.register setup.info registered
  clock := registered
  pacer := setup.pacer
  due := registered + setup.pacer.interval
  lost := false

/-- The sleep ends on time and what is sent is heard at once, if it is not lost. Other nodes come,
report and go as they like. -/
def next (state : State) : Event → Option State
  | .pass elapsed =>
      if state.clock + elapsed ≤ state.due then some { state with clock := state.clock + elapsed }
      else none
  | .beat metrics didWork delivered =>
      if state.clock = state.due then
        (state.pacer.record metrics didWork).map fun recorded =>
          { state with
            registry := if delivered then heard state.registry setup.info.id metrics state.clock
              else state.registry
            pacer := recorded.1
            due := state.clock + recorded.1.interval
            lost := !delivered }
      else none
  | .arrive info =>
      if info.id = setup.info.id then none
      else some { state with registry := state.registry.register info state.clock }
  | .hear nodeId metrics =>
      if nodeId = setup.info.id then none
      else some { state with registry := heard state.registry nodeId metrics state.clock }
  | .leave nodeId =>
      if nodeId = setup.info.id then none
      else some { state with registry := state.registry.remove nodeId }
  | .evict => some { state with registry := evictStale state.registry setup.timeout state.clock }

def Apart (state : State) : Event → Prop
  | .beat _ _ delivered => state.lost = true → delivered = true
  | _ => True

/-- The node is known, and has been heard from within the timeout that it was told. -/
structure Fresh (state : State) : Prop where
  paced : HeartbeatPacer.Paced setup.base setup.ceiling state.pacer
  early : state.clock ≤ state.due
  seen : ∃ entry, state.registry.get setup.info.id = some entry ∧
    state.due ≤ entry.lastSeen + (if state.lost then setup.ceiling else 0) + setup.ceiling

end

section

variable {setup : Setup} {state after : State} {event : Event}

theorem get_heard_other {registry : NodeRegistry} {nodeId other : NodeId} (apart : other ≠ nodeId)
    (metrics : NodeMetrics) (now : Nat) :
    (heard registry nodeId metrics now).get other = registry.get other := by
  unfold heard
  split
  · rename_i after recorded
    obtain ⟨entry, -, got⟩ := NodeRegistry.recordHeartbeat_ok recorded
    rw [got, if_neg apart]
  · rfl

theorem get_heard {registry : NodeRegistry} {nodeId : NodeId} {entry : NodeEntry}
    (known : registry.get nodeId = some entry) (metrics : NodeMetrics) (now : Nat) :
    ∃ entry, (heard registry nodeId metrics now).get nodeId = some entry ∧ entry.lastSeen = now := by
  unfold heard
  split
  · rename_i after recorded
    obtain ⟨old, -, got⟩ := NodeRegistry.recordHeartbeat_ok recorded
    exact ⟨NodeRegistry.refresh old metrics now, by rw [got, if_pos rfl], rfl⟩
  · rename_i error refused
    rw [NodeRegistry.recordHeartbeat_error refused] at known
    cases known

theorem get_removeAll {registry : NodeRegistry} {nodeId : NodeId} {stale : List NodeId}
    (spared : nodeId ∉ stale) :
    (stale.foldl NodeRegistry.remove registry).get nodeId = registry.get nodeId := by
  induction stale generalizing registry with
  | nil => rfl
  | cons other rest ih =>
      rw [List.mem_cons, not_or] at spared
      rw [List.foldl_cons, ih spared.2, NodeRegistry.get_remove, if_neg spared.1]

theorem declared_le {limit : Nat} (told : setup.timeout = some limit) : setup.declared ≤ limit := by
  unfold Setup.declared Setup.heartbeatTimeoutSecs
  rw [told]
  exact Nat.div_mul_le_self limit (10 ^ 9)

theorem declared_le_maxDuration (setup : Setup) : setup.declared ≤ maxDuration := by
  cases told : setup.timeout with
  | none =>
      unfold Setup.declared Setup.heartbeatTimeoutSecs
      rw [told]
      exact Nat.zero_le _
  | some limit => exact Nat.le_trans (declared_le told) (setup.lasting limit told)

theorem ceiling_short (short : setup.base * 2 ≤ maxDuration) : setup.ceiling * 2 ≤ maxDuration := by
  have most := declared_le_maxDuration setup
  unfold Setup.ceiling
  omega

theorem ceiling_twice (half : setup.base ≤ setup.declared / 2) :
    setup.ceiling + setup.ceiling ≤ setup.declared := by
  unfold Setup.ceiling
  omega

theorem paced_pacer (setup : Setup) : setup.pacer.Paced setup.base setup.ceiling := by
  have paced := HeartbeatPacer.paced_new setup.base
    (HeartbeatPacer.ceilingForTimeout setup.base setup.declared)
  rwa [HeartbeatPacer.ceilingForTimeout_eq] at paced

theorem start_fresh (registry : NodeRegistry) (registered : Nat) :
    Fresh setup (start setup registry registered) := by
  have paced := paced_pacer setup
  refine ⟨paced, Nat.le_add_right _ _, ⟨setup.info, registered⟩, ?_, ?_⟩
  · exact (NodeRegistry.get_register setup.info).trans (if_pos rfl)
  · exact Nat.add_le_add_left paced.most _

theorem Fresh.within (half : setup.base ≤ setup.declared / 2) (fresh : Fresh setup state) :
    ∃ entry, state.registry.get setup.info.id = some entry ∧
      state.clock ≤ entry.lastSeen + setup.declared := by
  obtain ⟨entry, known, soon⟩ := fresh.seen
  have twice := ceiling_twice half
  have early := fresh.early
  refine ⟨entry, known, ?_⟩
  split at soon <;> omega

theorem Fresh.not_stale (half : setup.base ≤ setup.declared / 2) (fresh : Fresh setup state)
    {limit : Nat} (told : setup.timeout = some limit) :
    setup.info.id ∉ state.registry.staleNodes state.clock limit := by
  rw [NodeRegistry.mem_staleNodes]
  rintro ⟨entry, known, stale⟩
  obtain ⟨same, also, within⟩ := fresh.within half
  obtain rfl := Option.some.inj (known.symm.trans also)
  have shorter := declared_le told
  omega

theorem Fresh.of_get (fresh : Fresh setup state) {registry : NodeRegistry}
    (same : registry.get setup.info.id = state.registry.get setup.info.id) :
    Fresh setup { state with registry } := by
  obtain ⟨paced, early, entry, known, soon⟩ := fresh
  exact ⟨paced, early, entry, same.trans known, soon⟩

theorem Fresh.beat (fresh : Fresh setup state) {metrics : NodeMetrics} {didWork delivered : Bool}
    (apart : Apart state (.beat metrics didWork delivered))
    (moved : next setup state (.beat metrics didWork delivered) = some after) :
    Fresh setup after := by
  obtain ⟨paced, early, entry, known, soon⟩ := fresh
  simp only [next] at moved
  split at moved
  · rename_i due
    obtain ⟨recorded, recording, rfl⟩ := Option.map_eq_some_iff.mp moved
    obtain ⟨kept, -⟩ := HeartbeatPacer.record_paced paced recording
    refine ⟨kept, Nat.le_add_right _ _, ?_⟩
    have most : recorded.1.interval ≤ setup.ceiling := kept.most
    cases delivered with
    | true =>
        obtain ⟨new, heard, seen⟩ := get_heard known metrics state.clock
        refine ⟨new, heard, ?_⟩
        rw [seen]
        exact Nat.add_le_add_left most _
    | false =>
        have before : state.lost = false := by
          by_contra lost
          exact Bool.false_ne_true (apart (Bool.eq_true_of_not_eq_false lost))
        rw [before] at soon
        refine ⟨entry, known, ?_⟩
        rw [due]
        exact Nat.add_le_add soon most
  · cases moved

theorem Fresh.step (half : setup.base ≤ setup.declared / 2) (fresh : Fresh setup state)
    (apart : Apart state event) (moved : next setup state event = some after) :
    Fresh setup after := by
  cases event with
  | beat metrics didWork delivered => exact fresh.beat apart moved
  | pass elapsed =>
      simp only [next] at moved
      split at moved
      · rename_i intime
        cases moved
        exact ⟨fresh.paced, intime, fresh.seen⟩
      · cases moved
  | arrive info =>
      simp only [next] at moved
      split at moved
      · cases moved
      · rename_i other
        cases moved
        exact fresh.of_get ((NodeRegistry.get_register info).trans (if_neg (Ne.symm other)))
  | hear nodeId metrics =>
      simp only [next] at moved
      split at moved
      · cases moved
      · rename_i other
        cases moved
        exact fresh.of_get (get_heard_other (Ne.symm other) metrics state.clock)
  | leave nodeId =>
      simp only [next] at moved
      split at moved
      · cases moved
      · rename_i other
        cases moved
        exact fresh.of_get (NodeRegistry.get_remove.trans (if_neg (Ne.symm other)))
  | evict =>
      cases moved
      refine fresh.of_get ?_
      unfold evictStale
      split
      · rfl
      · rename_i limit told
        exact get_removeAll (fresh.not_stale half told)

end

/-- The gaps are never shorter than the base nor longer than half the declared timeout, if that
is not shorter still. A node that begins with at most this half is never stale unless two
heartbeats in a row are lost, and is always able to send the next. -/
theorem one_loss_never_evicts (setup : Setup) :
    (∀ samples gaps, setup.pacer.recordAll samples = some gaps →
      ∀ gap ∈ gaps, setup.base ≤ gap ∧ gap ≤ max setup.base (setup.declared / 2)) ∧
    (setup.base * 2 ≤ maxDuration → ∀ samples, ∃ gaps, setup.pacer.recordAll samples = some gaps) ∧
    (setup.base ≤ setup.declared / 2 → ∀ registry registered trace final,
      Along (next setup) Apart (start setup registry registered) trace →
      run (next setup) (start setup registry registered) trace = some final →
      (∃ entry, final.registry.get setup.info.id = some entry ∧
        final.clock - entry.lastSeen ≤ setup.declared) ∧
      (∀ limit, setup.timeout = some limit →
        setup.info.id ∉ final.registry.staleNodes final.clock limit) ∧
      (final.clock = final.due → ∀ metrics didWork delivered,
        (next setup final (.beat metrics didWork delivered)).isSome = true)) := by
  refine ⟨?_, ?_, ?_⟩
  · intro samples gaps recorded
    exact HeartbeatPacer.recordAll_paced samples (paced_pacer setup) recorded
  · intro short samples
    exact HeartbeatPacer.recordAll_some samples (paced_pacer setup) (ceiling_short short)
  · intro half registry registered trace final apart ran
    have rule := @run_history State Event (next setup) Apart (fun _ => Fresh setup)
      (start setup registry registered) final trace (start_fresh registry registered)
    have fresh : Fresh setup final := by
      refine rule ?_ apart ran
      intro past state event after fresh moved allowed
      exact fresh.step half allowed moved
    refine ⟨?_, fun limit told => fresh.not_stale half told, ?_⟩
    · obtain ⟨entry, known, within⟩ := fresh.within half
      exact ⟨entry, known, by omega⟩
    · intro due metrics didWork delivered
      have short : setup.ceiling * 2 ≤ maxDuration := by
        have twice := ceiling_twice half
        have most := declared_le_maxDuration setup
        omega
      obtain ⟨after, gap, recorded⟩ :=
        HeartbeatPacer.record_some fresh.paced short metrics didWork
      simp only [next, if_pos due, recorded, Option.map_some, Option.isSome_some]

def idleAgent : Setup where
  info := ⟨⟨⟨0⟩, ∅⟩, "agent", "127.0.0.1:7001", 4, none, none, ⟨0, 0, 0⟩⟩
  interval := 5 * 10 ^ 9
  minSampleInterval := 2 * 10 ^ 8
  timeout := some (30 * 10 ^ 9)
  lasting := by
    intro limit told
    obtain rfl := Option.some.inj told
    decide

def losesOne : List Event :=
  [.pass (5 * 10 ^ 9), .beat ⟨0, 0, 0⟩ false true, .pass (10 * 10 ^ 9), .beat ⟨0, 0, 0⟩ false true,
    .evict, .pass (15 * 10 ^ 9), .beat ⟨0, 0, 0⟩ false false, .pass (15 * 10 ^ 9), .evict]

instance decidableApart (state : State) (event : Event) : Decidable (Apart state event) :=
  match event with
  | .beat _ _ delivered => inferInstanceAs (Decidable (state.lost = true → delivered = true))
  | .pass _ | .arrive _ | .hear _ _ | .leave _ | .evict => inferInstanceAs (Decidable True)

theorem idle_agent_survives :
    ∃ final, run (next idleAgent) (start idleAgent .new 0) losesOne = some final ∧
      final.clock = 45 * 10 ^ 9 ∧
      ⟨0⟩ ∉ final.registry.staleNodes final.clock (30 * 10 ^ 9) := by
  have tested : (run (next idleAgent) (start idleAgent .new 0) losesOne).any
      (fun state => state.clock = 45 * 10 ^ 9) = true := by
    decide +kernel
  obtain ⟨final, ran, clock⟩ := run_tested tested
  have spared := (one_loss_never_evicts idleAgent).2.2 (by decide) .new 0 losesOne final
    (by decide +kernel) ran
  exact ⟨final, ran, of_decide_eq_true clock, spared.2.1 (30 * 10 ^ 9) rfl⟩

end Heartbeats

end AetherMesh
