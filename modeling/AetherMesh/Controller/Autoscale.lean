import AetherMesh.Core.Data
import Mathlib.Algebra.Order.Field.Rat
import Mathlib.Data.Rat.Floor

/-!
How many nodes the mesh should have. The autoscaler reads signals and recommends a number;
a change it has recommended is left alone for a while. Ratios are taken exactly, where the
source computes with floats. Instants and durations are in nanoseconds.
-/

namespace AetherMesh

structure Signals where
  nodes : Nat
  queueDepth : Nat
  oldestWait : Nat
  cpuUsage : ℚ
  memoryUsage : ℚ
deriving DecidableEq

inductive Target
  | queueLength (perNode : ℚ)
  | cpuUtilization (fraction : ℚ)
  | latency (maxWaitSecs : ℚ)
deriving DecidableEq

structure Policy where
  target : Target
  minNodes : Nat
  maxNodes : Nat
  cooldownSecs : Nat
  tolerance : ℚ
deriving DecidableEq

def Policy.default : Policy where
  target := .queueLength 2
  minNodes := 1
  maxNodes := 16
  cooldownSecs := 120
  tolerance := 1 / 4

def Policy.cooldown (policy : Policy) : Nat := policy.cooldownSecs * 10 ^ 9

inductive Decision
  | scaleUp (count : Nat) (why : String)
  | scaleDown (count : Nat) (why : String)
  | noChange (why : String)
deriving DecidableEq

def Decision.targetNodes : Decision → Option Nat
  | .scaleUp count _ => some count
  | .scaleDown count _ => some count
  | .noChange _ => none

structure Autoscaler where
  policy : Policy
  lastChange : Option Nat
deriving DecidableEq

def roundHalfEven (value : ℚ) : Int :=
  let below := value.floor
  if value - below < 1 / 2 then below
  else if 1 / 2 < value - below then below + 1
  else if below % 2 = 0 then below
  else below + 1

def fixedWhole (value : ℚ) : String :=
  (if value < 0 then "-" else "") ++ toString (roundHalfEven |value|).toNat

def fixedTenth (value : ℚ) : String :=
  let tenths := (roundHalfEven (|value| * 10)).toNat
  (if value < 0 then "-" else "") ++ toString (tenths / 10) ++ "." ++ toString (tenths % 10)

def asUsize (value : ℚ) : Nat := min value.floor.toNat (2 ^ 64 - 1)

/-- `Ord::clamp`, which panics when the bounds are the wrong way round. -/
def clamp (value low high : Nat) : Option Nat :=
  if low ≤ high then some (if value < low then low else if high < value then high else value)
  else none

def secs (duration : Nat) : ℚ := duration / 10 ^ 9

def Policy.measure (policy : Policy) (signals : Signals) : ℚ × String :=
  match policy.target with
  | .queueLength perNode =>
      let want := max perNode (1 / 100) * (max signals.nodes 1 : Nat)
      (signals.queueDepth / want,
        toString signals.queueDepth ++ " queued against a target of " ++ fixedWhole want)
  | .cpuUtilization fraction =>
      let want := max fraction (1 / 100)
      (signals.cpuUsage / want,
        fixedWhole (signals.cpuUsage * 100) ++ "% cpu against a target of " ++
          fixedWhole (fraction * 100) ++ "%")
  | .latency maxWaitSecs =>
      let want := max maxWaitSecs (1 / 1000)
      (secs signals.oldestWait / want,
        fixedTenth (secs signals.oldestWait) ++ "s longest wait against a target of " ++
          fixedTenth want ++ "s")

namespace Autoscaler

def new (policy : Policy) : Autoscaler := ⟨policy, none⟩

variable (scaler : Autoscaler) (signals : Signals) (now : Nat)

def coolingDown : Bool :=
  match scaler.lastChange with
  | some last => now - last < scaler.policy.cooldown
  | none => false

def scaleUpTo (ratio : ℚ) (description : String) : Option Decision :=
  let wanted := asUsize ((max signals.nodes 1 : Nat) * ratio).ceil
  (clamp wanted scaler.policy.minNodes scaler.policy.maxNodes).map fun count =>
    if signals.nodes < count then .scaleUp count (description ++ "; adding capacity")
    else .noChange (description ++ ", but already at " ++ toString scaler.policy.maxNodes ++ " nodes")

def scaleDownTo (ratio : ℚ) (description : String) : Option Decision :=
  if 0 < signals.queueDepth then
    some (.noChange
      (description ++ ", but " ++ toString signals.queueDepth ++ " task(s) are still waiting"))
  else
    let wanted := asUsize (max ((signals.nodes * max ratio 0).floor : ℚ) 1)
    (clamp wanted scaler.policy.minNodes scaler.policy.maxNodes).map fun count =>
      if count < signals.nodes then .scaleDown count (description ++ "; releasing capacity")
      else .noChange (description ++ ", but already at the minimum")

def evaluate : Option Decision :=
  if scaler.coolingDown now then
    some (.noChange "waiting for the last change to take effect")
  else if signals.nodes < scaler.policy.minNodes then
    some (.scaleUp scaler.policy.minNodes
      (toString signals.nodes ++ " node(s), below the minimum of " ++
        toString scaler.policy.minNodes))
  else
    let (ratio, description) := scaler.policy.measure signals
    if 1 + scaler.policy.tolerance < ratio then scaler.scaleUpTo signals ratio description
    else if ratio < 1 - scaler.policy.tolerance then scaler.scaleDownTo signals ratio description
    else some (.noChange (description ++ ", which is close enough"))

def decide : Option (Autoscaler × Decision) :=
  (scaler.evaluate signals now).map fun decision =>
    if decision.targetNodes.isSome then ({ scaler with lastChange := some now }, decision)
    else (scaler, decision)

def decideAll : Autoscaler → List (Signals × Nat) → Option (List Decision)
  | _, [] => some []
  | scaler, call :: rest =>
      match scaler.decide call.1 call.2 with
      | none => none
      | some (after, decision) => (decideAll after rest).map fun later => decision :: later

end Autoscaler

/-- Of the configuration, what `validate` checks and what the autoscaler is given. -/
structure ControllerConfig where
  tlsCertPath : Option String
  tlsKeyPath : Option String
  autoscale : Policy
deriving DecidableEq

inductive ConfigError
  | io (path reason : String)
  | parse (path reason : String)
  | incompleteTls
deriving DecidableEq

namespace ControllerConfig

def validate (config : ControllerConfig) : Except ConfigError Unit :=
  match config.tlsCertPath, config.tlsKeyPath with
  | some _, none => .error .incompleteTls
  | none, some _ => .error .incompleteTls
  | _, _ => .ok ()

/-- `contents` is what reading the file gives and `fromStr` the parser of TOML. -/
def load (fromStr : String → Except String ControllerConfig) (path : String)
    (contents : Except String String) : Except ConfigError ControllerConfig :=
  match contents with
  | .error reason => .error (.io path reason)
  | .ok contents =>
      match fromStr contents with
      | .error reason => .error (.parse path reason)
      | .ok config => config.validate.map fun _ => config

end ControllerConfig

structure Sensible (policy : Policy) (signals : Signals) (decision : Decision) : Prop where
  bounded : ∀ count, decision.targetNodes = some count → policy.minNodes ≤ count ∧ count ≤ policy.maxNodes
  up : ∀ count why, decision = .scaleUp count why → signals.nodes < count
  down : ∀ count why, decision = .scaleDown count why → count < signals.nodes ∧ signals.queueDepth = 0

def Spaced (policy : Policy) (made : List (Nat × Decision)) : Prop :=
  made.Pairwise fun earlier later => earlier.2.targetNodes.isSome = true →
    later.2.targetNodes.isSome = true → earlier.1 + policy.cooldown ≤ later.1

def Disciplined (policy : Policy) : Prop :=
  ∀ calls : List (Signals × Nat), (calls.map Prod.snd).Pairwise (· ≤ ·) →
    ∃ decisions, (Autoscaler.new policy).decideAll calls = some decisions ∧
      List.Forall₂ (fun call decision => Sensible policy call.1 decision) calls decisions ∧
      Spaced policy ((calls.map Prod.snd).zip decisions)

variable {scaler after : Autoscaler} {signals : Signals} {now : Nat} {decision : Decision}

theorem clamp_spec {value low high : Nat} (ordered : low ≤ high) :
    ∃ count, clamp value low high = some count ∧ low ≤ count ∧ count ≤ high := by
  refine ⟨_, if_pos ordered, ?_, ?_⟩
  · split <;> [skip; split] <;> omega
  · split <;> [skip; split] <;> omega

theorem Sensible.noChange (policy : Policy) (why : String) :
    Sensible policy signals (.noChange why) := by
  constructor
  · intro count recommends
    cases recommends
  · intro count reason same
    cases same
  · intro count reason same
    cases same

theorem Sensible.scaleUp {policy : Policy} {count : Nat} (why : String) (low : policy.minNodes ≤ count)
    (high : count ≤ policy.maxNodes) (more : signals.nodes < count) :
    Sensible policy signals (.scaleUp count why) := by
  constructor
  · intro other recommends
    obtain rfl := Option.some.inj recommends
    exact ⟨low, high⟩
  · intro other reason same
    obtain ⟨rfl, -⟩ := Decision.scaleUp.inj same
    exact more
  · intro other reason same
    cases same

theorem Sensible.scaleDown {policy : Policy} {count : Nat} (why : String) (low : policy.minNodes ≤ count)
    (high : count ≤ policy.maxNodes) (fewer : count < signals.nodes) (idle : signals.queueDepth = 0) :
    Sensible policy signals (.scaleDown count why) := by
  constructor
  · intro other recommends
    obtain rfl := Option.some.inj recommends
    exact ⟨low, high⟩
  · intro other reason same
    cases same
  · intro other reason same
    obtain ⟨rfl, -⟩ := Decision.scaleDown.inj same
    exact ⟨fewer, idle⟩

namespace Autoscaler

theorem scaleUpTo_sensible (ordered : scaler.policy.minNodes ≤ scaler.policy.maxNodes) (ratio : ℚ)
    (description : String) :
    ∃ decision, scaler.scaleUpTo signals ratio description = some decision ∧
      Sensible scaler.policy signals decision := by
  unfold scaleUpTo
  obtain ⟨count, clamped, low, high⟩ := clamp_spec ordered
  refine ⟨_, congrArg (Option.map _) clamped, ?_⟩
  dsimp only
  split
  · rename_i more
    exact .scaleUp _ low high more
  · exact .noChange _ _

theorem scaleDownTo_sensible (ordered : scaler.policy.minNodes ≤ scaler.policy.maxNodes) (ratio : ℚ)
    (description : String) :
    ∃ decision, scaler.scaleDownTo signals ratio description = some decision ∧
      Sensible scaler.policy signals decision := by
  unfold scaleDownTo
  split
  · exact ⟨_, rfl, .noChange _ _⟩
  · rename_i idle
    obtain ⟨count, clamped, low, high⟩ := clamp_spec ordered
    refine ⟨_, congrArg (Option.map _) clamped, ?_⟩
    dsimp only
    split
    · rename_i fewer
      exact .scaleDown _ low high fewer (Nat.eq_zero_of_not_pos idle)
    · exact .noChange _ _

theorem evaluate_sensible (ordered : scaler.policy.minNodes ≤ scaler.policy.maxNodes)
    (signals : Signals) (now : Nat) :
    ∃ decision, scaler.evaluate signals now = some decision ∧
      Sensible scaler.policy signals decision := by
  unfold evaluate
  split
  · exact ⟨_, rfl, .noChange _ _⟩
  · split
    · rename_i few
      exact ⟨_, rfl, .scaleUp _ (Nat.le_refl _) ordered few⟩
    · dsimp only
      split
      · exact scaleUpTo_sensible ordered _ _
      · split
        · exact scaleDownTo_sensible ordered _ _
        · exact ⟨_, rfl, .noChange _ _⟩

/-- A change is recommended only when the cooldown is over, and starts the next one. -/
theorem decide_spec (ordered : scaler.policy.minNodes ≤ scaler.policy.maxNodes) (signals : Signals)
    (now : Nat) :
    ∃ after decision, scaler.decide signals now = some (after, decision) ∧
      Sensible scaler.policy signals decision ∧ after.policy = scaler.policy ∧
      (decision.targetNodes.isSome = true → scaler.coolingDown now = false ∧
        after.lastChange = some now) ∧
      (decision.targetNodes.isSome = false → after = scaler) := by
  obtain ⟨decision, evaluated, sensible⟩ := evaluate_sensible ordered signals now
  have settled : decision.targetNodes.isSome = true → scaler.coolingDown now = false := by
    intro changes
    by_contra cooling
    rw [Bool.not_eq_false] at cooling
    rw [evaluate, if_pos cooling] at evaluated
    obtain rfl := Option.some.inj evaluated
    cases changes
  unfold decide
  rw [evaluated]
  by_cases changes : decision.targetNodes.isSome = true
  · refine ⟨_, decision, congrArg some (if_pos changes), sensible, rfl, ?_, ?_⟩
    · exact fun _ => ⟨settled changes, rfl⟩
    · intro none
      rw [changes] at none
      cases none
  · refine ⟨scaler, decision, congrArg some (if_neg changes), sensible, rfl, ?_, fun _ => rfl⟩
    exact fun some => absurd some changes

theorem rested {last : Nat} (changed : scaler.lastChange = some last) (later : last ≤ now)
    (settled : scaler.coolingDown now = false) : last + scaler.policy.cooldown ≤ now := by
  unfold coolingDown at settled
  rw [changed] at settled
  have waited := of_decide_eq_false settled
  omega

/-- Everything that is recommended from some point on comes after the cooldown that is running. -/
theorem decideAll_spec (policy : Policy) (ordered : policy.minNodes ≤ policy.maxNodes)
    (calls : List (Signals × Nat)) (scaler : Autoscaler) (same : scaler.policy = policy)
    (times : (calls.map Prod.snd).Pairwise (· ≤ ·))
    (later : ∀ last, scaler.lastChange = some last → ∀ call ∈ calls, last ≤ call.2) :
    ∃ decisions, scaler.decideAll calls = some decisions ∧
      List.Forall₂ (fun call decision => Sensible policy call.1 decision) calls decisions ∧
      Spaced policy ((calls.map Prod.snd).zip decisions) ∧
      ∀ last, scaler.lastChange = some last → ∀ made ∈ (calls.map Prod.snd).zip decisions,
        made.2.targetNodes.isSome = true → last + policy.cooldown ≤ made.1 := by
  induction calls generalizing scaler with
  | nil => exact ⟨[], rfl, .nil, List.Pairwise.nil, by simp⟩
  | cons call rest ih =>
      subst same
      obtain ⟨after, decision, decided, sensible, policy, changes, keeps⟩ :=
        decide_spec ordered call.1 call.2
      rw [List.map_cons, List.pairwise_cons] at times
      have onwards : ∀ last, after.lastChange = some last → ∀ other ∈ rest, last ≤ other.2 := by
        intro last changed other listed
        by_cases change : decision.targetNodes.isSome = true
        · rw [(changes change).2] at changed
          obtain rfl := Option.some.inj changed
          exact times.1 other.2 (List.mem_map_of_mem listed)
        · rw [keeps (Bool.not_eq_true _ ▸ change)] at changed
          exact later last changed other (List.mem_cons_of_mem _ listed)
      obtain ⟨decisions, all, fits, spaced, rests⟩ := ih after policy times.2 onwards
      refine ⟨decision :: decisions, ?_, .cons sensible fits, ?_, ?_⟩
      · rw [decideAll, decided]
        simp only [all, Option.map_some]
      · refine List.pairwise_cons.mpr ⟨?_, spaced⟩
        intro made listed change
        exact rests call.2 (changes change).2 made listed
      · intro last changed made listed recommends
        rw [List.map_cons, List.zip_cons_cons, List.mem_cons] at listed
        rcases listed with rfl | behind
        · exact rested changed (later last changed call List.mem_cons_self) (changes recommends).1
        · by_cases change : decision.targetNodes.isSome = true
          · have here := rested changed (later last changed call List.mem_cons_self)
              (changes change).1
            have there := rests call.2 (changes change).2 made behind recommends
            omega
          · have same := keeps (Bool.not_eq_true _ ▸ change)
            exact rests last (same ▸ changed) made behind recommends

end Autoscaler

theorem decideAll_empty (policy : Policy) (positive : 0 < policy.minNodes) :
    ∃ why, (Autoscaler.new policy).decideAll [(⟨0, 0, 0, 0, 0⟩, 0)] =
      some [.scaleUp policy.minNodes why] := by
  have evaluated : (Autoscaler.new policy).evaluate ⟨0, 0, 0, 0, 0⟩ 0 =
      some (.scaleUp policy.minNodes
        (toString 0 ++ " node(s), below the minimum of " ++ toString policy.minNodes)) :=
    (if_neg Bool.false_ne_true).trans (if_pos positive)
  refine ⟨toString 0 ++ " node(s), below the minimum of " ++ toString policy.minNodes, ?_⟩
  rw [Autoscaler.decideAll, Autoscaler.decide, evaluated]
  rfl

/-- The autoscaler keeps its rules under a policy exactly if the minimum is not above the maximum,
which loading a configuration does not check. -/
theorem disciplined_iff {fromStr : String → Except String ControllerConfig} {path : String}
    {contents : Except String String} {config : ControllerConfig}
    (_loaded : ControllerConfig.load fromStr path contents = .ok config) :
    Disciplined config.autoscale ↔ config.autoscale.minNodes ≤ config.autoscale.maxNodes := by
  constructor
  · intro disciplined
    rcases Nat.eq_zero_or_pos config.autoscale.minNodes with zero | positive
    · rw [zero]
      exact Nat.zero_le _
    · obtain ⟨why, decided⟩ := decideAll_empty config.autoscale positive
      obtain ⟨decisions, made, fits, -⟩ := disciplined [(⟨0, 0, 0, 0, 0⟩, 0)] (by simp)
      rw [decided] at made
      obtain rfl := Option.some.inj made
      obtain ⟨sensible, -⟩ := List.forall₂_cons.mp fits
      exact (sensible.bounded config.autoscale.minNodes rfl).2
  · intro ordered calls times
    obtain ⟨decisions, made, fits, spaced, -⟩ := Autoscaler.decideAll_spec config.autoscale ordered
      calls (.new config.autoscale) rfl times (fun last changed => by cases changed)
    exact ⟨decisions, made, fits, spaced⟩

def inverted : Policy := { Policy.default with minNodes := 5, maxNodes := 3 }

def readsBounds (text : String) : Except String ControllerConfig :=
  if text = "" then .ok ⟨none, none, .default⟩
  else if text = "[autoscale]\nmin_nodes = 5\nmax_nodes = 3\n" then .ok ⟨none, none, inverted⟩
  else .error "other"

theorem default_disciplined : Disciplined Policy.default :=
  (disciplined_iff (show ControllerConfig.load readsBounds "controller.toml" (.ok "") =
    .ok ⟨none, none, .default⟩ from rfl)).mpr (by decide)

theorem inverted_bounds_panic :
    ControllerConfig.load readsBounds "controller.toml"
        (.ok "[autoscale]\nmin_nodes = 5\nmax_nodes = 3\n") = .ok ⟨none, none, inverted⟩ ∧
      (Autoscaler.new inverted).decideAll [(⟨5, 100, 0, 0, 0⟩, 0)] = none ∧
      ¬ Disciplined inverted := by
  have panics : (Autoscaler.new inverted).decideAll [(⟨5, 100, 0, 0, 0⟩, 0)] = none := by
    decide +kernel
  refine ⟨by decide +kernel, panics, fun disciplined => ?_⟩
  obtain ⟨decisions, made, -⟩ := disciplined [(⟨5, 100, 0, 0, 0⟩, 0)] (by simp)
  rw [panics] at made
  cases made

end AetherMesh
