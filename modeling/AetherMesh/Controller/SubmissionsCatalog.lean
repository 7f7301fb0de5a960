import AetherMesh.Controller.Credits
import AetherMesh.Controller.Submissions

/-!
Whether the catalog credits only nodes that are connected. A connection that ends is
detached and then forgotten; whoever records a credit does not look whether the node
is still there.
-/

namespace AetherMesh.Submissions

open Runs

variable {setup : Setup} {state after : State} {event : Event} {nodeId : NodeId} {dataId : DataId}

def State.halfDone (state : State) (nodeId : NodeId) : Nat :=
  state.attaching nodeId + state.forgetting nodeId

/-- A node with a credit is connected unless one of its handlers is half done. -/
def CreditsConnected (state : State) : Prop :=
  ∀ dataId nodeId, state.halfDone nodeId = 0 → state.catalog.holds dataId nodeId = true →
    nodeId ∈ state.connected

def credited (setup : Setup) (state : State) : Event → Option NodeId
  | .credit thread =>
      match state.phases thread with
      | .transfer place _ _ (.crediting _ _) => some place.nodeId
      | _ => none
  | .record thread =>
      match state.phases thread with
      | .transfer place _ _ .recording => some place.nodeId
      | _ => none
  | .recordOutput thread =>
      match state.phases thread with
      | .returned result => (Dispatch.reported setup.digest result).map Prod.snd
      | _ => none
  | .held nodeId _ => some nodeId
  | _ => none

/-- The node is there when it is credited, or its credits are still to be forgotten. -/
def attended (setup : Setup) (state : State) (event : Event) : Bool :=
  (credited setup state event).all fun nodeId =>
    nodeId ∈ state.connected ∨ state.halfDone nodeId ≠ 0

theorem recordOutput_catalog (mesh : Mesh) (same : mesh.catalog = state.catalog)
    (result : TaskResult) :
    (state.recordOutput setup.digest result).catalog =
      (Dispatch.recordOutput setup.digest mesh result).catalog := by
  unfold State.recordOutput Dispatch.recordOutput
  cases result.outputId with
  | none => exact same.symm
  | some outputId =>
      cases result.output with
      | none => exact same.symm
      | some output =>
          dsimp only
          split
          · rw [same]
          · exact same.symm

theorem holds_recordOutput {result : TaskResult} :
    (state.recordOutput setup.digest result).catalog.holds dataId nodeId = true ↔
      state.catalog.holds dataId nodeId = true ∨
        Dispatch.reported setup.digest result = some (dataId, nodeId) := by
  rw [recordOutput_catalog ⟨[], state.catalog, state.store, setup.manifests, setup.reuseData,
    setup.maxAttempts⟩ rfl]
  exact Dispatch.holds_recordOutput

theorem CreditsConnected.of_same (sound : CreditsConnected state)
    (catalog : after.catalog = state.catalog) (connected : after.connected = state.connected)
    (attaching : after.attaching = state.attaching)
    (forgetting : after.forgetting = state.forgetting) : CreditsConnected after := by
  intro dataId nodeId settled held
  rw [connected]
  refine sound dataId nodeId ?_ (by rwa [← catalog])
  rwa [State.halfDone, attaching, forgetting] at settled

theorem CreditsConnected.credit_iff (sound : CreditsConnected state) {given : DataId}
    {place : NodeId}
    (holds : ∀ dataId nodeId, after.catalog.holds dataId nodeId = true ↔
      state.catalog.holds dataId nodeId = true ∨ dataId = given ∧ nodeId = place)
    (connected : after.connected = state.connected)
    (attaching : after.attaching = state.attaching)
    (forgetting : after.forgetting = state.forgetting) :
    CreditsConnected after ↔ place ∈ state.connected ∨ state.halfDone place ≠ 0 := by
  have same : ∀ nodeId, after.halfDone nodeId = state.halfDone nodeId := by
    intro nodeId
    rw [State.halfDone, State.halfDone, attaching, forgetting]
  constructor
  · intro later
    by_cases settled : state.halfDone place = 0
    · left
      rw [← connected]
      exact later given place ((same place).trans settled) ((holds given place).mpr (.inr ⟨rfl, rfl⟩))
    · exact .inr settled
  · intro attended dataId nodeId settled held
    rw [same] at settled
    rw [connected]
    rcases (holds dataId nodeId).mp held with old | ⟨-, rfl⟩
    · exact sound dataId nodeId settled old
    · exact attended.resolve_right (not_not.mpr settled)

theorem CreditsConnected.forget (sound : CreditsConnected state) {place : NodeId}
    (catalog : after.catalog = state.catalog.forgetNode place)
    (connected : after.connected = state.connected)
    (others : ∀ other ≠ place, after.halfDone other = state.halfDone other) :
    CreditsConnected after := by
  intro dataId nodeId settled held
  rw [catalog, DataCatalog.holds_forgetNode] at held
  rw [connected]
  exact sound dataId nodeId (by rwa [← others nodeId held.2]) held.1

theorem Step.creditsConnected_iff (step : Step setup state event after)
    (sound : CreditsConnected state) :
    CreditsConnected after ↔ attended setup state event = true := by
  cases step with
  | go thread event phase goes =>
      refine iff_of_true (sound.of_same rfl rfl rfl rfl) ?_
      cases goes <;> rfl
  | lookup thread place index dataId =>
      obtain ⟨_, _, _, _, frame⟩ := @transferLock_frame state (place.nodeId, dataId)
      refine iff_of_true ?_ rfl
      rw [State.move, frame]
      exact sound.of_same rfl rfl rfl rfl
  | release thread place index lock dataId =>
      obtain ⟨_, _, frame⟩ := @releaseTransfer_frame state (place.nodeId, dataId) lock
      refine iff_of_true ?_ rfl
      rw [State.move, frame]
      exact sound.of_same rfl rfl rfl rfl
  | credit thread place index lock chunk batch descriptor here =>
      simp only [attended, credited, here, Option.all_some, decide_eq_true_eq]
      exact sound.credit_iff (fun _ _ => DataCatalog.holds_record) rfl rfl rfl
  | record thread place index lock dataId size here =>
      simp only [attended, credited, here, Option.all_some, decide_eq_true_eq]
      exact sound.credit_iff (fun _ _ => DataCatalog.holds_record) rfl rfl rfl
  | held nodeId descriptor =>
      simp only [attended, credited, Option.all_some, decide_eq_true_eq]
      exact sound.credit_iff (fun _ _ => DataCatalog.holds_record) rfl rfl rfl
  | recordOutput thread result here =>
      obtain ⟨_, _, frame⟩ := @recordOutput_frame setup state result
      have mesh : (state.recordOutput setup.digest result).connected = state.connected ∧
          (state.recordOutput setup.digest result).attaching = state.attaching ∧
          (state.recordOutput setup.digest result).forgetting = state.forgetting := by
        rw [frame]
        exact ⟨rfl, rfl, rfl⟩
      obtain ⟨connected, attaching, forgetting⟩ := mesh
      simp only [attended, credited, here]
      cases output : Dispatch.reported setup.digest result with
      | none =>
          refine iff_of_true (fun dataId nodeId settled held => ?_) rfl
          simp only [State.move, holds_recordOutput, output, reduceCtorEq, or_false] at held
          simp only [State.move, State.halfDone, connected, attaching, forgetting] at settled ⊢
          exact sound dataId nodeId settled held
      | some reported =>
          obtain ⟨given, place⟩ := reported
          simp only [Option.map_some, Option.all_some, decide_eq_true_eq]
          refine @CreditsConnected.credit_iff state _ sound given place (fun dataId nodeId => ?_)
            connected attaching forgetting
          simp only [State.move, holds_recordOutput, output, Option.some.injEq, Prod.mk.injEq]
          tauto
  | retry thread place =>
      refine iff_of_true ?_ rfl
      exact sound.forget rfl rfl fun _ _ => rfl
  | register nodeId =>
      refine iff_of_true (sound.forget rfl rfl fun other different => ?_) rfl
      simp only [State.halfDone, State.forgetCredits, Function.update_of_ne different]
  | attach nodeId =>
      refine iff_of_true (fun dataId other settled held => ?_) rfl
      by_cases here : other = nodeId
      · subst here
        exact Finset.mem_insert_self _ _
      · refine Finset.mem_insert_of_mem (sound dataId other ?_ held)
        simpa only [State.halfDone, Function.update_of_ne here] using settled
  | detach nodeId =>
      refine iff_of_true (fun dataId other settled held => ?_) rfl
      by_cases here : other = nodeId
      · subst here
        simp [State.halfDone] at settled
      · refine Finset.mem_erase.mpr ⟨here, sound dataId other ?_ held⟩
        simpa only [State.halfDone, Function.update_of_ne here] using settled
  | forgetNode nodeId =>
      refine iff_of_true (sound.forget rfl rfl fun other different => ?_) rfl
      simp only [State.halfDone, State.forgetCredits, Function.update_of_ne different]
  | evicted nodeId dataId =>
      refine iff_of_true (fun other place settled held => ?_) rfl
      exact sound other place settled (DataCatalog.holds_withdraw.mp held).1
  | _ => exact iff_of_true (sound.of_same rfl rfl rfl rfl) rfl

theorem Step.away (step : Step setup state event after) (other : event ≠ .register nodeId)
    (gone : nodeId ∉ state.connected ∧ state.attaching nodeId = 0)
    (moved : next setup state event = some after) :
    nodeId ∉ after.connected ∧ after.attaching nodeId = 0 := by
  cases step with
  | lookup thread place index dataId =>
      obtain ⟨_, _, _, _, frame⟩ := @transferLock_frame state (place.nodeId, dataId)
      rw [State.move, frame]
      exact gone
  | release thread place index lock dataId =>
      obtain ⟨_, _, frame⟩ := @releaseTransfer_frame state (place.nodeId, dataId) lock
      rw [State.move, frame]
      exact gone
  | recordOutput thread result =>
      obtain ⟨_, _, frame⟩ := @recordOutput_frame setup state result
      rw [State.move, frame]
      exact gone
  | register place =>
      have different : nodeId ≠ place := fun same => other (by rw [same])
      exact ⟨gone.1, (Function.update_of_ne different _ _).trans gone.2⟩
  | attach place =>
      have different : nodeId ≠ place := by
        rintro rfl
        simp [next, gone.2] at moved
      refine ⟨fun there => ?_, ?_⟩
      · exact gone.1 (Finset.mem_of_mem_insert_of_ne there different)
      · exact (Function.update_of_ne different _ _).trans gone.2
  | detach place => exact ⟨fun there => gone.1 (Finset.mem_of_mem_erase there), gone.2⟩
  | _ => exact gone

/-- A node that was detached and forgotten has no credit until it registers again. -/
def StaysForgotten (setup : Setup) (start : State) (events : List Event) : Prop :=
  ∀ front middle back state later nodeId, events = front ++ (middle ++ back) →
    run (next setup) start front = some state → run (next setup) state middle = some later →
    nodeId ∉ state.connected → state.halfDone nodeId = 0 → .register nodeId ∉ middle →
    later.halfDone nodeId = 0 → ∀ dataId, later.catalog.holds dataId nodeId = false

theorem run_away {middle : List Event} {later : State}
    (ran : run (next setup) state middle = some later)
    (gone : nodeId ∉ state.connected ∧ state.attaching nodeId = 0)
    (silent : .register nodeId ∉ middle) : nodeId ∉ later.connected := by
  refine (@run_reached State Event (next setup) (fun past reached => .register nodeId ∉ past →
    nodeId ∉ reached.connected ∧ reached.attaching nodeId = 0) state later middle (fun _ => gone)
    ?_ ran silent).1
  intro past reached event after _ away moved quiet
  rw [List.mem_append, not_or, List.mem_singleton] at quiet
  exact (next_step moved).away (Ne.symm quiet.2) (away quiet.1) moved

theorem Always.staysForgotten {start : State} {events : List Event}
    (always : Runs.Always (next setup) CreditsConnected start events) :
    StaysForgotten setup start events := by
  intro front middle back state later nodeId split reached ran gone settled silent quiet dataId
  have away := run_away ran ⟨gone, Nat.eq_zero_of_add_eq_zero_right settled⟩ silent
  have sound : CreditsConnected later := by
    refine always (front ++ middle) back later (by rw [split, List.append_assoc]) ?_
    rw [run_append, reached]
    exact ran
  refine Bool.eq_false_iff.mpr fun held => away (sound dataId nodeId quiet held)

/-- The catalog credits only connected nodes in every state of a run, and a forgotten node stays
forgotten, if and only if every node that is credited in the run is there at that moment or
still about to be forgotten. -/
theorem credits_connected_iff (setup : Setup) (catalog : DataCatalog)
    (store : DataId → Option Bytes) (connected : Finset NodeId)
    (sound : ∀ dataId nodeId, catalog.holds dataId nodeId = true → nodeId ∈ connected)
    (events : List Event) (final : State)
    (ran : run (next setup) (.start catalog store connected) events = some final) :
    (Runs.Always (next setup) CreditsConnected (.start catalog store connected) events ∧
        StaysForgotten setup (.start catalog store connected) events) ↔
      Along (next setup) (fun state event => attended setup state event = true)
        (.start catalog store connected) events := by
  have always := @always_iff_along State Event (next setup)
    (fun state event => attended setup state event = true) CreditsConnected
    (.start catalog store connected) final events (fun _ => True) trivial
    (fun dataId nodeId _ held => sound dataId nodeId held)
    (fun state event after _ moved => ⟨trivial, (next_step moved).creditsConnected_iff⟩) ran
  rw [← always]
  exact ⟨And.left, fun holds => ⟨holds, Always.staysForgotten holds⟩⟩

def oneTask : Setup where
  count := 1
  task := fun _ => Task.new ⟨0⟩ "echo" [7]
  manifests := fun _ => none
  reuseData := true
  maxAttempts := 1
  digest := fun _ => Dispatch.idOf 7

def echoed : TaskResult := ⟨⟨0⟩, ⟨0⟩, .success [7], 0, some (Dispatch.idOf 7)⟩

def runsTask : List Event :=
  [.register ⟨0⟩, .attach ⟨0⟩, .start 0, .select 0 (some ⟨0⟩), .begin 0, .lookup 0,
    .expectResult 0, .assign 0 none, .complete echoed, .receive 0, .finish 0]

def leaves : List Event := [.detach ⟨0⟩, .forgetNode ⟨0⟩]

theorem new_sound (dataId : DataId) (nodeId : NodeId)
    (held : DataCatalog.new.holds dataId nodeId = true) : nodeId ∈ (∅ : Finset NodeId) := by
  cases held

theorem output_recorded_in_time :
    (run (next oneTask) (.start .new (fun _ => none) ∅) (runsTask ++ [.recordOutput 0] ++
      leaves)).isSome = true ∧
    Runs.Always (next oneTask) CreditsConnected (.start .new (fun _ => none) ∅)
      (runsTask ++ [.recordOutput 0] ++ leaves) := by
  have some : (run (next oneTask) (.start .new (fun _ => none) ∅) (runsTask ++ [.recordOutput 0] ++
      leaves)).isSome = true := by decide
  obtain ⟨final, ran⟩ := Option.isSome_iff_exists.mp some
  exact ⟨some, ((credits_connected_iff oneTask .new (fun _ => none) ∅ new_sound _ final ran).mpr
    (by decide)).1⟩

def creditsTheGone (state : State) : Bool :=
  state.phases 0 = .done (.ok echoed) ∧ state.catalog.holds (Dispatch.idOf 7) ⟨0⟩ = true ∧
    (⟨0⟩ : NodeId) ∉ state.connected ∧ state.halfDone ⟨0⟩ = 0

/-- The connection ends between the answer and the record of its output. -/
theorem output_recorded_too_late :
    ∃ final, run (next oneTask) (.start .new (fun _ => none) ∅) (runsTask ++ leaves ++
        [.recordOutput 0]) = some final ∧
      creditsTheGone final = true ∧ ¬ CreditsConnected final := by
  have tested : (run (next oneTask) (.start .new (fun _ => none) ∅) (runsTask ++ leaves ++
      [.recordOutput 0])).any creditsTheGone = true := by decide
  obtain ⟨final, ran, credits⟩ := run_tested tested
  refine ⟨final, ran, credits, fun sound => ?_⟩
  obtain ⟨-, held, gone, settled⟩ := of_decide_eq_true credits
  exact gone (sound _ _ settled held)

end AetherMesh.Submissions
