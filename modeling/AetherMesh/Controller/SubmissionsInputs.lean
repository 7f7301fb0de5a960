import AetherMesh.Controller.SubmissionsCatalog

/-!
The inputs that a submission has gone past. Each of them is credited to the node the submission
is on, as long as the credits of that node are not forgotten.
-/

namespace AetherMesh.Submissions

variable {setup : Setup} {state after : State} {event : Event} {thread : Nat} {nodeId : NodeId}
  {phase : Phase} {dataId : DataId}

def Stage.past : Stage → Bool
  | .unlocking (.ok _) | .releasing | .dropping (.ok _) => true
  | _ => false

def passed (setup : Setup) (thread : Nat) : Phase → Option (NodeId × Nat)
  | .input place index => some (place.nodeId, index)
  | .transfer place index _ stage => some (place.nodeId, if stage.past then index + 1 else index)
  | .dispatch place _ => some (place.nodeId, (setup.task thread).inputs.length)
  | .finishing _ (.ok result) | .returned result | .done (.ok result) =>
      some (result.nodeId, (setup.task thread).inputs.length)
  | _ => none

def withdraws (state : State) (nodeId : NodeId) : Event → Bool
  | .retry thread =>
      match state.phases thread with
      | .retrying place => place.nodeId = nodeId
      | _ => false
  | .register other | .forgetNode other | .evicted other _ => other = nodeId
  | _ => false

/-- What a submission takes for its answer is the answer of the node it is on. -/
def answeredThere (state : State) (thread : Nat) : Event → Bool
  | .receive other =>
      match state.phases other, state.mailbox other with
      | .dispatch place _, some result => other = thread → result.nodeId = place.nodeId
      | _, _ => true
  | _ => true

def Credited (setup : Setup) (state : State) (thread : Nat) (nodeId : NodeId) : Prop :=
  ∀ count, passed setup thread (state.phases thread) = some (nodeId, count) → ∀ index < count,
    ∀ dataId, setup.inputAt thread index = some dataId → state.catalog.holds dataId nodeId = true

theorem Step.holds (step : Step setup state event after)
    (kept : withdraws state nodeId event = false)
    (held : state.catalog.holds dataId nodeId = true) :
    after.catalog.holds dataId nodeId = true := by
  cases step with
  | lookup thread place index given =>
      obtain ⟨_, _, _, _, frame⟩ := @transferLock_frame state (place.nodeId, given)
      rw [State.move, frame]
      exact held
  | release thread place index lock given =>
      obtain ⟨_, _, frame⟩ := @releaseTransfer_frame state (place.nodeId, given) lock
      rw [State.move, frame]
      exact held
  | credit | record | held => exact DataCatalog.holds_record.mpr (.inl held)
  | recordOutput => exact holds_recordOutput.mpr (.inl held)
  | retry thread place here =>
      simp only [withdraws, here, decide_eq_false_iff_not] at kept
      exact DataCatalog.holds_forgetNode.mpr ⟨held, Ne.symm kept⟩
  | register | forgetNode =>
      have other := of_decide_eq_false kept
      exact DataCatalog.holds_forgetNode.mpr ⟨held, Ne.symm other⟩
  | evicted =>
      have other := of_decide_eq_false kept
      exact DataCatalog.holds_withdraw.mpr ⟨held, fun both => other both.2.symm⟩
  | _ => exact held

def Advances (setup : Setup) (catalog : DataCatalog) (thread : Nat)
    (old new : Option (NodeId × Nat)) : Prop :=
  ∀ nodeId count, new = some (nodeId, count) → count = 0 ∨
    ∃ before, old = some (nodeId, before) ∧ (count ≤ before ∨ count = before + 1 ∧
      ∀ dataId, setup.inputAt thread before = some dataId → catalog.holds dataId nodeId = true)

theorem Advances.refl {catalog : DataCatalog} (place : Option (NodeId × Nat)) :
    Advances setup catalog thread place place :=
  fun _ count found => .inr ⟨count, found, .inl (Nat.le_refl _)⟩

theorem Advances.none {catalog : DataCatalog} (place : Option (NodeId × Nat)) :
    Advances setup catalog thread place none := nofun

theorem Advances.one {catalog : DataCatalog} {index : Nat}
    (held : ∀ dataId, setup.inputAt thread index = some dataId →
      catalog.holds dataId nodeId = true) :
    Advances setup catalog thread (some (nodeId, index)) (some (nodeId, index + 1)) := by
  rintro _ _ ⟨⟩
  exact .inr ⟨index, rfl, .inr ⟨rfl, held⟩⟩

theorem Goes.advances (goes : Goes setup state thread event phase)
    (there : answeredThere state thread event = true) :
    Advances setup state.catalog thread (passed setup thread (state.phases thread))
      (passed setup thread phase) := by
  cases goes with
  | skip place index lock dataId here input _ held =>
      rw [here]
      refine Advances.one fun other found => ?_
      obtain rfl := Option.some.inj (input.symm.trans found)
      exact held
  | noInput place index here last =>
      rw [here]
      rintro _ _ ⟨⟩
      exact .inr ⟨index, rfl, .inl (List.getElem?_eq_none_iff.mp last)⟩
  | receive place result here answered =>
      simp only [answeredThere, here, answered, decide_eq_true_eq] at there
      rw [here, passed, passed, there trivial]
      exact .refl _
  | start | select | noNode | wake | resultClosed | dropAwaiting | dropSleeping => exact .none _
  | unknown _ _ _ _ here | missing _ _ _ _ here | refused _ _ _ _ here | leave _ _ _ _ _ here
  | choose _ _ _ _ _ here | nothing _ _ _ _ here | sendChunk _ _ _ _ _ here
  | chunkRefused _ _ _ _ _ _ here | awaitData _ _ _ here | dataClosed _ _ _ _ here
  | dataTimeout _ _ _ _ here | assign _ here | notAssigned _ _ here | resultTimeout _ here =>
      rw [here]
      exact .refl _

theorem Advances.move {middle : State} {mover : Nat} (phases : middle.phases = state.phases)
    (own : mover = thread → Advances setup middle.catalog thread
      (passed setup thread (state.phases thread)) (passed setup thread phase)) :
    Advances setup (middle.move mover phase).catalog thread
      (passed setup thread (state.phases thread))
      (passed setup thread ((middle.move mover phase).phases thread)) := by
  have moves : (middle.move mover phase).phases = Function.update state.phases mover phase := by
    rw [← phases]
    rfl
  rw [moves]
  by_cases same : thread = mover
  · subst same
    rw [Function.update_self]
    exact own rfl
  · rw [Function.update_of_ne same]
    exact .refl _

theorem Advances.stay {middle : State} {mover : Nat} {old : Phase}
    (phases : middle.phases = state.phases) (here : state.phases mover = old)
    (same : passed setup mover phase = passed setup mover old) :
    Advances setup (middle.move mover phase).catalog thread
      (passed setup thread (state.phases thread))
      (passed setup thread ((middle.move mover phase).phases thread)) := by
  refine Advances.move phases ?_
  rintro rfl
  rw [here, same]
  exact .refl _

theorem Step.advances (step : Step setup state event after)
    (there : answeredThere state thread event = true) :
    Advances setup after.catalog thread (passed setup thread (state.phases thread))
      (passed setup thread (after.phases thread)) := by
  cases step with
  | go mover event phase goes =>
      refine Advances.move rfl ?_
      rintro rfl
      exact goes.advances there
  | begin mover place here =>
      refine Advances.move rfl fun _ => ?_
      rintro _ _ ⟨⟩
      exact .inl rfl
  | lookup mover place index dataId here => exact .stay (transferLock_phases _) here rfl
  | release mover place index lock dataId here => exact .stay (releaseTransfer_phases _ _) here rfl
  | recordOutput mover result here => exact .stay (recordOutput_phases _) here rfl
  | record mover place index lock dataId size here input =>
      refine Advances.move rfl ?_
      rintro rfl
      rw [here]
      refine Advances.one fun other found => ?_
      obtain rfl := Option.some.inj (input.symm.trans found)
      exact DataCatalog.holds_record.mpr (.inr ⟨rfl, rfl⟩)
  | send mover place index lock dataId stage here _ _ later =>
      rcases later with rfl | rfl <;> exact .stay rfl here rfl
  | unlock mover place index lock outcome stage here later =>
      rcases later with ⟨rfl, rfl⟩ | ⟨_, rfl, rfl⟩ <;> exact .stay rfl here rfl
  | drop mover place index lock outcome phase here later =>
      rcases later with ⟨rfl, rfl⟩ | ⟨_, -, rfl⟩
      · exact .stay rfl here rfl
      · exact Advances.move rfl fun _ => .none _
  | finish mover place outcome phase here later =>
      rcases later with ⟨_, rfl, rfl⟩ | ⟨_, -, ⟨-, rfl⟩ | rfl⟩
      · exact .stay rfl here rfl
      · exact Advances.move rfl fun _ => .none _
      · exact Advances.move rfl fun _ => .none _
  | forget | retry | dropLocking | dropSending => exact Advances.move rfl fun _ => .none _
  | acquire mover _ _ _ here | credit mover _ _ _ _ _ _ here | expectData mover _ _ _ _ _ _ here
  | forgetData mover _ _ _ _ _ here | expectResult mover _ here => exact .stay rfl here rfl
  | register | attach | detach | forgetNode | held | evicted | ready | complete | unheard
  | unexpected => exact .refl _

theorem Credited.step (credited : Credited setup state thread nodeId)
    (step : Step setup state event after) (kept : withdraws state nodeId event = false)
    (there : answeredThere state thread event = true) : Credited setup after thread nodeId := by
  intro count found index below dataId input
  obtain rfl | ⟨before, old, more | ⟨rfl, last⟩⟩ := step.advances there nodeId count found
  · exact absurd below (Nat.not_lt_zero _)
  · exact step.holds kept (credited before old index (by omega) dataId input)
  · by_cases same : index = before
    · subst same
      exact last dataId input
    · exact step.holds kept (credited before old index (by omega) dataId input)

/-- What is true of the phase of a submission, and not of one that moves, stays true. -/
theorem still_move (still : Phase → Prop) {middle : State} {mover : Nat} {old : Phase}
    (phases : middle.phases = state.phases) (here : state.phases mover = old) (busy : ¬still old)
    (same : still (state.phases thread)) : still ((middle.move mover phase).phases thread) := by
  have different : thread ≠ mover := by
    rintro rfl
    exact busy (here ▸ same)
  have kept : (middle.move mover phase).phases thread = state.phases thread := by
    rw [State.move, phases]
    exact Function.update_of_ne different _ _
  rw [kept]
  exact same

theorem Goes.here (goes : Goes setup state thread event phase) (other : event ≠ .start thread) :
    state.phases thread ≠ .idle := by
  cases goes <;> simp_all

theorem Step.idle (step : Step setup state event after) (idle : state.phases thread = .idle)
    (other : event ≠ .start thread) : after.phases thread = .idle := by
  cases step with
  | go mover event phase goes =>
      by_cases same : thread = mover
      · subst same
        exact absurd idle (goes.here other)
      · exact (Function.update_of_ne same _ _).trans idle
  | lookup mover place index dataId here =>
      exact still_move (· = .idle) (transferLock_phases _) here nofun idle
  | release mover place index lock dataId here =>
      exact still_move (· = .idle) (releaseTransfer_phases _ _) here nofun idle
  | recordOutput mover result here =>
      exact still_move (· = .idle) (recordOutput_phases _) here nofun idle
  | begin mover _ here | acquire mover _ _ _ here | send mover _ _ _ _ _ here
  | credit mover _ _ _ _ _ _ here | expectData mover _ _ _ _ _ _ here
  | forgetData mover _ _ _ _ _ here | record mover _ _ _ _ _ here | unlock mover _ _ _ _ _ here
  | drop mover _ _ _ _ _ here | expectResult mover _ here | forget mover _ _ here
  | finish mover _ _ _ here | retry mover _ here | dropLocking mover _ _ _ here
  | dropSending mover _ _ _ here => exact still_move (· = .idle) rfl here nofun idle
  | register | attach | detach | forgetNode | held | evicted | ready | complete | unheard
  | unexpected => exact idle

end AetherMesh.Submissions
