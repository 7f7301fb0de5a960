import AetherMesh.Controller.Server
import AetherMesh.Protocol.Net

/-!
Which connection the controller sends a node's messages on. It should be the one that
registered the node last, for as long as that one is open.
-/

namespace AetherMesh.Server

open Runs

variable {setup : Setup} {state after : State} {event : Event}

def Stage.isOpen : Stage → Bool
  | .unopened | .forgetting _ | .closed => false
  | _ => true

structure Alike (old new : Link) : Prop where
  writing : new.writing = old.writing
  registeredId : new.registeredId = old.registeredId
  stage : new.stage = old.stage ∨ old.stage.isOpen = true ∧ new.stage.isOpen = true

theorem Alike.rfl {link : Link} : Alike link link := ⟨Eq.refl _, Eq.refl _, .inl (Eq.refl _)⟩

theorem Alike.isOpen {old new : Link} (alike : Alike old new) :
    new.stage.isOpen = old.stage.isOpen := by
  rcases alike.stage with same | ⟨before, now⟩
  · rw [same]
  · rw [before, now]

def passes (state : State) : Event → Bool
  | .accept _ | .failWrite _ => false
  | .proceed link =>
      match (state.links link).stage with
      | .attaching _ | .joining _ | .closing | .forgetting _ => false
      | _ => true
  | .evict =>
      match state.pass with
      | .detaching _ _ => false
      | _ => true
  | _ => true

inductive Rewires (state after : State) : Event → Prop
  | same (event : Event) (passing : passes state event = true)
      (owner : after.owner = state.owner)
      (senders : after.connections.senders = state.connections.senders)
      (channels : after.connections.dataChannels = state.connections.dataChannels)
      (links : ∀ link, Alike (state.links link) (after.links link)) : Rewires state after event
  | accept (link : Nat) (here : (state.links link).stage = .unopened)
      (moved : after = state.place link .fresh) : Rewires state after (.accept link)
  | leave (link : Nat) (here : (state.links link).stage = .closing)
      (unregistered : (state.links link).registeredId = none)
      (moved : after = state.turn link .closed) : Rewires state after (.proceed link)
  | attach (link : Nat) (nodeId : NodeId) (token : String)
      (here : (state.links link).stage = .attaching nodeId)
      (owner : after.owner = Function.update state.owner nodeId (some link))
      (connections : after.connections = state.connections.attach nodeId link token)
      (links : after.links = Function.update state.links link
        { state.links link with stage := .answering nodeId token, registeredId := some nodeId }) :
      Rewires state after (.proceed link)
  | join (link : Nat) (nodeId : NodeId) (here : (state.links link).stage = .joining nodeId)
      (owner : after.owner = state.owner)
      (connections : after.connections = state.connections.attachDataChannel nodeId link)
      (links : after.links = Function.update state.links link
        { state.links link with stage := .reading, channelFor := some nodeId }) :
      Rewires state after (.proceed link)
  | detach (link : Nat) (nodeId : NodeId) (here : (state.links link).stage = .closing)
      (registered : (state.links link).registeredId = some nodeId)
      (owner : after.owner = state.owner)
      (connections : after.connections = state.connections.detach nodeId)
      (links : after.links = Function.update state.links link
        { state.links link with stage := .forgetting nodeId }) :
      Rewires state after (.proceed link)
  | finish (link : Nat) (nodeId : NodeId) (here : (state.links link).stage = .forgetting nodeId)
      (owner : after.owner = state.owner) (connections : after.connections = state.connections)
      (links : after.links = Function.update state.links link
        { state.links link with stage := .closed }) :
      Rewires state after (.proceed link)
  | failWrite (link : Nat) (writes : (state.links link).writing = true)
      (moved : after = state.place link { state.links link with writing := false }) :
      Rewires state after (.failWrite link)
  | evict (nodeId : NodeId) (rest : List NodeId) (here : state.pass = .detaching nodeId rest)
      (owner : after.owner = state.owner)
      (connections : after.connections = state.connections.detach nodeId)
      (links : after.links = state.links) : Rewires state after .evict

theorem alike_update {link : Nat} {new : Link} (alike : Alike (state.links link) new) (other : Nat) :
    Alike (state.links other) (Function.update state.links link new other) := by
  by_cases same : other = link
  · rw [same, Function.update_self]
    exact alike
  · rw [Function.update_of_ne same]
    exact .rfl

theorem alike_turn {link : Nat} {stage : Stage} (before : (state.links link).stage.isOpen = true)
    (now : stage.isOpen = true) (other : Nat) :
    Alike (state.links other)
      (Function.update state.links link { state.links link with stage } other) := by
  have alike : Alike (state.links link) { state.links link with stage } :=
    ⟨rfl, rfl, .inr ⟨before, now⟩⟩
  exact alike_update alike other

theorem alike_join {link : Nat} {nodeId : NodeId} (here : (state.links link).stage = .joining nodeId)
    (other : Nat) : Alike (state.links other) (Function.update state.links link
      { state.links link with stage := .reading, channelFor := some nodeId } other) := by
  have alike : Alike (state.links link)
      { state.links link with stage := .reading, channelFor := some nodeId } :=
    ⟨rfl, rfl, .inr ⟨by rw [here]; rfl, rfl⟩⟩
  exact alike_update alike other

theorem Turns.rewires {link : Nat} {new : Link} (turns : Turns state link event new) :
    Rewires state (state.place link new) event := by
  cases turns with
  | accept here => exact .accept link here rfl
  | leave here unregistered => exact .leave link here unregistered rfl
  | turnAway stamp message rest answer reads =>
      exact .same _ rfl rfl rfl rfl (alike_update ⟨rfl, rfl, .inr ⟨by rw [reads.here]; rfl, rfl⟩⟩)
  | ignore stamp message rest reads =>
      exact .same _ rfl rfl rfl rfl (alike_update ⟨rfl, rfl, .inl rfl⟩)
  | claim stamp version nodeId token rest reads claimed =>
      exact .same _ rfl rfl rfl rfl (alike_update ⟨rfl, rfl, .inr ⟨by rw [reads.here]; rfl, rfl⟩⟩)
  | hold stamp named nodeId datasets rest reads known =>
      exact .same _ rfl rfl rfl rfl (alike_update ⟨rfl, rfl, .inr ⟨by rw [reads.here]; rfl, rfl⟩⟩)
  | giveUp stamp named nodeId dataIds rest reads known =>
      exact .same _ rfl rfl rfl rfl (alike_update ⟨rfl, rfl, .inr ⟨by rw [reads.here]; rfl, rfl⟩⟩)
  | answer nodeId token message here =>
      exact .same _ (by rw [passes, here]) rfl rfl rfl
        (alike_update ⟨rfl, rfl, .inr ⟨by rw [here]; rfl, rfl⟩⟩)
  | unanswered nodeId token here | recorded nodeId here | evicted nodeId here =>
      exact .same _ (by rw [passes, here]) rfl rfl rfl (alike_turn (by rw [here]; rfl) rfl)
  | lose here => exact .same _ rfl rfl rfl rfl (alike_turn (by rw [here]; rfl) rfl)
  | write message rest queued =>
      exact .same _ rfl rfl rfl rfl (alike_update ⟨rfl, rfl, .inl rfl⟩)

theorem Calls.passes {call : Nat} {dispatching : Dispatching}
    (calls : Calls state call event dispatching) : passes state event = true := by
  cases calls <;> rfl

theorem Waits.passes {call : Nat} {batch : Batch} (waits : Waits state call event batch) :
    passes state event = true := by
  cases waits <;> rfl

theorem Step.rewires (step : Step setup state event after) : Rewires state after event := by
  cases step with
  | turn link event new turns => exact turns.rewires
  | calls call event dispatching calls =>
      exact .same _ calls.passes rfl rfl rfl fun _ => .rfl
  | waits call event batch waits => exact .same _ waits.passes rfl rfl rfl fun _ => .rfl
  | register link stamp version info token rest reads authorized =>
      exact .same _ rfl rfl rfl rfl (alike_update ⟨rfl, rfl, .inr ⟨by rw [reads.here]; rfl, rfl⟩⟩)
  | arrive | heartbeat | dropHeartbeat | ready | pong | complete | assign | sendChunk =>
      exact .same _ rfl rfl rfl rfl (alike_update ⟨rfl, rfl, .inl rfl⟩)
  | forgetStale link nodeId here | record link nodeId descriptor rest here
  | evictData link nodeId dataId rest here =>
      exact .same _ (by rw [passes, here]) rfl rfl rfl (alike_turn (by rw [here]; rfl) rfl)
  | attach link nodeId here => exact .attach link nodeId _ here rfl rfl rfl
  | join link nodeId here => exact .join link nodeId here rfl rfl rfl
  | detach link nodeId here registered => exact .detach link nodeId here registered rfl rfl rfl
  | forgetLink link nodeId here => exact .finish link nodeId here rfl rfl rfl
  | failWrite link writes => exact .failWrite link writes rfl
  | evictDetach nodeId rest here => exact .evict nodeId rest here rfl rfl rfl
  | remove nodeId rest here | passed here | evictForget nodeId rest here =>
      exact .same _ (by rw [passes, here]) rfl rfl rfl fun _ => .rfl
  | _ => exact .same _ rfl rfl rfl rfl fun _ => .rfl

def Joined (state : State) : Prop :=
  ∀ nodeId link, state.owner nodeId = some link →
    (state.links link).stage ≠ .unopened ∧ (state.links link).registeredId ≠ none

/-- A node is connected exactly while the connection that registered it last is open, and its
messages are queued there. -/
structure Owned (state : State) : Prop where
  connected : ∀ nodeId, state.connections.isConnected nodeId = true ↔
    ∃ link, state.owner nodeId = some link ∧ (state.links link).stage.isOpen = true
  sends : ∀ nodeId link message, state.owner nodeId = some link →
    (state.links link).stage.isOpen = true →
      state.send nodeId message = (state.queued link message, .ok link)

structure Routed (state : State) : Prop where
  opened : ∀ nodeId link, state.owner nodeId = some link → (state.links link).stage.isOpen = true →
    state.connections.senders nodeId = some link ∧ (state.links link).writing = true
  own : ∀ nodeId link, state.connections.senders nodeId = some link →
    state.owner nodeId = some link ∧ (state.links link).stage.isOpen = true

/-- No handler detaches a node that a newer connection has registered, or leaves a node behind that
it registered earlier; no writer of an open connection fails that a node was registered over; and
the monitor detaches no node whose connection is open. -/
def Undisturbed (state : State) : Event → Prop
  | .proceed link =>
      match (state.links link).stage, (state.links link).registeredId with
      | .attaching _, _ => (state.links link).writing = true
      | .closing, some nodeId =>
          (∀ other, state.owner other = some link → other = nodeId) ∧
          ∀ newer, state.owner nodeId = some newer → newer ≠ link →
            (state.links newer).stage.isOpen = false
      | _, _ => True
  | .failWrite link => (state.links link).stage.isOpen = true →
      ∀ nodeId, state.owner nodeId ≠ some link
  | .evict =>
      match state.pass with
      | .detaching nodeId _ => ∀ link, state.owner nodeId = some link →
          (state.links link).stage.isOpen = false
      | _ => True
  | _ => True

theorem owned_iff : Owned state ↔ Routed state := by
  constructor
  · intro owned
    have opened : ∀ nodeId link, state.owner nodeId = some link →
        (state.links link).stage.isOpen = true →
        state.connections.senders nodeId = some link ∧ (state.links link).writing = true := by
      intro nodeId link owner here
      have sent := owned.sends nodeId link (.pong 0) owner here
      rcases send_spec state nodeId (.pong 0) with ⟨other, found, writes, also⟩ | ⟨error, refused⟩
      · rw [sent, Prod.mk.injEq] at also
        obtain rfl := Except.ok.inj also.2
        exact ⟨found, writes⟩
      · rw [sent, Prod.mk.injEq] at refused
        cases refused.2
    refine ⟨opened, ?_⟩
    intro nodeId link found
    have connected : state.connections.isConnected nodeId = true := by
      rw [Connections.isConnected, found]
      rfl
    obtain ⟨other, owner, here⟩ := (owned.connected nodeId).mp connected
    obtain rfl := Option.some.inj ((opened nodeId other owner here).1.symm.trans found)
    exact ⟨owner, here⟩
  · intro routed
    constructor
    · intro nodeId
      rw [Connections.isConnected, Option.isSome_iff_exists]
      constructor
      · rintro ⟨link, found⟩
        exact ⟨link, routed.own nodeId link found⟩
      · rintro ⟨link, owner, here⟩
        exact ⟨link, (routed.opened nodeId link owner here).1⟩
    · intro nodeId link message owner here
      obtain ⟨found, writes⟩ := routed.opened nodeId link owner here
      simp only [State.send, found, push_eq, writes, if_true]

theorem passes_undisturbed (passing : passes state event = true) : Undisturbed state event := by
  cases event with
  | proceed link =>
      dsimp only [passes] at passing
      dsimp only [Undisturbed]
      split at passing <;> simp_all
  | failWrite link => cases passing
  | evict =>
      dsimp only [passes] at passing
      dsimp only [Undisturbed]
      split at passing
      · cases passing
      · trivial
  | _ => trivial

theorem Routed.alike (routed : Routed state) (owner : after.owner = state.owner)
    (senders : after.connections.senders = state.connections.senders)
    (links : ∀ nodeId link, state.owner nodeId = some link →
      (after.links link).stage.isOpen = (state.links link).stage.isOpen ∧
        (after.links link).writing = (state.links link).writing) : Routed after := by
  constructor
  · intro nodeId link owns opened
    rw [owner] at owns
    obtain ⟨sameOpen, sameWriting⟩ := links nodeId link owns
    rw [sameOpen] at opened
    rw [senders, sameWriting]
    exact routed.opened nodeId link owns opened
  · intro nodeId link found
    rw [senders] at found
    obtain ⟨owns, opened⟩ := routed.own nodeId link found
    rw [owner, (links nodeId link owns).1]
    exact ⟨owns, opened⟩

theorem Joined.other {link : Nat} (joined : Joined state)
    (fresh : (state.links link).stage = .unopened ∨ (state.links link).registeredId = none)
    {nodeId : NodeId} {owner : Nat} (owns : state.owner nodeId = some owner) : owner ≠ link := by
  rintro rfl
  obtain ⟨opened, registered⟩ := joined nodeId owner owns
  rcases fresh with fresh | fresh
  · exact opened fresh
  · exact registered fresh

theorem Joined.update (joined : Joined state) (link : Nat) {new : Link}
    (opened : new.stage = .unopened → (state.links link).stage = .unopened)
    (registered : new.registeredId = (state.links link).registeredId) {nodeId : NodeId} {owner : Nat}
    (owns : state.owner nodeId = some owner) :
    (Function.update state.links link new owner).stage ≠ .unopened ∧
      (Function.update state.links link new owner).registeredId ≠ none := by
  by_cases same : owner = link
  · subst same
    rw [Function.update_self, registered]
    obtain ⟨before, known⟩ := joined nodeId owner owns
    exact ⟨fun now => before (opened now), known⟩
  · rw [Function.update_of_ne same]
    exact joined nodeId owner owns

theorem Joined.rewires (joined : Joined state) (rewires : Rewires state after event) :
    Joined after := by
  intro nodeId link owns
  cases rewires with
  | same event passing owner senders channels links =>
      rw [owner] at owns
      obtain ⟨opened, registered⟩ := joined nodeId link owns
      have alike := links link
      refine ⟨?_, alike.registeredId ▸ registered⟩
      rcases alike.stage with same | ⟨-, now⟩
      · exact same ▸ opened
      · intro closed
        rw [closed] at now
        cases now
  | accept other here moved =>
      subst moved
      have different := joined.other (.inl here) owns
      have same : (state.place other .fresh).links link = state.links link :=
        Function.update_of_ne different ..
      rw [same]
      exact joined nodeId link owns
  | leave other here unregistered moved =>
      subst moved
      refine joined.update other ?_ ?_ owns
      · simp
      · rfl
  | attach other node token here owner connections links =>
      rw [links]
      by_cases same : link = other
      · subst same
        rw [Function.update_self]
        exact ⟨by simp, by simp⟩
      · rw [Function.update_of_ne same]
        rw [owner] at owns
        by_cases sameNode : nodeId = node
        · subst sameNode
          rw [Function.update_self, Option.some.injEq] at owns
          exact absurd owns.symm same
        · rw [Function.update_of_ne sameNode] at owns
          exact joined nodeId link owns
  | join other node here owner connections links
  | detach other node here registered owner connections links
  | finish other node here owner connections links =>
      rw [owner] at owns
      rw [links]
      refine joined.update other ?_ ?_ owns
      · simp
      · rfl
  | failWrite other writes moved =>
      subst moved
      refine joined.update other ?_ ?_ owns
      · exact id
      · rfl
  | evict node rest here owner connections links =>
      rw [owner] at owns
      rw [links]
      exact joined nodeId link owns

theorem senders_attach {link : Nat} {token : String} (nodeId other : NodeId) :
    (state.connections.attach nodeId link token).senders other =
      if other = nodeId then some link else state.connections.senders other :=
  Function.update_apply ..

theorem senders_detach (nodeId other : NodeId) :
    (state.connections.detach nodeId).senders other =
      if other = nodeId then none else state.connections.senders other :=
  Function.update_apply ..

theorem Routed.attach (routed : Routed state) {link : Nat} {nodeId : NodeId} {token : String}
    (here : (state.links link).stage = .attaching nodeId)
    (owner : after.owner = Function.update state.owner nodeId (some link))
    (connections : after.connections = state.connections.attach nodeId link token)
    (links : after.links = Function.update state.links link
      { state.links link with stage := .answering nodeId token, registeredId := some nodeId }) :
    Routed after ↔ (state.links link).writing = true := by
  have alike : ∀ other, (after.links other).stage.isOpen = (state.links other).stage.isOpen ∧
      (after.links other).writing = (state.links other).writing := by
    intro other
    rw [links]
    by_cases same : other = link
    · subst same
      rw [Function.update_self, here]
      exact ⟨rfl, rfl⟩
    · rw [Function.update_of_ne same]
      exact ⟨rfl, rfl⟩
  have opened : (after.links link).stage.isOpen = true := by
    rw [(alike link).1, here]
    rfl
  constructor
  · intro good
    rw [← (alike link).2]
    exact (good.opened nodeId link (by rw [owner, Function.update_self]) opened).2
  · intro writes
    constructor
    · intro other owns taken stillOpen
      rw [connections, senders_attach, (alike owns).2]
      rw [owner, Function.update_apply] at taken
      split at taken
      · rename_i same
        obtain rfl := Option.some.inj taken
        rw [if_pos same]
        exact ⟨rfl, writes⟩
      · rename_i different
        rw [if_neg different]
        exact routed.opened other owns taken ((alike owns).1 ▸ stillOpen)
    · intro other owns found
      rw [connections, senders_attach] at found
      rw [owner, Function.update_apply]
      split at found
      · rename_i same
        obtain rfl := Option.some.inj found
        rw [if_pos same]
        exact ⟨rfl, opened⟩
      · rename_i different
        rw [if_neg different, (alike owns).1]
        exact routed.own other owns found

theorem Routed.detach (routed : Routed state) {nodeId : NodeId} (owner : after.owner = state.owner)
    (connections : after.connections = state.connections.detach nodeId)
    (writing : ∀ link, (after.links link).writing = (state.links link).writing)
    (closed : ∀ link, (after.links link).stage.isOpen = true →
      (state.links link).stage.isOpen = true) :
    Routed after ↔
      (∀ link, state.owner nodeId = some link → (after.links link).stage.isOpen = false) ∧
      ∀ other link, other ≠ nodeId → state.owner other = some link →
        (after.links link).stage.isOpen = (state.links link).stage.isOpen := by
  constructor
  · intro good
    refine ⟨fun link owns => ?_, fun other link different owns => ?_⟩
    · by_contra opened
      rw [Bool.not_eq_false] at opened
      have found := (good.opened nodeId link (owner ▸ owns) opened).1
      rw [connections, senders_detach, if_pos rfl] at found
      cases found
    · cases opened : (state.links link).stage.isOpen with
      | true =>
          have found := (routed.opened other link owns opened).1
          refine (good.own other link ?_).2
          rw [connections, senders_detach, if_neg different]
          exact found
      | false =>
          by_contra still
          rw [Bool.not_eq_false] at still
          rw [closed link still] at opened
          cases opened
  · rintro ⟨gone, others⟩
    constructor
    · intro other link owns opened
      rw [owner] at owns
      have different : other ≠ nodeId := by
        rintro rfl
        rw [gone link owns] at opened
        cases opened
      rw [connections, senders_detach, if_neg different, writing]
      exact routed.opened other link owns (closed link opened)
    · intro other link found
      rw [connections, senders_detach] at found
      split at found
      · cases found
      · rename_i different
        obtain ⟨owns, opened⟩ := routed.own other link found
        rw [owner, others other link different owns]
        exact ⟨owns, opened⟩

theorem Routed.place (routed : Routed state) {link : Nat} {new : Link}
    (free : ∀ nodeId owner, state.owner nodeId = some owner → owner ≠ link) :
    Routed (state.place link new) := by
  refine routed.alike rfl rfl fun nodeId owner owns => ?_
  have same : (state.place link new).links owner = state.links owner :=
    Function.update_of_ne (free nodeId owner owns) ..
  rw [same]
  exact ⟨rfl, rfl⟩

theorem isOpen_update {link : Nat} {new : Link} (other : Nat) :
    (Function.update state.links link new other).stage.isOpen =
      if other = link then new.stage.isOpen else (state.links other).stage.isOpen := by
  rw [Function.update_apply]
  split <;> rfl

theorem Routed.close (routed : Routed state) {link : Nat} {nodeId : NodeId}
    (here : (state.links link).stage = .closing) (owner : after.owner = state.owner)
    (connections : after.connections = state.connections.detach nodeId)
    (links : after.links = Function.update state.links link
      { state.links link with stage := .forgetting nodeId }) :
    Routed after ↔
      (∀ other, state.owner other = some link → other = nodeId) ∧
      ∀ newer, state.owner nodeId = some newer → newer ≠ link →
        (state.links newer).stage.isOpen = false := by
  have opened : (state.links link).stage.isOpen = true := by
    rw [here]
    rfl
  have isOpen : ∀ other, (after.links other).stage.isOpen =
      if other = link then false else (state.links other).stage.isOpen := by
    intro other
    rw [links]
    exact isOpen_update other
  have writing : ∀ other, (after.links other).writing = (state.links other).writing := by
    intro other
    rw [links, Function.update_apply]
    split
    · rename_i same
      rw [same]
    · rfl
  have closed : ∀ other, (after.links other).stage.isOpen = true →
      (state.links other).stage.isOpen = true := by
    intro other still
    rw [isOpen] at still
    split at still
    · cases still
    · exact still
  rw [routed.detach owner connections writing closed]
  constructor
  · rintro ⟨gone, others⟩
    refine ⟨fun other owns => ?_, fun newer owns different => ?_⟩
    · by_contra different
      have same := others other link different owns
      rw [isOpen, if_pos rfl, opened] at same
      cases same
    · have shut := gone newer owns
      rw [isOpen, if_neg different] at shut
      exact shut
  · rintro ⟨only, newer⟩
    refine ⟨fun owner owns => ?_, fun other owner different owns => ?_⟩
    · rw [isOpen]
      split
      · rfl
      · rename_i elsewhere
        exact newer owner owns elsewhere
    · rw [isOpen, if_neg]
      rintro rfl
      exact different (only other owns)

theorem Routed.failWrite (routed : Routed state) (link : Nat) :
    Routed (state.place link { state.links link with writing := false }) ↔
      ((state.links link).stage.isOpen = true → ∀ nodeId, state.owner nodeId ≠ some link) := by
  have own := @links_place state link { state.links link with writing := false }
  constructor
  · intro good opened nodeId owns
    have writes := (good.opened nodeId link owns (by rw [own]; exact opened)).2
    rw [own] at writes
    cases writes
  · intro free
    have elsewhere : ∀ nodeId owner, state.owner nodeId = some owner →
        (state.links owner).stage.isOpen = true → owner ≠ link := by
      rintro nodeId owner owns opened rfl
      exact free opened nodeId owns
    have isOpen : ∀ owner, ((state.place link { state.links link with writing := false }).links
        owner).stage.isOpen = (state.links owner).stage.isOpen := by
      intro owner
      refine (isOpen_update owner).trans ?_
      split
      · rename_i same
        rw [same]
      · rfl
    constructor
    · intro nodeId owner owns opened
      rw [isOpen] at opened
      have same : (state.place link { state.links link with writing := false }).links owner =
          state.links owner := Function.update_of_ne (elsewhere nodeId owner owns opened) ..
      rw [same]
      exact routed.opened nodeId owner owns opened
    · intro nodeId owner found
      rw [isOpen]
      exact routed.own nodeId owner found

theorem Routed.rewires (joined : Joined state) (routed : Routed state)
    (rewires : Rewires state after event) : Routed after ↔ Undisturbed state event := by
  cases rewires with
  | same event passing owner senders channels links =>
      refine iff_of_true (routed.alike owner senders fun _ link _ => ?_)
        (passes_undisturbed passing)
      exact ⟨(links link).isOpen, (links link).writing⟩
  | accept link here moved =>
      subst moved
      exact iff_of_true (routed.place fun _ _ => joined.other (.inl here)) trivial
  | leave link here unregistered moved =>
      subst moved
      rw [Undisturbed, here, unregistered]
      exact iff_of_true (routed.place fun _ _ => joined.other (.inr unregistered)) trivial
  | attach link nodeId token here owner connections links =>
      rw [Undisturbed, here]
      exact routed.attach here owner connections links
  | join link nodeId here owner connections links =>
      rw [Undisturbed, here]
      refine iff_of_true (routed.alike owner (by rw [connections]; rfl) fun _ other _ => ?_) trivial
      rw [links]
      have alike := alike_join here other
      exact ⟨alike.isOpen, alike.writing⟩
  | detach link nodeId here registered owner connections links =>
      rw [Undisturbed, here, registered]
      exact routed.close here owner connections links
  | finish link nodeId here owner connections links =>
      rw [Undisturbed, here]
      refine iff_of_true (routed.alike owner (by rw [connections]) fun _ other _ => ?_) trivial
      rw [links, Function.update_apply]
      split
      · rename_i same
        rw [same, here]
        exact ⟨rfl, rfl⟩
      · exact ⟨rfl, rfl⟩
  | failWrite link writes moved =>
      subst moved
      exact routed.failWrite link
  | evict nodeId rest here owner connections links =>
      rw [Undisturbed, here]
      have detached := routed.detach owner connections (by simp [links]) (by simp [links])
      rw [detached, links]
      exact and_iff_left (fun _ _ _ _ => rfl)

/-- Every node is reached over the connection that registered it last exactly as long as nothing
disturbs it. -/
theorem connections_owned {setup : Setup} {trace : List Event} {final : State}
    (ran : run (next setup) State.start trace = some final) :
    Always (next setup) Owned State.start trace ↔
      Along (next setup) Undisturbed State.start trace := by
  refine @always_iff_along _ _ _ _ _ _ _ _ Joined ?_ ?_ ?_ ran
  · intro nodeId link owns
    cases owns
  · refine owned_iff.mpr ⟨fun nodeId link owns => ?_, fun nodeId link found => ?_⟩
    · cases owns
    · cases found
  · intro state event after joined moved
    have rewires := (next_step moved).rewires
    refine ⟨joined.rewires rewires, fun owned => ?_⟩
    rw [owned_iff]
    exact (owned_iff.mp owned).rewires joined rewires

structure Shows (link : Link) (outbox : Outbox) : Prop where
  writing : link.writing = outbox.writing
  queue : outbox.writing = true → link.outbound = outbox.queue

/-- What the handlers see of a writer: it takes the next message from the queue, or stops. -/
theorem Shows.write {encode : Message → Except String Bytes} {link : Nat} {outbox later : Outbox}
    (shown : Shows (state.links link) outbox)
    (moved : Outbox.next encode outbox .write = some later) :
    ∃ event after, (event = .write link ∨ event = .failWrite link) ∧
      next setup state event = some after ∧ Shows (after.links link) later := by
  dsimp only [Outbox.next] at moved
  split at moved
  · rename_i message rest writes queued
    have writing : (state.links link).writing = true := shown.writing.trans writes
    have outbound : (state.links link).outbound = message :: rest := (shown.queue writes).trans queued
    split at moved
    · obtain rfl := Option.some.inj moved
      refine ⟨.write link, state.place link { state.links link with outbound := rest }, .inl rfl, ?_,
        ?_⟩
      · simp only [next, writing, outbound]
      · rw [links_place]
        exact ⟨shown.writing, fun _ => rfl⟩
    · obtain rfl := Option.some.inj moved
      refine ⟨.failWrite link, state.place link { state.links link with writing := false }, .inr rfl,
        ?_, ?_⟩
      · simp only [next, writing, if_true]
      · rw [links_place]
        exact ⟨rfl, fun still => (Bool.false_ne_true still).elim⟩
  · cases moved

/-- A message is taken by the connection exactly if the outbox queues it. -/
theorem Shows.send {encode : Message → Except String Bytes} {link : Nat} {outbox later : Outbox}
    {message : Message} (shown : Shows (state.links link) outbox)
    (moved : Outbox.next encode outbox (.send message) = some later) :
    Shows (((state.push link message).getD state).links link) later := by
  obtain rfl := Option.some.inj moved
  rw [push_eq]
  cases writes : outbox.writing with
  | true =>
      rw [shown.writing, writes, if_pos rfl, Option.getD_some, State.queued, links_place]
      exact ⟨shown.writing.trans writes, fun _ => congrArg (· ++ [message]) (shown.queue writes)⟩
  | false =>
      rw [shown.writing, writes, if_neg Bool.false_ne_true, Option.getD_none]
      exact ⟨shown.writing.trans writes, fun still => (Bool.false_ne_true still).elim⟩

def comesBack : List Event :=
  .accept 0 :: registers 0 ⟨0⟩ ++ [.lose 0, .proceed 0, .proceed 0, .accept 1] ++ registers 1 ⟨0⟩

def overlaps : List Event :=
  .accept 0 :: registers 0 ⟨0⟩ ++ .accept 1 :: registers 1 ⟨0⟩ ++ [.lose 0, .proceed 0]

def registersTwice : List Event :=
  .accept 0 :: registers 0 ⟨0⟩ ++ registers 0 ⟨1⟩ ++ [.lose 0, .proceed 0]

theorem only_registered {nodeId other : NodeId} {link : Nat}
    (owns : Function.update (fun _ => none) nodeId (some link) other = some link) :
    other = nodeId := by
  by_contra different
  rw [Function.update_of_ne different] at owns
  cases owns

theorem came_back_owned : Always (next openMesh) Owned State.start comesBack := by
  have runs : (run (next openMesh) State.start comesBack).isSome = true := by decide
  obtain ⟨final, ran⟩ := Option.isSome_iff_exists.mp runs
  refine (connections_owned ran).mpr ?_
  -- Only the closing of the first connection asks for anything.
  repeat' constructor
  · intro other owns
    exact @only_registered ⟨0⟩ other 0 owns
  · intro newer owns different
    have same : some 0 = some newer := owns
    exact absurd (Option.some.inj same).symm different

theorem overlapping_disowned :
    (∃ final, run (next openMesh) State.start overlaps = some final ∧ ¬ Owned final) ∧
    ∃ final, run (next openMesh) State.start registersTwice = some final ∧ ¬ Owned final := by
  have first : (run (next openMesh) State.start overlaps).any (fun final =>
      final.connections.isConnected ⟨0⟩ = false ∧ final.owner ⟨0⟩ = some 1 ∧
        (final.links 1).stage.isOpen = true) = true := by decide
  have second : (run (next openMesh) State.start registersTwice).any (fun final =>
      final.connections.isConnected ⟨0⟩ = true ∧ final.owner ⟨0⟩ = some 0 ∧
        (final.links 0).stage.isOpen = false) = true := by decide
  obtain ⟨late, ranLate, found⟩ := run_tested first
  obtain ⟨twice, ranTwice, also⟩ := run_tested second
  obtain ⟨gone, owner, opened⟩ := of_decide_eq_true found
  obtain ⟨still, same, closed⟩ := of_decide_eq_true also
  refine ⟨⟨late, ranLate, fun owned => ?_⟩, ⟨twice, ranTwice, fun owned => ?_⟩⟩
  · rw [(owned.connected ⟨0⟩).mpr ⟨1, owner, opened⟩] at gone
    cases gone
  · obtain ⟨link, owns, live⟩ := (owned.connected ⟨0⟩).mp still
    obtain rfl := Option.some.inj (same.symm.trans owns)
    rw [closed] at live
    cases live

end AetherMesh.Server
