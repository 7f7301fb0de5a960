import AetherMesh.Controller.ServerLinks

/-!
The connections that a node offers for bulk data. A channel joins the rotation when its
agent asks for it and leaves it only with the node itself, whatever becomes of the channel.
-/

namespace AetherMesh.Server

open Runs

variable {setup : Setup} {state after : State} {event : Event} {nodeId : NodeId}

def State.pointing (state : State) (nodeId : NodeId) (cursor : Nat) : State :=
  { state with connections := { state.connections with
      nextChannel := Function.update state.connections.nextChannel nodeId (some cursor) } }

def Live (state : State) (nodeId : NodeId) : Prop :=
  ∃ link, state.connections.senders nodeId = some link ∧ (state.links link).writing = true

/-- Wherever the cursor stands, bulk data is given to no channel whose connection has been cleaned
up, and it is taken as long as there is a channel or the control connection is live. -/
structure Served (nodeId : NodeId) (state : State) : Prop where
  picks : ∀ cursor channel,
    ((state.pointing nodeId cursor).connections.rotate nodeId).2 = some channel →
      (state.links channel).stage ≠ .closed
  takes : ∀ cursor message, state.connections.dataChannels nodeId ≠ [] ∨ Live state nodeId →
    ∃ link, ((state.pointing nodeId cursor).sendBulk nodeId message).2 = .ok link

def Sound (nodeId : NodeId) (state : State) : Prop :=
  ∀ channel, channel ∈ state.connections.dataChannels nodeId →
    (state.links channel).stage ≠ .closed ∧ (state.links channel).writing = true

/-- No connection ends, or loses its writer, while it is a channel of the node, and none becomes one
without a writer. -/
def lasting (nodeId : NodeId) (state : State) : Event → Bool
  | .proceed link =>
      match (state.links link).stage, (state.links link).registeredId with
      | .joining other, _ => other ≠ nodeId ∨ (state.links link).writing = true
      | .closing, none => link ∉ state.connections.dataChannels nodeId
      | .forgetting _, _ => link ∉ state.connections.dataChannels nodeId
      | _, _ => true
  | .failWrite link => link ∉ state.connections.dataChannels nodeId
  | _ => true

theorem rotate_at {cursor channel : Nat}
    (there : (state.connections.dataChannels nodeId)[cursor]? = some channel) :
    ((state.pointing nodeId cursor).connections.rotate nodeId).2 = some channel := by
  obtain ⟨bound, -⟩ := List.getElem?_eq_some_iff.mp there
  unfold State.pointing Connections.rotate
  dsimp only
  cases channels : state.connections.dataChannels nodeId with
  | nil =>
      rw [channels] at there
      cases there
  | cons first rest =>
      rw [channels] at there bound
      dsimp only
      rw [Function.update_self, Option.getD_some, Nat.mod_eq_of_lt bound]
      exact there

theorem sendBulk_picked {channel : Nat}
    (picked : (state.connections.rotate nodeId).2 = some channel) (message : Message) :
    (∃ link, (state.sendBulk nodeId message).2 = .ok link) ↔
      (state.links channel).writing = true := by
  unfold State.sendBulk
  split
  · rename_i none
    rw [none] at picked
    cases picked
  · rename_i connections other turned
    rw [turned] at picked
    obtain rfl := Option.some.inj picked
    dsimp only
    rw [push_eq]
    dsimp only
    cases (state.links other).writing with
    | true => simp
    | false => simp

theorem served_iff : Served nodeId state ↔ Sound nodeId state := by
  constructor
  · intro served channel listed
    obtain ⟨cursor, there⟩ := List.mem_iff_getElem?.mp listed
    have some : state.connections.dataChannels nodeId ≠ [] := List.ne_nil_of_mem listed
    exact ⟨served.picks cursor channel (rotate_at there),
      (sendBulk_picked (rotate_at there) (.pong 0)).mp (served.takes cursor (.pong 0) (.inl some))⟩
  · intro sound
    constructor
    · intro cursor channel picked
      rcases @Connections.rotate_spec (state.pointing nodeId cursor).connections nodeId with
        ⟨-, none⟩ | ⟨other, listed, cursors, found⟩
      · rw [none] at picked
        cases picked
      · rw [found] at picked
        obtain rfl := Option.some.inj picked
        exact (sound other listed).1
    · intro cursor message ready
      rcases @Connections.rotate_spec (state.pointing nodeId cursor).connections nodeId with
        ⟨empty, none⟩ | ⟨channel, listed, cursors, found⟩
      · obtain ⟨link, connected, writes⟩ := ready.resolve_left (not_not.mpr empty)
        have sender : (state.pointing nodeId cursor).connections.senders nodeId = some link :=
          connected
        have writing : ((state.pointing nodeId cursor).links link).writing = true := writes
        refine ⟨link, ?_⟩
        unfold State.sendBulk
        rw [none]
        simp only [State.send, sender, push_eq, writing, if_true]
      · exact (sendBulk_picked (by rw [found]) message).mpr (sound channel listed).2

structure Lasts (old new : Link) : Prop where
  closed : new.stage = .closed → old.stage = .closed
  writing : new.writing = old.writing

theorem Alike.lasts {old new : Link} (alike : Alike old new) : Lasts old new := by
  refine ⟨fun closed => ?_, alike.writing⟩
  rcases alike.stage with same | ⟨-, now⟩
  · exact same ▸ closed
  · rw [closed] at now
    cases now

theorem lasts_update {link : Nat} {new : Link} (lasts : Lasts (state.links link) new)
    (channel : Nat) : Lasts (state.links channel) (Function.update state.links link new channel) := by
  by_cases same : channel = link
  · rw [same, Function.update_self]
    exact lasts
  · rw [Function.update_of_ne same]
    exact ⟨id, rfl⟩

theorem passes_lasting (passing : passes state event = true) : lasting nodeId state event = true := by
  cases event with
  | proceed link =>
      dsimp only [passes] at passing
      dsimp only [lasting]
      split at passing <;> simp_all
  | failWrite link => cases passing
  | _ => rfl

theorem Sound.lasts (sound : Sound nodeId state)
    (channels : ∀ channel, channel ∈ after.connections.dataChannels nodeId →
      channel ∈ state.connections.dataChannels nodeId)
    (links : ∀ channel, Lasts (state.links channel) (after.links channel)) : Sound nodeId after := by
  intro channel listed
  obtain ⟨opened, writes⟩ := sound channel (channels channel listed)
  have lasts := links channel
  exact ⟨fun closed => opened (lasts.closed closed), lasts.writing ▸ writes⟩

theorem Sound.spoil (sound : Sound nodeId state) {link : Nat} {new : Link}
    (channels : after.connections.dataChannels nodeId = state.connections.dataChannels nodeId)
    (links : after.links = Function.update state.links link new)
    (down : new.stage = .closed ∨ new.writing = false) :
    Sound nodeId after ↔ link ∉ state.connections.dataChannels nodeId := by
  constructor
  · intro good listed
    obtain ⟨opened, writes⟩ := good link (channels ▸ listed)
    rw [links, Function.update_self] at opened writes
    rcases down with closed | silent
    · exact opened closed
    · rw [silent] at writes
      cases writes
  · intro free channel listed
    rw [channels] at listed
    have different : channel ≠ link := by
      rintro rfl
      exact free listed
    rw [links, Function.update_of_ne different]
    exact sound channel listed

theorem mem_detach (other : NodeId) {channel : Nat}
    (listed : channel ∈ (state.connections.detach other).dataChannels nodeId) :
    channel ∈ state.connections.dataChannels nodeId := by
  have listed : channel ∈ Function.update state.connections.dataChannels other [] nodeId := listed
  rw [Function.update_apply] at listed
  split at listed
  · cases listed
  · exact listed

theorem Sound.join (sound : Sound nodeId state) {link : Nat} {other : NodeId}
    (here : (state.links link).stage = .joining other)
    (connections : after.connections = state.connections.attachDataChannel other link)
    (links : after.links = Function.update state.links link
      { state.links link with stage := .reading, channelFor := some other }) :
    Sound nodeId after ↔ other ≠ nodeId ∨ (state.links link).writing = true := by
  have lasts : ∀ channel, Lasts (state.links channel) (after.links channel) := by
    intro channel
    rw [links]
    exact (alike_join here channel).lasts
  have listed : after.connections.dataChannels nodeId =
      if nodeId = other then state.connections.dataChannels other ++ [link]
      else state.connections.dataChannels nodeId := by
    rw [connections]
    exact Function.update_apply ..
  by_cases same : nodeId = other
  · subst same
    rw [if_pos rfl] at listed
    constructor
    · intro good
      refine .inr ?_
      rw [← (lasts link).writing]
      exact (good link (by rw [listed]; simp)).2
    · intro writes channel member
      rw [listed, List.mem_append, List.mem_singleton] at member
      rcases member with old | rfl
      · obtain ⟨opened, writing⟩ := sound channel old
        exact ⟨fun closed => opened ((lasts channel).closed closed), (lasts channel).writing ▸ writing⟩
      · rw [(lasts channel).writing]
        refine ⟨fun closed => ?_, writes.resolve_left (not_not.mpr rfl)⟩
        have before := (lasts channel).closed closed
        rw [here] at before
        cases before
  · rw [if_neg same] at listed
    refine iff_of_true (sound.lasts (fun channel member => listed ▸ member) lasts) (.inl ?_)
    exact fun named => same named.symm

theorem Sound.rewires (sound : Sound nodeId state) (rewires : Rewires state after event) :
    Sound nodeId after ↔ lasting nodeId state event = true := by
  cases rewires with
  | same event passing owner senders channels links =>
      refine iff_of_true (sound.lasts (fun channel listed => ?_) fun channel => (links channel).lasts)
        (passes_lasting passing)
      rw [← channels]
      exact listed
  | accept link here moved =>
      subst moved
      refine iff_of_true (fun channel listed => ?_) rfl
      by_cases same : channel = link
      · subst same
        rw [links_place]
        exact ⟨by simp [Link.fresh], rfl⟩
      · have kept : (state.place link .fresh).links channel = state.links channel :=
          Function.update_of_ne same ..
        rw [kept]
        exact sound channel listed
  | leave link here unregistered moved =>
      subst moved
      rw [lasting, here, unregistered, decide_eq_true_iff]
      exact sound.spoil rfl rfl (.inl rfl)
  | attach link other token here owner connections links =>
      rw [lasting, here]
      refine iff_of_true (sound.lasts (fun channel listed => ?_) fun channel => ?_) rfl
      · rw [connections] at listed
        exact listed
      · rw [links]
        refine lasts_update ⟨?_, ?_⟩ channel
        · simp
        · rfl
  | join link other here owner connections links =>
      rw [lasting, here, decide_eq_true_iff]
      exact sound.join here connections links
  | detach link other here registered owner connections links =>
      rw [lasting, here, registered]
      refine iff_of_true (sound.lasts (fun channel listed => ?_) fun channel => ?_) rfl
      · rw [connections] at listed
        exact mem_detach other listed
      · rw [links]
        refine lasts_update ⟨?_, ?_⟩ channel
        · simp
        · rfl
  | finish link other here owner connections links =>
      rw [lasting, here, decide_eq_true_iff]
      exact sound.spoil (by rw [connections]) links (.inl rfl)
  | failWrite link writes moved =>
      subst moved
      rw [lasting, decide_eq_true_iff]
      exact sound.spoil rfl rfl (.inr rfl)
  | evict other rest here owner connections links =>
      refine iff_of_true (sound.lasts (fun channel listed => ?_) fun channel => ?_) rfl
      · rw [connections] at listed
        exact mem_detach other listed
      · rw [links]
        exact ⟨id, rfl⟩

/-- A node's bulk data goes over live connections exactly as long as its channels last. -/
theorem channels_served {setup : Setup} (nodeId : NodeId) {trace : List Event} {final : State}
    (ran : run (next setup) State.start trace = some final) :
    Always (next setup) (Served nodeId) State.start trace ↔
      Along (next setup) (fun state event => lasting nodeId state event = true) State.start trace := by
  refine @always_iff_along _ _ _ _ _ _ _ _ (fun _ => True) trivial ?_ ?_ ran
  · refine served_iff.mpr fun channel listed => ?_
    cases listed
  · intro state event after _ moved
    refine ⟨trivial, fun served => ?_⟩
    rw [served_iff]
    exact (served_iff.mp served).rewires (next_step moved).rewires

def opensChannel : List Event :=
  .accept 0 :: registers 0 ⟨0⟩ ++
    [.accept 1, .arrive 1 (.registerDataChannel protocolVersion ⟨0⟩ (some "x")), .read 1, .proceed 1]

theorem opened_channel_served : Always (next openMesh) (Served ⟨0⟩) State.start opensChannel := by
  have runs : (run (next openMesh) State.start opensChannel).isSome = true := by decide
  obtain ⟨final, ran⟩ := Option.isSome_iff_exists.mp runs
  exact (channels_served ⟨0⟩ ran).mpr (by decide)

def closesChannel : List Event := opensChannel ++ [.lose 1, .proceed 1, .failWrite 1]

theorem closed_channel_picked :
    ∃ final, run (next openMesh) State.start closesChannel = some final ∧ Live final ⟨0⟩ ∧
      (final.connections.rotate ⟨0⟩).2 = some 1 ∧ (final.links 1).stage = .closed ∧
      (final.sendBulk ⟨0⟩ (.pong 0)).2 =
        .error (.unreachable ⟨0⟩ "data channel is shutting down") ∧ ¬ Served ⟨0⟩ final := by
  have tested : (run (next openMesh) State.start closesChannel).any (fun final =>
      final.connections.senders ⟨0⟩ = some 0 ∧ (final.links 0).writing = true ∧
        final.connections.dataChannels ⟨0⟩ = [1] ∧ (final.connections.rotate ⟨0⟩).2 = some 1 ∧
        (final.links 1).stage = .closed ∧
        (final.sendBulk ⟨0⟩ (.pong 0)).2 =
          .error (.unreachable ⟨0⟩ "data channel is shutting down")) = true := by decide
  obtain ⟨final, ran, found⟩ := run_tested tested
  obtain ⟨sender, writes, channels, picked, closed, refused⟩ := of_decide_eq_true found
  refine ⟨final, ran, ⟨0, sender, writes⟩, picked, closed, refused, fun served => ?_⟩
  have listed : 1 ∈ final.connections.dataChannels ⟨0⟩ := by
    rw [channels]
    exact List.mem_singleton.mpr rfl
  exact (served_iff.mp served 1 listed).1 closed

end AetherMesh.Server
