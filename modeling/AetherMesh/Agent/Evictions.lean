import AetherMesh.Agent.Arrival

/-!
Whether the controller learns what an agent has evicted. A task of its own writes what
the agent sends; once it has stopped, whatever is sent is lost, and nobody looks whether
a send failed except for the answer to a ping. Beside the agent stand the ids that it has
stored or announced and not reported as evicted since, what its store has evicted, and
what it has reported.
-/

namespace AetherMesh.Agent

open Runs

def announcedBy : Message → List DataId
  | .dataReady _ dataId => [dataId]
  | .dataHeld _ datasets => datasets.map DataDescriptor.id
  | .taskCompleted result => result.outputId.toList
  | _ => []

def reportedBy : Message → List DataId
  | .dataEvicted _ dataIds => dataIds
  | _ => []

def queued (before after : State) : List Message := after.outbound.drop before.outbound.length

def heldIds (state : State) : List DataId := state.store.blobs.keys

/-- What happens to the agent, at the task that writes what it sends, or to the connection: when
reading from it fails the client is dropped, and the writer with it. -/
inductive Happening
  | agent (event : Event)
  | write (failed : Bool)
  | close

/-- `written` counts the messages that the writer has taken. The control connection is `served`
until an answer to a ping cannot be sent. -/
structure Watched where
  agent : State
  written : Nat
  writing : Bool
  served : Bool
  believed : Finset DataId
  evicted : List DataId
  reported : List DataId

def watch (agent : State) : Watched := ⟨agent, 0, true, true, (heldIds agent).toFinset, [], []⟩

def Watched.heard (watched : Watched) (after : State) : List Message :=
  if watched.writing then queued watched.agent after else []

def Watched.note (watched : Watched) (after : State) : Watched :=
  { watched with
    agent := after
    believed :=
      (watched.believed ∪ ((heldIds after).filter (!watched.agent.store.contains ·)).toFinset ∪
        ((watched.heard after).flatMap announcedBy).toFinset) \
          ((watched.heard after).flatMap reportedBy).toFinset
    evicted := watched.evicted ++ (heldIds watched.agent).filter (!after.store.contains ·)
    reported := watched.reported ++ (watched.heard after).flatMap reportedBy }

def Event.isControl : Event → Bool
  | .receive .control _ => true
  | _ => false

def Event.isPing : Event → Bool
  | .receive .control (.ping _ _) => true
  | _ => false

variable (setup : Setup)

def watchedNext (watched : Watched) : Happening → Option Watched
  | .agent event =>
      if event.isControl ∧ watched.served = false then none
      else
        (next setup watched.agent event).map fun after =>
          { watched.note after with
            served := watched.served && (watched.writing || !event.isPing) }
  | .write failed =>
      if watched.writing then
        (watched.agent.outbound[watched.written]?).map fun message =>
          if setup.wire.fits message ∧ failed = false then
            { watched with written := watched.written + 1 }
          else { watched with writing := false }
      else none
  | .close =>
      if watched.served ∧ watched.agent.duties .control = [] then
        some { watched with writing := false, served := false }
      else none

def Duty.evicted : Duty → List DataId
  | .report evicted => evicted
  | _ => []

def due (state : State) : List DataId := (state.duties .control).flatMap Duty.evicted

/-- Every eviction has been reported or is about to be, and what is believed to be held is. -/
structure Balanced (watched : Watched) : Prop where
  told : watched.evicted.Perm (watched.reported ++ due watched.agent)
  right : ∀ dataId, dataId ∈ watched.believed ↔
    watched.agent.store.contains dataId = true ∨ dataId ∈ due watched.agent

/-- What an event puts into the store without keeping the list of what that evicts. -/
def silentPut (state : State) : Event → Option Bytes
  | .receive _ (.dataChunk _ _ _ codec bytes) => decompress setup.lz4 codec bytes
  | .act (.channel number) =>
      match state.duties (.channel number) with
      | .finish _ bytes :: _ => some bytes
      | _ => none
  | .execute _ (.ok output) _ => some output
  | _ => none

def announcing (state : State) : Event → List DataId
  | .act connection =>
      match state.duties connection with
      | .announce dataId :: _ => [dataId]
      | _ => []
  | .reply index =>
      match state.finished[index]? with
      | some result => result.outputId.toList
      | none => []
  | _ => []

def reporting (state : State) : Event → List DataId
  | .act connection =>
      match state.duties connection with
      | .report evicted :: _ => evicted
      | _ => []
  | _ => []

/-- The store has room for what is put into it silently, nothing is announced that has been
dropped and reported meanwhile, nothing is reported that has come back meanwhile, and the writer
has not stopped when there is something to report. -/
structure Tidy (watched : Watched) (event : Event) : Prop where
  room : ∀ bytes, silentPut setup watched.agent event = some bytes →
    watched.agent.store.hasRoom (setup.digest bytes) bytes = true
  announced : watched.writing = true → ∀ dataId ∈ announcing watched.agent event,
    watched.agent.store.contains dataId = true ∨ dataId ∈ due watched.agent
  gone : ∀ dataId ∈ reporting watched.agent event, watched.agent.store.contains dataId = false
  writing : reporting watched.agent event ≠ [] → watched.writing = true

def tidy (watched : Watched) : Happening → Prop
  | .agent event => Tidy setup watched event
  | .write _ | .close => True

/-- Only the control connection reports, and one list at a time. -/
structure Shaped (state : State) : Prop where
  control : state.duties .control = [] ∨
    (∃ dataId bytes, state.duties .control = [.finish dataId bytes]) ∨
    (∃ dataId evicted, state.duties .control = [.announce dataId, .report evicted]) ∨
    ∃ evicted, state.duties .control = [.report evicted]
  channel : ∀ number evicted, .report evicted ∉ state.duties (.channel number)

inductive Effect (state : State) (event : Event) (after : State) : Prop
  | quiet (held : after.store.contains = state.store.contains) (owed : due after = due state)
      (news : (queued state after).flatMap announcedBy = [] ∧
        (queued state after).flatMap reportedBy = [])
      (tidy : silentPut setup state event = none ∧ announcing state event = [] ∧
        reporting state event = [])
  | loud (bytes : Bytes) (owed : due state = [])
      (owes : due after = (state.store.store (setup.digest bytes) bytes).2)
      (held : after.store.contains = (state.store.store (setup.digest bytes) bytes).1.contains)
      (news : (queued state after).flatMap announcedBy = [] ∧
        (queued state after).flatMap reportedBy = [])
      (tidy : silentPut setup state event = none ∧ announcing state event = [] ∧
        reporting state event = [])
  | silent (bytes : Bytes) (owed : due after = due state)
      (held : after.store.contains = (state.store.store (setup.digest bytes) bytes).1.contains)
      (news : (queued state after).flatMap announcedBy = [] ∧
        (queued state after).flatMap reportedBy = [])
      (tidy : silentPut setup state event = some bytes ∧ announcing state event = [] ∧
        reporting state event = [])
  | announce (held : after.store.contains = state.store.contains) (owed : due after = due state)
      (news : (queued state after).flatMap announcedBy = announcing state event ∧
        (queued state after).flatMap reportedBy = [])
      (tidy : silentPut setup state event = none ∧ reporting state event = [])
  | report (held : after.store.contains = state.store.contains)
      (owed : due state = reporting state event) (owes : due after = [])
      (news : (queued state after).flatMap announcedBy = [] ∧
        (queued state after).flatMap reportedBy = reporting state event)
      (tidy : silentPut setup state event = none ∧ announcing state event = [])

variable {setup} {watched : Watched} {state after : State} {event : Event}

theorem mem_heldIds {dataId : DataId} :
    dataId ∈ heldIds state ↔ state.store.contains dataId = true := by
  rw [heldIds, ← AList.mem_keys, DataStore.contains, AList.lookup_isSome]

theorem mem_note_believed {dataId : DataId} : dataId ∈ (watched.note after).believed ↔
    (dataId ∈ watched.believed ∨
      (after.store.contains dataId = true ∧ watched.agent.store.contains dataId = false) ∨
      dataId ∈ (watched.heard after).flatMap announcedBy) ∧
    dataId ∉ (watched.heard after).flatMap reportedBy := by
  simp only [Watched.note, Finset.mem_sdiff, Finset.mem_union, List.mem_toFinset, List.mem_filter,
    mem_heldIds, Bool.not_eq_true', or_assoc]

theorem lost_nil (same : after.store.contains = state.store.contains) :
    (heldIds state).filter (!after.store.contains ·) = [] := by
  rw [List.filter_eq_nil_iff]
  intro dataId listed
  rw [same, mem_heldIds.mp listed]
  simp

theorem lost_perm {dataId : DataId} {bytes : Bytes}
    (held : after.store.contains = (state.store.store dataId bytes).1.contains) :
    ((heldIds state).filter (!after.store.contains ·)).Perm (state.store.store dataId bytes).2 := by
  have distinct : (heldIds state).Nodup := state.store.blobs.keys_nodup
  refine (List.perm_ext_iff_of_nodup (distinct.filter _)
    (DataStore.evicted_distinct state.store dataId bytes)).mpr fun other => ?_
  rw [List.mem_filter, mem_heldIds, held, Bool.not_eq_true', ← Bool.not_eq_true,
    DataStore.contains_store_iff]
  constructor
  · rintro ⟨present, lost⟩
    by_contra kept
    exact lost ⟨kept, .inr present⟩
  · intro evicted
    exact ⟨DataStore.held_of_evicted state.store dataId bytes evicted, fun kept => kept.1 evicted⟩

section

variable {bytes : Bytes} (balanced : Balanced watched)

include balanced

theorem Balanced.quiet (held : after.store.contains = watched.agent.store.contains)
    (owed : due after = due watched.agent)
    (news : (watched.heard after).flatMap announcedBy = [] ∧
      (watched.heard after).flatMap reportedBy = []) : Balanced (watched.note after) where
  told := by simpa [Watched.note, lost_nil held, news.2, owed] using balanced.told
  right dataId := by
    rw [mem_note_believed, news.1, news.2, balanced.right]
    simp [Watched.note, held, owed]

theorem Balanced.loud (owed : due watched.agent = [])
    (owes : due after = (watched.agent.store.store (setup.digest bytes) bytes).2)
    (held : after.store.contains =
      (watched.agent.store.store (setup.digest bytes) bytes).1.contains)
    (news : (watched.heard after).flatMap announcedBy = [] ∧
      (watched.heard after).flatMap reportedBy = []) : Balanced (watched.note after) where
  told := by
    have told := balanced.told
    rw [owed, List.append_nil] at told
    simpa [Watched.note, news.2, owes] using told.append (lost_perm held)
  right dataId := by
    rw [mem_note_believed, news.1, news.2, balanced.right, owed]
    have moved := @DataStore.contains_store_iff watched.agent.store (setup.digest bytes) dataId bytes
    have dropped := @DataStore.held_of_evicted watched.agent.store (setup.digest bytes) bytes dataId
    simp only [Watched.note, held, owes, List.not_mem_nil, or_false, not_false_eq_true, and_true,
      ← Bool.not_eq_true]
    clear balanced owed owes held news
    tauto

theorem Balanced.silent_iff (owed : due after = due watched.agent)
    (held : after.store.contains =
      (watched.agent.store.store (setup.digest bytes) bytes).1.contains)
    (news : (watched.heard after).flatMap announcedBy = [] ∧
      (watched.heard after).flatMap reportedBy = []) :
    Balanced (watched.note after) ↔
      watched.agent.store.hasRoom (setup.digest bytes) bytes = true := by
  have lost := lost_perm held
  rw [← DataStore.evicted_nil_iff]
  constructor
  · intro after
    rw [← List.length_eq_zero_iff, ← lost.length_eq]
    have total := after.told.length_eq
    have before := balanced.told.length_eq
    simp only [Watched.note, news.2, owed, List.length_append, List.length_nil] at total before
    omega
  · intro none
    rw [none] at lost
    refine ⟨?_, fun dataId => ?_⟩
    · simpa [Watched.note, lost.eq_nil, news.2, owed] using balanced.told
    · rw [mem_note_believed, news.1, news.2, balanced.right]
      have moved := @DataStore.contains_store_iff watched.agent.store (setup.digest bytes) dataId bytes
      simp only [none, List.not_mem_nil, not_false_eq_true, true_and] at moved
      simp only [Watched.note, held, owed, List.not_mem_nil, or_false, not_false_eq_true, and_true,
        ← Bool.not_eq_true]
      clear balanced owed held news lost none
      tauto

theorem Balanced.announce_iff (held : after.store.contains = watched.agent.store.contains)
    (owed : due after = due watched.agent)
    (news : (watched.heard after).flatMap reportedBy = []) :
    Balanced (watched.note after) ↔
      ∀ dataId ∈ (watched.heard after).flatMap announcedBy,
        watched.agent.store.contains dataId = true ∨ dataId ∈ due watched.agent := by
  constructor
  · intro after dataId listed
    have known := (after.right dataId).mp (mem_note_believed.mpr
      ⟨.inr (.inr listed), by simp [news]⟩)
    simpa [Watched.note, held, owed] using known
  · intro announced
    refine ⟨?_, fun dataId => ?_⟩
    · simpa [Watched.note, lost_nil held, news, owed] using balanced.told
    · rw [mem_note_believed, news, balanced.right]
      have known := announced dataId
      simp only [Watched.note, held, owed, List.not_mem_nil, not_false_eq_true, and_true,
        ← Bool.not_eq_true]
      clear balanced owed held news announced
      tauto

theorem Balanced.report_iff (held : after.store.contains = watched.agent.store.contains)
    (owes : due after = [])
    (news : (watched.heard after).flatMap announcedBy = [] ∧
      (watched.heard after).flatMap reportedBy = due watched.agent) :
    Balanced (watched.note after) ↔
      ∀ dataId ∈ due watched.agent, watched.agent.store.contains dataId = false := by
  constructor
  · intro after dataId listed
    by_contra present
    have kept := (after.right dataId).mpr (.inl (by simpa [Watched.note, held] using present))
    exact (mem_note_believed.mp kept).2 (by rw [news.2]; exact listed)
  · intro gone
    refine ⟨?_, fun dataId => ?_⟩
    · simpa [Watched.note, lost_nil held, news.2, owes] using balanced.told
    · rw [mem_note_believed, news.1, news.2, balanced.right]
      have absent := gone dataId
      simp only [Watched.note, held, owes, List.not_mem_nil, or_false, ← Bool.not_eq_true]
        at absent ⊢
      clear balanced owes held news gone
      tauto

/-- What the writer no longer takes is reported to nobody. -/
theorem Balanced.unheard_iff (held : after.store.contains = watched.agent.store.contains)
    (owes : due after = []) (unheard : watched.heard after = []) :
    Balanced (watched.note after) ↔ due watched.agent = [] := by
  constructor
  · intro after
    have total := after.told.length_eq
    have before := balanced.told.length_eq
    simp only [Watched.note, lost_nil held, unheard, owes, List.length_append, List.flatMap_nil,
      List.length_nil, Nat.add_zero] at total before
    exact List.length_eq_zero_iff.mp (by omega)
  · intro nothing
    refine balanced.quiet held (owes.trans nothing.symm) ?_
    rw [unheard]
    exact ⟨rfl, rfl⟩

end

theorem heard_writing (writing : watched.writing = true) :
    watched.heard after = queued watched.agent after := by
  rw [Watched.heard, if_pos writing]

theorem heard_stopped (stopped : watched.writing = false) : watched.heard after = [] := by
  simp [Watched.heard, stopped]

theorem heard_no_news (news : (queued watched.agent after).flatMap announcedBy = [] ∧
    (queued watched.agent after).flatMap reportedBy = []) :
    (watched.heard after).flatMap announcedBy = [] ∧
      (watched.heard after).flatMap reportedBy = [] := by
  cases writing : watched.writing with
  | true => rwa [heard_writing writing]
  | false =>
      rw [heard_stopped writing]
      exact ⟨rfl, rfl⟩

theorem Effect.balanced_iff (effect : Effect setup watched.agent event after)
    (balanced : Balanced watched) :
    Balanced (watched.note after) ↔ Tidy setup watched event := by
  cases effect with
  | quiet held owed news tidy =>
      exact iff_of_true (balanced.quiet held owed (heard_no_news news))
        ⟨by simp [tidy.1], by simp [tidy.2.1], by simp [tidy.2.2], by simp [tidy.2.2]⟩
  | loud bytes owed owes held news tidy =>
      exact iff_of_true (balanced.loud owed owes held (heard_no_news news))
        ⟨by simp [tidy.1], by simp [tidy.2.1], by simp [tidy.2.2], by simp [tidy.2.2]⟩
  | silent bytes owed held news tidy =>
      rw [balanced.silent_iff owed held (heard_no_news news)]
      constructor
      · intro room
        refine ⟨fun other put => ?_, by simp [tidy.2.1], by simp [tidy.2.2], by simp [tidy.2.2]⟩
        obtain rfl := Option.some.inj (tidy.1.symm.trans put)
        exact room
      · intro clean
        exact clean.room bytes tidy.1
  | announce held owed news tidy =>
      cases writing : watched.writing with
      | true =>
          have heard := @heard_writing watched after writing
          rw [balanced.announce_iff held owed (by rw [heard, news.2]), heard, news.1]
          exact ⟨fun announced => ⟨by simp [tidy.1], fun _ => announced, by simp [tidy.2],
            by simp [tidy.2]⟩, fun clean => clean.announced writing⟩
      | false =>
          have quiet := @heard_stopped watched after writing
          refine iff_of_true (balanced.quiet held owed (by rw [quiet]; exact ⟨rfl, rfl⟩)) ?_
          exact ⟨by simp [tidy.1], by simp [writing], by simp [tidy.2], by simp [tidy.2]⟩
  | report held owed owes news tidy =>
      cases writing : watched.writing with
      | true =>
          have heard := @heard_writing watched after writing
          rw [balanced.report_iff held owes (by rw [heard]; exact ⟨news.1, news.2.trans owed.symm⟩),
            owed]
          exact ⟨fun gone => ⟨by simp [tidy.1], by simp [tidy.2], gone, fun _ => writing⟩, Tidy.gone⟩
      | false =>
          rw [balanced.unheard_iff held owes (heard_stopped writing), owed]
          constructor
          · intro nothing
            exact ⟨by simp [tidy.1], by simp [tidy.2], by simp [nothing], by simp [nothing]⟩
          · intro clean
            by_contra something
            exact Bool.false_ne_true (writing.symm.trans (clean.writing something))

theorem queued_same (same : after.outbound = state.outbound) : queued state after = [] := by
  simp [queued, same]

theorem no_news (same : after.outbound = state.outbound) :
    (queued state after).flatMap announcedBy = [] ∧
      (queued state after).flatMap reportedBy = [] := by
  rw [queued_same same]
  exact ⟨rfl, rfl⟩

theorem queued_send (state sent : State) (same : sent.outbound = state.outbound) (message : Message) :
    queued state (sent.send message) = [message] := by
  simp [queued, State.send, same]

theorem collect_outbound (state : State) (connection : Connection) (dataId : DataId)
    (collected : ChunkAssembler × DataStore × Except ChunkError (Option Bytes)) :
    (collect state connection dataId collected).outbound = state.outbound := by
  unfold collect
  dsimp only
  split <;> rfl

theorem due_collect {connection : Connection} {dataId : DataId}
    {collected : ChunkAssembler × DataStore × Except ChunkError (Option Bytes)}
    (idle : state.duties connection = []) :
    due (collect state connection dataId collected) = due state := by
  unfold collect
  dsimp only
  split
  · rename_i bytes whole
    cases connection with
    | control => simp [due, State.owe, idle, Duty.evicted]
    | channel number => simp [due, State.owe]
  · rfl
  · rfl

theorem Step.act_effect (shaped : Shaped state) {connection : Connection} {duty : Duty}
    {rest : List Duty} (owed : state.duties connection = duty :: rest) :
    Effect setup state (.act connection) (perform setup state connection rest duty) := by
  cases connection with
  | control =>
      rcases shaped.control with none | ⟨dataId, bytes, one⟩ | ⟨dataId, evicted, two⟩ |
        ⟨evicted, one⟩
      · rw [none] at owed
        cases owed
      · rw [one] at owed
        cases owed
        refine .loud bytes (by simp [due, one, Duty.evicted]) ?_ rfl ?_ ?_
        · simp [perform, finish, due, State.owe, Duty.evicted, DataStore.putEvicting]
        · exact no_news rfl
        · simp [silentPut, announcing, reporting, one]
      · rw [two] at owed
        cases owed
        have sent := queued_send state (state.owe .control [.report evicted]) rfl
          (.dataReady state.nodeId dataId)
        refine .announce rfl ?_ ?_ ?_
        · simp [perform, due, State.owe, State.send, Duty.evicted, two]
        · rw [perform, sent]
          simp [announcedBy, reportedBy, announcing, two]
        · simp [silentPut, reporting, two]
      · rw [one] at owed
        cases owed
        have kept := reportEvictions_frame (state.owe .control []) evicted
        refine .report (by rw [perform, kept.1]; rfl) ?_ ?_ ?_ ?_
        · simp [due, reporting, one, Duty.evicted]
        · rw [perform, due, kept.2.2]
          simp [State.owe]
        · by_cases empty : evicted = []
          · rw [perform, reportEvictions, if_pos empty]
            simpa [reporting, one, empty] using @no_news state (state.owe .control []) rfl
          · rw [perform, reportEvictions, if_neg empty, queued_send state (state.owe .control []) rfl]
            simp [announcedBy, reportedBy, reporting, one]
        · simp [silentPut, announcing, one]
  | channel number =>
      cases duty with
      | finish dataId bytes =>
          refine .silent bytes ?_ rfl ?_ ?_
          · simp [perform, finish, due, State.owe]
          · exact no_news rfl
          · simp [silentPut, announcing, reporting, owed]
      | announce dataId =>
          have sent := queued_send state (state.owe (.channel number) rest) rfl
            (.dataReady state.nodeId dataId)
          refine .announce rfl ?_ ?_ ?_
          · simp [perform, due, State.owe, State.send]
          · rw [perform, sent]
            simp [announcedBy, reportedBy, announcing, owed]
          · simp [silentPut, reporting, owed]
      | report evicted => exact absurd (by simp [owed]) (shaped.channel number evicted)

theorem quiet_of_same (held : after.store.contains = state.store.contains)
    (duties : after.duties = state.duties) (outbound : after.outbound = state.outbound)
    (tidy : silentPut setup state event = none ∧ announcing state event = [] ∧
      reporting state event = []) : Effect setup state event after :=
  .quiet held (by rw [due, due, duties]) (no_news outbound) tidy

theorem Step.effect (step : Step setup state event after) (shaped : Shaped state) :
    Effect setup state event after := by
  cases step with
  | ignore connection message plain =>
      refine quiet_of_same rfl rfl rfl ⟨?_, rfl, rfl⟩
      cases message with
      | dataChunk => cases connection <;> simp [brings] at plain
      | _ => rfl
  | refuse => exact quiet_of_same rfl rfl rfl ⟨rfl, rfl, rfl⟩
  | held nodeId descriptor =>
      refine quiet_of_same ?_ rfl rfl ⟨rfl, rfl, rfl⟩
      exact DataStore.contains_congr (funext (state.store.bytesOf_touch descriptor.id))
  | transfer nodeId descriptor codec bytes content idle named =>
      refine .loud content (by simp [due, idle]) ?_ (by rw [named]; rfl) ?_ ⟨rfl, rfl, rfl⟩
      · simp [due, State.owe, Duty.evicted, named]
      · exact no_news rfl
  | manifest nodeId manifest idle =>
      refine .quiet ?_ (due_collect idle) ?_ ⟨rfl, rfl, rfl⟩
      · rw [receiveManifest, collect_store]
        exact DataStore.contains_congr (ChunkAssembler.fillFromStore_store setup.digest _ _ _).1
      · exact no_news (collect_outbound _ _ _ _)
  | chunk connection nodeId dataId index codec bytes content idle decoded =>
      refine .silent content (due_collect idle) ?_ ?_ ⟨decoded, rfl, rfl⟩
      · rw [collect_store]
        exact DataStore.contains_congr (ChunkAssembler.addStored_store setup.digest _ _ _ _ _).1
      · exact no_news (collect_outbound _ _ _ _)
  | garbled connection nodeId dataId index codec bytes refused =>
      exact quiet_of_same rfl rfl rfl ⟨refused, rfl, rfl⟩
  | ping nonce padding =>
      refine .quiet rfl rfl ?_ ⟨rfl, rfl, rfl⟩
      rw [queued_send state state rfl]
      exact ⟨rfl, rfl⟩
  | assignment => exact quiet_of_same rfl rfl rfl ⟨rfl, rfl, rfl⟩
  | act connection duty rest owed => exact Step.act_effect shaped owed
  | read dataId =>
      refine quiet_of_same ?_ rfl rfl ⟨rfl, rfl, rfl⟩
      exact DataStore.contains_congr (funext (state.store.bytesOf_touch dataId))
  | execute index outcome duration task =>
      cases outcome with
      | ok output => exact .silent output rfl rfl (no_news rfl) ⟨rfl, rfl, rfl⟩
      | error message => exact quiet_of_same rfl rfl rfl ⟨rfl, rfl, rfl⟩
  | reply index result found =>
      refine .announce rfl rfl ?_ ⟨rfl, rfl⟩
      rw [queued_send state { state with finished := state.finished.eraseIdx index } rfl]
      simp [announcedBy, reportedBy, announcing, found]

theorem Shaped.owe_channel (shaped : Shaped state) (number : Nat) {duties : List Duty}
    (same : after.duties = Function.update state.duties (.channel number) duties)
    (silent : ∀ evicted, .report evicted ∉ duties) : Shaped after where
  control := by
    have other : Connection.control ≠ .channel number := nofun
    rw [same, Function.update_of_ne other]
    exact shaped.control
  channel other evicted := by
    rw [same]
    by_cases here : other = number
    · subst here
      rw [Function.update_self]
      exact silent evicted
    · rw [Function.update_of_ne (by simpa using here)]
      exact shaped.channel other evicted

theorem Shaped.owe_control (shaped : Shaped state) {duties : List Duty}
    (same : after.duties = Function.update state.duties .control duties)
    (shape : duties = [] ∨ (∃ dataId bytes, duties = [.finish dataId bytes]) ∨
      (∃ dataId evicted, duties = [.announce dataId, .report evicted]) ∨
      ∃ evicted, duties = [.report evicted]) : Shaped after where
  control := by
    rw [same, Function.update_self]
    exact shape
  channel number evicted := by
    have other : Connection.channel number ≠ .control := nofun
    rw [same, Function.update_of_ne other]
    exact shaped.channel number evicted

theorem Shaped.of_same (shaped : Shaped state) (same : after.duties = state.duties) :
    Shaped after :=
  ⟨same ▸ shaped.control, same ▸ shaped.channel⟩

theorem Shaped.collect (shaped : Shaped state) (connection : Connection) (dataId : DataId)
    (collected : ChunkAssembler × DataStore × Except ChunkError (Option Bytes)) :
    Shaped (Agent.collect state connection dataId collected) := by
  unfold Agent.collect
  dsimp only
  split
  · rename_i bytes whole
    cases connection with
    | control => exact shaped.owe_control rfl (.inr (.inl ⟨dataId, bytes, rfl⟩))
    | channel number => exact shaped.owe_channel number rfl (by simp)
  · exact shaped.of_same rfl
  · exact shaped.of_same rfl

theorem Shaped.act (shaped : Shaped state) {connection : Connection} {duty : Duty}
    {rest : List Duty} (owed : state.duties connection = duty :: rest) :
    Shaped (perform setup state connection rest duty) := by
  cases connection with
  | control =>
      rcases shaped.control with none | ⟨dataId, bytes, one⟩ | ⟨dataId, evicted, two⟩ |
        ⟨evicted, one⟩
      · rw [none] at owed
        cases owed
      · rw [one] at owed
        cases owed
        exact shaped.owe_control rfl (.inr (.inr (.inl ⟨dataId, _, rfl⟩)))
      · rw [two] at owed
        cases owed
        exact shaped.owe_control rfl (.inr (.inr (.inr ⟨evicted, rfl⟩)))
      · rw [one] at owed
        cases owed
        exact shaped.owe_control (reportEvictions_frame _ evicted).2.2 (.inl rfl)
  | channel number =>
      have silent : ∀ evicted, .report evicted ∉ rest := by
        intro evicted listed
        refine shaped.channel number evicted ?_
        rw [owed]
        exact List.mem_cons_of_mem _ listed
      cases duty with
      | finish dataId bytes =>
          refine shaped.owe_channel number rfl fun evicted listed => ?_
          rcases List.mem_cons.mp listed with other | later
          · cases other
          · exact silent evicted later
      | announce dataId => exact shaped.owe_channel number rfl silent
      | report evicted => exact absurd (by simp [owed]) (shaped.channel number evicted)

theorem Shaped.step (shaped : Shaped state) (step : Step setup state event after) :
    Shaped after := by
  cases step with
  | transfer nodeId descriptor codec bytes content =>
      exact shaped.owe_control rfl (.inr (.inr (.inr ⟨_, rfl⟩)))
  | manifest nodeId manifest => exact shaped.collect _ _ _
  | chunk connection nodeId dataId index codec bytes content => exact shaped.collect _ _ _
  | act connection duty rest owed => exact shaped.act owed
  | execute index outcome =>
      cases outcome with
      | ok output => exact shaped.of_same rfl
      | error message => exact shaped.of_same rfl
  | _ => exact shaped.of_same rfl

theorem Balanced.of_same {other : Watched} (balanced : Balanced watched)
    (agent : other.agent = watched.agent) (believed : other.believed = watched.believed)
    (evicted : other.evicted = watched.evicted) (reported : other.reported = watched.reported) :
    Balanced other := by
  refine ⟨?_, fun dataId => ?_⟩
  · rw [agent, evicted, reported]
    exact balanced.told
  · rw [agent, believed]
    exact balanced.right dataId

theorem watchedNext_agent {last : Watched}
    (moved : watchedNext setup watched (.agent event) = some last) :
    ∃ after served, next setup watched.agent event = some after ∧
      last = { watched.note after with served } := by
  obtain ⟨-, moved⟩ := Option.ite_none_left_eq_some.mp moved
  obtain ⟨after, stepped, rfl⟩ := Option.map_eq_some_iff.mp moved
  exact ⟨after, _, stepped, rfl⟩

theorem watchedNext_write {failed : Bool} {last : Watched}
    (moved : watchedNext setup watched (.write failed) = some last) :
    ∃ written writing, last = { watched with written, writing } := by
  obtain ⟨-, moved⟩ := Option.ite_none_right_eq_some.mp moved
  obtain ⟨message, -, rfl⟩ := Option.map_eq_some_iff.mp moved
  split
  · exact ⟨_, _, rfl⟩
  · exact ⟨_, _, rfl⟩

/-- The controller is told of every eviction, in every state of a run, if and only if each
step leaves no eviction unreported. -/
theorem evictions_told_iff (setup : Setup) (agent : State)
    (idle : ∀ connection, agent.duties connection = []) (happenings : List Happening)
    (final : Watched) (ran : run (watchedNext setup) (watch agent) happenings = some final) :
    Always (watchedNext setup) Balanced (watch agent) happenings ↔
      Along (watchedNext setup) (tidy setup) (watch agent) happenings := by
  refine @always_iff_along Watched Happening (watchedNext setup) (tidy setup) Balanced
    (watch agent) final happenings (fun watched => Shaped watched.agent) ?_ ?_ ?_ ran
  · exact ⟨.inl (idle .control), fun number evicted => by simp [watch, idle]⟩
  · refine ⟨?_, fun dataId => ?_⟩
    · simp [watch, due, idle]
    · simp [watch, due, idle, mem_heldIds]
  · intro watched happening last shaped moved
    cases happening with
    | agent event =>
        obtain ⟨after, served, stepped, rfl⟩ := watchedNext_agent moved
        have step := next_step stepped
        refine ⟨shaped.step step, fun balanced => ?_⟩
        rw [tidy, ← (step.effect shaped).balanced_iff balanced]
        exact ⟨fun later => later.of_same rfl rfl rfl rfl, fun later => later.of_same rfl rfl rfl rfl⟩
    | write failed =>
        obtain ⟨written, writing, rfl⟩ := watchedNext_write moved
        exact ⟨shaped, fun balanced => iff_of_true (balanced.of_same rfl rfl rfl rfl) trivial⟩
    | close =>
        obtain ⟨-, moved⟩ := Option.ite_none_right_eq_some.mp moved
        obtain rfl := Option.some.inj moved
        exact ⟨shaped, fun balanced => iff_of_true (balanced.of_same rfl rfl rfl rfl) trivial⟩

instance (watched : Watched) (happening : Happening) : Decidable (tidy setup watched happening) :=
  match happening with
  | .agent event =>
      decidable_of_iff
        ((∀ bytes ∈ silentPut setup watched.agent event,
            watched.agent.store.hasRoom (setup.digest bytes) bytes = true) ∧
          (watched.writing = true → ∀ dataId ∈ announcing watched.agent event,
            watched.agent.store.contains dataId = true ∨ dataId ∈ due watched.agent) ∧
          (∀ dataId ∈ reporting watched.agent event,
            watched.agent.store.contains dataId = false) ∧
          (reporting watched.agent event ≠ [] → watched.writing = true))
        ⟨fun clean => ⟨clean.1, clean.2.1, clean.2.2.1, clean.2.2.2⟩,
          fun clean => ⟨clean.room, clean.announced, clean.gone, clean.writing⟩⟩
  | .write _ | .close => inferInstanceAs (Decidable True)

def fullAgent : State :=
  { emptyAgent with
    store := (((DataStore.withBudget 2).put shortDigest [1]).1.put shortDigest [2]).1 }

def echoThree : Task := Task.new ⟨0⟩ "echo" [3]

def transferThree : List Happening :=
  [.agent (.receive .control (.dataTransfer ⟨0⟩ (DataDescriptor.of shortDigest [3]) .none [3])),
    .agent (.act .control), .write false]

theorem transfer_reports_its_eviction :
    (run (watchedNext plainSetup) (watch fullAgent) transferThree).isSome = true ∧
    Always (watchedNext plainSetup) Balanced (watch fullAgent) transferThree := by
  have some : (run (watchedNext plainSetup) (watch fullAgent) transferThree).isSome = true := by
    decide
  obtain ⟨final, ran⟩ := Option.isSome_iff_exists.mp some
  exact ⟨some, (evictions_told_iff plainSetup fullAgent (fun _ => rfl) transferThree final
    ran).mpr (by decide)⟩

def runEchoThree : List Happening :=
  [.agent (.receive .control (.taskAssignment ⟨0⟩ echoThree)), .agent (.execute 0 (.ok [3]) 1),
    .agent (.reply 0), .write false]

def droppedSilently (watched : Watched) : Bool :=
  shortDigest [1] ∈ watched.evicted ∧ watched.reported = [] ∧ due watched.agent = [] ∧
    shortDigest [1] ∈ watched.believed ∧ watched.agent.store.contains (shortDigest [1]) = false

theorem output_evicts_silently :
    ∃ final, run (watchedNext plainSetup) (watch fullAgent) runEchoThree = some final ∧
      final.writing = true ∧ shortDigest [1] ∈ final.evicted ∧ shortDigest [1] ∉ final.reported ∧
      shortDigest [1] ∈ final.believed ∧
      final.agent.store.contains (shortDigest [1]) = false ∧ ¬ Balanced final := by
  have tested : (run (watchedNext plainSetup) (watch fullAgent) runEchoThree).any
      (fun watched => watched.writing && droppedSilently watched) = true := by decide
  obtain ⟨final, ran, found⟩ := run_tested tested
  obtain ⟨writing, dropped⟩ := (Bool.and_eq_true _ _).mp found
  obtain ⟨evicted, reported, owed, believed, gone⟩ := of_decide_eq_true dropped
  refine ⟨final, ran, writing, evicted, by simp [reported], believed, gone, ?_⟩
  intro balanced
  rcases (balanced.right _).mp believed with held | later
  · rw [gone] at held
    cases held
  · rw [owed] at later
    cases later

end AetherMesh.Agent
