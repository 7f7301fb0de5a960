import AetherMesh.Library.Exchange
import AetherMesh.Library.Runs
import AetherMesh.Protocol.NetFrames

/-!
A worker of the Python pool and its connection. A call may break off at any point of sending or
receiving; the worker then drops the connection and opens another for its next job. The server
answers each whole frame once, in order, and may take its time.
-/

namespace AetherMesh.PythonWorker

open Exchange Framing Runs

def maxFrameBytes : Nat := 256 * 1024 * 1024

/-- What `json.loads` gives. Of a number only whether it is zero is read. -/
inductive PyValue
  | null
  | boolean (value : Bool)
  | number (isZero : Bool)
  | text (value : String)
  | list (items : List PyValue)
  | dict (fields : List (String × PyValue))

def PyValue.truthy : PyValue → Bool
  | .null => false
  | .boolean value => value
  | .number isZero => !isZero
  | .text value => value ≠ ""
  | .list items => !items.isEmpty
  | .dict fields => !fields.isEmpty

structure MeshTask where
  kind : String
  moduleId : Option String
  inputs : List String
  constraints : List String
deriving DecidableEq

structure Job where
  task : MeshTask
  payload : Bytes
deriving DecidableEq

structure Submit where
  kind : String
  payload : Bytes
  inputs : List String
  constraints : List String
  module : Option String
deriving DecidableEq

/-- An `OSError`, an `AetherMeshError`, or anything else. -/
inductive Trouble
  | os
  | mesh
  | other
deriving DecidableEq

structure Setup where
  hello : Bytes
  dumps : Submit → Bytes
  loads : Bytes → Option PyValue
  b64decode : PyValue → Option Bytes
  float : PyValue → Bool

def Job.submit (job : Job) : Submit :=
  match job.task.moduleId with
  | some moduleId =>
      ⟨"wasm", job.payload, job.task.inputs, job.task.constraints, some moduleId⟩
  | none => ⟨job.task.kind, job.payload, job.task.inputs, job.task.constraints, none⟩

def expect (kind : String) : PyValue → Except Trouble (List (String × PyValue))
  | .dict fields =>
      match fields.lookup "type" with
      | some (.text found) => if found = kind then .ok fields else .error .mesh
      | _ => .error .mesh
  | _ => .error .other

def field (fields : List (String × PyValue)) (name : String) : Except Trouble PyValue :=
  match fields.lookup name with
  | some value => .ok value
  | none => .error .other

def require {α : Type} : Option α → Except Trouble α
  | some value => .ok value
  | none => .error .other

section

variable (setup : Setup)

def welcome (body : Bytes) : Except Trouble Unit := do
  let frame ← require (setup.loads body)
  let _ ← expect "welcome" frame
  return ()

def taskOutput (body : Bytes) : Except Trouble Bytes := do
  let frame ← require (setup.loads body)
  let fields ← expect "result" frame
  let _ ← field fields "task_id"
  let _ ← field fields "node_id"
  let success ← field fields "success"
  let encoded ← field fields "output"
  let output ← require (setup.b64decode encoded)
  let duration ← field fields "duration_ms"
  if !setup.float duration then throw .other
  if !success.truthy then throw .mesh
  return output

end

inductive Phase
  | idle (mesh : Option (Link UInt8))
  | connecting (job : Job)
  | greeting (job : Job) (link : Link UInt8) (stage : Stage UInt8)
  | asking (job : Job) (link : Link UInt8) (start : Nat) (stage : Stage UInt8)

/-- The place is the connection and where the frame of the job begins on it, if it was begun. -/
structure Finished where
  job : Job
  place : Option (Nat × Nat)
  outcome : Except Trouble Bytes
deriving DecidableEq

/-- `served` has the frames that the server has answered: the connection, where the frame began, its
payload and the answer. -/
structure State where
  phase : Phase
  opened : Nat
  served : List (Nat × Nat × Bytes × Bytes)
  finished : List Finished

inductive Event
  | take (job : Job)
  | connect
  | refuse
  | push (count : Nat)
  | recv (count : Nat)
  | close
  | fail
  | serve (answer : Bytes)

def start : State := ⟨.idle none, 0, [], []⟩

def Phase.link : Phase → Option (Link UInt8)
  | .idle mesh => mesh
  | .connecting _ => none
  | .greeting _ link _ => some link
  | .asking _ link _ _ => some link

def Phase.withLink (link : Link UInt8) : Phase → Phase
  | .idle _ => .idle (some link)
  | .connecting job => .connecting job
  | .greeting job _ stage => .greeting job link stage
  | .asking job _ start stage => .asking job link start stage

def need : Stage UInt8 → Nat
  | .sending _ => 0
  | .header => lengthHeader.width
  | .body length => length

/-- The connection is dropped after two kinds of error, and kept after any other. -/
def kept (outcome : Except Trouble Bytes) (link : Link UInt8) : Option (Link UInt8) :=
  match outcome with
  | .error .os | .error .mesh => none
  | .error .other | .ok _ => some link

section

variable (setup : Setup) (state : State)

def finish (job : Job) (place : Option (Nat × Nat)) (outcome : Except Trouble Bytes)
    (mesh : Option (Link UInt8)) : State :=
  { state with phase := .idle mesh, finished := state.finished ++ [⟨job, place, outcome⟩] }

/-- A payload whose length does not fit in front of it is not sent. -/
def submit (job : Job) (link : Link UInt8) : State :=
  if 2 ^ 32 ≤ (setup.dumps job.submit).length then
    finish state job none (.error .other) (some link)
  else
    { state with
      phase := .asking job link link.outgoing.length
        (.sending (lengthHeader.frame (setup.dumps job.submit))) }

def take (job : Job) : Option State :=
  match state.phase with
  | .idle none => some { state with phase := .connecting job }
  | .idle (some link) => some (submit setup state job link)
  | _ => none

def connect : Option State :=
  match state.phase with
  | .connecting job =>
      if 2 ^ 32 ≤ setup.hello.length then
        some (finish { state with opened := state.opened + 1 } job none (.error .other) none)
      else
        some { state with
          opened := state.opened + 1
          phase := .greeting job .fresh (.sending (lengthHeader.frame setup.hello)) }
  | _ => none

def refuse : Option State :=
  match state.phase with
  | .connecting job => some (finish state job none (.error .os) none)
  | _ => none

def push (count : Nat) : Option State :=
  match state.phase with
  | .greeting job link (.sending pending) =>
      if 0 < count ∧ count ≤ pending.length then
        some { state with
          phase := .greeting job (link.push pending count).1 (link.push pending count).2 }
      else none
  | .asking job link start (.sending pending) =>
      if 0 < count ∧ count ≤ pending.length then
        some { state with
          phase := .asking job (link.push pending count).1 start (link.push pending count).2 }
      else none
  | _ => none

def greeted (job : Job) : Progress UInt8 → State
  | .waits link stage => { state with phase := .greeting job link stage }
  | .tooLong _ => finish state job none (.error .mesh) none
  | .done link body =>
      match welcome setup body with
      | .ok _ => submit setup state job link
      | .error trouble => finish state job none (.error trouble) none

def answered (job : Job) (start : Nat) : Progress UInt8 → State
  | .waits link stage => { state with phase := .asking job link start stage }
  | .tooLong _ => finish state job (some (state.opened, start)) (.error .mesh) none
  | .done link body =>
      finish state job (some (state.opened, start)) (taskOutput setup body)
        (kept (taskOutput setup body) link)

/-- As much as is there may be received at once, within a bound. -/
def mayRecv (link : Link UInt8) (stage : Stage UInt8) (count : Nat) : Bool :=
  0 < count ∧ count ≤ link.unread.length ∧ count ≤ max (need stage - link.buffer.length) 65536

def recv (count : Nat) : Option State :=
  match state.phase with
  | .greeting job link stage =>
      if mayRecv link stage count then
        some (greeted setup state job (Link.proceed lengthHeader maxFrameBytes (link.recv count) stage))
      else none
  | .asking job link start stage =>
      if mayRecv link stage count then
        some (answered setup state job start
          (Link.proceed lengthHeader maxFrameBytes (link.recv count) stage))
      else none
  | _ => none

def close : Option State :=
  match state.phase with
  | .greeting job link (.header) | .greeting job link (.body _) =>
      if link.unread = [] then some (finish state job none (.error .mesh) none) else none
  | .asking job link start (.header) | .asking job link start (.body _) =>
      if link.unread = [] then
        some (finish state job (some (state.opened, start)) (.error .mesh) none)
      else none
  | _ => none

/-- A timeout of the socket is an error of the same kind. -/
def fail : Option State :=
  match state.phase with
  | .greeting job _ _ => some (finish state job none (.error .os) none)
  | .asking job _ start _ => some (finish state job (some (state.opened, start)) (.error .os) none)
  | _ => none

def serve (answer : Bytes) : Option State :=
  if answer.length < 2 ^ 32 then
    match state.phase.link with
    | none => none
    | some link =>
        (link.serve lengthHeader answer).map fun (after, payload) =>
          { state with
            phase := state.phase.withLink after
            served := state.served ++ [(state.opened, link.scanned, payload, answer)] }
  else none

def next : Event → Option State
  | .take job => take setup state job
  | .connect => connect setup state
  | .refuse => refuse state
  | .push count => push state count
  | .recv count => recv setup state count
  | .close => close state
  | .fail => fail state
  | .serve answer => serve state answer

end

/-- Every job that has got an output has got it from the answer that the server gave to the frame of
this job. -/
def Matched (setup : Setup) (state : State) : Prop :=
  ∀ done ∈ state.finished, ∀ output, done.outcome = .ok output →
    ∃ link start answer, done.place = some (link, start) ∧
      (link, start, setup.dumps done.job.submit, answer) ∈ state.served ∧
      taskOutput setup answer = .ok output

def Distinct (state : State) : Prop :=
  (state.finished.filterMap Finished.place).Nodup ∧
    (state.served.map fun (link, start, _) => (link, start)).Nodup

def Phase.bound : Phase → Option Nat
  | .idle mesh => mesh.map fun link => link.outgoing.length
  | .connecting _ => none
  | .greeting _ _ _ => some 0
  | .asking _ _ start _ => some start

def Standing (setup : Setup) (state : State) : Prop :=
  match state.phase with
  | .idle mesh => ∀ link ∈ mesh, link.Quiet
  | .connecting _ => True
  | .greeting _ link stage => setup.hello.length < 2 ^ 32 ∧
      ∃ answered, link.Underway lengthHeader 0 setup.hello answered stage ∧
        ∀ answer, answered = some answer → answer.length < 2 ^ 32
  | .asking job link start stage => (setup.dumps job.submit).length < 2 ^ 32 ∧
      ∃ answered, link.Underway lengthHeader start (setup.dumps job.submit) answered stage ∧
        ∀ answer, answered = some answer → answer.length < 2 ^ 32 ∧
          (state.opened, start, setup.dumps job.submit, answer) ∈ state.served

structure Sound (setup : Setup) (state : State) : Prop where
  matched : Matched setup state
  distinct : Distinct state
  places : ∀ done ∈ state.finished, ∀ place, done.place = some place →
    place.1 ≤ state.opened ∧
      (place.1 = state.opened → ∀ bound, state.phase.bound = some bound → place.2 < bound)
  keys : ∀ entry ∈ state.served, entry.1 ≤ state.opened ∧
    (entry.1 = state.opened → ∀ link, state.phase.link = some link → entry.2.1 < link.scanned)
  standing : Standing setup state

section

variable {setup : Setup} {state after : State} {job : Job} {link : Link UInt8}
  {stage : Stage UInt8} {begun count : Nat}

theorem start_sound : Sound setup start := by
  refine ⟨nofun, ⟨List.nodup_nil, List.nodup_nil⟩, nofun, nofun, ?_⟩
  intro link given
  cases given

theorem Sound.rephase (sound : Sound setup state) {phase : Phase}
    (later : ∀ bound, phase.bound = some bound →
      ∃ earlier, state.phase.bound = some earlier ∧ earlier ≤ bound)
    (further : ∀ link, phase.link = some link →
      ∃ old, state.phase.link = some old ∧ old.scanned ≤ link.scanned)
    (standing : Standing setup { state with phase }) : Sound setup { state with phase } := by
  refine ⟨sound.matched, sound.distinct, ?_, ?_, standing⟩
  · intro done listed place known
    obtain ⟨within, before⟩ := sound.places done listed place known
    refine ⟨within, ?_⟩
    intro current bound bounded
    obtain ⟨earlier, old, order⟩ := later bound bounded
    exact Nat.lt_of_lt_of_le (before current earlier old) order
  · intro entry listed
    obtain ⟨within, before⟩ := sound.keys entry listed
    refine ⟨within, ?_⟩
    intro current link linked
    obtain ⟨old, had, order⟩ := further link linked
    exact Nat.lt_of_lt_of_le (before current old had) order

theorem Sound.append (sound : Sound setup state) {done : Finished}
    (right : ∀ output, done.outcome = .ok output →
      ∃ link start answer, done.place = some (link, start) ∧
        (link, start, setup.dumps done.job.submit, answer) ∈ state.served ∧
        taskOutput setup answer = .ok output)
    (within : ∀ place, done.place = some place → place.1 ≤ state.opened ∧
      (place.1 = state.opened → ∀ bound, state.phase.bound = some bound → place.2 < bound))
    (fresh : ∀ place, done.place = some place →
      ∀ other ∈ state.finished, other.place ≠ some place) :
    Sound setup { state with finished := state.finished ++ [done] } := by
  refine ⟨?_, ⟨?_, sound.distinct.2⟩, ?_, sound.keys, sound.standing⟩
  · intro other listed
    rcases List.mem_append.mp listed with old | new
    · exact sound.matched other old
    · rw [List.mem_singleton.mp new]
      exact right
  · rw [List.filterMap_append, List.nodup_append']
    refine ⟨sound.distinct.1, ?_, ?_⟩
    · cases known : done.place <;> simp [known]
    · intro place old new
      obtain ⟨other, among, same⟩ := List.mem_filterMap.mp old
      obtain ⟨last, only, known⟩ := List.mem_filterMap.mp new
      rw [List.mem_singleton.mp only] at known
      exact fresh place known other among same
  · intro other listed
    rcases List.mem_append.mp listed with old | new
    · exact sound.places other old
    · rw [List.mem_singleton.mp new]
      exact within

theorem Sound.finish (sound : Sound setup state) {place : Option (Nat × Nat)}
    {outcome : Except Trouble Bytes} {mesh : Option (Link UInt8)}
    (right : ∀ output, outcome = .ok output →
      ∃ start answer, place = some (state.opened, start) ∧
        (state.opened, start, setup.dumps job.submit, answer) ∈ state.served ∧
        taskOutput setup answer = .ok output)
    (placed : ∀ spot, place = some spot →
      spot.1 = state.opened ∧ state.phase.bound = some spot.2)
    (quiet : ∀ link, mesh = some link → link.Quiet ∧
      (∃ bound, state.phase.bound = some bound ∧ bound ≤ link.outgoing.length) ∧
      (∃ old, state.phase.link = some old ∧ old.scanned ≤ link.scanned) ∧
      ∀ spot, place = some spot → spot.2 < link.outgoing.length) :
    Sound setup (PythonWorker.finish state job place outcome mesh) := by
  have idle : Sound setup { state with phase := .idle mesh } := by
    refine sound.rephase ?_ ?_ ?_
    · intro bound bounded
      obtain ⟨link, given, rfl⟩ := Option.map_eq_some_iff.mp bounded
      exact (quiet link given).2.1
    · intro link given
      exact (quiet link given).2.2.1
    · intro link given
      exact (quiet link given).1
  have ended := @Sound.append setup { state with phase := .idle mesh } idle ⟨job, place, outcome⟩
  refine ended ?_ ?_ ?_
  · intro output got
    obtain ⟨start, answer, placed, served, read⟩ := right output got
    exact ⟨_, start, answer, placed, served, read⟩
  · intro spot known
    obtain ⟨current, -⟩ := placed spot known
    refine ⟨Nat.le_of_eq current, ?_⟩
    intro _ bound bounded
    obtain ⟨link, given, rfl⟩ := Option.map_eq_some_iff.mp bounded
    exact (quiet link given).2.2.2 spot known
  · intro spot known other among same
    obtain ⟨current, bounded⟩ := placed spot known
    have before := (sound.places other among spot same).2 current spot.2 bounded
    exact Nat.lt_irrefl _ before

theorem Sound.abandon (sound : Sound setup state) {place : Option (Nat × Nat)} {trouble : Trouble}
    (placed : ∀ spot, place = some spot →
      spot.1 = state.opened ∧ state.phase.bound = some spot.2) :
    Sound setup (PythonWorker.finish state job place (.error trouble) none) :=
  sound.finish nofun placed nofun

theorem Sound.submit (sound : Sound setup state) (quiet : link.Quiet)
    (bounded : ∃ bound, state.phase.bound = some bound ∧ bound ≤ link.outgoing.length)
    (linked : ∃ old, state.phase.link = some old ∧ old.scanned ≤ link.scanned) :
    Sound setup (PythonWorker.submit setup state job link) := by
  rw [PythonWorker.submit]
  split
  · refine sound.finish nofun nofun ?_
    intro other given
    obtain rfl := Option.some.inj given
    exact ⟨quiet, bounded, linked, nofun⟩
  · rename_i short
    refine sound.rephase ?_ ?_ ?_
    · intro bound same
      obtain rfl := Option.some.inj same
      exact bounded
    · intro other same
      obtain rfl := Option.some.inj same
      exact linked
    · exact ⟨Nat.not_le.mp short, none, quiet.begin (by decide) _, nofun⟩

theorem Sound.take (sound : Sound setup state)
    (moved : PythonWorker.take setup state job = some after) : Sound setup after := by
  have standing := sound.standing
  rw [PythonWorker.take] at moved
  rw [Standing] at standing
  split at moved
  · cases moved
    exact sound.rephase nofun nofun trivial
  · rename_i link phase
    cases moved
    rw [phase] at standing
    refine sound.submit (standing link rfl) ⟨_, ?_, Nat.le_refl _⟩ ⟨link, ?_, Nat.le_refl _⟩
    · rw [phase]
      rfl
    · rw [phase]
      rfl
  · cases moved

theorem Sound.connect (sound : Sound setup state)
    (moved : PythonWorker.connect setup state = some after) : Sound setup after := by
  rw [PythonWorker.connect] at moved
  split at moved
  · rename_i job phase
    -- nothing refers to the connection that is opened
    have opened : ∀ phase : Phase, Standing setup
        { state with opened := state.opened + 1, phase } →
        Sound setup { state with opened := state.opened + 1, phase } := by
      intro phase standing
      refine ⟨sound.matched, sound.distinct, ?_, ?_, standing⟩
      · intro done listed place known
        have within := (sound.places done listed place known).1
        refine ⟨Nat.le_succ_of_le within, ?_⟩
        intro current
        exact absurd within (by rw [current]; exact Nat.not_succ_le_self _)
      · intro entry listed
        have within := (sound.keys entry listed).1
        refine ⟨Nat.le_succ_of_le within, ?_⟩
        intro current
        exact absurd within (by rw [current]; exact Nat.not_succ_le_self _)
    split at moved
    · cases moved
      have idle := opened (.connecting job) trivial
      exact @Sound.abandon setup _ job idle none .other nofun
    · rename_i short
      cases moved
      apply opened
      exact ⟨Nat.not_le.mp short, none, Link.fresh_quiet.begin (by decide) _, nofun⟩
  · cases moved

theorem Sound.refuse (sound : Sound setup state)
    (moved : PythonWorker.refuse state = some after) : Sound setup after := by
  rw [PythonWorker.refuse] at moved
  split at moved
  · cases moved
    exact sound.abandon nofun
  · cases moved

theorem Sound.push (sound : Sound setup state)
    (moved : PythonWorker.push state count = some after) : Sound setup after := by
  have standing := sound.standing
  rw [PythonWorker.push] at moved
  rw [Standing] at standing
  split at moved
  · rename_i job link pending phase
    rw [phase] at standing
    split at moved
    · cases moved
      obtain ⟨short, answered, underway, bounded⟩ := standing
      refine sound.rephase ?_ ?_ ⟨short, answered, underway.push, bounded⟩
      · intro bound same
        exact ⟨bound, by rw [phase]; exact same, Nat.le_refl _⟩
      · intro other same
        obtain rfl := Option.some.inj same
        exact ⟨link, by rw [phase]; rfl, Nat.le_refl _⟩
    · cases moved
  · rename_i job link begun pending phase
    rw [phase] at standing
    split at moved
    · cases moved
      obtain ⟨short, answered, underway, bounded⟩ := standing
      refine sound.rephase ?_ ?_ ⟨short, answered, underway.push, bounded⟩
      · intro bound same
        exact ⟨bound, by rw [phase]; exact same, Nat.le_refl _⟩
      · intro other same
        obtain rfl := Option.some.inj same
        exact ⟨link, by rw [phase]; rfl, Nat.le_refl _⟩
    · cases moved
  · cases moved

theorem Sound.close (sound : Sound setup state)
    (moved : PythonWorker.close state = some after) : Sound setup after := by
  rw [PythonWorker.close] at moved
  split at moved
  · split at moved
    · cases moved
      exact sound.abandon nofun
    · cases moved
  · split at moved
    · cases moved
      exact sound.abandon nofun
    · cases moved
  · rename_i job link begun phase
    split at moved
    · cases moved
      refine sound.abandon ?_
      intro spot same
      obtain rfl := Option.some.inj same
      exact ⟨rfl, by rw [phase]; rfl⟩
    · cases moved
  · rename_i job link begun length phase
    split at moved
    · cases moved
      refine sound.abandon ?_
      intro spot same
      obtain rfl := Option.some.inj same
      exact ⟨rfl, by rw [phase]; rfl⟩
    · cases moved
  · cases moved

theorem Sound.fail (sound : Sound setup state)
    (moved : PythonWorker.fail state = some after) : Sound setup after := by
  rw [PythonWorker.fail] at moved
  split at moved
  · cases moved
    exact sound.abandon nofun
  · rename_i job link begun stage phase
    cases moved
    refine sound.abandon ?_
    intro spot same
    obtain rfl := Option.some.inj same
    exact ⟨rfl, by rw [phase]; rfl⟩
  · cases moved

theorem mayRecv_spec (may : mayRecv link stage count = true) :
    0 < count ∧ count ≤ link.unread.length := by
  rw [mayRecv, decide_eq_true_eq] at may
  exact ⟨may.1, may.2.1⟩

theorem Sound.greeted (sound : Sound setup state)
    (phase : state.phase = .greeting job link stage) (may : mayRecv link stage count = true) :
    Sound setup (PythonWorker.greeted setup state job
      (Link.proceed lengthHeader maxFrameBytes (link.recv count) stage)) := by
  have standing := sound.standing
  rw [Standing, phase] at standing
  obtain ⟨short, answered, underway, bounded⟩ := standing
  obtain ⟨positive, enough⟩ := mayRecv_spec may
  obtain ⟨answer, known, settled⟩ :=
    @Link.Underway.recv _ _ _ _ maxFrameBytes _ _ _ _ underway positive enough bounded
  revert settled
  cases Link.proceed lengthHeader maxFrameBytes (link.recv count) stage with
  | waits later further =>
      rintro ⟨onward, -, scanned⟩
      refine sound.rephase ?_ ?_ ⟨short, some answer, onward, ?_⟩
      · intro bound same
        exact ⟨bound, by rw [phase]; exact same, Nat.le_refl _⟩
      · intro other same
        obtain rfl := Option.some.inj same
        exact ⟨link, by rw [phase]; rfl, Nat.le_of_eq scanned.symm⟩
      · intro other same
        exact bounded other (known.trans same)
  | tooLong length =>
      intro _
      exact sound.abandon nofun
  | done later body =>
      rintro ⟨-, quiet, -, scanned⟩
      rw [PythonWorker.greeted]
      split
      · refine sound.submit quiet ⟨0, ?_, Nat.zero_le _⟩ ⟨link, ?_, Nat.le_of_eq scanned.symm⟩
        · rw [phase]
          rfl
        · rw [phase]
          rfl
      · exact sound.abandon nofun

theorem kept_eq_some {outcome : Except Trouble Bytes} {other : Link UInt8}
    (same : kept outcome link = some other) : other = link := by
  unfold kept at same
  split at same
  · cases same
  · cases same
  · exact (Option.some.inj same).symm
  · exact (Option.some.inj same).symm

theorem Sound.answered (sound : Sound setup state)
    (phase : state.phase = .asking job link begun stage) (may : mayRecv link stage count = true) :
    Sound setup (PythonWorker.answered setup state job begun
      (Link.proceed lengthHeader maxFrameBytes (link.recv count) stage)) := by
  have standing := sound.standing
  rw [Standing, phase] at standing
  obtain ⟨short, replied, underway, bounded⟩ := standing
  obtain ⟨positive, enough⟩ := mayRecv_spec may
  obtain ⟨answer, known, settled⟩ := @Link.Underway.recv _ _ _ _ maxFrameBytes _ _ _ _ underway
    positive enough (fun answer same => (bounded answer same).1)
  have bound : state.phase.bound = some begun := by
    rw [phase]
    rfl
  have linked : state.phase.link = some link := by
    rw [phase]
    rfl
  revert settled
  cases Link.proceed lengthHeader maxFrameBytes (link.recv count) stage with
  | waits later further =>
      rintro ⟨onward, -, scanned⟩
      refine sound.rephase ?_ ?_ ⟨short, some answer, onward, ?_⟩
      · intro other same
        exact ⟨begun, bound, Nat.le_of_eq (Option.some.inj same)⟩
      · intro other same
        obtain rfl := Option.some.inj same
        exact ⟨link, linked, Nat.le_of_eq scanned.symm⟩
      · intro other same
        exact bounded other (known.trans same)
  | tooLong length =>
      intro _
      refine sound.abandon ?_
      intro spot same
      obtain rfl := Option.some.inj same
      exact ⟨rfl, bound⟩
  | done later body =>
      rintro ⟨rfl, quiet, outgoing, scanned⟩
      have passed : begun < later.outgoing.length := by
        have started := (underway.after body known).1
        rw [← scanned, quiet.scanned] at started
        exact started
      refine sound.finish ?_ ?_ ?_
      · intro output got
        exact ⟨begun, body, rfl, (bounded body known).2, got⟩
      · intro spot same
        obtain rfl := Option.some.inj same
        exact ⟨rfl, bound⟩
      · intro other same
        obtain rfl := kept_eq_some same
        refine ⟨quiet, ⟨begun, bound, Nat.le_of_lt passed⟩,
          ⟨link, linked, Nat.le_of_eq scanned.symm⟩, ?_⟩
        intro spot same
        obtain rfl := Option.some.inj same
        exact passed

theorem Sound.recv (sound : Sound setup state)
    (moved : PythonWorker.recv setup state count = some after) : Sound setup after := by
  rw [PythonWorker.recv] at moved
  split at moved
  · rename_i job link stage phase
    split at moved
    · rename_i may
      cases moved
      exact sound.greeted phase may
    · cases moved
  · rename_i job link begun stage phase
    split at moved
    · rename_i may
      cases moved
      exact sound.answered phase may
    · cases moved
  · cases moved

theorem Sound.log (sound : Sound setup state) {later : Link UInt8} {phase : Phase}
    {payload answer : Bytes} (linked : state.phase.link = some link)
    (further : link.scanned < later.scanned) (bound : phase.bound = state.phase.bound)
    (relinked : phase.link = some later)
    (standing : Standing setup
      { state with
        phase
        served := state.served ++ [(state.opened, link.scanned, payload, answer)] }) :
    Sound setup
      { state with
        phase
        served := state.served ++ [(state.opened, link.scanned, payload, answer)] } := by
  refine ⟨?_, ⟨sound.distinct.1, ?_⟩, ?_, ?_, standing⟩
  · intro done listed output got
    obtain ⟨number, start, found, placed, served, read⟩ := sound.matched done listed output got
    exact ⟨number, start, found, placed, List.mem_append_left _ served, read⟩
  · rw [List.map_append, List.nodup_append']
    refine ⟨sound.distinct.2, List.nodup_singleton _, ?_⟩
    intro key old new
    obtain ⟨entry, among, rfl⟩ := List.mem_map.mp old
    obtain ⟨number, scanned⟩ := Prod.mk.inj (List.mem_singleton.mp new)
    have before := (sound.keys entry among).2 number link linked
    exact Nat.ne_of_lt before scanned
  · intro done listed place known
    obtain ⟨within, before⟩ := sound.places done listed place known
    refine ⟨within, ?_⟩
    intro current other bounded
    exact before current other (bound ▸ bounded)
  · intro entry listed
    rcases List.mem_append.mp listed with old | new
    · obtain ⟨within, before⟩ := sound.keys entry old
      refine ⟨within, ?_⟩
      intro current other same
      obtain rfl := Option.some.inj (relinked.symm.trans same)
      exact Nat.lt_trans (before current link linked) further
    · rw [List.mem_singleton.mp new]
      refine ⟨Nat.le_refl _, ?_⟩
      intro _ other same
      obtain rfl := Option.some.inj (relinked.symm.trans same)
      exact further

theorem Sound.serve (sound : Sound setup state) {answer : Bytes}
    (moved : PythonWorker.serve state answer = some after) : Sound setup after := by
  have standing := sound.standing
  rw [PythonWorker.serve] at moved
  rw [Standing] at standing
  split at moved
  · rename_i fits
    split at moved
    · cases moved
    rename_i link linked
    obtain ⟨⟨later, payload⟩, served, rfl⟩ := Option.map_eq_some_iff.mp moved
    cases phase : state.phase with
    | idle mesh =>
        rw [phase] at standing linked
        rw [(standing link linked).serve (by decide)] at served
        cases served
    | connecting job =>
        rw [phase] at linked
        cases linked
    | greeting job found stage =>
        rw [phase] at standing
        obtain rfl : found = link := Option.some.inj (by rw [phase] at linked; exact linked)
        obtain ⟨short, answered, underway, bounded⟩ := standing
        obtain ⟨-, rfl, replied, place⟩ := underway.serve (by decide) short served
        refine sound.log linked ?_ (by rw [phase]; rfl) rfl ⟨short, some answer, replied, ?_⟩
        · rw [place]
          exact (replied.after answer rfl).1
        · intro other same
          obtain rfl := Option.some.inj same
          exact fits
    | asking job found begun stage =>
        rw [phase] at standing
        obtain rfl : found = link := Option.some.inj (by rw [phase] at linked; exact linked)
        obtain ⟨short, answered, underway, bounded⟩ := standing
        obtain ⟨-, rfl, replied, place⟩ := underway.serve (by decide) short served
        refine sound.log linked ?_ (by rw [phase]; rfl) rfl ⟨short, some answer, replied, ?_⟩
        · rw [place]
          exact (replied.after answer rfl).1
        · intro other same
          obtain rfl := Option.some.inj same
          refine ⟨fits, ?_⟩
          rw [place]
          exact List.mem_append_right _ List.mem_cons_self
  · cases moved

theorem Sound.next {event : Event} (sound : Sound setup state)
    (moved : PythonWorker.next setup state event = some after) : Sound setup after := by
  cases event with
  | take job => exact sound.take moved
  | connect => exact sound.connect moved
  | refuse => exact sound.refuse moved
  | push count => exact sound.push moved
  | recv count => exact sound.recv moved
  | close => exact sound.close moved
  | fail => exact sound.fail moved
  | serve answer => exact sound.serve moved

end

/-- However its calls break off, a worker gives no job the output of another. -/
theorem worker_results_match {setup : Setup} {final : State} {trace : List Event}
    (ran : run (next setup) start trace = some final) : Matched setup final ∧ Distinct final := by
  have sound : Sound setup final :=
    run_invariant start_sound (fun _ _ _ sound moved => sound.next moved) ran
  exact ⟨sound.matched, sound.distinct⟩

def resultFrame (output : String) : PyValue :=
  .dict [("type", .text "result"), ("task_id", .text "t"), ("node_id", .text "n"),
    ("success", .boolean true), ("output", .text output), ("duration_ms", .number false)]

def twoJobs : Setup where
  hello := [7, 7]
  dumps request := request.payload
  loads
    | [0] => some (.dict [("type", .text "welcome")])
    | [1] => some (resultFrame "one")
    | [2] => some (resultFrame "two")
    | _ => none
  b64decode
    | .text value => some (asBytes value)
    | _ => none
  float _ := true

def echoJob (payload : Bytes) : Job := ⟨⟨"echo", none, [], []⟩, payload⟩

def timesOut : List Event :=
  [.take (echoJob [1]), .connect, .push 6, .serve [0], .recv 5, .push 5, .fail,
    .take (echoJob [2]), .connect, .push 6, .serve [0], .recv 5, .push 2, .push 3, .serve [2],
    .recv 3, .recv 2]

theorem second_job_matched :
    ∃ final, run (next twoJobs) start timesOut = some final ∧
      final.finished = [⟨echoJob [1], some (1, 6), .error .os⟩,
        ⟨echoJob [2], some (2, 6), .ok (asBytes "two")⟩] ∧
      Matched twoJobs final ∧ Distinct final := by
  have tested : (run (next twoJobs) start timesOut).any (fun state =>
      state.finished = [⟨echoJob [1], some (1, 6), .error .os⟩,
        ⟨echoJob [2], some (2, 6), .ok (asBytes "two")⟩]) = true := by
    decide +kernel
  obtain ⟨final, ran, finished⟩ := run_tested tested
  exact ⟨final, ran, of_decide_eq_true finished, worker_results_match ran⟩

end AetherMesh.PythonWorker
