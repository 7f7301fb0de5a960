import AetherMesh.Controller.ClientHandler

/-!
The gate in front of the dispatcher. Nothing passes it before a hello with a valid token, and
every request that is read is answered in its turn, unless serving it panics.
-/

namespace AetherMesh

def SecurityConfig.Accepts (config : SecurityConfig) (presented : Option String) : Prop :=
  ∃ token, presented = some token ∧
    (config.authToken = some token ∨ ∃ label, (label, token) ∈ config.nodeTokens)

theorem constantTimeEq_asBytes {left right : String} :
    constantTimeEq (asBytes left) (asBytes right) = true ↔ left = right := by
  rw [constantTimeEq_iff]
  exact ⟨asBytes_injective, congrArg asBytes⟩

theorem foldl_matched {tokens : List (String × String)} {presented : String}
    {shared : Option (Option String)} {label : Option String}
    (found : tokens.foldl (fun matched entry =>
      if constantTimeEq (asBytes entry.2) (asBytes presented) then some (some entry.1)
      else matched) shared = some label) :
    shared.isSome = true ∨ ∃ label, (label, presented) ∈ tokens := by
  induction tokens generalizing shared with
  | nil =>
      rw [List.foldl_nil] at found
      exact .inl (by rw [found]; rfl)
  | cons entry rest ih =>
      rw [List.foldl_cons] at found
      rcases ih found with given | ⟨label, later⟩
      · split at given
        · rename_i same
          rw [constantTimeEq_asBytes] at same
          exact .inr ⟨entry.1, same ▸ List.mem_cons_self⟩
        · exact .inl given
      · exact .inr ⟨label, List.mem_cons_of_mem _ later⟩

theorem authorize_accepts {config : SecurityConfig} {presented : Option String}
    (required : config.requiresAuth = true) (authorized : config.authorize presented = .ok ()) :
    config.Accepts presented := by
  unfold SecurityConfig.authorize SecurityConfig.identify at authorized
  rw [required] at authorized
  simp only [Bool.not_true, Bool.false_eq_true, if_false] at authorized
  split at authorized
  · cases authorized
  · rename_i token
    split at authorized
    · rename_i label matched
      refine ⟨token, rfl, ?_⟩
      rcases foldl_matched matched with shared | node
      · obtain ⟨own, given⟩ := Option.isSome_iff_exists.mp shared
        obtain ⟨known, configured, same⟩ := Option.bind_eq_some_iff.mp given
        split at same
        · rename_i equal
          rw [constantTimeEq_asBytes] at equal
          exact .inl (equal ▸ configured)
        · cases same
      · exact .inr node
    · cases authorized

namespace ClientHandler

open Framing Dispatcher Runs

def Admitted (security : SecurityConfig) (taken : List Taken) : Prop :=
  ∃ token, Taken.request (.hello token) ∈ taken ∧ security.Accepts token

/-- What a frame is answered, as far as the client handler decides it. -/
def Fits (security : SecurityConfig) : Taken → ClientResponse → Prop
  | .bad message, response => response = .error message
  | .request (.hello token), response =>
      match security.authorize token with
      | .ok _ => response = .welcome clientProtocolVersion
      | .error error => response = .error error.text
  | .request _, _ => True

/-- The request that is being handled can be answered with the client doing nothing. -/
def Answerable (setup : Setup) (state : State) : Prop :=
  ∃ trace final, (∀ event ∈ trace, event.isOurs = true) ∧
    run (next setup) state trace = some final ∧ final.answered.length = state.taken.length

/-- Commands come from frames behind a hello that was accepted, and the frames are answered one
after the other, each once. -/
structure Orderly (setup : Setup) (state : State) : Prop where
  gate : setup.security.requiresAuth = true → ∀ entry ∈ state.sent,
    Admitted setup.security (state.taken.take entry.1)
  order : state.answered.map Prod.fst = List.range state.answered.length
  fits : ∀ entry ∈ state.answered, ∃ taken, state.taken[entry.1]? = some taken ∧
    Fits setup.security taken entry.2
  owed : state.answered.length = state.taken.length ∨
    state.answered.length + 1 = state.taken.length ∧ Answerable setup state

/-- The request that is read next does not make the parser cut a character in two. -/
def Whole (setup : Setup) (state : State) : Event → Prop
  | .read => ∀ request rest, state.authorized = true →
      readFrame setup.requests state.remaining = (.ok (some request), rest) →
      ¬ request.Straddles setup.base64
  | _ => True

def Handling (setup : Setup) (state : State) : Prop :=
  match state.stage with
  | .reading | .returned => state.answered.length = state.taken.length
  | .sending _ | .awaiting _ =>
      ∃ request, state.taken[state.answered.length]? = some (.request request) ∧
        (∀ token, request ≠ .hello token) ∧ state.answered.length + 1 = state.taken.length ∧
        (setup.security.requiresAuth = true →
          Admitted setup.security (state.taken.take state.answered.length))
  | .answering response =>
      ∃ taken, state.taken[state.answered.length]? = some taken ∧ Fits setup.security taken response ∧
        state.answered.length + 1 = state.taken.length
  | .panicked =>
      ∃ request, state.taken[state.answered.length]? = some (.request request) ∧
        state.answered.length + 1 = state.taken.length

structure Handled (setup : Setup) (state : State) : Prop where
  handling : Handling setup state
  admitted : state.authorized = true → setup.security.requiresAuth = true →
    Admitted setup.security state.taken
  gate : setup.security.requiresAuth = true → ∀ entry ∈ state.sent,
    Admitted setup.security (state.taken.take entry.1)
  sent : ∀ entry ∈ state.sent, entry.1 < state.taken.length
  order : state.answered.map Prod.fst = List.range state.answered.length
  fits : ∀ entry ∈ state.answered, ∃ taken, state.taken[entry.1]? = some taken ∧
    Fits setup.security taken entry.2

section

variable {setup : Setup} {state after : State} {event : Event}

theorem Admitted.grow {security : SecurityConfig} {taken : List Taken} (admitted : Admitted security taken)
    (more : List Taken) : Admitted security (taken ++ more) := by
  obtain ⟨token, hello, accepted⟩ := admitted
  exact ⟨token, List.mem_append_left _ hello, accepted⟩

theorem fits_other {request : ClientRequest} (other : ∀ token, request ≠ .hello token)
    (response : ClientResponse) : Fits setup.security (.request request) response := by
  cases request with
  | hello token => exact absurd rfl (other token)
  | _ => trivial

theorem start_handled (setup : Setup) : Handled setup (start setup) where
  handling := rfl
  admitted authorized required := by
    change (!setup.security.requiresAuth) = true at authorized
    rw [required] at authorized
    cases authorized
  gate _ entry listed := by cases listed
  sent entry listed := by cases listed
  order := rfl
  fits entry listed := by cases listed

theorem Handled.take (handled : Handled setup state) {taken : Taken} {rest : Bytes} {stage : Stage}
    {authorized : Bool}
    (handling : Handling setup { state.take taken rest with stage, authorized })
    (admitted : authorized = true → setup.security.requiresAuth = true →
      Admitted setup.security (state.taken ++ [taken])) :
    Handled setup { state.take taken rest with stage, authorized } where
  handling := handling
  admitted := admitted
  gate required entry listed := by
    have before := handled.sent entry listed
    change Admitted setup.security ((state.taken ++ [taken]).take entry.1)
    rw [List.take_append_of_le_length before.le]
    exact handled.gate required entry listed
  sent entry listed := by
    change entry.1 < (state.taken ++ [taken]).length
    rw [List.length_append]
    exact Nat.lt_of_lt_of_le (handled.sent entry listed) (Nat.le_add_right _ _)
  order := handled.order
  fits entry listed := by
    obtain ⟨frame, found, fits⟩ := handled.fits entry listed
    refine ⟨frame, ?_, fits⟩
    change (state.taken ++ [taken])[entry.1]? = some frame
    rw [List.getElem?_append_left (List.getElem?_eq_some_iff.mp found).1]
    exact found

theorem Handled.reading (handled : Handled setup state) (atRead : state.stage = .reading) :
    state.answered.length = state.taken.length := by
  have handling := handled.handling
  simp only [Handling, atRead] at handling
  exact handling

theorem Handled.newest (handled : Handled setup state) (atRead : state.stage = .reading)
    (taken : Taken) :
    (state.taken ++ [taken])[state.answered.length]? = some taken ∧
      state.answered.length + 1 = (state.taken ++ [taken]).length := by
  have even := handled.reading atRead
  constructor
  · rw [even, List.getElem?_concat_length]
  · rw [even, List.length_append, List.length_singleton]

theorem Handled.serving (handled : Handled setup state) {command : Command}
    (waiting : state.stage = .sending command ∨ state.stage = .awaiting command) :
    ∃ request, state.taken[state.answered.length]? = some (.request request) ∧
      (∀ token, request ≠ .hello token) ∧ state.answered.length + 1 = state.taken.length ∧
      (setup.security.requiresAuth = true →
        Admitted setup.security (state.taken.take state.answered.length)) := by
  have handling := handled.handling
  rcases waiting with atSend | atReply
  · simpa only [Handling, atSend] using handling
  · simpa only [Handling, atReply] using handling

theorem Handled.answering (handled : Handled setup state) (atRead : state.stage = .reading)
    {taken : Taken} {rest : Bytes} {response : ClientResponse} {authorized : Bool}
    (fits : Fits setup.security taken response)
    (admitted : authorized = true → setup.security.requiresAuth = true →
      Admitted setup.security (state.taken ++ [taken])) :
    Handled setup { state.take taken rest with stage := .answering response, authorized } := by
  obtain ⟨here, one⟩ := handled.newest atRead taken
  exact handled.take ⟨taken, here, fits, one⟩ admitted

theorem Handled.step (handled : Handled setup state) (moved : next setup state event = some after) :
    Handled setup after := by
  have still : ∀ taken, state.authorized = true → setup.security.requiresAuth = true →
      Admitted setup.security (state.taken ++ [taken]) :=
    fun taken authorized required => (handled.admitted authorized required).grow [taken]
  cases next_step moved with
  | arrive bytes =>
      exact ⟨handled.handling, handled.admitted, handled.gate, handled.sent, handled.order, handled.fits⟩
  | finish =>
      exact ⟨handled.handling, handled.admitted, handled.gate, handled.sent, handled.order, handled.fits⟩
  | leave =>
      exact ⟨handled.handling, handled.admitted, handled.gate, handled.sent, handled.order, handled.fits⟩
  | readEnd atRead =>
      exact ⟨handled.reading atRead, handled.admitted, handled.gate, handled.sent, handled.order,
        handled.fits⟩
  | readBad message rest atRead found => exact handled.answering atRead rfl (still (.bad message))
  | readWelcome token rest atRead found accepted =>
      refine handled.answering atRead ?_ ?_
      · simp only [Fits, accepted]
      · intro _ required
        exact ⟨token, List.mem_append_right _ List.mem_cons_self, authorize_accepts required accepted⟩
  | readRefused request rest message atRead found hello calm =>
      refine handled.answering atRead ?_ (still (.request request))
      cases request with
      | hello token =>
          obtain ⟨error, refused, rfl⟩ := hello token rfl
          simp only [Fits, refused]
      | _ => trivial
  | readServed request rest command atRead found authorized other prepared =>
      obtain ⟨here, one⟩ := handled.newest atRead (.request request)
      refine handled.take ⟨request, here, other, one, ?_⟩ (still (.request request))
      intro required
      change Admitted setup.security ((state.taken ++ [Taken.request request]).take state.answered.length)
      rw [handled.reading atRead, List.take_left]
      exact handled.admitted authorized required
  | readPanics request rest atRead found authorized panics =>
      obtain ⟨here, one⟩ := handled.newest atRead (.request request)
      exact handled.take ⟨request, here, one⟩ (still (.request request))
  | send command atSend =>
      obtain ⟨request, here, other, one, gate⟩ := handled.serving (.inl atSend)
      have current : state.current = state.answered.length := by
        unfold State.current
        omega
      refine ⟨⟨request, here, other, one, gate⟩, handled.admitted, ?_, ?_, handled.order, handled.fits⟩
      · intro required entry listed
        rcases List.mem_append.mp listed with old | new
        · exact handled.gate required entry old
        · rw [List.mem_singleton.mp new, current]
          exact gate required
      · intro entry listed
        rcases List.mem_append.mp listed with old | new
        · exact handled.sent entry old
        · rw [List.mem_singleton.mp new, current, ← one]
          exact Nat.lt_succ_self _
  | respond _ response command waiting _ =>
      obtain ⟨request, here, other, one, -⟩ := handled.serving waiting
      exact ⟨⟨.request request, here, fits_other other response, one⟩, handled.admitted, handled.gate,
        handled.sent, handled.order, handled.fits⟩
  | write response atWrite =>
      have handling := handled.handling
      simp only [Handling, atWrite] at handling
      obtain ⟨taken, here, fits, one⟩ := handling
      have current : state.current = state.answered.length := by
        unfold State.current
        omega
      have level : (state.answered ++ [(state.current, response)]).length = state.taken.length := by
        rw [List.length_append, List.length_singleton, one]
      refine ⟨?_, handled.admitted, handled.gate, handled.sent, ?_, ?_⟩
      · cases listening : state.listening with
        | true => exact level
        | false => exact level
      · rw [List.map_append, handled.order, List.length_append, List.map_singleton, current,
          List.length_singleton, List.range_succ]
      · intro entry listed
        rcases List.mem_append.mp listed with old | new
        · exact handled.fits entry old
        · rw [List.mem_singleton.mp new, current]
          exact ⟨taken, here, fits⟩

theorem Answerable.before (answerable : Answerable setup after) (ours : event.isOurs = true)
    (moved : next setup state event = some after) (same : after.taken = state.taken) :
    Answerable setup state := by
  obtain ⟨trace, final, own, ran, answered⟩ := answerable
  refine ⟨event :: trace, final, List.forall_mem_cons.mpr ⟨ours, own⟩, ?_, same ▸ answered⟩
  rw [run, moved]
  exact ran

theorem answerable_answering {response : ClientResponse} (atWrite : state.stage = .answering response)
    (one : state.answered.length + 1 = state.taken.length) : Answerable setup state := by
  have wrote : next setup state .write = some { state with
      answered := state.answered ++ [(state.current, response)]
      stage := if state.listening then .reading else .returned } := by
    simp only [next, write, atWrite]
  refine ⟨[.write], _, by simp [Event.isOurs], by rw [run, wrote]; rfl, ?_⟩
  rw [← one]
  simp

theorem answerable_awaiting {command : Command} (atReply : state.stage = .awaiting command)
    (one : state.answered.length + 1 = state.taken.length) : Answerable setup state := by
  have replied : next setup state (.reply none) =
      some { state with stage := .answering (.error (dropped command)) } := by
    simp only [next, reply, atReply]
  refine Answerable.before ?_ rfl replied rfl
  exact answerable_answering rfl one

theorem answerable_sending {command : Command} (atSend : state.stage = .sending command)
    (one : state.answered.length + 1 = state.taken.length) : Answerable setup state := by
  have taken : next setup state (.send true) = some { state with
      stage := .awaiting command
      sent := state.sent ++ [(state.current, command)] } := by
    simp only [next, send, atSend, if_true]
  refine Answerable.before ?_ rfl taken rfl
  exact answerable_awaiting rfl one

theorem not_answerable_panicked (panicked : state.stage = .panicked)
    (one : state.answered.length + 1 = state.taken.length) : ¬ Answerable setup state := by
  rintro ⟨trace, final, own, ran, answered⟩
  cases trace with
  | nil =>
      obtain rfl := Option.some.inj ran
      omega
  | cons event rest =>
      have stuck : next setup state event = none := by
        have ours := own event List.mem_cons_self
        cases event with
        | send accepted => simp only [next, send, panicked]
        | reply answer => simp only [next, reply, panicked]
        | write => simp only [next, write, panicked]
        | _ => cases ours
      rw [run, stuck] at ran
      cases ran

theorem Handled.orderly_iff (handled : Handled setup state) :
    Orderly setup state ↔ state.stage ≠ .panicked := by
  have handling := handled.handling
  constructor
  · intro orderly panicked
    simp only [Handling, panicked] at handling
    obtain ⟨-, -, one⟩ := handling
    rcases orderly.owed with even | ⟨-, answerable⟩
    · omega
    · exact not_answerable_panicked panicked one answerable
  · intro calm
    refine ⟨handled.gate, handled.order, handled.fits, ?_⟩
    cases stage : state.stage with
    | reading => exact .inl (handled.reading stage)
    | returned =>
        simp only [Handling, stage] at handling
        exact .inl handling
    | panicked => exact absurd stage calm
    | answering response =>
        simp only [Handling, stage] at handling
        obtain ⟨-, -, -, one⟩ := handling
        exact .inr ⟨one, answerable_answering stage one⟩
    | awaiting command =>
        obtain ⟨-, -, -, one, -⟩ := handled.serving (.inr stage)
        exact .inr ⟨one, answerable_awaiting stage one⟩
    | sending command =>
        obtain ⟨-, -, -, one, -⟩ := handled.serving (.inl stage)
        exact .inr ⟨one, answerable_sending stage one⟩

theorem whole_iff (calm : state.stage ≠ .panicked) (moved : next setup state event = some after) :
    after.stage ≠ .panicked ↔ Whole setup state event := by
  cases next_step moved with
  | arrive bytes => exact iff_of_true calm trivial
  | finish => exact iff_of_true calm trivial
  | leave => exact iff_of_true calm trivial
  | readEnd atRead short =>
      refine iff_of_true nofun ?_
      intro request rest _ found
      obtain ⟨payload, reads, -⟩ := readFrame_some found
      rw [reads] at short
      cases short
  | readBad message rest atRead found =>
      refine iff_of_true nofun ?_
      intro request other _ also
      rw [found] at also
      cases also
  | readWelcome token rest atRead found accepted =>
      refine iff_of_true nofun ?_
      intro request other _ also
      rw [found] at also
      cases also
      exact id
  | readRefused request rest message atRead found hello still =>
      refine iff_of_true nofun ?_
      intro other left authorized also straddles
      rw [found] at also
      cases also
      exact still authorized ((prepare_panics _ _ request).mpr straddles)
  | readServed request rest command atRead found authorized other prepared =>
      refine iff_of_true nofun ?_
      intro same left _ also straddles
      rw [found] at also
      cases also
      have panics := (prepare_panics (setup.ids state.taken.length) state.taken.length request).mpr
        straddles
      exact absurd (prepared.symm.trans panics) (by simp)
  | readPanics request rest atRead found authorized panics =>
      refine iff_of_false (fun calm => calm rfl) ?_
      intro whole
      exact whole request rest authorized found ((prepare_panics _ _ request).mp panics)
  | send command atSend => exact iff_of_true nofun trivial
  | respond event response command waiting ours =>
      refine iff_of_true nofun ?_
      cases event with
      | read => cases ours
      | _ => trivial
  | write response atWrite =>
      refine iff_of_true ?_ trivial
      cases listening : state.listening <;> simp

/-- Whatever a client sends, commands pass the gate only behind a hello with a valid token and the
requests are answered in turn, exactly as long as none that is served makes the parser cut a
character in two. -/
theorem gate_iff {final : State} {trace : List Event}
    (ran : run (next setup) (start setup) trace = some final) :
    Always (next setup) (Orderly setup) (start setup) trace ↔
      Along (next setup) (Whole setup) (start setup) trace := by
  have initial := start_handled setup
  have rule := @always_iff_along State Event (next setup) (Whole setup) (Orderly setup) (start setup)
    final trace (Handled setup) initial (initial.orderly_iff.mpr nofun)
  refine rule ?_ ran
  intro state event after handled moved
  have kept := handled.step moved
  refine ⟨kept, fun orderly => ?_⟩
  rw [kept.orderly_iff]
  exact whole_iff (handled.orderly_iff.mp orderly) moved

end

def helloJson : Bytes := asBytes "\x7b\"type\":\"hello\",\"token\":\"secret\"\x7d"

def nodesJson : Bytes := asBytes "\x7b\"type\":\"nodes\"\x7d"

def guarded (known : List (ClientRequest × Bytes)) : Setup where
  security := ⟨some "secret", []⟩
  requests := .table known
  base64 text := if text = "" then .ok [] else .error "other"
  ids := fun _ _ => ⟨0⟩

def asksOnly : Setup := guarded [(.hello (some "secret"), helloJson), (.nodes, nodesJson)]

def asksForNodes : List Event :=
  [.arrive (lengthHeader.frame nodesJson), .read, .write,
    .arrive (lengthHeader.frame helloJson), .read, .write,
    .arrive (lengthHeader.frame nodesJson), .read, .send true, .reply (some (.nodes [])), .write]

theorem nodes_behind_hello :
    ∃ final, run (next asksOnly) (start asksOnly) asksForNodes = some final ∧
      final.sent.map Prod.fst = [2] ∧
      final.answered = [(0, .error "send hello with a valid token first"),
        (1, .welcome clientProtocolVersion), (2, .nodes [])] ∧
      Always (next asksOnly) (Orderly asksOnly) (start asksOnly) asksForNodes := by
  have tested : (run (next asksOnly) (start asksOnly) asksForNodes).any
      (fun state => state.sent.map Prod.fst = [2] ∧
        state.answered = [(0, .error "send hello with a valid token first"),
          (1, .welcome clientProtocolVersion), (2, .nodes [])]) = true := by
    decide +kernel
  obtain ⟨final, ran, held⟩ := run_tested tested
  obtain ⟨sent, answered⟩ := of_decide_eq_true held
  have plain : ∀ state event, Whole asksOnly state event := by
    intro state event
    cases event with
    | read =>
        intro request rest _ found
        obtain ⟨payload, -, decoded⟩ := readFrame_some found
        have listed := SerdeJson.table_fromSlice decoded
        simp only [List.map_cons, List.map_nil, List.mem_cons, List.not_mem_nil, or_false] at listed
        rcases listed with rfl | rfl <;> exact id
    | _ => trivial
  have whole := @along_invariant State Event (next asksOnly) (Whole asksOnly) (fun _ => True)
    (start asksOnly) trivial (fun state event _ => plain state event) (fun _ _ _ _ _ => trivial)
    asksForNodes
  exact ⟨final, ran, sent, answered, (gate_iff ran).mpr whole⟩

def straddledText : String := "aé" ++ String.ofList (List.replicate 61 'a')

def straddledSubmission : ClientRequest :=
  .submit ⟨⟨"echo", "", [straddledText], [], none, none⟩, none⟩

def submissionJson : Bytes :=
  asBytes ("\x7b\"type\":\"submit\",\"kind\":\"echo\",\"inputs\":[\"" ++ straddledText ++ "\"]\x7d")

def submitsOnly : Setup :=
  guarded [(.hello (some "secret"), helloJson), (straddledSubmission, submissionJson)]

def submitsStraddled : List Event :=
  [.arrive (lengthHeader.frame helloJson), .read, .write,
    .arrive (lengthHeader.frame submissionJson), .read]

/-- The submission is read and never answered: parsing its input stops the controller. -/
theorem straddled_id_panics :
    (asBytes straddledText).length = 64 ∧
    ∃ final, run (next submitsOnly) (start submitsOnly) submitsStraddled = some final ∧
      final.taken = [.request (.hello (some "secret")), .request straddledSubmission] ∧
      final.answered = [(0, .welcome clientProtocolVersion)] ∧ final.stage = .panicked ∧
      ¬ Always (next submitsOnly) (Orderly submitsOnly) (start submitsOnly) submitsStraddled := by
  have tested : (run (next submitsOnly) (start submitsOnly) submitsStraddled).any
      (fun state => state.stage.isPanicked = true ∧
        state.taken = [.request (.hello (some "secret")), .request straddledSubmission] ∧
        state.answered = [(0, .welcome clientProtocolVersion)]) = true := by
    decide +kernel
  obtain ⟨final, ran, held⟩ := run_tested tested
  obtain ⟨stage, taken, answered⟩ := of_decide_eq_true held
  have panicked := isPanicked_iff.mp stage
  have handled : Handled submitsOnly final :=
    run_invariant (start_handled submitsOnly) (fun _ _ _ handled moved => handled.step moved) ran
  refine ⟨by decide +kernel, final, ran, taken, answered, panicked, fun always => ?_⟩
  exact handled.orderly_iff.mp (always_last always ran) panicked

end ClientHandler

end AetherMesh
