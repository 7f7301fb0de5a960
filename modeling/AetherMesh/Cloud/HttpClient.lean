import AetherMesh.Cloud.Signing
import AetherMesh.Library.Fetching

/-!
The client that every cloud adapter shares. What it is connected to is a world that answers requests,
tells the time and lets it pass; a request is made again when the provider throttles or is down.
-/

namespace AetherMesh.Http

open Signing (Crypto)
open Fetching

abbrev Text := List Char

inductive CloudError
  | unknownResource (resource : Text)
  | deployFailed (resource reason : Text)
  | request (detail : Text)
  | throttled (detail : Text)
  | unavailable (detail : Text)
  | unauthorized (detail : Text)
  | notFound (detail : Text)
deriving DecidableEq

inductive Credentials
  | bearer (token : Text)
  | awsSigV4 (accessKeyId secretAccessKey : Text) (sessionToken : Option Text) (region service : Text)
  | none

structure HttpRequest where
  method : Text
  url : Text
  body : Option Bytes
  headers : List (Text × Text)
deriving DecidableEq

/-- The body comes after the status; reading it may break off. -/
structure Reply where
  status : Nat
  text : Except Text Text
deriving DecidableEq

/-- A request is answered with a reply or with the text of what went wrong on the way. Waits and the
time that has passed are in nanoseconds, the time of day in seconds since the epoch. -/
structure World (σ : Type) where
  answer : HttpRequest → σ → σ × Except Text Reply
  now : σ → UInt64
  elapsed : σ → Nat
  sleep : Nat → σ → σ

structure HttpClient where
  baseUrl : Text
  credentials : Credentials
  maxAttempts : Nat
  backoff : Nat
  attempted : 0 < maxAttempts

def HttpClient.new (baseUrl : Text) (credentials : Credentials) : HttpClient where
  baseUrl := (baseUrl.reverse.dropWhile (· = '/')).reverse
  credentials
  maxAttempts := 4
  backoff := 200000000
  attempted := by decide

def HttpClient.withRetry (client : HttpClient) (maxAttempts backoff : Nat) : HttpClient :=
  { client with
    maxAttempts := max maxAttempts 1
    backoff
    attempted := by omega }

section

variable {σ : Type} (crypto : Crypto) (world : World σ) (client : HttpClient)

def sigv4Headers (method path : Text) (body : Bytes) (now : UInt64) : Option (List (Text × Text)) :=
  match client.credentials with
  | .awsSigV4 accessKeyId secretAccessKey sessionToken region service =>
      Signing.sign crypto {
        method
        host := ((splitOnce "://".toList client.baseUrl).map fun (_, rest) =>
          ((splitOnce "://".toList rest).map Prod.fst).getD rest).getD client.baseUrl
        path
        body
        accessKeyId
        secretAccessKey
        sessionToken
        region
        service
        seconds := now }
  | _ => some []

def contentHeaders : Option Bytes → List (Text × Text)
  | some _ => [("content-type".toList, "application/json".toList)]
  | none => []

def headersFor (method path : Text) (body : Option Bytes) (now : UInt64) :
    Option (List (Text × Text)) :=
  match client.credentials with
  | .bearer token =>
      some (contentHeaders body ++ [("authorization".toList, "Bearer ".toList ++ token)])
  | .awsSigV4 .. =>
      (sigv4Headers crypto client method path (body.getD []) now).map (contentHeaders body ++ ·)
  | .none => some (contentHeaders body)

def urlOf (path : Text) : Text := client.baseUrl ++ '/' :: path.dropWhile (· = '/')

def busyStatus (status : Nat) : Bool := status = 429 ∨ 500 ≤ status ∧ status ≤ 599

/-- A provider is heard to be busy when its whole reply arrives. -/
def Reply.busy (reply : Reply) : Bool := reply.text.isOk && busyStatus reply.status

def readStatus (url : Text) (status : Nat) (text : Text) : Except CloudError Text :=
  if 200 ≤ status ∧ status ≤ 299 then .ok text
  else
    let detail := (toString status).toList ++ ' ' :: url ++ ": ".toList ++ text.take 300
    if status = 429 then .error (.throttled detail)
    else if status = 401 ∨ status = 403 then .error (.unauthorized detail)
    else if status = 404 then .error (.notFound detail)
    else if 500 ≤ status ∧ status ≤ 599 then .error (.unavailable detail)
    else .error (.request detail)

/-- The body is read before the status is looked at. -/
def readReply (url : Text) (reply : Reply) : Except CloudError Text :=
  match reply.text with
  | .error detail => .error (.request detail)
  | .ok text => readStatus url reply.status text

def readOutcome (url : Text) : Except Text Reply → Except CloudError Text
  | .error detail => .error (.request detail)
  | .ok reply => readReply url reply

def sendOnce (method path : Text) (body : Option Bytes) (state : σ) :
    σ × Except CloudError Text :=
  match headersFor crypto client method path body (world.now state) with
  | none => (state, .error (.request []))
  | some headers =>
      let (later, outcome) := world.answer ⟨method, urlOf client path, body, headers⟩ state
      (later, readOutcome (urlOf client path) outcome)

def CloudError.retryable : CloudError → Bool
  | .throttled _ | .unavailable _ => true
  | _ => false

/-- The wait doubles with each attempt, and no attempt is made after the last one. -/
def send (method path : Text) (body : Option Bytes) (state : σ) : σ × Except CloudError Text :=
  retry (sendOnce crypto world client method path body) CloudError.retryable world.sleep
    (client.maxAttempts - 1) client.backoff state

variable {Page : Type} (decode : Text → Except Text Page)

def sendJson (method path : Text) (body : Option Bytes) (state : σ) : σ × Except CloudError Page :=
  match send crypto world client method path body state with
  | (later, .error error) => (later, .error error)
  | (later, .ok text) =>
      match decode text with
      | .ok page => (later, .ok page)
      | .error error => (later, .error (.request (error ++ ": ".toList ++ text.take 200)))

def getJson (path : Text) (state : σ) : σ × Except CloudError Page :=
  sendJson crypto world client decode "GET".toList path none state

def postJson (path : Text) (body : Bytes) (state : σ) : σ × Except CloudError Page :=
  sendJson crypto world client decode "POST".toList path (some body) state

def nextPath (next : Page → Option Text) (apply : Text → Text → Text) (firstPath : Text) (page : Page) :
    Option Text :=
  (next page).bind fun token => if token = [] then none else some (apply firstPath token)

def getAllPages (firstPath : Text) (next : Page → Option Text) (apply : Text → Text → Text) (state : σ) :
    σ × Except CloudError (List Page) :=
  follow (getJson crypto world client decode) (nextPath next apply firstPath)
    (.request "pagination did not terminate after 100 pages".toList) 100 firstPath state

/-- Nothing is returned when the polls that are allowed for did not end. The deadline is given as it
is printed, too. -/
def pollUntil (path : Text) (done : Page → Bool) (interval deadline started : Nat) (printed : Text) :
    Nat → σ → Option (σ × Except CloudError Page)
  | 0, _ => none
  | polls + 1, state =>
      match getJson crypto world client decode path state with
      | (later, .error error) => some (later, .error error)
      | (later, .ok page) =>
          if done page then some (later, .ok page)
          else if deadline ≤ world.elapsed later - started then
            some (later, .error (.request (path ++ " did not finish within ".toList ++ printed)))
          else pollUntil path done interval deadline started printed polls
            (world.sleep interval later)

end

section

variable {σ : Type} {crypto : Crypto} {world : World σ} {client : HttpClient}
variable {method path : Text} {body : Option Bytes} {state : σ}

theorem sign_isSome (crypto : Crypto) (request : Signing.Request) :
    (Signing.sign crypto request).isSome := by
  obtain ⟨date, -, found⟩ := timestamps_eq request.seconds.toNat_lt
  rw [Signing.sign, found]
  rfl

theorem headersFor_isSome (crypto : Crypto) (client : HttpClient) (method path : Text)
    (body : Option Bytes) (now : UInt64) :
    ∃ headers, headersFor crypto client method path body now = some headers := by
  rw [headersFor]
  split
  · exact ⟨_, rfl⟩
  · rename_i accessKeyId secretAccessKey sessionToken region service given
    rw [sigv4Headers, given]
    have signed := sign_isSome crypto
    obtain ⟨headers, found⟩ := Option.isSome_iff_exists.mp (signed _)
    exact ⟨_, congrArg (Option.map _) found⟩
  · exact ⟨_, rfl⟩

theorem sendOnce_eq (crypto : Crypto) (world : World σ) (client : HttpClient) (method path : Text)
    (body : Option Bytes) (state : σ) : ∃ headers,
    sendOnce crypto world client method path body state =
      ((world.answer ⟨method, urlOf client path, body, headers⟩ state).1,
        readOutcome (urlOf client path)
          (world.answer ⟨method, urlOf client path, body, headers⟩ state).2) := by
  obtain ⟨headers, found⟩ := headersFor_isSome crypto client method path body (world.now state)
  refine ⟨headers, ?_⟩
  rw [sendOnce, found]

theorem readStatus_retryable {url text : Text} {status : Nat} {error : CloudError}
    (failed : readStatus url status text = .error error) :
    error.retryable = busyStatus status := by
  rw [readStatus] at failed
  rw [busyStatus]
  split at failed
  · cases failed
  · split at failed
    · cases failed
      exact (decide_eq_true (Or.inl ‹_›)).symm
    · split at failed
      · cases failed
        exact (decide_eq_false (by omega)).symm
      · split at failed
        · cases failed
          exact (decide_eq_false (by omega)).symm
        · split at failed
          · cases failed
            exact (decide_eq_true (Or.inr ‹_›)).symm
          · cases failed
            exact (decide_eq_false (by omega)).symm

theorem busyStatus_failed {url text : Text} {status : Nat} (busy : busyStatus status = true) :
    ∃ error, readStatus url status text = .error error := by
  rw [busyStatus, decide_eq_true_eq] at busy
  rw [readStatus, if_neg (by omega)]
  repeat' split
  all_goals exact ⟨_, rfl⟩

/-- A request is made again after a reply that says so, and after no other outcome. -/
theorem retryable_iff {url : Text} {outcome : Except Text Reply} {error : CloudError}
    (failed : readOutcome url outcome = .error error) :
    error.retryable = true ↔ ∃ reply, outcome = .ok reply ∧ reply.busy = true := by
  cases outcome with
  | error detail =>
      cases failed
      simp [CloudError.retryable]
  | ok reply =>
      simp only [readOutcome, readReply] at failed
      simp only [Except.ok.injEq, exists_eq_left', Reply.busy]
      split at failed
      · rename_i detail broken
        cases failed
        simp [CloudError.retryable, broken, Except.isOk, Except.toBool]
      · rename_i text whole
        rw [readStatus_retryable failed, whole]
        exact Iff.rfl

end

/-- A provider that has one reply for each request, and throttles or is down at some of the requests,
counted over its whole life. -/
structure Throttled {σ : Type} (world : World σ) (count : σ → Nat) (busy : Nat → Prop)
    (honest : Text → Text → Option Bytes → Reply) : Prop where
  asked : ∀ request state, count (world.answer request state).1 = count state + 1
  slept : ∀ wait state, count (world.sleep wait state) = count state
  idle : ∀ request state, ¬busy (count state) →
    (world.answer request state).2 = .ok (honest request.method request.url request.body)
  failing : ∀ request state, busy (count state) →
    ∃ reply, (world.answer request state).2 = .ok reply ∧ reply.busy = true
  calm : ∀ method url body, (honest method url body).busy = false

section

variable {σ : Type} {crypto : Crypto} {world : World σ} {client : HttpClient}
variable {method path : Text} {body : Option Bytes} {state : σ}
variable {count : σ → Nat} {busy : Nat → Prop} {honest : Text → Text → Option Bytes → Reply}

theorem busy_reply {url : Text} {reply : Reply} (busy : reply.busy = true) :
    ∃ error, readReply url reply = .error error ∧ error.retryable = true := by
  obtain ⟨whole, status⟩ := Bool.and_eq_true_iff.mp busy
  obtain ⟨code, _ | text⟩ := reply
  · cases whole
  · obtain ⟨error, failed⟩ := busyStatus_failed status
    exact ⟨error, failed, (readStatus_retryable failed).trans status⟩

theorem Throttled.attempts (throttled : Throttled world count busy honest) (crypto : Crypto)
    (client : HttpClient) (method path : Text) (body : Option Bytes) :
    Busy (sendOnce crypto world client method path body) CloudError.retryable world.sleep count busy
      (readReply (urlOf client path) (honest method (urlOf client path) body)) where
  asked state := by
    obtain ⟨headers, sent⟩ := sendOnce_eq crypto world client method path body state
    rw [sent]
    exact throttled.asked _ state
  slept := throttled.slept
  idle state idle := by
    obtain ⟨headers, sent⟩ := sendOnce_eq crypto world client method path body state
    rw [sent, throttled.idle _ state idle]
    rfl
  failing state now := by
    obtain ⟨headers, sent⟩ := sendOnce_eq crypto world client method path body state
    obtain ⟨reply, answered, status⟩ :=
      throttled.failing ⟨method, urlOf client path, body, headers⟩ state now
    rw [sent, answered]
    exact busy_reply status
  final error failed := by
    have same : readOutcome (urlOf client path) (.ok (honest method (urlOf client path) body)) =
        .error error := failed
    by_contra hope
    rw [Bool.not_eq_false] at hope
    obtain ⟨reply, answered, status⟩ := (retryable_iff same).mp hope
    cases answered
    rw [throttled.calm] at status
    cases status

def Patient (client : HttpClient) (busy : Nat → Prop) : Prop :=
  ∀ first, ∃ ahead < client.maxAttempts, ¬busy (first + ahead)

theorem Throttled.send_eq (throttled : Throttled world count busy honest)
    (patient : Patient client busy) :
    (send crypto world client method path body state).2 =
      readReply (urlOf client path) (honest method (urlOf client path) body) := by
  obtain ⟨ahead, within, idle⟩ := patient (count state)
  exact (throttled.attempts crypto client method path body).retry_outcome ⟨ahead, by omega, idle⟩

variable {Page : Type} {decode : Text → Except Text Page}

def pageAt (client : HttpClient) (honest : Text → Text → Option Bytes → Reply)
    (decode : Text → Except Text Page) (path : Text) : Except CloudError Page :=
  match readReply (urlOf client path) (honest "GET".toList (urlOf client path) none) with
  | .error error => .error error
  | .ok text =>
      match decode text with
      | .ok page => .ok page
      | .error error => .error (.request (error ++ ": ".toList ++ text.take 200))

theorem Throttled.getJson_eq (throttled : Throttled world count busy honest)
    (patient : Patient client busy) (path : Text) (state : σ) :
    (getJson crypto world client decode path state).2 = pageAt client honest decode path := by
  have sent : (send crypto world client "GET".toList path none state).2 =
      readReply (urlOf client path) (honest "GET".toList (urlOf client path) none) :=
    throttled.send_eq patient
  rw [getJson, sendJson, pageAt]
  cases result : send crypto world client "GET".toList path none state with
  | mk later outcome =>
      rw [result] at sent
      rw [← sent]
      cases outcome with
      | error error => rfl
      | ok text =>
          simp only
          cases decode text with
          | ok page => rfl
          | error error => rfl

/-- However often the provider throttles, as long as it does not for all the attempts of a request: the
pages are those that it has, each once and in their order, if there are no more than 100. -/
theorem pages_throttled (throttled : Throttled world count busy honest)
    (patient : Patient client busy) {firstPath : Text} {next : Page → Option Text}
    {apply : Text → Text → Text} {pages : List Page} :
    (getAllPages crypto world client decode firstPath next apply state).2 = .ok pages ↔
      Leads (pageAt client honest decode) (nextPath next apply firstPath) firstPath pages ∧
        pages.length ≤ 100 :=
  follow_ok_iff fun path state => throttled.getJson_eq patient path state

end

def unsigned : Crypto := ⟨fun bytes => bytes, fun _ data => data⟩

def pagedWorld : World Nat where
  answer request asked :=
    (asked + 1, .ok <|
      if asked % 2 = 0 then ⟨429, .ok []⟩
      else if request.url = "http://cloud/nodes".toList then ⟨200, .ok "a>2".toList⟩
      else if request.url = "http://cloud/nodes?2".toList then ⟨200, .ok "b".toList⟩
      else ⟨404, .ok []⟩)
  now _ := 0
  elapsed _ := 0
  sleep _ asked := asked

def pagedReply (_ : Text) (url : Text) (_ : Option Bytes) : Reply :=
  if url = "http://cloud/nodes".toList then ⟨200, .ok "a>2".toList⟩
  else if url = "http://cloud/nodes?2".toList then ⟨200, .ok "b".toList⟩
  else ⟨404, .ok []⟩

theorem pagedWorld_throttled :
    Throttled pagedWorld (fun asked => asked) (fun asked => asked % 2 = 0) pagedReply where
  asked _ _ := rfl
  slept _ _ := rfl
  idle request asked idle := by
    simp only [pagedWorld, pagedReply, if_neg idle]
  failing request asked busy := by
    refine ⟨⟨429, .ok []⟩, ?_, rfl⟩
    simp only [pagedWorld, if_pos busy]
  calm method url body := by
    unfold pagedReply
    split
    · rfl
    · split <;> rfl

/-- A page is its text, and names the next one behind a mark. -/
theorem both_pages :
    (getAllPages unsigned pagedWorld (HttpClient.new "http://cloud/".toList .none) Except.ok
        "/nodes".toList (fun page => (splitOnce ['>'] page).map Prod.snd)
        (fun path token => path ++ '?' :: token) 0).2 = .ok ["a>2".toList, "b".toList] := by
  have patient : Patient (HttpClient.new "http://cloud/".toList .none) fun asked => asked % 2 = 0 := by
    intro first
    by_cases even : first % 2 = 0
    · exact ⟨1, by decide, by omega⟩
    · exact ⟨0, by decide, even⟩
  refine (pages_throttled pagedWorld_throttled patient).mpr ⟨?_, by decide⟩
  exact .more (by rfl) (by rfl) (.last (by rfl) (by rfl))

inductive Event
  | asked (request : HttpRequest) (outcome : Except Text Reply)
  | waited (nanoseconds : Nat)

def World.logged {σ : Type} (world : World σ) : World (σ × List Event) where
  answer request state :=
    let answered := world.answer request state.1
    ((answered.1, state.2 ++ [.asked request answered.2]), answered.2)
  now state := world.now state.1
  elapsed state := world.elapsed state.1
  sleep wait state := (world.sleep wait state.1, state.2 ++ [.waited wait])

def spaced : Nat → List (HttpRequest × Except Text Reply) → List Event
  | _, [] => []
  | _, [(request, outcome)] => [.asked request outcome]
  | wait, (request, outcome) :: later :: rest =>
      .asked request outcome :: .waited wait :: spaced (2 * wait) (later :: rest)

def saysBusy (outcome : Except Text Reply) : Prop :=
  ∃ reply, outcome = .ok reply ∧ reply.busy = true

section

variable {σ : Type} {crypto : Crypto} {world : World σ} {client : HttpClient}
variable {method path : Text} {body : Option Bytes}

/-- What the exchanges of one request have to be: all of one request, and none after the one that
did not say busy or after the last one that is allowed. -/
structure Exchanged (client : HttpClient) (method path : Text) (body : Option Bytes) (allowed : Nat)
    (exchanges : List (HttpRequest × Except Text Reply)) (result : Except CloudError Text) : Prop where
  same : ∀ exchange ∈ exchanges, exchange.1.method = method ∧
    exchange.1.url = urlOf client path ∧ exchange.1.body = body
  bounded : exchanges.length ≤ allowed
  busy : ∀ exchange ∈ exchanges.dropLast, saysBusy exchange.2
  ended : ∃ last ∈ exchanges.getLast?, result = readOutcome (urlOf client path) last.2 ∧
    (saysBusy last.2 → exchanges.length = allowed)

theorem logged_attempt (crypto : Crypto) (world : World σ) (client : HttpClient) (method path : Text)
    (body : Option Bytes) (state : σ) (log : List Event) : ∃ request outcome later,
    sendOnce crypto world.logged client method path body (state, log) =
        ((later, log ++ [.asked request outcome]), readOutcome (urlOf client path) outcome) ∧
      request.method = method ∧ request.url = urlOf client path ∧ request.body = body := by
  obtain ⟨headers, sent⟩ := sendOnce_eq crypto world.logged client method path body (state, log)
  exact ⟨⟨method, urlOf client path, body, headers⟩, _, _, sent, rfl, rfl, rfl⟩

theorem Exchanged.one {request : HttpRequest} {outcome : Except Text Reply} {left : Nat}
    (asked : request.method = method ∧ request.url = urlOf client path ∧ request.body = body)
    (spent : saysBusy outcome → left = 0) :
    Exchanged client method path body (left + 1) [(request, outcome)]
      (readOutcome (urlOf client path) outcome) where
  same exchange among := by
    rw [List.mem_singleton.mp among]
    exact asked
  bounded := by simp
  busy exchange among := by cases among
  ended := by
    refine ⟨(request, outcome), rfl, rfl, fun again => ?_⟩
    rw [spent again]
    rfl

theorem Exchanged.cons {request : HttpRequest} {outcome : Except Text Reply} {allowed : Nat}
    {exchanges : List (HttpRequest × Except Text Reply)} {result : Except CloudError Text}
    (asked : request.method = method ∧ request.url = urlOf client path ∧ request.body = body)
    (again : saysBusy outcome)
    (behind : Exchanged client method path body allowed exchanges result) :
    Exchanged client method path body (allowed + 1) ((request, outcome) :: exchanges) result where
  same exchange among := by
    rcases List.mem_cons.mp among with first | later
    · rw [first]
      exact asked
    · exact behind.same exchange later
  bounded := by
    have bound := behind.bounded
    rw [List.length_cons]
    omega
  busy exchange among := by
    cases exchanges with
    | nil => cases among
    | cons second rest =>
        rcases List.mem_cons.mp among with first | later
        · rw [first]
          exact again
        · exact behind.busy exchange later
  ended := by
    obtain ⟨last, final, read, full⟩ := behind.ended
    refine ⟨last, ?_, read, fun busy => ?_⟩
    · cases exchanges with
      | nil => cases final
      | cons second rest => exact final
    · rw [List.length_cons, full busy]

theorem Exchanged.nonempty {allowed : Nat} {exchanges : List (HttpRequest × Except Text Reply)}
    {result : Except CloudError Text}
    (exchanged : Exchanged client method path body allowed exchanges result) : exchanges ≠ [] := by
  obtain ⟨last, final, -, -⟩ := exchanged.ended
  intro empty
  rw [empty] at final
  cases final

/-- By induction on the attempts that are left. -/
theorem retry_logged (crypto : Crypto) (world : World σ) (client : HttpClient) (method path : Text)
    (body : Option Bytes) (left wait : Nat) (state : σ) (log : List Event) : ∃ exchanges,
    (retry (sendOnce crypto world.logged client method path body) CloudError.retryable
        world.logged.sleep left wait (state, log)).1.2 = log ++ spaced wait exchanges ∧
      Exchanged client method path body (left + 1) exchanges
        (retry (sendOnce crypto world.logged client method path body) CloudError.retryable
          world.logged.sleep left wait (state, log)).2 := by
  induction left generalizing wait state log with
  | zero =>
      obtain ⟨request, outcome, later, attempt, asked⟩ :=
        logged_attempt crypto world client method path body state log
      refine ⟨[(request, outcome)], ?_, ?_⟩
      · rw [retry, attempt]
        rfl
      · rw [retry, attempt]
        exact Exchanged.one asked fun _ => rfl
  | succ left ih =>
      obtain ⟨request, outcome, later, attempt, asked⟩ :=
        logged_attempt crypto world client method path body state log
      by_cases again : saysBusy outcome
      · obtain ⟨reply, answered, status⟩ := again
        obtain ⟨error, failed, hope⟩ : ∃ error, readReply (urlOf client path) reply = .error error ∧
          error.retryable = true := busy_reply status
        have tried : (sendOnce crypto world.logged client method path body (state, log)).2 =
            .error error := by
          rw [attempt, answered]
          exact failed
        obtain ⟨exchanges, record, exchanged⟩ := ih (2 * wait) (world.sleep wait later)
          (log ++ [.asked request outcome] ++ [.waited wait])
        refine ⟨(request, outcome) :: exchanges, ?_, ?_⟩
        · rw [retry_again tried hope, attempt]
          refine record.trans ?_
          cases exchanges with
          | nil => exact absurd rfl exchanged.nonempty
          | cons second rest => simp [spaced]
        · rw [retry_again tried hope, attempt]
          exact exchanged.cons asked ⟨reply, answered, status⟩
      · have final : ∀ error, (sendOnce crypto world.logged client method path body
            (state, log)).2 = .error error → error.retryable = false := by
          intro error failed
          rw [attempt] at failed
          by_contra hope
          rw [Bool.not_eq_false] at hope
          exact again ((retryable_iff failed).mp hope)
        refine ⟨[(request, outcome)], ?_, ?_⟩
        · rw [retry_final final, attempt]
          rfl
        · rw [retry_final final, attempt]
          exact Exchanged.one asked fun busy => absurd busy again

/-- A request is made again only after a reply that says so, the same request each time, after waits
that double; it is given up when all the attempts were made. -/
theorem send_logged (crypto : Crypto) (world : World σ) (client : HttpClient) (method path : Text)
    (body : Option Bytes) (state : σ) (log : List Event) : ∃ exchanges,
    (send crypto world.logged client method path body (state, log)).1.2 =
        log ++ spaced client.backoff exchanges ∧
      Exchanged client method path body client.maxAttempts exchanges
        (send crypto world.logged client method path body (state, log)).2 := by
  have attempts : client.maxAttempts - 1 + 1 = client.maxAttempts :=
    Nat.sub_add_cancel client.attempted
  have logged := retry_logged crypto world client method path body (client.maxAttempts - 1)
    client.backoff state log
  rwa [attempts] at logged

def Event.isRequest : Event → Bool
  | .asked _ _ => true
  | .waited _ => false

theorem countP_spaced (wait : Nat) (exchanges : List (HttpRequest × Except Text Reply)) :
    (spaced wait exchanges).countP Event.isRequest = exchanges.length := by
  induction exchanges generalizing wait with
  | nil => rfl
  | cons first later ih =>
      cases later with
      | nil => rfl
      | cons second rest =>
          have behind := ih (2 * wait)
          rw [spaced, List.countP_cons_of_pos rfl, List.countP_cons_of_neg (by simp [Event.isRequest]),
            behind]
          rfl

variable {Page : Type} {decode : Text → Except Text Page}

/-- Listing all the pages makes at most 100 requests, each at most as often as the attempts allow. -/
theorem pages_requests (firstPath : Text) (next : Page → Option Text) (apply : Text → Text → Text)
    (state : σ) (log : List Event) :
    (getAllPages crypto world.logged client decode firstPath next apply (state, log)).1.2.countP
        Event.isRequest ≤ log.countP Event.isRequest + 100 * client.maxAttempts := by
  have each (path : Text) (state : σ × List Event) :
      (getJson crypto world.logged client decode path state).1.2.countP Event.isRequest ≤
        state.2.countP Event.isRequest + client.maxAttempts := by
    obtain ⟨exchanges, record, exchanged⟩ :=
      send_logged crypto world client "GET".toList path none state.1 state.2
    have same : (getJson crypto world.logged client decode path state).1 =
        (send crypto world.logged client "GET".toList path none (state.1, state.2)).1 := by
      rw [getJson, sendJson]
      split
      · rename_i later error sent
        rw [sent]
      · rename_i later text sent
        rw [sent]
        split <;> rfl
    have bound := exchanged.bounded
    rw [same, record, List.countP_append, countP_spaced]
    omega
  exact follow_cost (fun state : σ × List Event => state.2.countP Event.isRequest) each

end

structure Passing {σ : Type} (world : World σ) : Prop where
  answered : ∀ request state, world.elapsed state ≤ world.elapsed (world.answer request state).1
  slept : ∀ wait state, world.elapsed state + wait ≤ world.elapsed (world.sleep wait state)

section

variable {σ : Type} {crypto : Crypto} {world : World σ} {client : HttpClient} {path : Text}
variable {Page : Type} {decode : Text → Except Text Page} {done : Page → Bool} {printed : Text}
variable {interval deadline started polls : Nat} {state later : σ} {outcome : Except CloudError Page}

theorem Passing.getJson_later (passing : Passing world) (path : Text) (state : σ) :
    world.elapsed state ≤ world.elapsed (getJson crypto world client decode path state).1 := by
  have tried (state : σ) : world.elapsed state ≤
      world.elapsed (sendOnce crypto world client "GET".toList path none state).1 := by
    obtain ⟨headers, sent⟩ := sendOnce_eq crypto world client "GET".toList path none state
    rw [sent]
    exact passing.answered _ state
  have slept (wait : Nat) (state : σ) :
      world.elapsed state ≤ world.elapsed (world.sleep wait state) := by
    have passed := passing.slept wait state
    omega
  have sent : world.elapsed state ≤
      world.elapsed (send crypto world client "GET".toList path none state).1 :=
    retry_grows tried slept
  rw [getJson, sendJson]
  split
  · rename_i later error same
    rw [same] at sent
    exact sent
  · rename_i later text same
    rw [same] at sent
    split
    · exact sent
    · exact sent

theorem Passing.poll_once (passing : Passing world) :
    (∃ later outcome, (∀ polls, pollUntil crypto world client decode path done interval deadline
        started printed (polls + 1) state = some (later, outcome)) ∧
      ∀ page, outcome = .ok page → done page = true) ∨
    ∃ next, world.elapsed state < started + deadline ∧
      world.elapsed state + interval ≤ world.elapsed next ∧
      ∀ polls, pollUntil crypto world client decode path done interval deadline started printed
          (polls + 1) state =
        pollUntil crypto world client decode path done interval deadline started printed polls next := by
  have passed : world.elapsed state ≤
      world.elapsed (getJson crypto world client decode path state).1 :=
    passing.getJson_later path state
  simp only [pollUntil]
  cases fetched : getJson crypto world client decode path state with
  | mk next result =>
      rw [fetched] at passed
      cases result with
      | error error => exact Or.inl ⟨_, _, fun _ => rfl, fun page same => by cases same⟩
      | ok page =>
          simp only at passed ⊢
          by_cases finished : done page = true
          · simp only [if_pos finished]
            refine Or.inl ⟨_, _, fun _ => rfl, fun other same => ?_⟩
            cases same
            exact finished
          · simp only [if_neg finished]
            by_cases late : deadline ≤ world.elapsed next - started
            · simp only [if_pos late]
              exact Or.inl ⟨_, _, fun _ => rfl, fun page same => by cases same⟩
            · simp only [if_neg late]
              have slept := passing.slept interval next
              exact Or.inr ⟨_, by omega, by omega, fun _ => rfl⟩

/-- By induction on the polls that the deadline leaves. -/
theorem Passing.poll_some (passing : Passing world) (since : started ≤ world.elapsed state)
    (enough : deadline ≤ world.elapsed state - started + polls * interval) :
    ∃ later outcome, (∀ more, polls + 1 ≤ more → pollUntil crypto world client decode path done
        interval deadline started printed more state = some (later, outcome)) ∧
      ∀ page, outcome = .ok page → done page = true := by
  induction polls generalizing state with
  | zero =>
      rcases passing.poll_once with ⟨later, outcome, ended, sound⟩ | ⟨next, early, _, _⟩
      · refine ⟨later, outcome, fun more many => ?_, sound⟩
        obtain ⟨polls, rfl⟩ := Nat.exists_eq_add_of_le' many
        exact ended polls
      · omega
  | succ polls ih =>
      rcases passing.poll_once with ⟨later, outcome, ended, sound⟩ | ⟨next, _, slept, again⟩
      · refine ⟨later, outcome, fun more many => ?_, sound⟩
        obtain ⟨polls, rfl⟩ := Nat.exists_eq_add_of_le' (Nat.le_trans (Nat.le_add_left 1 _) many)
        exact ended polls
      · rw [Nat.succ_mul] at enough
        have before : started ≤ world.elapsed next := by omega
        obtain ⟨later, outcome, ended, sound⟩ := ih before (by omega)
        refine ⟨later, outcome, fun more many => ?_, sound⟩
        obtain ⟨polls, rfl⟩ := Nat.exists_eq_add_of_le' (Nat.le_trans (Nat.le_add_left 1 _) many)
        rw [again]
        exact ended polls (by omega)

/-- Polling ends by itself, with a page that is done or with an error. -/
theorem poll_ends (passing : Passing world) (positive : 0 < interval) :
    ∃ later outcome, (∀ polls, deadline / interval + 2 ≤ polls →
        pollUntil crypto world client decode path done interval deadline (world.elapsed state) printed
          polls state = some (later, outcome)) ∧
      ∀ page, outcome = .ok page → done page = true := by
  have covered : deadline ≤ (deadline / interval + 1) * interval :=
    Nat.le_of_lt (Nat.lt_mul_of_div_lt (Nat.lt_succ_self _) positive)
  exact passing.poll_some (Nat.le_refl _) (by omega)

end

def clockWorld : World Nat where
  answer _ elapsed := (elapsed + 1,
    .ok ⟨200, .ok (if elapsed < 10 then "RUNNING".toList else "DONE".toList)⟩)
  now _ := 0
  elapsed elapsed := elapsed
  sleep wait elapsed := elapsed + wait

theorem clock_polled : ∃ later outcome, (∀ polls, 180 / 5 + 2 ≤ polls →
    pollUntil unsigned clockWorld (HttpClient.new "http://cloud".toList .none) Except.ok
      "/operations/1".toList (fun status => status = "DONE".toList) 5 180 (clockWorld.elapsed 0)
      "180ns".toList polls 0 = some (later, outcome)) ∧
    ∀ page, outcome = .ok page → decide (page = "DONE".toList) = true :=
  poll_ends ⟨fun _ elapsed => Nat.le_succ elapsed, fun _ _ => Nat.le_refl _⟩ (by decide)

end AetherMesh.Http
