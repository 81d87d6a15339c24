import RustdeskCli.Connection.Handshake
import RustdeskCli.Daemon.Loop
set_option autoImplicit false

/-!
# Daemon: the attempts of a reconnect (`src/daemon.rs`)

`reconnect_with_retry_backoffs` with all it does: for each backoff it notifies its
caller, sleeps and connects, until an attempt succeeds or the list is used up.  The
two closures it is given act on a state they share.  The loop of the daemon only looks
at the results of the attempts, and its `reconnectStream` is what is left of
`reconnect_encrypted_stream` when the rest is forgotten.
-/

namespace RustdeskCli.Daemon

open RustdeskCli.Foundation
open RustdeskCli.Session
open RustdeskCli.Connection

/-! ## The retry loop -/

/-- `Duration`. -/
structure Duration where
  secs : UInt64
  subsecNanos : Fin 1000000000
  deriving DecidableEq, Repr

/-- `Duration::from_secs`. -/
def Duration.fromSecs (secs : UInt64) : Duration := ⟨secs, 0⟩

/-- `Duration::as_secs`. -/
def Duration.asSecs (d : Duration) : UInt64 := d.secs

/-- `RECONNECT_BACKOFFS`. -/
def reconnectBackoffDurations : List Duration :=
  [.fromSecs 1, .fromSecs 2, .fromSecs 4, .fromSecs 8, .fromSecs 16, .fromSecs 30]

/-- `reconnecting_response`. -/
def reconnectingResponse (attempt totalAttempts : Nat) (backoff : Duration) : SessionResponse :=
  .error ("reconnecting... attempt ".toList ++ (toString attempt).toList ++ "/".toList ++
    (toString totalAttempts).toList ++ " in ".toList ++
    (toString backoff.asSecs.toNat).toList ++ "s".toList)

/-- The closures of a reconnect, with the state they act on, and the clock. -/
structure Caller (σ α : Type) where
  connect : σ → Except Error α × σ
  notify : SessionResponse → σ → σ
  sleep : Duration → σ → σ

namespace Caller

variable {σ α : Type}

/-- The loop of `reconnect_with_retry_backoffs`, at index `idx` of its list. -/
def retryLoop (caller : Caller σ α) (totalAttempts : Nat) :
    List Duration → Nat → Option Error → σ → Except Error α × σ
  | [], _, lastError, st => (.error (lastError.getD (.msg "reconnect failed".toList)), st)
  | backoff :: backoffs, idx, _, st =>
      let st := caller.notify (reconnectingResponse (idx + 1) totalAttempts backoff) st
      let st := caller.sleep backoff st
      match caller.connect st with
      | (.ok value, st) => (.ok value, st)
      | (.error err, st) => retryLoop caller totalAttempts backoffs (idx + 1) (some err) st

/-- `reconnect_with_retry_backoffs`. -/
def reconnectWithRetryBackoffs (caller : Caller σ α) (backoffs : List Duration) (st : σ) :
    Except Error α × σ :=
  caller.retryLoop backoffs.length backoffs 0 none st

/-- `reconnect_with_retry`. -/
def reconnectWithRetry (caller : Caller σ α) (st : σ) : Except Error α × σ :=
  caller.reconnectWithRetryBackoffs reconnectBackoffDurations st

/-- What the closures and the clock keep, the loop keeps. -/
theorem retryLoop_keeps {caller : Caller σ α} {Inv : σ → Prop}
    (hnotify : ∀ resp st, Inv st → Inv (caller.notify resp st))
    (hsleep : ∀ backoff st, Inv st → Inv (caller.sleep backoff st))
    (hconnect : ∀ st, Inv st → Inv (caller.connect st).2) (totalAttempts : Nat) :
    ∀ (backoffs : List Duration) (idx : Nat) (lastError : Option Error) (st : σ), Inv st →
      Inv (caller.retryLoop totalAttempts backoffs idx lastError st).2 := by
  intro backoffs
  induction backoffs with
  | nil => intro idx lastError st h; exact h
  | cons backoff backoffs ih =>
      intro idx lastError st h
      have hready := hsleep backoff _ (hnotify (reconnectingResponse (idx + 1) totalAttempts
        backoff) st h)
      have hnext := hconnect _ hready
      rw [retryLoop]
      split
      · rename_i hresult
        rw [hresult] at hnext
        exact hnext
      · rename_i hresult
        rw [hresult] at hnext
        exact ih _ _ _ hnext

end Caller

/-! ## What a reconnect does to the session -/

/-- `ConnectionResult`. -/
structure ConnectionResult where
  peerInfo : PeerInfo
  encrypted : Stream
  deriving DecidableEq, Repr

/-- The `PeerInfoState` of a new connection, each display copied field by field. -/
def peerInfoState (info : PeerInfo) : PeerInfoState where
  peerId := info.username
  username := info.username
  hostname := info.hostname
  displays := info.displays.map fun d =>
    { x := d.x
      y := d.y
      width := d.width
      height := d.height
      name := d.name
      online := d.online
      cursorEmbedded := d.cursorEmbedded }

/-- `reconnect_encrypted_stream`, where `connect` calls `connect_with_mode` with the
type and the login it is given. -/
def reconnectEncryptedStreamWith {σ : Type}
    (connect : Login → σ → Except Error ConnectionResult × σ)
    (notify : SessionResponse → σ → σ) (sleep : Duration → σ → σ) (session : Session)
    (connType : ConnType) (serviceId : Option Text) (st : σ) :
    Except Error ConnectionResult × Session × σ :=
  let caller : Caller σ ConnectionResult :=
    ⟨connect (loginFor connType serviceId), notify, sleep⟩
  match caller.reconnectWithRetry st with
  | (.error e, st) => (.error e, session, st)
  | (.ok conn, st) =>
      match initializeStreamForMode conn.encrypted connType with
      | (.error e, _) => (.error e, session, st)
      | (.ok (), encrypted) =>
          (.ok ⟨conn.peerInfo, encrypted⟩,
            { session with state := .connected, peerInfo := some (peerInfoState conn.peerInfo) },
            st)

/-! ## A record of the attempts -/

/-- What a reconnect does, seen from outside. -/
inductive RetryEvent where
  | notified (resp : SessionResponse)
  | slept (backoff : Duration)
  | connected
  deriving Repr

/-- The attempts made so far, and everything done. -/
structure RetryLog where
  attempts : Nat
  events : List RetryEvent
  deriving Repr

/-- Nothing done yet. -/
def RetryLog.empty : RetryLog := ⟨0, []⟩

/-- One more thing done. -/
def RetryLog.push (event : RetryEvent) (log : RetryLog) : RetryLog :=
  { log with events := log.events ++ [event] }

/-- A connection attempt, whose result is the next of the sequence. -/
def RetryLog.connect {α : Type} (results : Nat → Except Error α) (log : RetryLog) :
    Except Error α × RetryLog :=
  (results log.attempts, ⟨log.attempts + 1, log.events ++ [.connected]⟩)

/-- Closures that keep a record; the attempts give the results in turn. -/
def recorded {α : Type} (results : Nat → Except Error α) : Caller RetryLog α where
  connect := RetryLog.connect results
  notify resp := .push (.notified resp)
  sleep backoff := .push (.slept backoff)

/-- What is done for one backoff. -/
def retryRound (totalAttempts : Nat) (backoff : Duration) (idx : Nat) : List RetryEvent :=
  [.notified (reconnectingResponse (idx + 1) totalAttempts backoff), .slept backoff, .connected]

/-- What is done for some backoffs in a row, from index `idx` on. -/
def retryRounds (totalAttempts : Nat) (backoffs : List Duration) (idx : Nat) : List RetryEvent :=
  (backoffs.zipIdx idx).flatMap fun p => retryRound totalAttempts p.1 p.2

section Retry

variable {α : Type} {results : Nat → Except Error α}

@[simp] theorem retryRounds_nil (totalAttempts idx : Nat) :
    retryRounds totalAttempts [] idx = [] := rfl

theorem retryRounds_cons (totalAttempts : Nat) (backoff : Duration) (backoffs : List Duration)
    (idx : Nat) :
    retryRounds totalAttempts (backoff :: backoffs) idx =
      retryRound totalAttempts backoff idx ++ retryRounds totalAttempts backoffs (idx + 1) := by
  simp [retryRounds]

theorem retryRounds_concat (totalAttempts : Nat) (backoffs : List Duration) (backoff : Duration)
    (idx : Nat) :
    retryRounds totalAttempts (backoffs ++ [backoff]) idx =
      retryRounds totalAttempts backoffs idx ++
        retryRound totalAttempts backoff (idx + backoffs.length) := by
  simp [retryRounds, List.zipIdx_append]

/-- An attempt that succeeds ends the loop. -/
theorem retryLoop_ok {value : α} (totalAttempts : Nat) (backoff : Duration)
    (backoffs : List Duration) (lastError : Option Error) (log : RetryLog)
    (h : results log.attempts = .ok value) :
    (recorded results).retryLoop totalAttempts (backoff :: backoffs) log.attempts lastError log =
      (.ok value, ⟨log.attempts + 1,
        log.events ++ retryRound totalAttempts backoff log.attempts⟩) := by
  simp [Caller.retryLoop, recorded, RetryLog.connect, RetryLog.push, retryRound, h]

/-- An attempt that fails is followed by the rest of the list. -/
theorem retryLoop_error {e : Error} (totalAttempts : Nat) (backoff : Duration)
    (backoffs : List Duration) (lastError : Option Error) (log : RetryLog)
    (h : results log.attempts = .error e) :
    (recorded results).retryLoop totalAttempts (backoff :: backoffs) log.attempts lastError log =
      (recorded results).retryLoop totalAttempts backoffs (log.attempts + 1) (some e)
        ⟨log.attempts + 1, log.events ++ retryRound totalAttempts backoff log.attempts⟩ := by
  simp [Caller.retryLoop, recorded, RetryLog.connect, RetryLog.push, retryRound, h]

/-- Through attempts that fail one after the other. -/
theorem retryLoop_errors (totalAttempts : Nat) (later : List Duration) :
    ∀ (backoffs : List Duration) (errors : List Error) (lastError : Option Error)
      (log : RetryLog), errors.length = backoffs.length →
      (∀ i e, errors[i]? = some e → results (log.attempts + i) = .error e) →
      (recorded results).retryLoop totalAttempts (backoffs ++ later) log.attempts lastError log =
        (recorded results).retryLoop totalAttempts later (log.attempts + backoffs.length)
          (errors.getLast?.or lastError)
          ⟨log.attempts + backoffs.length,
            log.events ++ retryRounds totalAttempts backoffs log.attempts⟩ := by
  intro backoffs
  induction backoffs with
  | nil =>
      intro errors lastError log hlen _
      obtain rfl := List.eq_nil_of_length_eq_zero hlen
      simp
  | cons backoff backoffs ih =>
      intro errors lastError log hlen herrors
      cases errors with
      | nil => simp at hlen
      | cons e errors =>
          have hfirst : results log.attempts = .error e := herrors 0 e rfl
          have hlast : (errors.getLast?).or (some e) = ((e :: errors).getLast?).or lastError := by
            cases h : errors.getLast? <;> simp [List.getLast?_cons, h]
          have hcount : log.attempts + 1 + backoffs.length =
              log.attempts + (backoff :: backoffs).length := by
            rw [List.length_cons]
            omega
          rw [List.cons_append, retryLoop_error _ _ _ _ _ hfirst,
            ih errors (some e) ⟨log.attempts + 1, _⟩ (by simpa using hlen) ?_, hlast, hcount,
            retryRounds_cons, List.append_assoc]
          intro i e' he'
          have hnext := herrors (i + 1) e' he'
          rwa [← Nat.add_assoc, Nat.add_right_comm] at hnext

/-- Every sequence of results starts with failures, up to a success or to the end of the
list. -/
theorem exists_errors (results : Nat → Except Error α) (n : Nat) :
    ∃ errors : List Error, (∀ i e, errors[i]? = some e → results i = .error e) ∧
      (errors.length = n ∨ (errors.length < n ∧ ∃ value, results errors.length = .ok value)) := by
  induction n with
  | zero => exact ⟨[], by simp, .inl rfl⟩
  | succ n ih =>
      obtain ⟨errors, herrors, hlen | ⟨hlen, hvalue⟩⟩ := ih
      · cases hn : results n with
        | ok value => exact ⟨errors, herrors, .inr ⟨by omega, value, by rw [hlen, hn]⟩⟩
        | error e =>
            refine ⟨errors ++ [e], ?_, .inl (by simp [hlen])⟩
            intro i e' he'
            rcases Nat.lt_or_ge i errors.length with hi | hi
            · rw [List.getElem?_append_left hi] at he'
              exact herrors i e' he'
            · rw [List.getElem?_append_right hi, List.getElem?_singleton] at he'
              split at he'
              · have hin : i = n := by omega
                rw [hin, hn, Option.some.inj he']
              · cases he'
      · exact ⟨errors, herrors, .inr ⟨by omega, hvalue⟩⟩

/-- A reconnect after its first failures. -/
theorem reconnect_errors {errors : List Error} {before : List Duration} (later : List Duration)
    (herrors : ∀ i e, errors[i]? = some e → results i = .error e)
    (hlen : errors.length = before.length) :
    (recorded results).reconnectWithRetryBackoffs (before ++ later) .empty =
      (recorded results).retryLoop (before ++ later).length later before.length errors.getLast?
        ⟨before.length, retryRounds (before ++ later).length before 0⟩ := by
  have hstart : ∀ i e, errors[i]? = some e → results (RetryLog.empty.attempts + i) = .error e := by
    intro i e he
    rw [RetryLog.empty, Nat.zero_add]
    exact herrors i e he
  have hfailed := retryLoop_errors (before ++ later).length later before errors none .empty hlen
    hstart
  simp only [RetryLog.empty, Nat.zero_add, Option.or_none, List.nil_append] at hfailed
  exact hfailed

/-- A reconnect whose first success comes after these failures. -/
theorem reconnect_ok {errors : List Error} {value : α} {before later : List Duration}
    {backoff : Duration} (herrors : ∀ i e, errors[i]? = some e → results i = .error e)
    (hlen : errors.length = before.length) (hvalue : results errors.length = .ok value) :
    (recorded results).reconnectWithRetryBackoffs (before ++ backoff :: later) .empty =
      (.ok value, ⟨before.length + 1,
        retryRounds (before ++ backoff :: later).length (before ++ [backoff]) 0⟩) := by
  rw [hlen] at hvalue
  rw [reconnect_errors _ herrors hlen, retryLoop_ok _ _ _ _ ⟨before.length, _⟩ hvalue,
    retryRounds_concat, Nat.zero_add]

/-- A reconnect all of whose attempts fail. -/
theorem reconnect_error {errors : List Error} {backoffs : List Duration}
    (herrors : ∀ i e, errors[i]? = some e → results i = .error e)
    (hlen : errors.length = backoffs.length) :
    (recorded results).reconnectWithRetryBackoffs backoffs .empty =
      (.error (errors.getLast?.getD (.msg "reconnect failed".toList)),
        ⟨backoffs.length, retryRounds backoffs.length backoffs 0⟩) := by
  have hfailed := reconnect_errors [] herrors hlen
  rw [List.append_nil] at hfailed
  rw [hfailed, Caller.retryLoop]

/-- The results of the attempts are all that the daemon's loop sees of them. -/
theorem retryLoop_fst (totalAttempts : Nat) :
    ∀ (backoffs : List Duration) (lastError : Option Error) (log : RetryLog),
      ((recorded results).retryLoop totalAttempts backoffs log.attempts lastError log).1 =
        reconnectWithRetryBackoffs results (backoffs.map fun d => d.asSecs.toNat) log.attempts
          lastError := by
  intro backoffs
  induction backoffs with
  | nil => intro lastError log; rfl
  | cons backoff backoffs ih =>
      intro lastError log
      rw [List.map_cons, reconnectWithRetryBackoffs]
      cases h : results log.attempts with
      | ok value => rw [retryLoop_ok _ _ _ _ _ h]
      | error e =>
          rw [retryLoop_error _ _ _ _ _ h]
          exact ih (some e) ⟨log.attempts + 1, _⟩

theorem reconnectWithRetryBackoffs_map {β : Type} (f : α → β) :
    ∀ (backoffs : List Nat) (idx : Nat) (lastError : Option Error),
      reconnectWithRetryBackoffs (fun i => (results i).map f) backoffs idx lastError =
        (reconnectWithRetryBackoffs results backoffs idx lastError).map f := by
  intro backoffs
  induction backoffs with
  | nil => intro idx lastError; rfl
  | cons backoff backoffs ih =>
      intro idx lastError
      rw [reconnectWithRetryBackoffs, reconnectWithRetryBackoffs]
      cases results idx with
      | ok value => rfl
      | error e => exact ih (idx + 1) (some e)

end Retry

/-! ## The stream and the session -/

/-- The displays are copied as they are. -/
theorem peerInfoState_displays (info : PeerInfo) : (peerInfoState info).displays = info.displays :=
  List.map_id _

/-- A new connection of the daemon's loop, as `connect_with_mode` returns it. -/
def NewConnection.result (conn : NewConnection) (login : Login) : ConnectionResult :=
  ⟨⟨conn.username, conn.hostname, conn.displays⟩, conn.stream login⟩

/-- What a reconnect returns and what it does to the session: its attempts failed, or the
new connection could not be initialised, or it is the connection of the session. -/
theorem reconnectEncryptedStreamWith_cases {σ : Type}
    (connect : Login → σ → Except Error ConnectionResult × σ)
    (notify : SessionResponse → σ → σ) (sleep : Duration → σ → σ) (session : Session)
    {connType : ConnType} {serviceId : Option Text} {st st' : σ}
    {result : Except Error ConnectionResult}
    (h : (Caller.mk (connect (loginFor connType serviceId)) notify sleep).reconnectWithRetry st =
      (result, st')) :
    (∃ e, result = .error e ∧
      reconnectEncryptedStreamWith connect notify sleep session connType serviceId st =
        (.error e, session, st')) ∨
    (∃ conn e encrypted, result = .ok conn ∧
      initializeStreamForMode conn.encrypted connType = (.error e, encrypted) ∧
      reconnectEncryptedStreamWith connect notify sleep session connType serviceId st =
        (.error e, session, st')) ∨
    (∃ conn encrypted, result = .ok conn ∧
      initializeStreamForMode conn.encrypted connType = (.ok (), encrypted) ∧
      reconnectEncryptedStreamWith connect notify sleep session connType serviceId st =
        (.ok ⟨conn.peerInfo, encrypted⟩,
          { session with state := .connected, peerInfo := some (peerInfoState conn.peerInfo) },
          st')) := by
  cases result with
  | error e => exact .inl ⟨e, rfl, by simp only [reconnectEncryptedStreamWith, h]⟩
  | ok conn =>
      rcases hinit : initializeStreamForMode conn.encrypted connType with ⟨e | _, encrypted⟩
      · exact .inr (.inl ⟨conn, e, encrypted, rfl, hinit,
          by simp only [reconnectEncryptedStreamWith, h, hinit]⟩)
      · exact .inr (.inr ⟨conn, encrypted, rfl, hinit,
          by simp only [reconnectEncryptedStreamWith, h, hinit]⟩)

/-- The attempts of the daemon's loop, as calls of `connect_with_mode`. -/
def Attempts.connect (attempts : Attempts) (login : Login) :
    RetryLog → Except Error ConnectionResult × RetryLog :=
  RetryLog.connect fun i => (attempts i).map (·.result login)

/-- What connecting keeps, a reconnect keeps. -/
theorem reconnectEncryptedStreamWith_keeps {σ : Type} {Inv : σ → Prop}
    {connect : Login → σ → Except Error ConnectionResult × σ}
    {notify : SessionResponse → σ → σ} {sleep : Duration → σ → σ}
    (hnotify : ∀ resp st, Inv st → Inv (notify resp st))
    (hsleep : ∀ backoff st, Inv st → Inv (sleep backoff st)) {connType : ConnType}
    {serviceId : Option Text}
    (hconnect : ∀ st, Inv st → Inv (connect (loginFor connType serviceId) st).2)
    (session : Session) {st : σ} (h : Inv st) :
    Inv (reconnectEncryptedStreamWith connect notify sleep session connType serviceId st).2.2 := by
  have hkept : Inv ((Caller.mk (connect (loginFor connType serviceId)) notify
      sleep).reconnectWithRetry st).2 :=
    Caller.retryLoop_keeps hnotify hsleep hconnect _ _ _ _ _ h
  obtain ⟨result, st', hretried⟩ : ∃ result st', (Caller.mk (connect (loginFor connType serviceId))
      notify sleep).reconnectWithRetry st = (result, st') := ⟨_, _, rfl⟩
  rw [hretried] at hkept
  rcases reconnectEncryptedStreamWith_cases connect notify sleep session hretried with
    ⟨e, rfl, hout⟩ | ⟨new, e, encrypted, rfl, hinit, hout⟩ | ⟨new, encrypted, rfl, hinit, hout⟩
  · rw [hout]
    exact hkept
  · rw [hout]
    exact hkept
  · rw [hout]
    exact hkept

/-- The reconnect of the daemon's loop is this one, without the record. -/
theorem reconnectStream_eq (attempts : Attempts) (session : Session) (connType : ConnType)
    (serviceId : Option Text) :
    reconnectStream attempts session connType serviceId =
      match reconnectEncryptedStreamWith (Attempts.connect attempts)
          (fun resp => .push (.notified resp)) (fun backoff => .push (.slept backoff))
          session connType serviceId .empty with
      | (conn, session, _) => (conn.map (·.encrypted), session) := by
  let caller : Caller RetryLog ConnectionResult :=
    ⟨Attempts.connect attempts (loginFor connType serviceId), fun resp => .push (.notified resp),
      fun backoff => .push (.slept backoff)⟩
  obtain ⟨result, log, hretried⟩ : ∃ result log, caller.reconnectWithRetry .empty = (result, log) :=
    ⟨_, _, rfl⟩
  have hresult : result = (reconnectWithRetryBackoffs attempts reconnectBackoffs 0 none).map
      (·.result (loginFor connType serviceId)) := by
    rw [← reconnectWithRetryBackoffs_map]
    exact (congrArg Prod.fst hretried).symm.trans
      (retryLoop_fst reconnectBackoffDurations.length reconnectBackoffDurations none .empty)
  rw [hresult] at hretried
  cases hloop : reconnectWithRetryBackoffs attempts reconnectBackoffs 0 none with
  | error e =>
      rw [hloop] at hretried
      simp only [reconnectStream, hloop, reconnectEncryptedStreamWith, caller, Except.map] at hretried ⊢
      simp only [hretried]
  | ok new =>
      rw [hloop] at hretried
      simp only [reconnectStream, hloop, reconnectEncryptedStreamWith, caller, Except.map] at hretried ⊢
      simp only [hretried, NewConnection.result]
      rcases initializeStreamForMode (new.stream (loginFor connType serviceId)) connType with
        ⟨e | _, encrypted⟩
      · rfl
      · simp [NewConnection.peerInfo, peerInfoState]

/-- The attempts of every reconnect: failures up to the first success, or to the end of the
list. -/
theorem reconnect_attempts {α : Type} (results : Nat → Except Error α) (backoffs : List Duration) :
    ∃ errors : List Error, (∀ i e, errors[i]? = some e → results i = .error e) ∧
      ((∃ value, errors.length < backoffs.length ∧ results errors.length = .ok value ∧
          (recorded results).reconnectWithRetryBackoffs backoffs .empty =
            (.ok value, ⟨errors.length + 1,
              retryRounds backoffs.length (backoffs.take (errors.length + 1)) 0⟩)) ∨
        (errors.length = backoffs.length ∧
          (recorded results).reconnectWithRetryBackoffs backoffs .empty =
            (.error (errors.getLast?.getD (.msg "reconnect failed".toList)),
              ⟨backoffs.length, retryRounds backoffs.length backoffs 0⟩))) := by
  obtain ⟨errors, herrors, hlen | ⟨hlen, value, hvalue⟩⟩ := exists_errors results backoffs.length
  · exact ⟨errors, herrors, .inr ⟨hlen, reconnect_error herrors hlen⟩⟩
  · refine ⟨errors, herrors, .inl ⟨value, hlen, hvalue, ?_⟩⟩
    have hbefore : errors.length = (backoffs.take errors.length).length := by
      rw [List.length_take]
      omega
    have hsplit : backoffs.take errors.length ++ backoffs[errors.length] ::
        backoffs.drop (errors.length + 1) = backoffs := by
      rw [← List.drop_eq_getElem_cons hlen, List.take_append_drop]
    have htake : backoffs.take errors.length ++ [backoffs[errors.length]] =
        backoffs.take (errors.length + 1) := List.take_append_getElem hlen
    have hrun : (recorded results).reconnectWithRetryBackoffs (backoffs.take errors.length ++
        backoffs[errors.length] :: backoffs.drop (errors.length + 1)) .empty = _ :=
      reconnect_ok herrors hbefore hvalue
    rw [hsplit, htake, ← hbefore] at hrun
    exact hrun

/-- A reconnect is bounded and atomic.

For every list of backoffs and every sequence of results, the attempts go on to the first
success or to the end of the list, each after one notification with its number; the result
is that success, or the last error, or a fixed one if the list is empty.  The stream that
comes of it leaves the session connected and with what the new connection says of the peer,
or, when the attempts fail or the new connection cannot be initialised, as it was. -/
theorem reconnect_bounded_and_atomic {α σ : Type} (results : Nat → Except Error α)
    (backoffs : List Duration) (connect : Login → σ → Except Error ConnectionResult × σ)
    (notify : SessionResponse → σ → σ) (sleep : Duration → σ → σ) (session : Session)
    (connType : ConnType) (serviceId : Option Text) (st : σ) :
    (∃ errors : List Error, (∀ i e, errors[i]? = some e → results i = .error e) ∧
      ((∃ value, errors.length < backoffs.length ∧ results errors.length = .ok value ∧
          (recorded results).reconnectWithRetryBackoffs backoffs .empty =
            (.ok value, ⟨errors.length + 1,
              retryRounds backoffs.length (backoffs.take (errors.length + 1)) 0⟩)) ∨
        (errors.length = backoffs.length ∧
          (recorded results).reconnectWithRetryBackoffs backoffs .empty =
            (.error (errors.getLast?.getD (.msg "reconnect failed".toList)),
              ⟨backoffs.length, retryRounds backoffs.length backoffs 0⟩)))) ∧
    match reconnectEncryptedStreamWith connect notify sleep session connType serviceId st with
    | (.ok conn, session', _) =>
        session'.state = .connected ∧ session'.config = session.config ∧
          ∃ new info,
            ((Caller.mk (connect (loginFor connType serviceId)) notify sleep).reconnectWithRetry
              st).1 = .ok new ∧
            initializeStreamForMode new.encrypted connType = (.ok (), conn.encrypted) ∧
            conn.peerInfo = new.peerInfo ∧ session'.peerInfo = some info ∧
            info.peerId = new.peerInfo.username ∧ info.username = new.peerInfo.username ∧
            info.hostname = new.peerInfo.hostname ∧ info.displays = new.peerInfo.displays
    | (.error e, session', _) =>
        session' = session ∧
          (((Caller.mk (connect (loginFor connType serviceId)) notify sleep).reconnectWithRetry
              st).1 = .error e ∨
            ∃ new, ((Caller.mk (connect (loginFor connType serviceId)) notify
                sleep).reconnectWithRetry st).1 = .ok new ∧
              (initializeStreamForMode new.encrypted connType).1 = .error e) := by
  refine ⟨reconnect_attempts results backoffs, ?_⟩
  obtain ⟨result, st', hretried⟩ : ∃ result st', (Caller.mk (connect (loginFor connType serviceId))
      notify sleep).reconnectWithRetry st = (result, st') := ⟨_, _, rfl⟩
  rw [hretried]
  rcases reconnectEncryptedStreamWith_cases connect notify sleep session hretried with
    ⟨e, rfl, hout⟩ | ⟨new, e, encrypted, rfl, hinit, hout⟩ | ⟨new, encrypted, rfl, hinit, hout⟩
  · rw [hout]
    exact ⟨rfl, .inl rfl⟩
  · rw [hout]
    exact ⟨rfl, .inr ⟨new, rfl, by rw [hinit]⟩⟩
  · rw [hout]
    exact ⟨rfl, rfl, new, peerInfoState new.peerInfo, rfl, hinit, rfl, rfl, rfl, rfl, rfl,
      peerInfoState_displays new.peerInfo⟩

end RustdeskCli.Daemon
