import RustdeskCli.Connection.Relay
import RustdeskCli.Daemon.RetryBackoffs
set_option autoImplicit false

/-!
# Connection: the heartbeat task of an attempt (`src/connection.rs`, `src/rendezvous.rs`)

`connect_with_mode` starts a task that sends a `RegisterPeer` to hbbs every ten
seconds, and aborts it after the handshake.  Dropping the handle of a task detaches
it, and the loop of the task has no other end: an attempt that leaves between the two
places leaves its task behind.  This is `connect_with_mode` once more, with the tasks.
-/

namespace RustdeskCli.Connection

open RustdeskCli.Foundation
open RustdeskCli.Session
open RustdeskCli.Daemon

/-! ## Tasks -/

/-- The heartbeat tasks of the process, and how many of them have run at a time. -/
structure Tasks where
  next : Nat
  running : List Nat
  peak : Nat
  fresh : ∀ id ∈ running, id < next
  covered : running.length ≤ peak

namespace Tasks

/-- No task yet. -/
def none : Tasks := ⟨0, [], 0, by simp, Nat.le_refl 0⟩

/-- `RendezvousClient::start_heartbeat`: a new task, and its handle. -/
def startHeartbeat (tasks : Tasks) : Nat × Tasks :=
  (tasks.next,
    { next := tasks.next + 1
      running := tasks.running ++ [tasks.next]
      peak := max tasks.peak (tasks.running.length + 1)
      fresh := by
        intro id hid
        rcases List.mem_append.mp hid with hold | hnew
        · exact Nat.lt_succ_of_lt (tasks.fresh id hold)
        · rw [List.mem_singleton.mp hnew]
          exact Nat.lt_succ_self _
      covered := by
        rw [List.length_append, List.length_singleton]
        exact Nat.le_max_right _ _ })

/-- `JoinHandle::abort`. -/
def abort (tasks : Tasks) (handle : Nat) : Tasks where
  next := tasks.next
  running := tasks.running.filter (· ≠ handle)
  peak := tasks.peak
  fresh id hid := tasks.fresh id (List.mem_filter.mp hid).1
  covered := (List.length_filter_le _ _).trans tasks.covered

/-- A task that is started and aborted leaves those that were running. -/
theorem running_abort_startHeartbeat (tasks : Tasks) :
    (tasks.startHeartbeat.2.abort tasks.startHeartbeat.1).running = tasks.running := by
  have hold : ∀ id ∈ tasks.running, decide (id ≠ tasks.next) = true := by
    intro id hid
    have hlt := tasks.fresh id hid
    exact decide_eq_true (by omega)
  change (tasks.running ++ [tasks.next]).filter (· ≠ tasks.next) = tasks.running
  rw [List.filter_append, List.filter_eq_self.mpr hold]
  simp

end Tasks

/-! ## connect_with_mode with its task -/

section Attempt

variable {α : Type} (env : ConnectEnv α) (config : ConnectionConfig) (connType : ConnType)

/-- Phases 3 and 4, and the abort behind them. -/
def meetAtRelayTasks (log : ConnectLog) (relayAddr uuid : Text) (heartbeat : Nat)
    (tasks : Tasks) : (Except Error α × ConnectLog) × Tasks :=
  let log := { log with relayConnects := log.relayConnects ++ [⟨relayAddr, uuid⟩] }
  match relayConnectWithType env relayAddr with
  | .error e => ((.error e, log), tasks)
  | .ok () =>
      let result := env.handshake
      let tasks := tasks.abort heartbeat
      ((result, log), tasks)

/-- `connect_with_mode` after the start of the heartbeat. -/
def coordinateTasks (heartbeat : Nat) (tasks : Tasks) :
    (Except Error α × ConnectLog) × Tasks :=
  match punchHoleViaTcp env.punch config.idServer config.peerId config.serverKey connType
      "6".toList with
  | (punched, _, received) =>
      match relayHint config punched with
      | .error e => ((.error e, ⟨[], received, []⟩), tasks)
      | .ok (some relayAddr, peerRelayUuid) =>
          meetAtRelayTasks env ⟨[], received, []⟩ relayAddr (peerRelayUuid.getD env.clientUuid)
            heartbeat tasks
      | .ok (none, peerRelayUuid) =>
          match requestRelayViaTcp env.relay config.idServer
              (relayRequest config env.clientUuid) with
          | (requested, requests, answered) =>
              match requestedRelay config requested with
              | .error e => ((.error e, ⟨requests, received ++ answered, []⟩), tasks)
              | .ok relayAddr =>
                  meetAtRelayTasks env ⟨requests, received ++ answered, []⟩ relayAddr
                    (peerRelayUuid.getD env.clientUuid) heartbeat tasks

/-- `connect_with_mode`. -/
def connectWithModeTasks (tasks : Tasks) : (Except Error α × ConnectLog) × Tasks :=
  match env.client with
  | .error e =>
      ((.error (e.context "failed to connect to rendezvous server".toList), ⟨[], [], []⟩), tasks)
  | .ok () =>
      match env.registerPeer with
      | .error e => ((.error (e.context "RegisterPeer failed".toList), ⟨[], [], []⟩), tasks)
      | .ok requestPk =>
          match if requestPk then env.registerPk else .ok () with
          | .error e => ((.error (e.context "RegisterPk failed".toList), ⟨[], [], []⟩), tasks)
          | .ok () =>
              match tasks.startHeartbeat with
              | (heartbeat, tasks) => coordinateTasks env config connType heartbeat tasks

theorem meetAtRelayTasks_fst (log : ConnectLog) (relayAddr uuid : Text) (heartbeat : Nat)
    (tasks : Tasks) :
    (meetAtRelayTasks env log relayAddr uuid heartbeat tasks).1 =
      meetAtRelay env log relayAddr uuid := by
  unfold meetAtRelayTasks meetAtRelay
  cases relayConnectWithType env relayAddr with
  | error e => rfl
  | ok _ => rfl

theorem coordinateTasks_fst (heartbeat : Nat) (tasks : Tasks) :
    (coordinateTasks env config connType heartbeat tasks).1 = coordinate env config connType := by
  unfold coordinateTasks coordinate
  rcases punchHoleViaTcp env.punch config.idServer config.peerId config.serverKey connType
    "6".toList with ⟨punched, sent, received⟩
  simp only
  rcases relayHint config punched with e | ⟨relayAddr | relayAddr, peerRelayUuid⟩
  · rfl
  · rcases requestRelayViaTcp env.relay config.idServer (relayRequest config env.clientUuid) with
      ⟨requested, requests, answered⟩
    simp only
    cases requestedRelay config requested with
    | error e => rfl
    | ok relayAddr => exact meetAtRelayTasks_fst env _ _ _ _ _
  · exact meetAtRelayTasks_fst env _ _ _ _ _

/-- Without the tasks it is the `connect_with_mode` of the relay. -/
theorem connectWithModeTasks_fst (tasks : Tasks) :
    (connectWithModeTasks env config connType tasks).1 = connectWithMode env config connType := by
  unfold connectWithModeTasks connectWithMode
  cases env.client with
  | error e => rfl
  | ok _ =>
      cases env.registerPeer with
      | error e => rfl
      | ok requestPk =>
          simp only
          cases if requestPk then env.registerPk else .ok () with
          | error e => rfl
          | ok _ => exact coordinateTasks_fst env config connType _ _

/-! ### The attempts that leave their task behind -/

/-- The attempt comes to the start of the heartbeat: it is registered at hbbs. -/
def ConnectEnv.registers : Bool :=
  env.client.isOk &&
    match env.registerPeer with
    | .ok requestPk => !requestPk || env.registerPk.isOk
    | .error _ => false

/-- The second exchange with hbbs refuses a relay. -/
def ConnectEnv.requestRefused : Bool :=
  match (env.requested config).1 with
  | some (.ok resp) => !resp.refuseReason.isEmpty
  | _ => false

/-- hbbs turns the attempt down: with a failure of the punch hole, a refused relay, or a
refused relay in the second exchange when the first gave no relay address. -/
def ConnectEnv.refused : Bool :=
  match env.punched config connType with
  | .ok (.punchHole resp) =>
      !(checkPunchHoleFailure resp).isOk ||
        (resp.relayServer.isEmpty && env.requestRefused config)
  | .ok (.relay resp) => !resp.refuseReason.isEmpty
  | .error _ => env.requestRefused config

/-- hbbr cannot be reached, or does not take the binding. -/
def ConnectEnv.unreachable : Bool := !(env.relayConnect.isOk && env.relaySend.isOk)

/-- The attempt leaves between the start of the heartbeat and the handshake. -/
def ConnectEnv.leaks : Bool :=
  env.registers && (env.refused config connType || env.unreachable)

variable {env config connType}

theorem meetAtRelayTasks_snd (log : ConnectLog) (relayAddr uuid : Text) (heartbeat : Nat)
    (tasks : Tasks) :
    (meetAtRelayTasks env log relayAddr uuid heartbeat tasks).2 =
      if env.unreachable then tasks else tasks.abort heartbeat := by
  unfold meetAtRelayTasks relayConnectWithType ConnectEnv.unreachable
  cases env.relayConnect with
  | error e => rfl
  | ok _ =>
      cases env.relaySend with
      | error e => rfl
      | ok _ => rfl

/-- The second exchange ends the attempt exactly when it refuses a relay. -/
theorem requestedRelay_isOk :
    (requestedRelay config (env.requested config).1).isOk = !env.requestRefused config := by
  unfold requestedRelay ConnectEnv.requestRefused
  rcases (env.requested config).1 with _ | e | resp
  · rfl
  · rfl
  · by_cases hreason : resp.refuseReason = []
    · by_cases hserver : resp.relayServer = []
      · simp [hreason, hserver, Except.isOk, Except.toBool]
      · simp [hreason, hserver, Except.isOk, Except.toBool]
    · simp [hreason, Except.isOk, Except.toBool]

/-- What the first exchange says about the relay, and whether hbbs turns the attempt down. -/
theorem refused_eq :
    env.refused config connType =
      match relayHint config (env.punched config connType) with
      | .error _ => true
      | .ok (some _, _) => false
      | .ok (none, _) => env.requestRefused config := by
  unfold ConnectEnv.refused relayHint
  rcases env.punched config connType with e | resp | resp
  · rfl
  · simp only
    cases checkPunchHoleFailure resp with
    | error e => rfl
    | ok _ =>
        cases hserver : resp.relayServer with
        | nil => rfl
        | cons c cs => rfl
  · simp only
    cases hreason : resp.refuseReason with
    | nil =>
        cases hserver : resp.relayServer with
        | nil => rfl
        | cons c cs => rfl
    | cons c cs => rfl

/-- The task is aborted when nobody turns the attempt down before the handshake. -/
theorem coordinateTasks_snd (heartbeat : Nat) (tasks : Tasks) :
    (coordinateTasks env config connType heartbeat tasks).2 =
      if env.refused config connType || env.unreachable then tasks
      else tasks.abort heartbeat := by
  rw [refused_eq]
  have hrequested : requestRelayViaTcp env.relay config.idServer
      (relayRequest config env.clientUuid) = env.requested config := rfl
  have hrefused : (requestedRelay config (env.requested config).1).isOk =
      !env.requestRefused config := requestedRelay_isOk
  unfold coordinateTasks ConnectEnv.punched
  rcases punchHoleViaTcp env.punch config.idServer config.peerId config.serverKey connType
    "6".toList with ⟨punched, sent, received⟩
  simp only [hrequested]
  rcases relayHint config punched with e | ⟨relayAddr | relayAddr, peerRelayUuid⟩
  · rfl
  · simp only
    cases hrelay : requestedRelay config (env.requested config).1 with
    | error e =>
        rw [hrelay] at hrefused
        have htrue : env.requestRefused config = true := by
          simpa [Except.isOk, Except.toBool] using hrefused
        simp [htrue]
    | ok relayAddr =>
        rw [hrelay] at hrefused
        have hfalse : env.requestRefused config = false := by
          simpa [Except.isOk, Except.toBool] using hrefused
        rw [hfalse]
        exact meetAtRelayTasks_snd _ _ _ _ _
  · exact meetAtRelayTasks_snd _ _ _ _ _

/-- What an attempt does to the tasks. -/
theorem connectWithModeTasks_snd (tasks : Tasks) :
    (connectWithModeTasks env config connType tasks).2 =
      if env.registers then
        if env.refused config connType || env.unreachable then tasks.startHeartbeat.2
        else tasks.startHeartbeat.2.abort tasks.startHeartbeat.1
      else tasks := by
  unfold connectWithModeTasks ConnectEnv.registers
  cases env.client with
  | error e => rfl
  | ok _ =>
      cases env.registerPeer with
      | error e => rfl
      | ok requestPk =>
          cases requestPk with
          | false => exact coordinateTasks_snd _ _
          | true =>
              simp only [↓reduceIte]
              cases env.registerPk with
              | error e => rfl
              | ok _ => exact coordinateTasks_snd _ _

/-- An attempt leaves its own task behind or none. -/
theorem running_connectWithModeTasks (tasks : Tasks) :
    (connectWithModeTasks env config connType tasks).2.running =
      tasks.running ++ if env.leaks config connType then [tasks.next] else [] := by
  rw [connectWithModeTasks_snd, ConnectEnv.leaks]
  cases env.registers with
  | false => simp
  | true =>
      cases env.refused config connType || env.unreachable with
      | true => rfl
      | false => simpa using tasks.running_abort_startHeartbeat

/-- No more than its own task runs beside those it found. -/
theorem peak_connectWithModeTasks (tasks : Tasks) :
    (connectWithModeTasks env config connType tasks).2.peak ≤
      max tasks.peak (tasks.running.length + 1) := by
  rw [connectWithModeTasks_snd]
  split
  · split
    · exact Nat.le_refl _
    · exact Nat.le_refl _
  · exact Nat.le_max_left _ _

end Attempt

/-! ## The attempts of the daemon -/

/-- The tasks, and what the attempts so far have met. -/
structure Attempted where
  tasks : Tasks
  made : List (ConnectEnv ConnectionResult × ConnType)

namespace Attempted

/-- A call of `connect_with_mode`; the `n`th call meets `envs n`. -/
def connect (envs : Nat → ConnectEnv ConnectionResult) (config : ConnectionConfig)
    (login : Login) (st : Attempted) : Except Error ConnectionResult × Attempted :=
  let env := envs st.made.length
  match connectWithModeTasks env config login.connType st.tasks with
  | ((result, _), tasks) => (result, ⟨tasks, st.made ++ [(env, login.connType)]⟩)

/-- The number of attempts that have left their task behind. -/
def leaked (config : ConnectionConfig) (st : Attempted) : Nat :=
  st.made.countP fun p => p.1.leaks config p.2

/-- The tasks running are those left behind, and one more at the most has run beside
them. -/
structure Accounted (config : ConnectionConfig) (st : Attempted) : Prop where
  running : st.tasks.running.length = st.leaked config
  peak : st.tasks.peak ≤ st.leaked config + 1

theorem Accounted.connect {config : ConnectionConfig} {st : Attempted}
    (h : st.Accounted config) (envs : Nat → ConnectEnv ConnectionResult) (login : Login) :
    (st.connect envs config login).2.Accounted config := by
  let env := envs st.made.length
  have hrunning : (connectWithModeTasks env config login.connType st.tasks).2.running =
      st.tasks.running ++ if env.leaks config login.connType then [st.tasks.next] else [] :=
    running_connectWithModeTasks st.tasks
  have hpeak : (connectWithModeTasks env config login.connType st.tasks).2.peak ≤
      max st.tasks.peak (st.tasks.running.length + 1) := peak_connectWithModeTasks st.tasks
  have hleaked : (st.connect envs config login).2.leaked config =
      st.leaked config + if env.leaks config login.connType then 1 else 0 := by
    change (st.made ++ [(env, login.connType)]).countP _ = _
    rw [List.countP_append, List.countP_singleton]
    rfl
  constructor
  · change (connectWithModeTasks env config login.connType st.tasks).2.running.length = _
    rw [hrunning, hleaked, List.length_append, h.running]
    split <;> rfl
  · change (connectWithModeTasks env config login.connType st.tasks).2.peak ≤ _
    have hrun := h.running
    have hold := h.peak
    rw [hleaked]
    omega

end Attempted

/-- How the daemon comes to connect: at its start, or with a reconnect. -/
inductive ConnectAction where
  | start (connType : ConnType)
  | reconnect (connType : ConnType) (serviceId : Option Text)
  deriving DecidableEq, Repr

/-- The machine of all the daemon's attempts to connect, with the session they end in. -/
def connectMachine (envs : Nat → ConnectEnv ConnectionResult) (config : ConnectionConfig) :
    Machine (Session × Attempted) ConnectAction where
  step st
    | .start connType => some (st.1, (st.2.connect envs config (loginFor connType none)).2)
    | .reconnect connType serviceId =>
        match reconnectEncryptedStreamWith (fun login st => st.connect envs config login)
            (fun _ st => st) (fun _ st => st) st.1 connType serviceId st.2 with
        | (_, session, attempted) => some (session, attempted)

theorem accounted_step {envs : Nat → ConnectEnv ConnectionResult} {config : ConnectionConfig}
    {st st' : Session × Attempted} {action : ConnectAction} (h : st.2.Accounted config)
    (hstep : (connectMachine envs config).step st action = some st') :
    st'.2.Accounted config := by
  cases action with
  | start connType =>
      rw [← Option.some.inj hstep]
      exact h.connect envs _
  | reconnect connType serviceId =>
      have hkept : Attempted.Accounted config (reconnectEncryptedStreamWith
          (fun login st => st.connect envs config login) (fun _ st => st) (fun _ st => st) st.1
          connType serviceId st.2).2.2 :=
        reconnectEncryptedStreamWith_keeps (fun _ _ h => h) (fun _ _ h => h)
          (fun _ h => h.connect envs _) st.1 h
      rw [← Option.some.inj hstep]
      exact hkept

/-- When an attempt cleans up its heartbeat.

An attempt ends with the tasks it found exactly if it does not leave between the start of
its own and the handshake.  In every run of the daemon's attempts there are as many tasks
left running as attempts that left there; so none is left and no two have run at a time
exactly when no attempt did. -/
theorem heartbeat_aborted_iff {α : Type} (env : ConnectEnv α) (config : ConnectionConfig)
    (connType : ConnType) (tasks : Tasks) (envs : Nat → ConnectEnv ConnectionResult)
    (session : Session) {actions : List ConnectAction} {final : Session × Attempted}
    (hrun : (connectMachine envs config).run (session, ⟨.none, []⟩) actions = some final) :
    ((connectWithModeTasks env config connType tasks).2.running = tasks.running ↔
      env.leaks config connType = false) ∧
    final.2.tasks.running.length = final.2.leaked config ∧
    ((final.2.tasks.running = [] ∧ final.2.tasks.peak ≤ 1) ↔
      ∀ p ∈ final.2.made, p.1.leaks config p.2 = false) := by
  have hstart : Attempted.Accounted config ⟨.none, []⟩ := ⟨rfl, Nat.zero_le _⟩
  have hend : final.2.Accounted config :=
    (connectMachine envs config).invariant (fun _ _ _ => accounted_step) hstart hrun
  have hcount : final.2.leaked config = 0 ↔ ∀ p ∈ final.2.made, p.1.leaks config p.2 = false := by
    unfold Attempted.leaked
    simp [List.countP_eq_zero]
  refine ⟨?_, hend.running, ?_⟩
  · rw [running_connectWithModeTasks]
    cases env.leaks config connType with
    | false => simp
    | true => simp
  · rw [← hcount, ← hend.running, List.length_eq_zero_iff]
    constructor
    · exact fun h => h.1
    · intro hnone
      refine ⟨hnone, ?_⟩
      have hpeak := hend.peak
      rw [← hend.running, hnone] at hpeak
      exact hpeak

/-- An attempt that is registered, hears nothing from hbbs in the first exchange and meets
this at the relay; the peer does not take its password. -/
def sampleAttempt (relayConnect : Except Error Unit) : ConnectEnv ConnectionResult where
  client := .ok ()
  registerPeer := .ok false
  registerPk := .ok ()
  uuidBytes := .replicate 16 0x2a
  punch := ⟨.ok 40000, .ok (), .ok (), [], fun _ => .ok (), .ok ()⟩
  relay := ⟨some (.ok ()), some (.ok ()), .none, fun _ => []⟩
  relayConnect := relayConnect
  relaySend := .ok ()
  handshake := .error (.msg "login failed: Wrong Password".toList)

/-- A reconnect that is turned away by the peer six times aborts its heartbeats. -/
theorem heartbeat_aborted_iff_wrong_password :
    ∃ final, (connectMachine (fun _ => sampleAttempt (.ok ())) sampleConnectionConfig).run
        (Session.new, ⟨.none, []⟩) [.reconnect .defaultConn none] = some final ∧
      final.2.made.length = 6 ∧ final.2.tasks.running = [] ∧ final.2.tasks.peak ≤ 1 := by
  have hrun : ((connectMachine (fun _ => sampleAttempt (.ok ())) sampleConnectionConfig).run
      (Session.new, ⟨.none, []⟩) [.reconnect .defaultConn none]).map (fun final =>
        (final.2.made.length, final.2.made.all fun p => !p.1.leaks sampleConnectionConfig p.2)) =
          some (6, true) := by decide +kernel
  obtain ⟨final, hfinal, hends⟩ := Option.map_eq_some_iff.mp hrun
  obtain ⟨hmade, hclean⟩ := Prod.mk.inj hends
  have hiff := heartbeat_aborted_iff (sampleAttempt (.ok ())) sampleConnectionConfig .defaultConn
    .none (fun _ => sampleAttempt (.ok ())) Session.new hfinal
  exact ⟨final, hfinal, hmade, hiff.2.2.mpr (by simpa using hclean)⟩

/-- A relay that cannot be reached: the attempt leaves its heartbeat running, and a reconnect
of the daemon has six of them running at a time. -/
theorem heartbeats_left_running :
    (connectWithModeTasks (sampleAttempt (.error (.msg "Connection refused".toList)))
        sampleConnectionConfig .defaultConn .none).2.running = [0] ∧
      ∃ final, (connectMachine
          (fun _ => sampleAttempt (.error (.msg "Connection refused".toList)))
          sampleConnectionConfig).run (Session.new, ⟨.none, []⟩)
            [.reconnect .defaultConn none] = some final ∧
        final.2.tasks.running = [0, 1, 2, 3, 4, 5] ∧ final.2.tasks.peak = 6 := by
  have hrun : ((connectMachine (fun _ => sampleAttempt (.error (.msg "Connection refused".toList)))
      sampleConnectionConfig).run (Session.new, ⟨.none, []⟩)
        [.reconnect .defaultConn none]).map (fun final =>
          (final.2.tasks.running, final.2.tasks.peak)) = some ([0, 1, 2, 3, 4, 5], 6) := by
    decide +kernel
  obtain ⟨final, hfinal, hends⟩ := Option.map_eq_some_iff.mp hrun
  obtain ⟨hrunning, hpeak⟩ := Prod.mk.inj hends
  exact ⟨by decide +kernel, final, hfinal, hrunning, hpeak⟩

end RustdeskCli.Connection
