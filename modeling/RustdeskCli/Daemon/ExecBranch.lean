import RustdeskCli.Daemon.RetryBackoffs
set_option autoImplicit false

/-!
# Daemon: the Exec branch in the loop (`src/daemon.rs`)

`execRequest` is the Exec branch alone: a terminal, two runs of the command and a reconnect.
The loop of the daemon has the same branch among its others, on a stream that also carries
what the terminal does not see.  A request of the loop is a request of the branch: it is
answered alike, ends the daemon alike, and sends the same terminal actions.
-/

namespace RustdeskCli.Daemon

open RustdeskCli.Foundation
open RustdeskCli.Session
open RustdeskCli.Terminal
open RustdeskCli.Exec
open RustdeskCli.Capture

/-! ## What the client has got before -/

/-- The client after it has been written these responses, too, before all others. -/
def behind (written : List SessionResponse) (client : Client) : Client :=
  { client with written := written ++ client.written }

section Behind

variable (written : List SessionResponse)

theorem sendChunk_behind (client : Client) (data : Bytes) :
    (behind written client).sendChunk data =
      ((client.sendChunk data).1, behind written (client.sendChunk data).2) := by
  obtain ⟨streaming, writes, before⟩ := client
  cases streaming with
  | false => rfl
  | true => rcases writes with _ | ⟨_ | e, writes⟩ <;> simp [behind, Client.sendChunk,
      Client.sendResponse]

/-- Nothing that an exec does depends on what its client has got before. -/
theorem collect_behind (zstd : Zstd) (remaining sentinel : Text) (collected : Bytes)
    (client : Client) (inbox : List Arrival) :
    collect zstd remaining sentinel collected (behind written client) inbox =
      let ended := collect zstd remaining sentinel collected client inbox
      (ended.1, behind written ended.2.1, ended.2.2) := by
  induction inbox generalizing collected client with
  | nil => rfl
  | cons arrival inbox ih =>
      unfold collect
      split
      · rename_i data _
        rw [sendChunk_behind]
        rcases client.sendChunk data with ⟨e | _, client'⟩
        · rfl
        · dsimp only
          split
          · rfl
          · exact ih _ client'
      · rfl
      · rfl
      · split <;> rfl

theorem finishExec_behind (env : ExecEnv) (command : Text) (tid : Int) (peer : Peer)
    (client : Client) (serviceId : Option Text) :
    finishExec env command tid ⟨peer, behind written client, serviceId⟩ =
      let done := finishExec env command tid ⟨peer, client, serviceId⟩
      (done.1, ⟨done.2.peer, behind written done.2.client, done.2.activeServiceId⟩) := by
  unfold finishExec
  dsimp only
  rw [collect_behind]
  rcases collect env.zstd env.remaining (sentinelOf env.sentinelId) [] client peer.inbox with
    ⟨ended, client', inbox⟩
  cases ended <;> rfl

theorem execCommandInner_behind (env : ExecEnv) (command : Text) (peer : Peer)
    (client : Client) (serviceId : Option Text) :
    execCommandInner env command ⟨peer, behind written client, serviceId⟩ =
      let done := execCommandInner env command ⟨peer, client, serviceId⟩
      (done.1, ⟨done.2.peer, behind written done.2.client, done.2.activeServiceId⟩) := by
  unfold execCommandInner
  dsimp only
  split
  · rfl
  · rfl
  · split
    · rfl
    · rfl
    · rfl
    · split
      · rfl
      · exact finishExec_behind written env command _ _ client _

end Behind

/-! ## The request of the branch -/

/-- A new connection of the loop, for a terminal whose waits end as `wakes` says. -/
def NewConnection.connection (conn : NewConnection) (wakes : List Stream.Wake) : Connection :=
  ⟨((conn.stream (loginFor .terminal none)).schedule wakes).arrivals, conn.sends⟩

/-- What an Exec request of the loop meets, for the branch alone. -/
def Request.execEnv (req : Request) : RequestEnv where
  switchMode := fun attempt => (req.switchMode attempt).map (·.connection req.firstWakes)
  reconnect := fun attempt => (req.reconnect attempt).map (·.connection req.retryWakes)
  first := req.first.exec
  retry := req.retry.exec

/-- The daemon's variables at the start of the branch; no action has been sent yet. -/
def DaemonLoop.execState (d : DaemonLoop) (wakes : List Stream.Wake) : DaemonState where
  encrypted := (d.encrypted.schedule wakes).peer
  activeConnType := d.activeConnType
  activeServiceId := d.activeServiceId
  retired := []

/-- The response that ends a request. -/
def RequestEnd.response : RequestEnd → SessionResponse
  | .answered response => response
  | .shutDown response _ => response

/-- The terminal action of a message. -/
def Outgoing.action? : Outgoing → Option TerminalAction
  | .terminal action => some action
  | _ => none

/-- The terminal actions that were sent, on all streams. -/
def DaemonLoop.actions (d : DaemonLoop) : List TerminalAction :=
  (d.retired ++ [d.encrypted]).flatMap fun s => s.sent.filterMap Outgoing.action?

/-- The terminal actions of the branch. -/
def DaemonState.actions (st : DaemonState) : List TerminalAction :=
  (st.retired ++ [st.encrypted]).flatMap Peer.sent

theorem DaemonState.typed_eq (st : DaemonState) : st.typed = st.actions.countP isData := by
  rw [typed, actions, List.countP_flatMap]
  rfl

/-- The loop is where the branch is, and has sent the same actions since it had sent
`before`. -/
structure Follows (before : List TerminalAction) (d : DaemonLoop) (st : DaemonState) : Prop where
  connType : d.activeConnType = st.activeConnType
  serviceId : d.activeServiceId = st.activeServiceId
  actions : d.actions = before ++ st.actions

theorem Follows.start (d : DaemonLoop) (wakes : List Stream.Wake) :
    Follows d.actions d (d.execState wakes) :=
  ⟨rfl, rfl, (List.append_nil _).symm⟩

/-! ## One run, and one reconnect -/

theorem filterMap_action (actions : List TerminalAction) :
    (actions.map Outgoing.terminal).filterMap Outgoing.action? = actions := by
  rw [List.filterMap_map]
  exact List.filterMap_some

/-- A run of the command in the loop is a run of the branch. -/
theorem runExec_follows {before : List TerminalAction} {d : DaemonLoop} {st : DaemonState}
    (h : Follows before d st) (env : CommandEnv) (wakes : List Stream.Wake) (command : Text)
    (hpeer : st.encrypted = (d.encrypted.schedule wakes).peer) {uds : Uds} {client : Client}
    (hwrites : client.writes = uds.writes) :
    ∃ d' uds', d.runExec command env wakes uds =
        some ((execCommandStreaming env.exec command client st).1, d', uds') ∧
      Follows before d' (execCommandStreaming env.exec command client st).2.2 ∧
      (execCommandStreaming env.exec command client st).2.1.writes = uds'.writes ∧
      d'.returned = d.returned := by
  have hclient : { client with streaming := true } =
      behind client.written ⟨true, uds.writes, []⟩ := by
    rw [behind, List.append_nil, hwrites]
  have hrun : execCommandStreaming env.exec command client st =
      let done := execCommandInner env.exec command
        ⟨(d.encrypted.schedule wakes).peer, ⟨true, uds.writes, []⟩, d.activeServiceId⟩
      (done.1, behind client.written done.2.client,
        { st with encrypted := done.2.peer, activeServiceId := done.2.activeServiceId }) := by
    rw [execCommandStreaming, hclient, hpeer, ← h.serviceId, execCommandInner_behind]
  have hloop : d.runExec command env wakes uds =
      let done := execCommandInner env.exec command
        ⟨(d.encrypted.schedule wakes).peer, ⟨true, uds.writes, []⟩, d.activeServiceId⟩
      some (done.1, { d with
        encrypted := ((d.encrypted.schedule wakes).after done.2.peer).settle
        activeServiceId := done.2.activeServiceId },
        ⟨done.2.client.writes, uds.written ++ done.2.client.written.map .line⟩) := rfl
  rw [hrun, hloop]
  refine ⟨_, _, rfl, ⟨h.connType, rfl, ?_⟩, rfl, rfl⟩
  -- both have sent what the terminal functions have sent
  have hactions := h.actions
  have hfresh : st.encrypted.sent = [] := by rw [hpeer]; rfl
  simp only [DaemonLoop.actions, DaemonState.actions, List.flatMap_append, List.flatMap_singleton,
    hfresh, List.append_nil] at hactions ⊢
  rw [← List.append_assoc, ← hactions, List.append_assoc]
  congr 1
  show (d.encrypted.sent ++ _).filterMap Outgoing.action? = _
  rw [List.filterMap_append, filterMap_action]

/-- A reconnect of the loop to a terminal is a reconnect of the branch. -/
theorem reconnect_follows {before : List TerminalAction} {d : DaemonLoop} {st : DaemonState}
    (h : Follows before d st) (attempts : Attempts) (wakes : List Stream.Wake) :
    match reconnectEncryptedStream fun attempt => (attempts attempt).map (·.connection wakes) with
    | .error e => ∃ d', d.reconnect attempts .terminal = (.error e, d') ∧ Follows before d' st ∧
        d'.returned = d.returned
    | .ok conn => ∃ d', d.reconnect attempts .terminal = (.ok (), d') ∧
        Follows before d'
          { st with encrypted := conn.peer, retired := st.retired ++ [st.encrypted] } ∧
        conn.peer = (d'.encrypted.schedule wakes).peer ∧ d'.returned = d.returned := by
  rw [reconnectEncryptedStream, reconnectWithRetryBackoffs_map]
  cases hconn : reconnectWithRetryBackoffs attempts reconnectBackoffs 0 none with
  | error e =>
      refine ⟨{ d with reconnects := d.reconnects ++ [d.closeSent] }, ?_,
        ⟨h.connType, h.serviceId, h.actions⟩, rfl⟩
      simp only [DaemonLoop.reconnect, reconnectStream, hconn]
  | ok conn =>
      have hreconnect : d.reconnect attempts .terminal = (.ok (), { d with
          encrypted := conn.stream (loginFor .terminal d.activeServiceId)
          session := { d.session with state := .connected, peerInfo := some conn.peerInfo }
          retired := d.retired ++ [d.encrypted]
          closeSent := (conn.stream (loginFor .terminal d.activeServiceId)).inbox.any Event.isClose
          reconnects := d.reconnects ++ [d.closeSent] }) := by
        simp only [DaemonLoop.reconnect, reconnectStream, hconn, initializeStreamForMode]
        rfl
      refine ⟨_, hreconnect, ⟨h.connType, h.serviceId, ?_⟩, rfl, rfl⟩
      have hactions := h.actions
      simp only [DaemonLoop.actions, DaemonState.actions, List.flatMap_append,
        List.flatMap_singleton, NewConnection.stream, Connection.peer, List.filterMap_nil,
        List.append_nil] at hactions ⊢
      exact hactions

/-! ## The whole request -/

/-- The switch to a terminal connection is the one of the branch. -/
theorem switchMode_follows (d : DaemonLoop) (req : Request) (command : Text)
    (timeout : Option UInt64) :
    match switchToTerminal req.execEnv (d.execState req.firstWakes) with
    | .error e => ∃ d', d.switchMode req.switchMode (.exec command timeout) = (.error e, d') ∧
        Follows d.actions d' (d.execState req.firstWakes) ∧ d'.returned = d.returned
    | .ok st => ∃ d', d.switchMode req.switchMode (.exec command timeout) = (.ok (), d') ∧
        Follows d.actions d' st ∧ st.encrypted = (d'.encrypted.schedule req.firstWakes).peer ∧
        st.activeConnType = .terminal ∧ d'.returned = d.returned := by
  have hstart := Follows.start d req.firstWakes
  by_cases hterminal : d.activeConnType = .terminal
  · have hbranch : switchToTerminal req.execEnv (d.execState req.firstWakes) =
        .ok (d.execState req.firstWakes) := if_neg (not_not.mpr hterminal)
    rw [hbranch]
    refine ⟨d, ?_, hstart, rfl, hterminal, rfl⟩
    simp [DaemonLoop.switchMode, connTypeForCommand, hterminal]
  · have henv : req.execEnv.switchMode = fun attempt =>
        (req.switchMode attempt).map (·.connection req.firstWakes) := rfl
    have hreconnect := reconnect_follows hstart req.switchMode req.firstWakes
    rw [← henv] at hreconnect
    unfold switchToTerminal
    rw [if_pos (show (d.execState req.firstWakes).activeConnType ≠ .terminal from hterminal)]
    cases hconn : reconnectEncryptedStream req.execEnv.switchMode with
    | error e =>
        rw [hconn] at hreconnect
        obtain ⟨d', hrun, hfollows, hreturned⟩ := hreconnect
        refine ⟨d', ?_, hfollows, hreturned⟩
        simp [DaemonLoop.switchMode, connTypeForCommand, Ne.symm hterminal, hrun]
    | ok conn =>
        rw [hconn] at hreconnect
        obtain ⟨d', hrun, hfollows, hpeer, hreturned⟩ := hreconnect
        refine ⟨{ d' with activeConnType := .terminal }, ?_,
          ⟨rfl, hfollows.serviceId, hfollows.actions⟩, hpeer, rfl, hreturned⟩
        simp [DaemonLoop.switchMode, connTypeForCommand, Ne.symm hterminal, hrun]

/-- A request that ended in the loop as one of the branch: the same response comes last, the
daemon shuts down after it in the same cases, and the same actions were sent. -/
structure EndsAlike (before : List TerminalAction) (uds : Uds) (d : DaemonLoop)
    (ended : RequestEnd × DaemonState) : Prop where
  response : ∃ chunks, uds.written = chunks ++ [.line ended.1.response]
  shutDown : d.returned ≠ none ↔ ∃ response e, ended.1 = .shutDown response e
  follows : Follows before d ended.2

theorem EndsAlike.answered {before : List TerminalAction} {d : DaemonLoop} {st : DaemonState}
    (h : Follows before d st) (hrunning : d.returned = none) (uds : Uds)
    (response : SessionResponse) :
    EndsAlike before (uds.sendResponse response).2 d (.answered response, st) := by
  refine ⟨⟨uds.written, Uds.write_written _ _⟩, iff_of_false (not_not.mpr hrunning) ?_, h⟩
  rintro ⟨_, _, heq⟩
  cases heq

theorem EndsAlike.shutsDown {before : List TerminalAction} {d : DaemonLoop} {st : DaemonState}
    (h : Follows before d st) (close : Option Error) (uds : Uds) (response : SessionResponse)
    (e : Error) :
    EndsAlike before (uds.sendResponse response).2 (d.leave close (.error e))
      (.shutDown response e, st) := by
  refine ⟨⟨uds.written, Uds.write_written _ _⟩, iff_of_true (Option.some_ne_none _) ⟨_, _, rfl⟩,
    ⟨h.connType, h.serviceId, ?_⟩⟩
  -- the close request is no terminal action
  rw [← h.actions]
  simp [DaemonLoop.actions, DaemonLoop.leave, Outgoing.action?]

/-- The two runs and the reconnect of the loop are those of the branch. -/
theorem withRetry_follows {before : List TerminalAction} {d : DaemonLoop} {st : DaemonState}
    (h : Follows before d st) (hrunning : d.returned = none) (req : Request) (command : Text)
    (hterminal : st.activeConnType = .terminal)
    (hpeer : st.encrypted = (d.encrypted.schedule req.firstWakes).peer) :
    ∃ uds d', d.withRetry req "exec".toList (DaemonLoop.runExec command) ⟨req.writes, []⟩ =
        some (uds, d') ∧
      EndsAlike before uds d' (runExec req.execEnv command ⟨true, req.writes, []⟩ st) := by
  obtain ⟨d₁, uds₁, hfirst, hfollows, hwrites, hreturned⟩ := runExec_follows h req.first
    req.firstWakes command hpeer (show (⟨true, req.writes, []⟩ : Client).writes =
      (⟨req.writes, []⟩ : Uds).writes from rfl)
  have hrunning₁ : d₁.returned = none := hreturned.trans hrunning
  have hterminal₁ : (execCommandStreaming req.first.exec command ⟨true, req.writes, []⟩
      st).2.2.activeConnType = .terminal := hterminal
  unfold DaemonLoop.withRetry runExec
  rw [hfirst, Request.execEnv]
  generalize execCommandStreaming req.first.exec command ⟨true, req.writes, []⟩ st = run
    at hfollows hwrites hterminal₁ ⊢
  obtain ⟨e | response, client, st₁⟩ := run
  · dsimp only at hfollows hwrites hterminal₁ ⊢
    by_cases hlost : shouldReconnect e = true
    · rw [if_pos hlost, if_pos hlost]
      have hreconnect := reconnect_follows hfollows req.reconnect req.retryWakes
      rw [hfollows.connType, hterminal₁]
      cases hconn : reconnectEncryptedStream fun attempt =>
          (req.reconnect attempt).map (·.connection req.retryWakes) with
      | error re =>
          rw [hconn] at hreconnect
          obtain ⟨d₂, hrun, hfollows₂, _⟩ := hreconnect
          rw [hrun]
          exact ⟨_, _, rfl, .shutsDown hfollows₂ req.close uds₁ _ re⟩
      | ok conn =>
          rw [hconn] at hreconnect
          obtain ⟨d₂, hrun, hfollows₂, hpeer₂, hreturned₂⟩ := hreconnect
          obtain ⟨d₃, uds₃, hsecond, hfollows₃, _, hreturned₃⟩ := runExec_follows hfollows₂
            req.retry req.retryWakes command hpeer₂ hwrites
          have hrunning₃ : d₃.returned = none :=
            (hreturned₃.trans hreturned₂).trans hrunning₁
          rw [hrun]
          dsimp only
          rw [hsecond]
          unfold retryExec
          dsimp only
          generalize execCommandStreaming req.retry.exec command client
            { st₁ with encrypted := conn.peer, retired := st₁.retired ++ [st₁.encrypted] } = run
            at hfollows₃ ⊢
          obtain ⟨re | response, client', st₃⟩ := run
          · exact ⟨_, _, rfl, .answered hfollows₃ hrunning₃ uds₃ _⟩
          · exact ⟨_, _, rfl, .answered hfollows₃ hrunning₃ uds₃ response⟩
    · rw [if_neg hlost, if_neg hlost]
      exact ⟨_, _, rfl, .answered hfollows hrunning₁ uds₁ _⟩
  · exact ⟨_, _, rfl, .answered hfollows hrunning₁ uds₁ response⟩

/-- An Exec request of the loop is an Exec request of the branch. -/
theorem handleRequest_exec {ι : Type} (lib : ImageLib ι) (d : DaemonLoop)
    (hrunning : d.returned = none) (req : Request) (command : Text) (timeout : Option UInt64)
    (hline : req.line = .ok (.exec command timeout)) :
    ∃ uds d', d.handleRequest lib req = some (uds, d') ∧
      EndsAlike d.actions uds d'
        (execRequest req.execEnv command ⟨true, req.writes, []⟩ (d.execState req.firstWakes)) := by
  have hswitch := switchMode_follows d req command timeout
  unfold DaemonLoop.handleRequest execRequest
  rw [hline]
  dsimp only
  cases hbranch : switchToTerminal req.execEnv (d.execState req.firstWakes) with
  | error e =>
      rw [hbranch] at hswitch
      obtain ⟨d', hrun, hfollows, hreturned⟩ := hswitch
      rw [hrun]
      exact ⟨_, _, rfl, .answered hfollows (hreturned.trans hrunning) ⟨req.writes, []⟩ _⟩
  | ok st =>
      rw [hbranch] at hswitch
      obtain ⟨d', hrun, hfollows, hpeer, hterminal, hreturned⟩ := hswitch
      rw [hrun]
      exact withRetry_follows hfollows (hreturned.trans hrunning) req command hterminal hpeer

/-- So the loop types the command as often as the branch does. -/
theorem handleRequest_exec_typed {ι : Type} (lib : ImageLib ι) (d : DaemonLoop)
    (hrunning : d.returned = none) (req : Request) (command : Text) (timeout : Option UInt64)
    (hline : req.line = .ok (.exec command timeout)) :
    ∃ uds d', d.handleRequest lib req = some (uds, d') ∧
      d'.actions.countP isData = d.actions.countP isData +
        (execRequest req.execEnv command ⟨true, req.writes, []⟩
          (d.execState req.firstWakes)).2.typed := by
  obtain ⟨uds, d', hhandled, hends⟩ := handleRequest_exec lib d hrunning req command timeout hline
  refine ⟨uds, d', hhandled, ?_⟩
  rw [hends.follows.actions, List.countP_append, DaemonState.typed_eq]

end RustdeskCli.Daemon
