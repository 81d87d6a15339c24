import RustdeskCli.Exec.Command
set_option autoImplicit false

/-!
# Daemon: an Exec request (`src/daemon.rs`)

The Exec branch of the daemon's loop: switch the connection to terminal mode if it
is in another, run the command, and, when the error looks like a lost connection,
reconnect and run the command once more.  The error is classified by its text, also
after the command has been typed, so a command can be typed twice; never more often,
and the second time only on a new connection.
-/

namespace RustdeskCli.Daemon

open RustdeskCli.Foundation
open RustdeskCli.Session
open RustdeskCli.Terminal
open RustdeskCli.Exec

/-- `ConnType`, with the types the program logs in with. -/
inductive ConnType where
  | defaultConn
  | fileTransfer
  | terminal
  deriving DecidableEq, Repr

/-- The texts `should_reconnect` looks for. -/
def reconnectNeedles : List Text :=
  ["decryption failed".toList, "broken pipe".toList, "connection reset".toList,
    "connection aborted".toList, "unexpected eof".toList, "failed to fill whole buffer".toList,
    "connection refused".toList, "transport".toList, "closed".toList, "timed out".toList]

/-- `should_reconnect`. -/
def shouldReconnect (e : Error) : Bool :=
  let message := e.alternate.map Char.toLower
  reconnectNeedles.any fun needle => Text.contains message needle

/-- A new connection: what ends its waits, and which of its sends fail. -/
structure Connection where
  inbox : List Arrival
  sends : List (Option Error)
  deriving DecidableEq, Repr

/-- The stream of a new connection. -/
def Connection.peer (conn : Connection) : Peer := ⟨conn.inbox, conn.sends, []⟩

/-- `RECONNECT_BACKOFFS`, in seconds. -/
def reconnectBackoffs : List Nat := [1, 2, 4, 8, 16, 30]

/-- `reconnect_with_retry_backoffs`, where `connect` gives the result of each attempt. -/
def reconnectWithRetryBackoffs {α : Type} (connect : Nat → Except Error α) :
    List Nat → Nat → Option Error → Except Error α
  | [], _, lastError => .error (lastError.getD (.msg "reconnect failed".toList))
  | _ :: backoffs, idx, _ =>
      match connect idx with
      | .ok conn => .ok conn
      | .error e => reconnectWithRetryBackoffs connect backoffs (idx + 1) (some e)

/-- `reconnect_encrypted_stream` to a terminal connection. -/
def reconnectEncryptedStream (connect : Nat → Except Error Connection) :
    Except Error Connection :=
  reconnectWithRetryBackoffs connect reconnectBackoffs 0 none

/-- What happens around one request: the attempts to connect when the mode is switched
and after a lost connection, and what the two runs of the command need. -/
structure RequestEnv where
  switchMode : Nat → Except Error Connection
  reconnect : Nat → Except Error Connection
  first : ExecEnv
  retry : ExecEnv

/-- The daemon's variables that a request changes, and the streams it has given up. -/
structure DaemonState where
  encrypted : Peer
  activeConnType : ConnType
  activeServiceId : Option Text
  retired : List Peer
  deriving Repr

/-- How the request ends: the loop goes on, or the daemon shuts down. -/
inductive RequestEnd where
  | answered (response : SessionResponse)
  | shutDown (response : SessionResponse) (e : Error)

/-- The switch to a terminal connection, before any command that needs one. -/
def switchToTerminal (env : RequestEnv) (st : DaemonState) : Except Error DaemonState :=
  if st.activeConnType ≠ .terminal then
    match reconnectEncryptedStream env.switchMode with
    | .ok conn =>
        .ok { st with
          encrypted := conn.peer
          activeConnType := .terminal
          retired := st.retired ++ [st.encrypted] }
    | .error e => .error e
  else .ok st

/-- `exec_command_streaming`. -/
def execCommandStreaming (env : ExecEnv) (command : Text) (client : Client) (st : DaemonState) :
    Except Error SessionResponse × Client × DaemonState :=
  match execCommandInner env command
      ⟨st.encrypted, { client with streaming := true }, st.activeServiceId⟩ with
  | (result, ⟨peer, client, serviceId⟩) =>
      (result, client, { st with encrypted := peer, activeServiceId := serviceId })

/-- The second run, on the stream of a new connection. -/
def retryExec (env : RequestEnv) (command : Text) (client : Client) (st : DaemonState)
    (conn : Connection) : RequestEnd × DaemonState :=
  let st := { st with encrypted := conn.peer, retired := st.retired ++ [st.encrypted] }
  match execCommandStreaming env.retry command client st with
  | (.ok response, _, st) => (.answered response, st)
  | (.error e, _, st) =>
      (.answered (.error ("exec failed after reconnect: ".toList ++ e.alternate)), st)

/-- The Exec branch on a terminal connection. -/
def runExec (env : RequestEnv) (command : Text) (client : Client) (st : DaemonState) :
    RequestEnd × DaemonState :=
  match execCommandStreaming env.first command client st with
  | (.ok response, _, st) => (.answered response, st)
  | (.error e, client, st) =>
      if shouldReconnect e then
        match reconnectEncryptedStream env.reconnect with
        | .ok conn => retryExec env command client st conn
        | .error re =>
            (.shutDown (.error ("connection lost: ".toList ++ e.alternate ++
              "; reconnect failed: ".toList ++ re.alternate)) re, st)
      else (.answered (.error e.alternate), st)

/-- An Exec request, from its arrival to its final response. -/
def execRequest (env : RequestEnv) (command : Text) (client : Client) (st : DaemonState) :
    RequestEnd × DaemonState :=
  match switchToTerminal env st with
  | .error e => (.answered (.error e.alternate), st)
  | .ok st => runExec env command client st

/-! ## How often the command is typed -/

/-- How often something has been typed into a terminal, on all streams. -/
def DaemonState.typed (st : DaemonState) : Nat :=
  ((st.retired ++ [st.encrypted]).map fun peer => peer.sent.countP isData).sum

theorem switchToTerminal_typed {env : RequestEnv} {st st' : DaemonState}
    (h : switchToTerminal env st = .ok st') : st'.typed = st.typed := by
  rw [switchToTerminal] at h
  split at h
  · split at h
    · rw [← Except.ok.inj h]
      simp [DaemonState.typed, Connection.peer]
    · cases h
  · rw [← Except.ok.inj h]

/-- One run of the command types at most once. -/
theorem execCommandStreaming_typed (env : ExecEnv) (command : Text) (client : Client)
    (st : DaemonState) :
    (execCommandStreaming env command client st).2.2.typed ≤ st.typed + 1 := by
  obtain ⟨extra, hextra, hcount⟩ := execCommandInner_sent env command
    ⟨st.encrypted, { client with streaming := true }, st.activeServiceId⟩
  simp only [execCommandStreaming, DaemonState.typed, List.map_append, List.map_cons, List.map_nil,
    List.sum_append, List.sum_cons, List.sum_nil, hextra, List.countP_append]
  omega

/-- The second run types at most once more. -/
theorem retryExec_typed (env : RequestEnv) (command : Text) (client : Client) (st : DaemonState)
    (conn : Connection) : (retryExec env command client st conn).2.typed ≤ st.typed + 1 := by
  have hrun := execCommandStreaming_typed env.retry command client
    { st with encrypted := conn.peer, retired := st.retired ++ [st.encrypted] }
  have hstart : DaemonState.typed
      { st with encrypted := conn.peer, retired := st.retired ++ [st.encrypted] } = st.typed := by
    simp [DaemonState.typed, Connection.peer]
  rw [hstart] at hrun
  rw [retryExec]
  split <;> rename_i hsplit <;> rw [hsplit] at hrun <;> exact hrun

/-- What the first run of a request returned, on the connection it ran on. -/
def firstResult (env : RequestEnv) (command : Text) (client : Client) (st : DaemonState) :
    Option (Except Error SessionResponse) :=
  match switchToTerminal env st with
  | .error _ => none
  | .ok st => some (execCommandStreaming env.first command client st).1

/-- A request types its command at most once, unless the first run failed with an error
that looks like a lost connection and the daemon could reconnect; then at most twice. -/
theorem exec_request_types_at_most_twice (env : RequestEnv) (command : Text) (client : Client)
    (st : DaemonState) :
    (execRequest env command client st).2.typed ≤ st.typed + 1 ∨
      ((execRequest env command client st).2.typed ≤ st.typed + 2 ∧
        ∃ e conn, firstResult env command client st = some (.error e) ∧
          shouldReconnect e = true ∧ reconnectEncryptedStream env.reconnect = .ok conn) := by
  rw [execRequest, firstResult]
  cases hswitch : switchToTerminal env st with
  | error e => exact .inl (by simp)
  | ok st' =>
      have htyped := switchToTerminal_typed hswitch
      have hfirst := execCommandStreaming_typed env.first command client st'
      rw [htyped] at hfirst
      simp only
      rw [runExec]
      rcases hrun : execCommandStreaming env.first command client st' with
        ⟨e | response, client', st''⟩
      · rw [hrun] at hfirst
        simp only at hfirst ⊢
        by_cases hlost : shouldReconnect e = true
        · rw [if_pos hlost]
          cases hconn : reconnectEncryptedStream env.reconnect with
          | error re => exact .inl hfirst
          | ok conn =>
              have hretry := retryExec_typed env command client' st'' conn
              exact .inr ⟨by simp only; omega, e, conn, rfl, hlost, rfl⟩
        · rw [if_neg hlost]
          exact .inl hfirst
      · rw [hrun] at hfirst
        exact .inl hfirst

/-- An environment for a run of the command. -/
def sampleExecEnv (id : BitVec 128) : ExecEnv :=
  ⟨⟨fun data => .ok data, fun data => .ok data⟩, id, "30".toList⟩

/-- A terminal is opened and its prompt drained. -/
def openedAndDrained : List Arrival :=
  [.response (.opened ⟨1, true, [], 7, "svc".toList⟩), .elapsed .response]

/-- After the command has been typed, the first stream fails to decrypt a frame; the
second one returns the sentinel. -/
def sampleEnv : RequestEnv where
  switchMode := fun _ => .error (.msg "not used".toList)
  reconnect := fun _ => .ok
    ⟨openedAndDrained ++
      [.response (.data ⟨1, textBytes (sentinelOf 2 ++ "0\r\n".toList), false⟩)], []⟩
  first := sampleExecEnv 1
  retry := sampleExecEnv 2

/-- A daemon on a terminal connection that is about to fail. -/
def sampleState : DaemonState where
  encrypted :=
    ⟨openedAndDrained ++
      [.failed (.msg "Decryption failed: invalid ciphertext or wrong key".toList)], [], []⟩
  activeConnType := .terminal
  activeServiceId := none
  retired := []

/-- Everything that has been typed, on all streams. -/
def DaemonState.typedData (st : DaemonState) : List TerminalAction :=
  (st.retired ++ [st.encrypted]).flatMap fun peer => peer.sent.filter isData

/-- One request, one command, typed twice. -/
theorem exec_request_types_twice :
    sampleState.typed = 0 ∧
      (execRequest sampleEnv "rm x".toList ⟨true, [], []⟩ sampleState).2.typed = 2 ∧
      (execRequest sampleEnv "rm x".toList ⟨true, [], []⟩ sampleState).2.typedData =
        [.data ⟨1, textBytes (wrapped "rm x".toList (sentinelOf 1)), false⟩,
          .data ⟨1, textBytes (wrapped "rm x".toList (sentinelOf 2)), false⟩] := by
  decide +kernel

end RustdeskCli.Daemon
