import RustdeskCli.Foundation.Machine
import RustdeskCli.Daemon.Handlers
set_option autoImplicit false

/-!
# Daemon: the event loop (`src/daemon.rs`)

`run_daemon` after its start: one stream to the peer, replaced whenever the daemon
reconnects, and a loop over what happens, a message of the peer, a heartbeat tick, a
client with a request, the idle timeout or a signal.  The loop is a machine; an action
of it is one turn of the loop or something the peer does meanwhile.  What the peer
sends while a command runs counts as sent before it.

The results of everything outside, connection attempts, sends, writes, timers, come
with the action.
-/

namespace RustdeskCli.Daemon

open RustdeskCli.Foundation
open RustdeskCli.Session
open RustdeskCli.Terminal
open RustdeskCli.Exec
open RustdeskCli.Capture
open RustdeskCli.Transfer

/-! ## Connecting -/

/-- `conn_type_for_command`. -/
def connTypeForCommand : SessionCommand → ConnType
  | .shell | .exec .. => .terminal
  | _ => .defaultConn

/-- `login_union_for_conn_type`. -/
def loginUnionForConnType (connType : ConnType) (serviceId : Option Text) : Option LoginUnion :=
  match connType with
  | .terminal => some (.terminal (serviceId.getD []))
  | _ => none

/-- The login of the daemon's connections. -/
def loginFor (connType : ConnType) (serviceId : Option Text) : Login :=
  ⟨connType, loginUnionForConnType connType serviceId⟩

/-- A new connection, logged in: what the peer says of itself, what it sends and when it
ends, and which of the sends fail. -/
structure NewConnection where
  username : Text
  hostname : Text
  displays : List DisplayInfo
  frames : List Frame
  lost : Option Error
  sends : List (Option Error)
  deriving DecidableEq, Repr

/-- The stream of a new connection. -/
def NewConnection.stream (conn : NewConnection) (login : Login) : Stream :=
  ⟨login, conn.frames.map .frame, conn.lost, conn.sends, []⟩

/-- The `PeerInfoState` of a new connection. -/
def NewConnection.peerInfo (conn : NewConnection) : PeerInfoState :=
  ⟨conn.username, conn.username, conn.hostname, conn.displays⟩

/-- `build_option_message`. -/
def buildOptionMessage : OptionMessage where
  imageQuality := 4
  customFps := 0
  disableAudio := 2
  disableClipboard := 2
  disableCamera := 2
  terminalPersistent := 2
  abilityVp9 := 1

/-- `send_option_message`. -/
def sendOptionMessage (s : Stream) : Except Error Unit × Stream :=
  match s.send (.option buildOptionMessage) with
  | (.error e, s) => (.error (e.context "sending OptionMessage".toList), s)
  | (.ok (), s) => (.ok (), s)

/-- `send_session_init`. -/
def sendSessionInit (s : Stream) : Except Error Unit × Stream :=
  match s.send (.captureDisplays [0]) with
  | (.error e, s) => (.error (e.context "sending CaptureDisplays".toList), s)
  | (.ok (), s) =>
      match s.send (.refreshVideo true) with
      | (.error e, s) => (.error (e.context "sending refresh_video".toList), s)
      | (.ok (), s) => (.ok (), s)

/-- `initialize_stream_for_mode`. -/
def initializeStreamForMode (s : Stream) (connType : ConnType) : Except Error Unit × Stream :=
  if connType = .defaultConn then
    match sendOptionMessage s with
    | (.error e, s) => (.error e, s)
    | (.ok (), s) => sendSessionInit s
  else (.ok (), s)

/-- The results of the attempts of one reconnect. -/
abbrev Attempts := Nat → Except Error NewConnection

/-- `reconnect_encrypted_stream`. -/
def reconnectStream (attempts : Attempts) (session : Session) (connType : ConnType)
    (serviceId : Option Text) : Except Error Stream × Session :=
  match reconnectWithRetryBackoffs attempts reconnectBackoffs 0 none with
  | .error e => (.error e, session)
  | .ok conn =>
      match initializeStreamForMode (conn.stream (loginFor connType serviceId)) connType with
      | (.error e, _) => (.error e, session)
      | (.ok (), s) => (.ok s, { session with state := .connected, peerInfo := some conn.peerInfo })

/-! ## The state of the loop -/

/-- The message is a close request of the peer. -/
def Event.isClose : Event → Bool
  | .frame (.message (.closeReason _)) => true
  | _ => false

/-- The variables of `run_daemon`, and a record of what has happened. -/
structure DaemonLoop where
  encrypted : Stream
  activeConnType : ConnType
  activeServiceId : Option Text
  session : Session
  /-- the socket and the lock file exist -/
  files : Bool
  /-- the result of `run_daemon`, once it has returned -/
  returned : Option (Except Error Unit)
  /-- the streams given up -/
  retired : List Stream
  /-- the peer has sent a close request on the current stream -/
  closeSent : Bool
  /-- for each call of `reconnect_encrypted_stream`, whether the peer had asked to close -/
  reconnects : List Bool
  deriving DecidableEq

namespace DaemonLoop

/-- A reconnect, and the new stream in the place of the old one. -/
def reconnect (d : DaemonLoop) (attempts : Attempts) (connType : ConnType) :
    Except Error Unit × DaemonLoop :=
  let d := { d with reconnects := d.reconnects ++ [d.closeSent] }
  match reconnectStream attempts d.session connType d.activeServiceId with
  | (.error e, session) => (.error e, { d with session := session })
  | (.ok s, session) =>
      (.ok (), { d with
        encrypted := s
        session := session
        retired := d.retired ++ [d.encrypted]
        closeSent := s.inbox.any Event.isClose })

/-- `graceful_shutdown(..).await?; return result`.  Whether the close fails or not, the
guard removes the files. -/
def leave (d : DaemonLoop) (close : Option Error) (result : Except Error Unit) : DaemonLoop :=
  { d with
    encrypted := (d.encrypted.send (.closeReason [])).2
    files := false
    returned := some (match close with
      | some e => .error (e.context "closing encrypted transport".toList)
      | none => result) }

/-- Reconnect in the active mode after a lost connection, or give up. -/
def recover (d : DaemonLoop) (attempts : Attempts) (close : Option Error) : DaemonLoop :=
  match d.reconnect attempts d.activeConnType with
  | (.ok (), d) => d
  | (.error e, d) => d.leave close (.error e)

/-! ## Messages and ticks -/

/-- `handle_peer_message` on a decoded message; `false` when the peer asks to close. -/
def handlePeerMessage (s : Stream) : PeerMessage → Bool × Stream
  | .testDelay td => (true, (s.send (.testDelay td.echo)).2)
  | .closeReason _ => (false, s)
  | _ => (true, s)

/-- The loop reads a frame. -/
def readFrame (d : DaemonLoop) (attempts : Attempts) (close : Option Error) :
    Frame → DaemonLoop
  | .heartbeat => d
  | .undecodable _ => d
  | .failed _ => d.recover attempts close
  | .message m =>
      match handlePeerMessage d.encrypted m with
      | (true, s) => { d with encrypted := s }
      | (false, s) => { d with encrypted := s }.leave close (.ok ())

/-- The loop reads the stream; `none` when there is nothing to read. -/
def peerMessage (d : DaemonLoop) (attempts : Attempts) (close : Option Error) :
    Option DaemonLoop :=
  match d.encrypted.inbox with
  | .frame frame :: inbox =>
      some ({ d with encrypted := { d.encrypted with inbox := inbox } }.readFrame attempts close
        frame)
  | _ :: inbox => some { d with encrypted := { d.encrypted with inbox := inbox } }
  | [] =>
      match d.encrypted.lost with
      | some _ => some (d.recover attempts close)
      | none => none

/-- A heartbeat tick; `expired` says whether the peer has been silent for too long. -/
def heartbeatTick (d : DaemonLoop) (expired : Bool) (attempts : Attempts)
    (close : Option Error) : DaemonLoop :=
  match d.encrypted.send .heartbeat with
  | (.error _, s) => { d with encrypted := s }.recover attempts close
  | (.ok (), s) =>
      if expired then { d with encrypted := s }.recover attempts close
      else { d with encrypted := s }

end DaemonLoop

/-! ## Requests -/

/-- A client's request and everything outside that it meets: the line it sends, decoded or
refused by `serde`; the writes to it that fail; for the first run of the command and for
the second, how its waits end and what its handler needs; the attempts to connect for a
mode switch and after a lost connection; and the error of closing the stream. -/
structure Request where
  line : Except Error SessionCommand
  writes : List (Option Error)
  first : CommandEnv
  firstWakes : List Stream.Wake
  retry : CommandEnv
  retryWakes : List Stream.Wake
  switchMode : Attempts
  reconnect : Attempts
  close : Option Error

/-- A run of a command's handler: its result, the daemon and the client after it; `none`
when the handler does not return. -/
abbrev Run := Option (Except Error SessionResponse × DaemonLoop × Uds)

namespace DaemonLoop

/-- The switch to the connection type a command needs. -/
def switchMode (d : DaemonLoop) (attempts : Attempts) (cmd : SessionCommand) :
    Except Error Unit × DaemonLoop :=
  let desired := connTypeForCommand cmd
  if desired ≠ d.activeConnType then
    let d := if desired ≠ .terminal then { d with activeServiceId := none } else d
    match d.reconnect attempts desired with
    | (.error e, d) => (.error e, d)
    | (.ok (), d) => (.ok (), { d with activeConnType := desired })
  else (.ok (), d)

/-- `push_file_command` on the daemon's stream. -/
def runPush (localPath remotePath : Text) (env : CommandEnv) (wakes : List Stream.Wake)
    (d : DaemonLoop) (uds : Uds) : Run :=
  match pushFileCommand env localPath remotePath (d.encrypted.schedule wakes) uds with
  | (none, _, _) => none
  | (some result, s, uds) => some (result, { d with encrypted := s.settle }, uds)

/-- `exec_command_streaming` on the daemon's stream. -/
def runExec (command : Text) (env : CommandEnv) (wakes : List Stream.Wake) (d : DaemonLoop)
    (uds : Uds) : Run :=
  match execStreaming env.exec command (d.encrypted.schedule wakes) uds d.activeServiceId with
  | (result, s, uds, serviceId) =>
      some (result, { d with encrypted := s.settle, activeServiceId := serviceId }, uds)

/-- `execute_daemon_command` on the daemon's stream. -/
def runCommand {ι : Type} (lib : ImageLib ι) (cmd : SessionCommand) (env : CommandEnv)
    (wakes : List Stream.Wake) (d : DaemonLoop) (uds : Uds) : Run :=
  match executeDaemonCommand lib env (d.encrypted.schedule wakes) d.session cmd with
  | (result, s, session) =>
      some (result, { d with encrypted := s.settle, session := session }, uds)

theorem runCommand_eq {ι : Type} (lib : ImageLib ι) (cmd : SessionCommand) (env : CommandEnv)
    (wakes : List Stream.Wake) (d : DaemonLoop) (uds : Uds) :
    d.runCommand lib cmd env wakes uds =
      let done := executeDaemonCommand lib env (d.encrypted.schedule wakes) d.session cmd
      some (done.1, { d with encrypted := done.2.1.settle, session := done.2.2 }, uds) := rfl

/-- What the three branches of the loop do with a command that has an answer: run it, and
when its error looks like a lost connection, reconnect and run it once more.  `what` is
the name of the command in the error of the second run. -/
def withRetry (req : Request) (what : Text)
    (run : CommandEnv → List Stream.Wake → DaemonLoop → Uds → Run) (d : DaemonLoop) (uds : Uds) :
    Option (Uds × DaemonLoop) :=
  match run req.first req.firstWakes d uds with
  | none => none
  | some (.ok resp, d, uds) => some ((uds.sendResponse resp).2, d)
  | some (.error e, d, uds) =>
      if shouldReconnect e then
        match d.reconnect req.reconnect d.activeConnType with
        | (.error re, d) =>
            let uds := (uds.sendResponse (.error ("connection lost: ".toList ++ e.alternate ++
              "; reconnect failed: ".toList ++ re.alternate))).2
            some (uds, d.leave req.close (.error re))
        | (.ok (), d) =>
            match run req.retry req.retryWakes d uds with
            | none => none
            | some (.ok resp, d, uds) => some ((uds.sendResponse resp).2, d)
            | some (.error re, d, uds) =>
                some ((uds.sendResponse (.error (what ++ " failed after reconnect: ".toList ++
                  re.alternate))).2, d)
      else some ((uds.sendResponse (.error e.alternate)).2, d)

/-- The answer to a result: its response, or an error line. -/
def Concludes (result : Except Error SessionResponse) (final : SessionResponse) : Prop :=
  result = .ok final ∨ ∃ message, final = .error message

section Retry

variable (req : Request) (run : CommandEnv → List Stream.Wake → DaemonLoop → Uds → Run)
variable (d : DaemonLoop) (uds : Uds)

/-- How `withRetry` can come to its end: with the first run, by giving up after a lost
connection, or with the second run on a new one. -/
inductive Retried : Uds → DaemonLoop → Prop where
  | once {result : Except Error SessionResponse} {d₁ : DaemonLoop} {uds₁ : Uds}
      {final : SessionResponse}
      (first : run req.first req.firstWakes d uds = some (result, d₁, uds₁))
      (answer : Concludes result final) : Retried (uds₁.sendResponse final).2 d₁
  | gaveUp {e re : Error} {d₁ d₂ : DaemonLoop} {uds₁ : Uds} {message : Text}
      (first : run req.first req.firstWakes d uds = some (.error e, d₁, uds₁))
      (lost : shouldReconnect e = true)
      (failed : d₁.reconnect req.reconnect d₁.activeConnType = (.error re, d₂)) :
      Retried (uds₁.sendResponse (.error message)).2 (d₂.leave req.close (.error re))
  | twice {e : Error} {d₁ d₂ d₃ : DaemonLoop} {uds₁ uds₂ : Uds}
      {result : Except Error SessionResponse} {final : SessionResponse}
      (first : run req.first req.firstWakes d uds = some (.error e, d₁, uds₁))
      (lost : shouldReconnect e = true)
      (connected : d₁.reconnect req.reconnect d₁.activeConnType = (.ok (), d₂))
      (second : run req.retry req.retryWakes d₂ uds₁ = some (result, d₃, uds₂))
      (answer : Concludes result final) : Retried (uds₂.sendResponse final).2 d₃

variable {req run d uds}

theorem withRetry_retried {what : Text} {uds' : Uds} {d' : DaemonLoop}
    (h : d.withRetry req what run uds = some (uds', d')) : Retried req run d uds uds' d' := by
  unfold withRetry at h
  split at h
  · cases h
  · rename_i hfirst
    obtain ⟨rfl, rfl⟩ := Prod.mk.inj (Option.some.inj h)
    exact .once hfirst (.inl rfl)
  · rename_i hfirst
    split at h
    · rename_i hlost
      split at h
      · rename_i hfailed
        obtain ⟨rfl, rfl⟩ := Prod.mk.inj (Option.some.inj h)
        exact .gaveUp hfirst hlost hfailed
      · rename_i hconnected
        split at h
        · cases h
        · rename_i hsecond
          obtain ⟨rfl, rfl⟩ := Prod.mk.inj (Option.some.inj h)
          exact .twice hfirst hlost hconnected hsecond (.inl rfl)
        · rename_i hsecond
          obtain ⟨rfl, rfl⟩ := Prod.mk.inj (Option.some.inj h)
          exact .twice hfirst hlost hconnected hsecond (.inr ⟨_, rfl⟩)
    · obtain ⟨rfl, rfl⟩ := Prod.mk.inj (Option.some.inj h)
      exact .once hfirst (.inr ⟨_, rfl⟩)

end Retry

/-- The Shell branch. -/
def runShell (req : Request) (d : DaemonLoop) (uds : Uds) : Uds × DaemonLoop :=
  match shellSession req.first.exec.zstd (d.encrypted.schedule req.firstWakes) uds
      d.activeServiceId with
  | (result, s, uds, serviceId) =>
      let d := { d with encrypted := s.settle, activeServiceId := serviceId }
      match result with
      | .ok () => (uds, d)
      | .error e => if shouldReconnect e then (uds, d.recover req.reconnect req.close) else (uds, d)

/-- The branch of all other commands; `Disconnect` ends the daemon after its answer. -/
def runGeneric {ι : Type} (lib : ImageLib ι) (req : Request) (cmd : SessionCommand)
    (d : DaemonLoop) (uds : Uds) : Option (Uds × DaemonLoop) :=
  match withRetry req "command".toList (runCommand lib cmd) d uds with
  | none => none
  | some (uds, d) =>
      if d.returned.isNone ∧ cmd = .disconnect then some (uds, d.leave req.close (.ok ()))
      else some (uds, d)

/-- A command on a connection of its type. -/
def runRequest {ι : Type} (lib : ImageLib ι) (req : Request) (cmd : SessionCommand)
    (d : DaemonLoop) (uds : Uds) : Option (Uds × DaemonLoop) :=
  match cmd with
  | .shell => some (runShell req d uds)
  | .push localPath remotePath => withRetry req "push".toList (runPush localPath remotePath) d uds
  | .exec command _ => withRetry req "exec".toList (runExec command) d uds
  | cmd => runGeneric lib req cmd d uds

/-- A client's connection, from its request to its end. -/
def handleRequest {ι : Type} (lib : ImageLib ι) (req : Request) (d : DaemonLoop) :
    Option (Uds × DaemonLoop) :=
  let uds : Uds := ⟨req.writes, []⟩
  match req.line with
  | .error e =>
      some ((uds.sendResponse (.error ("Invalid command: ".toList ++ e.display))).2, d)
  | .ok cmd =>
      match d.switchMode req.switchMode cmd with
      | (.error e, d) => some ((uds.sendResponse (.error e.alternate)).2, d)
      | (.ok (), d) => runRequest lib req cmd d uds

end DaemonLoop

/-! ## The machine -/

/-- A turn of the loop, or something the peer does. -/
inductive Action where
  | peerSends (frame : Frame)
  /-- the connection ends; reads fail with this error from then on -/
  | peerCloses (e : Error)
  /-- a wait that was given up had read a part of a frame: what the rest reads as -/
  | frameCut (frames : List Frame)
  | peerMessage (attempts : Attempts) (close : Option Error)
  | heartbeatTick (expired : Bool) (attempts : Attempts) (close : Option Error)
  | accept (req : Request)
  /-- a connection that fails, or whose request cannot be read -/
  | acceptError
  | idleTimeout (close : Option Error)
  | signal (close : Option Error)

/-- One action of the machine; `none` when it cannot happen. -/
def loopStep {ι : Type} (lib : ImageLib ι) (d : DaemonLoop) (action : Action) :
    Option DaemonLoop :=
  if d.returned.isSome then none
  else
    match action with
    | .peerSends frame =>
        if d.encrypted.lost.isSome then none
        else some { d with
          encrypted := { d.encrypted with inbox := d.encrypted.inbox ++ [.frame frame] }
          closeSent := d.closeSent || (Event.frame frame).isClose }
    | .peerCloses e =>
        if d.encrypted.lost.isSome then none
        else some { d with encrypted := { d.encrypted with lost := some e } }
    | .frameCut frames =>
        some { d with encrypted := { d.encrypted with inbox := frames.map .frame } }
    | .peerMessage attempts close => d.peerMessage attempts close
    | .heartbeatTick expired attempts close => some (d.heartbeatTick expired attempts close)
    | .accept req => (d.handleRequest lib req).map Prod.snd
    | .acceptError => some d
    | .idleTimeout close => some (d.leave close (.ok ()))
    | .signal close => some (d.leave close (.ok ()))

/-- The machine of the loop. -/
def loopMachine {ι : Type} (lib : ImageLib ι) : Machine DaemonLoop Action := ⟨loopStep lib⟩

/-- The start of `run_daemon`: the first connection, and the loop's variables; `none` when
its initialisation fails and the loop is never reached. -/
def startLoop (config : ConnectionConfig) (conn : NewConnection) : Option DaemonLoop :=
  match initializeStreamForMode (conn.stream (loginFor .defaultConn none)) .defaultConn with
  | (.error _, _) => none
  | (.ok (), s) =>
      some
        { encrypted := s, activeConnType := .defaultConn, activeServiceId := none
          session := ⟨.connected, some config, some conn.peerInfo⟩, files := true
          returned := none, retired := [], closeSent := s.inbox.any Event.isClose
          reconnects := [] }

/-- The states the loop can reach. -/
def Reachable {ι : Type} (lib : ImageLib ι) (d : DaemonLoop) : Prop :=
  ∃ config conn d₀ actions, startLoop config conn = some d₀ ∧
    (loopMachine lib).run d₀ actions = some d

/-! ## A daemon that has just started -/

/-- A peer without displays, whose connection brings these frames. -/
def sampleConn (frames : List Frame) : NewConnection :=
  ⟨"user".toList, "host".toList, [], frames, none, []⟩

/-- The configuration of the sample daemon. -/
def sampleConfig : ConnectionConfig := ⟨"123".toList, none, none⟩

/-- An image library that knows no format. -/
def sampleImages : ImageLib Unit where
  loadFromMemory _ := .error (.msg "The image format could not be determined".toList)
  dimensions _ := (0, 0)
  cropImm image _ := image
  writeJpeg _ _ := .error (.msg "Invalid image size".toList)
  writePng _ := .error (.msg "Invalid image size".toList)

/-- The daemon at the start of its loop. -/
def sampleDaemon : DaemonLoop where
  encrypted := ⟨loginFor .defaultConn none, [], none, [],
    [.option buildOptionMessage, .captureDisplays [0], .refreshVideo true]⟩
  activeConnType := .defaultConn
  activeServiceId := none
  session := ⟨.connected, some sampleConfig, some (sampleConn []).peerInfo⟩
  files := true
  returned := none
  retired := []
  closeSent := false
  reconnects := []

theorem startLoop_sample : startLoop sampleConfig (sampleConn []) = some sampleDaemon := rfl

/-- What the handlers of the sample requests find outside. -/
def sampleCommandEnv : CommandEnv where
  exec := sampleExecEnv 1
  pid := 100
  nanos := 0
  file := ⟨.error (.msg "No such file or directory (os error 2)".toList), .ok (), .ok (), [], []⟩

/-- A request whose line says `line`, whose attempts to connect all give `attempt`. -/
def sampleRequest (line : Except Error SessionCommand) (wakes : List Stream.Wake)
    (attempt : Except Error NewConnection) : Request where
  line := line
  writes := []
  first := sampleCommandEnv
  firstWakes := wakes
  retry := sampleCommandEnv
  retryWakes := []
  switchMode := fun _ => attempt
  reconnect := fun _ => attempt
  close := none

end RustdeskCli.Daemon
