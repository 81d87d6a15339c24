import RustdeskCli.Cli.Batch
import RustdeskCli.Cli.Permissions
set_option autoImplicit false
set_option linter.dupNamespace false

/-!
# Cli: running a command (`src/main.rs`, `daemon::send_command`)

`run` for every command that goes through the daemon: the check of permissions, the
command that is sent and the answer to it, and the response that is printed.  A run also
lists what it has exchanged with the daemon, which is how a success that is printed can be
compared with the success the daemon has reported.

`connect` starts a daemon instead of talking to one, and `--peer` goes around it; neither
is here.
-/

namespace RustdeskCli.Cli

open RustdeskCli.Foundation
open RustdeskCli.Session
open RustdeskCli.Capture

/-! ## The command line and what is around it -/

/-- `Commands`, without `connect` and without `--peer`. -/
inductive Commands where
  | disconnect
  | shell
  | exec (command : Text) (timeout : UInt64)
  | push (localPath remotePath : Text)
  | clipboardGet
  | clipboardSet (text : Text)
  | status
  | displays
  | capture (file : Option Text) (display : Option Int32) (format : Option CaptureFormat)
      (quality : UInt8) (timeout : UInt64) (region : Option Region)
  | type (text : Text)
  | key (key : Text) (modifiers : List Modifier)
  | click (button : MouseButton) (double : Bool) (x y : Int32)
  | scroll (x y delta : Int32)
  | move (x y : Int32)
  | drag (x1 y1 x2 y2 : Int32)
  | doSteps (steps : List Text)

/-- `Cli`. -/
structure Cli where
  json : Bool
  dangerouslySkipPermissions : Bool
  sandbox : Bool
  command : Commands

/-- The daemon as a command meets it: whether `is_daemon_running` finds it, whether it can be
reached and written to, and the lines it answers a command with. -/
structure DaemonSide where
  running : Bool
  runtime : Except Error Unit
  lock : Except Error Unit
  connect : Except Error Unit
  write : SessionCommand → Except Error Unit
  lines : SessionCommand → List UdsLine

/-- What a run depends on. -/
structure Env where
  candidates : List ConfigCandidate
  console : Console
  daemon : DaemonSide
  /-- writing bytes to a file, or to stdout -/
  write : Option Text → Bytes → Except Error Unit

/-- `capture::write_capture_output`. -/
def writeCaptureOutput (env : Env) (bytes : Bytes) (file : Option Text) : Except Error Unit :=
  (env.write file bytes).mapError (·.context (match file with
    | some file => "writing screenshot to ".toList ++ file
    | none => "writing screenshot to stdout".toList))

/-! ## Talking to the daemon -/

/-- The response in the first line, which `send_command` reads and no other. -/
def firstResponse : List UdsLine → Except Error SessionResponse
  | [] | .blank :: _ => .error (.msg "EOF while parsing a value at line 1 column 0".toList)
  | .response response :: _ => .ok response
  | .malformed e :: _ => .error e
  | .failed e :: _ => .error e

/-- `send_to_daemon`. -/
def sendToDaemon (d : DaemonSide) (cmd : SessionCommand) : Except Error SessionResponse := do
  d.runtime
  d.lock
  d.connect.mapError
    (·.context "Failed to connect to daemon socket. Is the session still alive?".toList)
  d.write cmd
  firstResponse (d.lines cmd)

/-- How `send_to_daemon_streaming` reaches the daemon. -/
def reachDaemon (d : DaemonSide) (cmd : SessionCommand) : Except Error (List UdsLine) := do
  d.lock
  d.connect
  d.write cmd
  .ok (d.lines cmd)

/-! ## Outcomes -/

/-- What is printed last. -/
inductive Emitted where
  | response (response : Response)
  | batch (response : BatchResponse)
  /-- nothing but the image itself -/
  | image

/-- A run: what is printed, and what was exchanged with the daemon before. -/
structure Outcome where
  emitted : Emitted
  sent : List (SessionCommand × Except Error SessionResponse)

/-- The exit code of a run. -/
def Outcome.exitCode (o : Outcome) : Int :=
  match o.emitted with
  | .response response => response.exitCode
  | .batch response => response.exitCode
  | .image => exitSuccess

/-- A run that has sent nothing. -/
def Outcome.local (response : Response) : Outcome := ⟨.response response, []⟩

/-- What every command but `disconnect`, `status` and `do` makes of the daemon's answer. -/
def answerEmitted (command default : Text) (onSuccess : SessionResponse → Emitted) :
    Except Error SessionResponse → Emitted
  | .ok resp =>
      if resp.success then onSuccess resp
      else .response (errorResponse command "connection_error".toList
        (resp.message.getD default) exitConnection)
  | .error e =>
      .response (errorResponse command "connection_error".toList e.display exitConnection)

/-- Sending one command and printing what comes of it. -/
def ask (d : DaemonSide) (cmd : SessionCommand) (command default : Text)
    (onSuccess : SessionResponse → Emitted) : Outcome :=
  let result := sendToDaemon d cmd
  ⟨answerEmitted command default onSuccess result, [(cmd, result)]⟩

/-- A command that needs a permission first. -/
def guarded (command : Text) (allowed : Except Error Unit) (go : Outcome) : Outcome :=
  match allowed with
  | .error e =>
      .local (errorResponse command "permission_error".toList e.display exitPermission)
  | .ok () => go

/-! ## Commands -/

/-- The `SessionCommand` of `exec`. -/
def buildExecSessionCommand (command : Text) (timeout : UInt64) : SessionCommand :=
  .exec command (some timeout)

/-- The format of a capture that the daemon is asked for. -/
def responseFormat (file : Option Text) (format : Option CaptureFormat) : CaptureFormat :=
  (format.or (file.map inferFormat)).getD .png

/-- The `SessionCommand` of `capture`. -/
def captureCommand (file : Option Text) (display : Option Int32) (format : Option CaptureFormat)
    (quality : UInt8) (timeout : UInt64) (region : Option Region) : SessionCommand :=
  .capture (file.getD []) (some (responseFormat file format).asStr) (some quality)
    (region.map Region.toCaptureRegion) display (some timeout)

/-- `disconnect`: the answer of the daemon is not looked at. -/
def runDisconnect (d : DaemonSide) : Outcome :=
  if d.running then
    ⟨.response (disconnectResponse true), [(.disconnect, sendToDaemon d .disconnect)]⟩
  else
    .local (errorResponse "disconnect".toList "session_error".toList "No active session".toList
      exitSession)

/-- `status`. -/
def runStatus (d : DaemonSide) : Outcome :=
  if d.running then
    let result := sendToDaemon d .status
    let response :=
      match result with
      | .ok resp =>
          if resp.success then
            let data := resp.data.getD (.obj [])
            statusConnectedResponse
              (((data.get "peer_id").bind Json.asStr).getD "unknown".toList)
          else statusResponse
      | .error _ => statusResponse
    ⟨.response response, [(.status, result)]⟩
  else .local statusResponse

/-- `capture` without a daemon: an image that is made up. -/
def fakeCapture (env : Env) (file : Option Text) (display : Option Int32)
    (format : Option CaptureFormat) (timeout : UInt64) (region : Option Region) : Emitted :=
  match file with
  | some file =>
      .response (captureResponse file (format.getD (inferFormat file)) region display timeout)
  | none =>
      match writeCaptureOutput env (fakeCapturePayload .png) none with
      | .ok () => .image
      | .error e =>
          .response (errorResponse "capture".toList "connection_error".toList e.display
            exitConnection)

/-- `capture` after a successful answer: the bytes are decoded and written. -/
def captureSuccess (json : Bool) (env : Env) (file : Option Text) (display : Option Int32)
    (format : Option CaptureFormat) (timeout : UInt64) (region : Option Region)
    (resp : SessionResponse) : Emitted :=
  let failed := fun message =>
    Emitted.response (errorResponse "capture".toList "connection_error".toList message
      exitConnection)
  match resp.data with
  | none => failed "capture response missing image bytes".toList
  | some data =>
      match base64Decode (((data.get "bytes_b64").bind Json.asStr).getD []) with
      | .error e => failed ("invalid capture payload: ".toList ++ e.display)
      | .ok bytes =>
          match writeCaptureOutput env bytes file with
          | .error e => failed e.display
          | .ok () =>
              if file.isNone && !json then .image
              else
                .response (captureResultResponse file (responseFormat file format) region display
                  timeout bytes.length)

/-- `capture`. -/
def runCapture (json : Bool) (env : Env) (file : Option Text) (display : Option Int32)
    (format : Option CaptureFormat) (quality : UInt8) (timeout : UInt64)
    (region : Option Region) : Outcome :=
  if env.daemon.running then
    ask env.daemon (captureCommand file display format quality timeout region) "capture".toList
      "capture failed".toList (captureSuccess json env file display format timeout region)
  else ⟨fakeCapture env file display format timeout region, []⟩

/-- `do`: nothing is sent to the daemon. -/
def runDo (d : DaemonSide) (tokens : List Text) : Outcome :=
  if d.running then
    ⟨.batch (match parseBatchSteps tokens with
      | .ok steps => doResponse steps
      | .error message => batchErrorResponse message), []⟩
  else
    ⟨.batch
      { lines := ["session_error: No active session".toList]
        json := .obj [("ok", .bool false), ("command", .str "do".toList),
          ("error", .obj [("code", .str "session_error".toList),
            ("message", .str "No active session".toList)])]
        exitCode := exitSession }, []⟩

/-- What `run` does with the command, when the permissions are loaded. -/
def runCommand (json : Bool) (permissions : PermissionManager) (env : Env) : Commands → Outcome
  | .disconnect => runDisconnect env.daemon
  | .shell =>
      guarded "shell".toList (permissions.ensureShellAllowed env.console)
        (ask env.daemon .shell "shell".toList "shell failed".toList
          fun _ => .response shellResponse)
  | .exec command timeout =>
      let cmd := buildExecSessionCommand command timeout
      let reached := reachDaemon env.daemon cmd
      guarded "exec".toList (permissions.ensureExecAllowed env.console command)
        ⟨.response (runExec json command reached),
          [(cmd, (sendToDaemonStreaming (execOnResponse json) ⟨[], false⟩ reached).1)]⟩
  | .push localPath remotePath =>
      let cmd := SessionCommand.push localPath remotePath
      let reached := reachDaemon env.daemon cmd
      guarded "push".toList (permissions.ensurePushAllowed env.console localPath remotePath)
        ⟨.response (runPush localPath remotePath reached),
          [(cmd, (sendToDaemonStreaming (fun (_ : Unit) _ => ()) () reached).1)]⟩
  | .clipboardGet =>
      ask env.daemon .clipboardGet "clipboard".toList "clipboard get failed".toList fun resp =>
        let data := resp.data.getD (.obj [])
        .response (clipboardGetResponse
          (((data.get "text").bind Json.asStr).getD "stub clipboard text".toList))
  | .clipboardSet text =>
      ask env.daemon (.clipboardSet text) "clipboard".toList "clipboard set failed".toList
        fun _ => .response (clipboardSetResponse text)
  | .status => runStatus env.daemon
  | .displays =>
      ask env.daemon .displays "displays".toList "displays failed".toList fun resp =>
        let data := resp.data.getD (.obj [])
        .response (displaysShortResponse (((data.get "displays").bind Json.asArray).getD []))
  | .capture file display format quality timeout region =>
      runCapture json env file display format quality timeout region
  | .type text =>
      ask env.daemon (.type text) "type".toList "type failed".toList
        fun _ => .response (typeResponse text)
  | .key key modifiers =>
      ask env.daemon (.key key) "key".toList "key failed".toList
        fun _ => .response (keyResponse key modifiers)
  | .click button double x y =>
      ask env.daemon (.click x y button.asStr double) "click".toList "click failed".toList
        fun _ => .response (clickResponse button x y double)
  | .scroll x y delta =>
      ask env.daemon (.scroll x y delta) "scroll".toList "scroll failed".toList
        fun _ => .response (scrollResponse x y delta)
  | .move x y =>
      ask env.daemon (.move x y) "move".toList "move failed".toList
        fun _ => .response (moveResponse x y)
  | .drag x1 y1 x2 y2 =>
      ask env.daemon (.drag x1 y1 x2 y2 "left".toList) "drag".toList "drag failed".toList
        fun _ => .response (dragResponse x1 y1 x2 y2)
  | .doSteps tokens => runDo env.daemon tokens

/-- The permissions of a run. -/
def Cli.permissions (cli : Cli) (env : Env) : Except Error PermissionManager :=
  PermissionManager.fromFlags cli.dangerouslySkipPermissions cli.sandbox env.candidates

/-- `run`. -/
def run (cli : Cli) (env : Env) : Outcome :=
  match cli.permissions env with
  | .error e =>
      .local (errorResponse "permissions".toList "permission_error".toList e.display
        exitPermission)
  | .ok permissions => runCommand cli.json permissions env cli.command

end RustdeskCli.Cli
