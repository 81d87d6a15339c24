import RustdeskCli.Cli.Commands
set_option autoImplicit false
set_option linter.dupNamespace false

/-!
# Cli: when success is the daemon's

A command that exits with success should have been carried out: the daemon has answered
the `SessionCommand` that stands for it with success, and for a batch it has done so for
every step in order.  Most commands have no other way to succeed.  Three have: `disconnect`
does not look at the answer, `capture` makes up an image where there is no daemon, and `do`
makes up all of its answers.
-/

namespace RustdeskCli.Cli

open RustdeskCli.Foundation
open RustdeskCli.Session
open RustdeskCli.Capture

/-! ## What a command stands for -/

/-- `DEFAULT_EXEC_TIMEOUT_SECS`. -/
def defaultExecTimeoutSecs : UInt64 := 30

/-- The quality a batch asks for: a number from 1 to 100, or the default of `capture`. -/
def stepQuality (args : List Text) : UInt8 :=
  match (flagValue "--quality".toList args).bind parseUInt64 with
  | some quality => if 1 ≤ quality ∧ quality ≤ 100 then quality.toUInt8 else 90
  | none => 90

/-- What the action of a `clipboard` step stands for. -/
def clipboardSessionCommand (args : List Text) : Option SessionCommand :=
  let action := (firstNonFlagArg args).getD "get".toList
  if action = "get".toList then some .clipboardGet
  else if action = "set".toList then
    some (.clipboardSet ((flagValue "--text".toList args).getD []))
  else none

/-- The `SessionCommand` a step of a batch stands for: that of the stand-alone command with
the values `step_to_response` reads. -/
def stepSessionCommand (step : BatchStep) : Option SessionCommand :=
  let args := step.args
  if step.command = "connect".toList then
    some (.connect ((firstNonFlagArg args).getD "unknown".toList)
      (flagValue "--password".toList args) (flagValue "--server".toList args))
  else if step.command = "disconnect".toList then some .disconnect
  else if step.command = "shell".toList then some .shell
  else if step.command = "exec".toList then
    some (buildExecSessionCommand ((flagValue "--command".toList args).getD [])
      defaultExecTimeoutSecs)
  else if step.command = "clipboard".toList then clipboardSessionCommand args
  else if step.command = "status".toList then some .status
  else if step.command = "displays".toList then some .displays
  else if step.command = "capture".toList then
    let capture := CaptureArgs.ofArgs args
    some (captureCommand (some capture.file) capture.display (some capture.format)
      (stepQuality args) capture.timeout capture.region)
  else if step.command = "type".toList then some (.type (args.head?.getD []))
  else if step.command = "key".toList then
    some (.key ((firstNonFlagArg args).getD "enter".toList))
  else if step.command = "click".toList then
    let coords := positionalArgs args
    some (.click (coordinate coords 0) (coordinate coords 1)
      (((flagValue "--button".toList args).bind parseMouseButton).getD .left).asStr
      (flagPresent "--double".toList args))
  else if step.command = "scroll".toList then
    some (.scroll (coordinate args 0) (coordinate args 1) (coordinate args 2))
  else if step.command = "move".toList then
    some (.move (coordinate args 0) (coordinate args 1))
  else if step.command = "drag".toList then
    some (.drag (coordinate args 0) (coordinate args 1) (coordinate args 2) (coordinate args 3)
      "left".toList)
  else none

/-- The commands that need a session: all but `connect` and `status`. -/
def needsSession : SessionCommand → Bool
  | .connect .. | .status => false
  | _ => true

/-- Does a step of a batch need a session? -/
def BatchStep.needsSession (step : BatchStep) : Bool :=
  (stepSessionCommand step).any Cli.needsSession

/-- What a batch stands for, if one of its steps needs a session: the commands of all its
steps. -/
def batchCommands (steps : List BatchStep) : List SessionCommand :=
  if steps.any BatchStep.needsSession then steps.filterMap stepSessionCommand else []

/-- What the daemon has to carry out for a command to succeed. -/
def Commands.required : Commands → List SessionCommand
  | .disconnect => [.disconnect]
  | .shell => [.shell]
  | .exec command timeout => [buildExecSessionCommand command timeout]
  | .push localPath remotePath => [.push localPath remotePath]
  | .clipboardGet => [.clipboardGet]
  | .clipboardSet text => [.clipboardSet text]
  | .status => []
  | .displays => [.displays]
  | .capture file display format quality timeout region =>
      [captureCommand file display format quality timeout region]
  | .type text => [.type text]
  | .key name _ => [.key name]
  | .click button double x y => [.click x y button.asStr double]
  | .scroll x y delta => [.scroll x y delta]
  | .move x y => [.move x y]
  | .drag x1 y1 x2 y2 => [.drag x1 y1 x2 y2 "left".toList]
  | .doSteps tokens =>
      match parseBatchSteps tokens with
      | .ok steps => batchCommands steps
      | .error _ => []

/-! ## What the daemon has carried out -/

/-- An answer that says success. -/
def succeeded : Except Error SessionResponse → Bool
  | .ok resp => resp.success
  | .error _ => false

/-- The commands that were answered with success, in order. -/
def served (sent : List (SessionCommand × Except Error SessionResponse)) : List SessionCommand :=
  (sent.filter fun exchange => succeeded exchange.2).map Prod.fst

theorem served_single {cmd : SessionCommand} {result : Except Error SessionResponse} :
    [cmd].Sublist (served [(cmd, result)]) ↔ succeeded result = true := by
  unfold served
  cases hsuccess : succeeded result with
  | true =>
      rw [List.filter_cons_of_pos (by exact hsuccess)]
      exact ⟨fun _ => rfl, fun _ => List.Sublist.refl _⟩
  | false =>
      rw [List.filter_cons_of_neg (by simp [hsuccess])]
      simp

/-- Exit code 0 only if the daemon has answered what the command stands for with success. -/
def SuccessIsServed (cli : Cli) (env : Env) : Prop :=
  (run cli env).exitCode = exitSuccess → cli.command.required.Sublist (served (run cli env).sent)

/-! ## The commands with one way to succeed -/

theorem exitSession_ne : exitSession ≠ exitSuccess := by decide

theorem exitConnection_ne : exitConnection ≠ exitSuccess := by decide

theorem exitPermission_ne : exitPermission ≠ exitSuccess := by decide

/-- An outcome whose success is that of the one command it has sent. -/
def Faithful (cmd : SessionCommand) (o : Outcome) : Prop :=
  o.exitCode = exitSuccess → [cmd].Sublist (served o.sent)

/-- It is enough that an answer without success is no success. -/
theorem faithful_of_failure {cmd : SessionCommand} {emitted : Emitted}
    {result : Except Error SessionResponse}
    (h : succeeded result = false →
      (Outcome.mk emitted [(cmd, result)]).exitCode = exitConnection) :
    Faithful cmd ⟨emitted, [(cmd, result)]⟩ := by
  intro hexit
  apply served_single.mpr
  cases hsuccess : succeeded result with
  | true => rfl
  | false =>
      rw [h hsuccess] at hexit
      exact absurd hexit exitConnection_ne

theorem faithful_ask (d : DaemonSide) (cmd : SessionCommand) (command default : Text)
    (onSuccess : SessionResponse → Emitted) :
    Faithful cmd (ask d cmd command default onSuccess) := by
  apply faithful_of_failure
  intro hfailed
  cases hresult : sendToDaemon d cmd with
  | error e => rfl
  | ok resp =>
      rw [hresult] at hfailed
      have hfailed : ¬ resp.success = true := Bool.eq_false_iff.mp hfailed
      unfold Outcome.exitCode answerEmitted
      simp only [if_neg hfailed]
      rfl

theorem faithful_guarded {cmd : SessionCommand} {go : Outcome} (command : Text)
    (allowed : Except Error Unit) (h : Faithful cmd go) :
    Faithful cmd (guarded command allowed go) := by
  cases allowed with
  | error e =>
      intro hexit
      exact absurd hexit exitPermission_ne
  | ok u => exact h

/-- `exec` fails when the last line is no success. -/
theorem faithful_exec (json : Bool) (cmd : SessionCommand) (command : Text)
    (reached : Except Error (List UdsLine)) :
    Faithful cmd ⟨.response (runExec json command reached),
      [(cmd, (sendToDaemonStreaming (execOnResponse json) ⟨[], false⟩ reached).1)]⟩ := by
  apply faithful_of_failure
  intro hfailed
  unfold Outcome.exitCode runExec
  generalize sendToDaemonStreaming (execOnResponse json) ⟨[], false⟩ reached = answer at hfailed ⊢
  obtain ⟨result, seen⟩ := answer
  cases result with
  | error e => exact failureResponse_exitCode _ _
  | ok resp =>
      have hfailed : ¬ resp.success = true := Bool.eq_false_iff.mp hfailed
      simp only [if_neg hfailed, failureResponse_exitCode]

/-- `push` fails when the last line is no success. -/
theorem faithful_push (cmd : SessionCommand) (localPath remotePath : Text)
    (reached : Except Error (List UdsLine)) :
    Faithful cmd ⟨.response (runPush localPath remotePath reached),
      [(cmd, (sendToDaemonStreaming (fun (_ : Unit) _ => ()) () reached).1)]⟩ := by
  apply faithful_of_failure
  intro hfailed
  unfold Outcome.exitCode runPush
  generalize sendToDaemonStreaming (fun (_ : Unit) _ => ()) () reached = answer at hfailed ⊢
  obtain ⟨result, seen⟩ := answer
  cases result with
  | error e => exact failureResponse_exitCode _ _
  | ok resp =>
      have hfailed : ¬ resp.success = true := Bool.eq_false_iff.mp hfailed
      simp only [if_neg hfailed, failureResponse_exitCode]

/-! ## The three that can succeed by themselves -/

theorem faithful_disconnect_iff (d : DaemonSide) :
    Faithful .disconnect (runDisconnect d) ↔
      (d.running = false ∨ succeeded (sendToDaemon d .disconnect) = true) := by
  unfold Faithful runDisconnect
  cases d.running with
  | true =>
      simp only [if_true, Bool.true_eq_false, false_or]
      rw [served_single]
      exact ⟨fun h => h rfl, fun h _ => h⟩
  | false =>
      simp only [Bool.false_eq_true, if_false, true_or, iff_true]
      intro hexit
      exact absurd hexit exitSession_ne

/-- Where nothing was sent, success is never the daemon's. -/
theorem not_faithful_of_silent (cmd : SessionCommand) {emitted : Emitted}
    (h : (Outcome.mk emitted []).exitCode = exitSuccess) : ¬ Faithful cmd ⟨emitted, []⟩ := by
  intro hfaithful
  cases hfaithful h

theorem faithful_capture_iff (json : Bool) (env : Env) (file : Option Text)
    (display : Option Int32) (format : Option CaptureFormat) (quality : UInt8) (timeout : UInt64)
    (region : Option Region) :
    Faithful (captureCommand file display format quality timeout region)
        (runCapture json env file display format quality timeout region) ↔
      (env.daemon.running = true ∨
        file = none ∧ ∃ e, env.write none (fakeCapturePayload .png) = .error e) := by
  unfold runCapture
  cases env.daemon.running with
  | true =>
      simp only [if_true, true_or, iff_true]
      exact faithful_ask _ _ _ _ _
  | false =>
      simp only [Bool.false_eq_true, if_false, false_or]
      cases file with
      | some file =>
          simp only [reduceCtorEq, false_and, iff_false]
          apply not_faithful_of_silent
          exact successResponse_exitCode _ _ _
      | none =>
          unfold fakeCapture writeCaptureOutput
          cases env.write none (fakeCapturePayload .png) with
          | ok u =>
              simp only [reduceCtorEq, exists_false, and_false, iff_false]
              exact not_faithful_of_silent _ rfl
          | error e =>
              simp only [Except.error.injEq, exists_eq', and_self, iff_true]
              intro hexit
              exact absurd hexit exitConnection_ne

theorem batchCommands_eq_nil_iff (steps : List BatchStep) :
    batchCommands steps = [] ↔ ∀ step ∈ steps, step.needsSession = false := by
  unfold batchCommands
  split
  · rename_i hany
    obtain ⟨step, hstep, hneeds⟩ := List.any_eq_true.mp hany
    constructor
    · intro hnil
      have hnone := List.filterMap_eq_nil_iff.mp hnil step hstep
      unfold BatchStep.needsSession at hneeds
      rw [hnone] at hneeds
      cases hneeds
    · intro hnone
      rw [hnone step hstep] at hneeds
      cases hneeds
  · rename_i hany
    simpa using hany

/-- A batch that is accepted has sent nothing, so it succeeds rightly only if there was
nothing to send. -/
theorem served_do_iff (d : DaemonSide) (tokens : List Text) :
    ((runDo d tokens).exitCode = exitSuccess →
        (Commands.doSteps tokens).required.Sublist (served (runDo d tokens).sent)) ↔
      (d.running = false ∨
        ∀ steps, parseBatchSteps tokens = .ok steps →
          ∀ step ∈ steps, step.needsSession = false) := by
  simp only [runDo, Commands.required]
  cases d.running with
  | false =>
      simp only [Bool.false_eq_true, if_false, true_or, iff_true]
      intro hexit
      exact absurd hexit exitSession_ne
  | true =>
      cases parseBatchSteps tokens with
      | error message =>
          simp only [if_true, reduceCtorEq, false_implies, implies_true, or_true, iff_true]
          intro hexit
          exact absurd hexit exitConnection_ne
      | ok steps =>
          simp only [if_true, Bool.true_eq_false, Except.ok.injEq, forall_eq', false_or]
          rw [← batchCommands_eq_nil_iff]
          constructor
          · intro h
            exact List.sublist_nil.mp (h rfl)
          · intro hnil _
            rw [hnil]
            exact List.nil_sublist _

/-! ## Every command -/

/-- The success of a run is left to the daemon: the permissions cannot be loaded; or the
command is none of the three; or a `disconnect` finds no daemon or is answered with success,
a `capture` finds a daemon or cannot write its own image, a `do` finds no daemon, cannot be
parsed or has no step that needs a session. -/
def LeftToDaemon (cli : Cli) (env : Env) : Prop :=
  (∃ e, cli.permissions env = .error e) ∨
    match cli.command with
    | .disconnect =>
        env.daemon.running = false ∨ succeeded (sendToDaemon env.daemon .disconnect) = true
    | .capture file _ _ _ _ _ =>
        env.daemon.running = true ∨
          file = none ∧ ∃ e, env.write none (fakeCapturePayload .png) = .error e
    | .doSteps tokens =>
        env.daemon.running = false ∨
          ∀ steps, parseBatchSteps tokens = .ok steps → ∀ step ∈ steps, step.needsSession = false
    | _ => True

theorem served_runCommand_iff (json : Bool) (permissions : PermissionManager) (cli : Cli)
    (env : Env) (hok : cli.permissions env = .ok permissions) :
    ((runCommand json permissions env cli.command).exitCode = exitSuccess →
        cli.command.required.Sublist
          (served (runCommand json permissions env cli.command).sent)) ↔
      LeftToDaemon cli env := by
  unfold LeftToDaemon
  simp only [hok, reduceCtorEq, exists_false, false_or]
  cases cli.command with
  | disconnect => exact faithful_disconnect_iff env.daemon
  | capture file display format quality timeout region =>
      exact faithful_capture_iff json env file display format quality timeout region
  | doSteps tokens => exact served_do_iff env.daemon tokens
  | shell => exact iff_true_intro (faithful_guarded _ _ (faithful_ask _ _ _ _ _))
  | exec command timeout => exact iff_true_intro (faithful_guarded _ _ (faithful_exec _ _ _ _))
  | push localPath remotePath =>
      exact iff_true_intro (faithful_guarded _ _ (faithful_push _ _ _ _))
  | status => exact iff_true_intro fun _ => List.nil_sublist _
  | _ => exact iff_true_intro (faithful_ask _ _ _ _ _)

/-- A run exits with success only after the daemon's, exactly when success is left to the
daemon. -/
theorem success_is_served_iff (cli : Cli) (env : Env) :
    SuccessIsServed cli env ↔ LeftToDaemon cli env := by
  unfold SuccessIsServed run
  cases hpermissions : cli.permissions env with
  | error e =>
      constructor
      · intro _
        exact .inl ⟨e, hpermissions⟩
      · intro _ hexit
        exact absurd hexit exitPermission_ne
  | ok permissions => exact served_runCommand_iff cli.json permissions cli env hpermissions

/-- A daemon that refuses everything, or none at all. -/
def refusing (running : Bool) : Env where
  candidates := []
  console := ⟨false, .ok (), .ok []⟩
  daemon :=
    { running
      runtime := .ok ()
      lock := .ok ()
      connect := .ok ()
      write := fun _ => .ok ()
      lines := fun _ => [.response (.error Session.noActiveSession.display)] }
  write := fun _ _ => .ok ()

theorem parseBatchSteps_type :
    parseBatchSteps ["type".toList, "hi".toList] = .ok [⟨"type".toList, ["hi".toList]⟩] := by
  have hargs : parseStepArgs "type".toList ["hi".toList] = .ok (["hi".toList], []) := rfl
  rw [parseBatchSteps_step rfl hargs, parseBatchSteps]
  rfl

/-- `do type hi` and `disconnect` exit with success although the daemon would refuse the one
and refuses the other, and `capture shot.png` does where there is no daemon. -/
theorem success_without_daemon :
    ¬ SuccessIsServed ⟨false, true, false, .doSteps ["type".toList, "hi".toList]⟩
        (refusing true) ∧
      ¬ SuccessIsServed ⟨false, true, false, .disconnect⟩ (refusing true) ∧
      ¬ SuccessIsServed
        ⟨false, true, false, .capture (some "shot.png".toList) none none 90 10 none⟩
        (refusing false) := by
  refine ⟨fun h => ?_, fun h => ?_, fun h => ?_⟩
  · unfold SuccessIsServed run runCommand runDo Commands.required at h
    simp only [parseBatchSteps_type] at h
    have := h rfl
    revert this
    decide +kernel
  · have := h rfl
    revert this
    decide +kernel
  · have := h rfl
    revert this
    decide +kernel

end RustdeskCli.Cli
