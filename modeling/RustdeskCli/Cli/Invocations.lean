import RustdeskCli.Cli.BatchLookup
import RustdeskCli.Cli.Commands
import RustdeskCli.Cli.DirectExec
import RustdeskCli.Cli.DirectPush
import RustdeskCli.Cli.Sandbox
set_option autoImplicit false

/-!
# Cli: every command line (`src/main.rs`)

`run` with all its branches: `connect`, whose password may come from stdin, `exec` and `push`
with `--peer`, and the commands that go through the daemon.  A run lists the calls by which
it reaches out, which is what the permissions are there to decide.

Every prompt takes a line of the same stdin, behind the line of the password.
-/

namespace RustdeskCli.Cli

open RustdeskCli.Foundation
open RustdeskCli.Session

/-! ## The command line -/

/-- `EXIT_INPUT`. -/
def exitInput : Int := 3

/-- `Commands`: `connect`, `exec` and `push` with `--peer`, and the rest. -/
inductive Invocation where
  | connect (options : ConnectOptions) (terminal passwordStdin : Bool) (timeout : UInt64)
  | execPeer (command : Text) (timeout : UInt64) (peer : ConnectOptions)
  | pushPeer (localPath remotePath : Text) (timeout : UInt64) (peer : ConnectOptions)
  | session (command : Commands)

/-- `Cli`, with every command. -/
structure Arguments where
  json : Bool
  dangerouslySkipPermissions : Bool
  sandbox : Bool
  command : Invocation

/-- stdin and stderr: what the coming flushes and calls of `read_line` give.  Behind the last
line stdin is at its end. -/
structure Input where
  isTerminal : Bool
  flushes : List (Except Error Unit)
  lines : List (Except Error Text)

namespace Input

/-- The console as the next prompt finds it. -/
def console (input : Input) : Console :=
  ⟨input.isTerminal, input.flushes.headD (.ok ()), input.lines.headD (.ok [])⟩

/-- What a prompt leaves that was answered. -/
def afterPrompt (input : Input) : Input :=
  { input with flushes := input.flushes.tail, lines := input.lines.tail }

end Input

/-- What a run depends on. -/
structure World where
  session : Env
  input : Input
  spawnDaemon : SpawnOptions → Except Error Unit
  terminalSession : ConnectionConfig → Except Error Unit
  directExec : DirectExecEnv
  directPush : DirectPushEnv

/-! ## Runs -/

/-- A call by which a run reaches out. -/
inductive Call where
  | sendToDaemon (cmd : SessionCommand)
  | spawnDaemon (options : SpawnOptions)
  | terminalSession (config : ConnectionConfig)
  | directExec (options : ConnectOptions) (timeout : UInt64) (command : Text)
  | directPush (options : ConnectOptions) (timeout : UInt64) (localPath remotePath : Text)

/-- How a run ends. -/
inductive Ending where
  | emitted (last : Emitted)
  /-- a line on stderr about the options -/
  | usage (message : Text)
  /-- an interactive session has come to its end -/
  | session
  /-- the peer of a push does not answer -/
  | waiting

/-- The exit code, if the run ends. -/
def Ending.exitCode : Ending → Option Int
  | .emitted last => some (Outcome.exitCode ⟨last, []⟩)
  | .usage _ => some exitInput
  | .session => some exitSuccess
  | .waiting => none

/-- A run: how it ends, and what it has called before. -/
structure Run where
  ending : Ending
  calls : List Call

namespace Run

/-- A run that has called nothing. -/
def failed (command code message : Text) (exitCode : Int) : Run :=
  ⟨.emitted (.response (errorResponse command code message exitCode)), []⟩

/-- A run that was not allowed. -/
def denied (command : Text) (e : Error) : Run :=
  failed command "permission_error".toList e.display exitPermission

end Run

/-! ## Permissions -/

/-- What a command has to be allowed to do. -/
inductive Operation where
  | connect (peerId : Text)
  | exec (command : Text)
  | shell
  | push (localPath remotePath : Text)

namespace PermissionManager

/-- The check of an operation. -/
def ensureAllowed (p : PermissionManager) (console : Console) : Operation → Except Error Unit
  | .connect peerId => p.ensureConnectAllowed console peerId
  | .exec command => p.ensureExecAllowed console command
  | .shell => p.ensureShellAllowed console
  | .push localPath remotePath => p.ensurePushAllowed console localPath remotePath

/-- A check, and the stdin it leaves. -/
def ensure (p : PermissionManager) (operation : Operation) (input : Input) :
    Except Error Input :=
  (p.ensureAllowed input.console operation).map fun () =>
    if p.skipPrompts then input else input.afterPrompt

/-- Checks one after the other, up to the first that fails. -/
def ensureAll (p : PermissionManager) : List Operation → Input → Except Error Input
  | [], input => .ok input
  | operation :: operations, input =>
      match p.ensure operation input with
      | .error e => .error e
      | .ok input => p.ensureAll operations input

end PermissionManager

/-- What a command does behind its checks. -/
def checked (name : Text) (p : PermissionManager) (input : Input) (operations : List Operation)
    (go : Run) : Run :=
  match p.ensureAll operations input with
  | .error e => .denied name e
  | .ok _ => go

/-! ## Commands -/

/-- The password of `connect`, and the stdin it leaves. -/
def connectPassword (password : Option Text) (passwordStdin : Bool) (input : Input) :
    Except Text (Option Text × Input) :=
  if password.isSome && passwordStdin then
    .error "error: --password and --password-stdin are mutually exclusive".toList
  else if passwordStdin then
    match input.lines.headD (.ok []) with
    | .error _ | .ok [] => .error "error: failed to read password from stdin".toList
    | .ok line =>
        .ok (some (line.rdropWhile (· = '\n')), { input with lines := input.lines.tail })
  else .ok (password, input)

/-- `connect`, once it is allowed. -/
def connectAllowed (json : Bool) (w : World) (options : ConnectOptions) (terminal : Bool)
    (timeout : UInt64) : Run :=
  let failed := fun (e : Error) => Emitted.response
    (errorResponse "connect".toList "connection_error".toList e.display exitConnection)
  if terminal then
    if json then
      .failed "connect".toList "input_error".toList
        "--json is not supported with interactive --terminal mode".toList exitInput
    else
      let config := buildDirectConnectionConfig options
      ⟨match w.terminalSession config with
        | .ok () => .session
        | .error e => .emitted (failed e),
        [.terminalSession config]⟩
  else
    let spawned : SpawnOptions := { options with timeout := some timeout }
    ⟨.emitted (match w.spawnDaemon spawned with
        | .ok () => .response (connectResponse options.peerId options.server)
        | .error e => failed e),
      [.spawnDaemon spawned]⟩

/-- `exec --peer`, once it is allowed. -/
def execPeerAllowed (w : World) (command : Text) (timeout : UInt64) (peer : ConnectOptions) :
    Run :=
  ⟨.emitted (.response (directExecResponse command
      (directExecOn w.directExec peer timeout command))),
    [.directExec peer timeout command]⟩

/-- `push --peer`, once it is allowed. -/
def pushPeerAllowed (json : Bool) (w : World) (localPath remotePath : Text) (timeout : UInt64)
    (peer : ConnectOptions) : Run :=
  ⟨match directPush w.directPush peer timeout localPath remotePath json with
    | none => .waiting
    | some result => .emitted (.response (directPushResponse localPath remotePath result)),
    [.directPush peer timeout localPath remotePath]⟩

/-- What `run` does with the command, when the permissions are loaded. -/
def Invocation.run (json : Bool) (p : PermissionManager) (w : World) : Invocation → Run
  | .connect options terminal passwordStdin timeout =>
      match connectPassword options.password passwordStdin w.input with
      | .error message => ⟨.usage message, []⟩
      | .ok (password, input) =>
          checked "connect".toList p input [.connect options.peerId]
            (connectAllowed json w { options with password := password } terminal timeout)
  | .execPeer command timeout peer =>
      checked "exec".toList p w.input [.exec command, .connect peer.peerId]
        (execPeerAllowed w command timeout peer)
  | .pushPeer localPath remotePath timeout peer =>
      checked "push".toList p w.input [.push localPath remotePath, .connect peer.peerId]
        (pushPeerAllowed json w localPath remotePath timeout peer)
  | .session command =>
      let o := runCommand json p { w.session with console := w.input.console } command
      ⟨.emitted o.emitted, o.sent.map fun exchange => .sendToDaemon exchange.1⟩

/-- `run`. -/
def Arguments.run (args : Arguments) (w : World) : Run :=
  match PermissionManager.fromFlags args.dangerouslySkipPermissions args.sandbox
      w.session.candidates with
  | .error e =>
      .failed "permissions".toList "permission_error".toList e.display exitPermission
  | .ok p => args.command.run args.json p w

/-! ## What is granted -/

/-- What a command has to be allowed to do, in the order in which it asks. -/
def Invocation.operations : Invocation → List Operation
  | .connect options _ _ _ => [.connect options.peerId]
  | .execPeer command _ peer => [.exec command, .connect peer.peerId]
  | .pushPeer localPath remotePath _ peer => [.push localPath remotePath, .connect peer.peerId]
  | .session .shell => [.shell]
  | .session (.exec command _) => [.exec command]
  | .session (.push localPath remotePath) => [.push localPath remotePath]
  | .session _ => []

/-- No blocked path stands in the text. -/
def SandboxRules.Unblocked (rules : SandboxRules) (text : Text) : Prop :=
  ∀ blocked ∈ rules.blockedPaths, blocked ≠ [] → ¬blocked <:+: text

/-- What the rules of a sandbox allow. -/
def SandboxRules.Permits (rules : SandboxRules) : Operation → Prop
  | .connect peerId => peerId ∈ rules.allowedPeers
  | .exec command =>
      (∃ allowed ∈ rules.allowedCommands, allowed <+: Text.trim command) ∧
        rules.Unblocked (Text.trim command)
  | .shell => False
  | .push localPath remotePath => rules.Unblocked localPath ∧ rules.Unblocked remotePath

/-- The answer is yes. -/
def SaysYes (answer : Except Error Text) : Prop :=
  ∃ line, answer = .ok line ∧
    (toAsciiLowercase (Text.trim line) = "y".toList ∨
      toAsciiLowercase (Text.trim line) = "yes".toList)

/-- The prompt is answered with yes. -/
def Console.Confirms (console : Console) : Prop :=
  console.isTerminal = true ∧ console.flush = .ok () ∧ SaysYes console.line

/-- The user is there, and says yes to so many prompts in a row. -/
def Input.Confirms (input : Input) (count : Nat) : Prop :=
  count = 0 ∨ input.isTerminal = true ∧ ∀ i < count,
    (input.flushes[i]?).getD (.ok ()) = .ok () ∧ SaysYes ((input.lines[i]?).getD (.ok []))

/-- The permissions and the answers grant the operations: the rules allow every one of them,
and unless the prompts are skipped the user says yes to each. -/
def PermissionManager.Grants (p : PermissionManager) (input : Input)
    (operations : List Operation) : Prop :=
  (∀ rules ∈ p.sandboxRules, ∀ operation ∈ operations, rules.Permits operation) ∧
    (p.skipPrompts = true ∨ input.Confirms operations.length)

/-- The stdin that is left for the prompts; none when there is no password to connect with. -/
def Invocation.promptInput (input : Input) : Invocation → Option Input
  | .connect options _ passwordStdin _ =>
      (connectPassword options.password passwordStdin input).toOption.map Prod.snd
  | _ => some input

/-- The run is granted what it needs. -/
def Arguments.Granted (args : Arguments) (w : World) : Prop :=
  ∃ p input, PermissionManager.fromFlags args.dangerouslySkipPermissions args.sandbox
      w.session.candidates = .ok p ∧ args.command.promptInput w.input = some input ∧
    p.Grants input args.command.operations

/-- The same command line without any permissions. -/
def Arguments.unrestricted (args : Arguments) : Arguments :=
  { args with dangerouslySkipPermissions := true, sandbox := false }

/-! ## Checks -/

namespace PermissionManager

theorem confirm_ok_iff (p : PermissionManager) (console : Console) (prompt : Text) :
    p.confirm console prompt = .ok () ↔ p.skipPrompts = true ∨ console.Confirms := by
  unfold confirm Console.Confirms SaysYes
  split
  · rename_i hskip
    exact iff_of_true rfl (.inl hskip)
  · rename_i hskip
    split
    · rename_i hterminal
      rw [hterminal]
      simp [hskip]
    · rename_i hterminal
      rw [Bool.not_eq_false] at hterminal
      rw [hterminal]
      rcases console.flush with e | _
      · simp [hskip, bind, Except.bind]
      · rcases console.line with e | line
        · simp [hskip, bind, Except.bind]
        · simp only [bind, Except.bind, hskip, Bool.false_eq_true, false_or, true_and,
            Except.ok.injEq, exists_eq_left']
          split
          · rename_i hyes
            exact iff_of_true rfl hyes
          · rename_i hno
            exact iff_of_false (by simp) hno

theorem ensureConnectAllowed_ok_iff (p : PermissionManager) (console : Console) (peerId : Text) :
    p.ensureConnectAllowed console peerId = .ok () ↔
      (∀ rules ∈ p.sandboxRules, rules.Permits (.connect peerId)) ∧
        (p.skipPrompts = true ∨ console.Confirms) := by
  unfold ensureConnectAllowed
  cases p.sandboxRules with
  | none => simp [confirm_ok_iff]
  | some rules =>
      simp only [Option.mem_some_iff, forall_eq', SandboxRules.Permits]
      split
      · rename_i hnone
        simp [hnone]
      · split
        · rename_i hno
          simp only [List.any_eq_false, decide_eq_true_eq] at hno
          have hpeer : peerId ∉ rules.allowedPeers := fun hmem => hno _ hmem rfl
          simp [hpeer]
        · rename_i hyes
          rw [Bool.not_eq_false, List.any_eq_true] at hyes
          obtain ⟨allowed, hmem, heq⟩ := hyes
          rw [of_decide_eq_true heq] at hmem
          rw [confirm_ok_iff, and_iff_right hmem]

theorem ensureExecAllowed_ok_iff (p : PermissionManager) (console : Console) (command : Text) :
    p.ensureExecAllowed console command = .ok () ↔
      (∀ rules ∈ p.sandboxRules, rules.Permits (.exec command)) ∧
        (p.skipPrompts = true ∨ console.Confirms) := by
  unfold ensureExecAllowed
  cases p.sandboxRules with
  | none => simp [confirm_ok_iff]
  | some rules =>
      simp only [Option.mem_some_iff, forall_eq', SandboxRules.Permits, SandboxRules.Unblocked]
      rw [← blockedPathIn_eq_none_iff]
      split
      · rename_i hnone
        simp [hnone]
      · split
        · rename_i hno
          have hcommand : ¬∃ allowed ∈ rules.allowedCommands, allowed <+: Text.trim command := by
            simpa [List.isPrefixOf_iff_prefix] using hno
          simp [hcommand]
        · rename_i hyes
          have hcommand : ∃ allowed ∈ rules.allowedCommands, allowed <+: Text.trim command := by
            simpa [List.isPrefixOf_iff_prefix] using hyes
          rw [and_iff_right hcommand]
          cases blockedPathIn rules (Text.trim command) with
          | some blocked => simp
          | none => simp [confirm_ok_iff]

theorem ensureShellAllowed_ok_iff (p : PermissionManager) (console : Console) :
    p.ensureShellAllowed console = .ok () ↔
      (∀ rules ∈ p.sandboxRules, rules.Permits .shell) ∧
        (p.skipPrompts = true ∨ console.Confirms) := by
  unfold ensureShellAllowed
  cases p.sandboxRules with
  | none => simp [confirm_ok_iff]
  | some rules => simp [SandboxRules.Permits]

theorem ensurePushAllowed_ok_iff (p : PermissionManager) (console : Console)
    (localPath remotePath : Text) :
    p.ensurePushAllowed console localPath remotePath = .ok () ↔
      (∀ rules ∈ p.sandboxRules, rules.Permits (.push localPath remotePath)) ∧
        (p.skipPrompts = true ∨ console.Confirms) := by
  have hpath : ∀ path, p.ensurePathAllowed path = .ok () ↔
      ∀ rules ∈ p.sandboxRules, rules.Unblocked path := by
    intro path
    cases hrules : p.sandboxRules with
    | none => simp [ensurePathAllowed, hrules]
    | some rules =>
        simp only [Option.mem_some_iff, forall_eq']
        exact ensurePathAllowed_ok_iff hrules
  have hboth : (∀ rules ∈ p.sandboxRules, rules.Permits (.push localPath remotePath)) ↔
      p.ensurePathAllowed localPath = .ok () ∧ p.ensurePathAllowed remotePath = .ok () := by
    rw [hpath, hpath]
    exact ⟨fun h => ⟨fun rules hr => (h rules hr).1, fun rules hr => (h rules hr).2⟩,
      fun h rules hr => ⟨h.1 rules hr, h.2 rules hr⟩⟩
  rw [hboth, ensurePushAllowed]
  cases p.ensurePathAllowed localPath with
  | error e => simp [bind, Except.bind]
  | ok _ =>
      cases p.ensurePathAllowed remotePath with
      | error e => simp [bind, Except.bind]
      | ok _ => simpa [bind, Except.bind] using confirm_ok_iff p console _

/-- A check passes when the rules allow the operation and the user does. -/
theorem ensureAllowed_ok_iff (p : PermissionManager) (console : Console) (operation : Operation) :
    p.ensureAllowed console operation = .ok () ↔
      (∀ rules ∈ p.sandboxRules, rules.Permits operation) ∧
        (p.skipPrompts = true ∨ console.Confirms) := by
  cases operation with
  | connect peerId => exact ensureConnectAllowed_ok_iff p console peerId
  | exec command => exact ensureExecAllowed_ok_iff p console command
  | shell => exact ensureShellAllowed_ok_iff p console
  | push localPath remotePath => exact ensurePushAllowed_ok_iff p console localPath remotePath

end PermissionManager

/-- One prompt, and then the others. -/
theorem Input.confirms_succ (input : Input) (count : Nat) :
    input.Confirms (count + 1) ↔ input.console.Confirms ∧ input.afterPrompt.Confirms count := by
  have hzero : (input.flushes[0]?).getD (.ok ()) = input.console.flush ∧
      (input.lines[0]?).getD (.ok []) = input.console.line := by
    constructor
    · simp [console, List.head?_eq_getElem?, List.headD_eq_head?_getD]
    · simp [console, List.head?_eq_getElem?, List.headD_eq_head?_getD]
  have hsucc : ∀ i, ((input.flushes[i + 1]?).getD (.ok ()) =
        (input.afterPrompt.flushes[i]?).getD (.ok ())) ∧
      ((input.lines[i + 1]?).getD (.ok []) = (input.afterPrompt.lines[i]?).getD (.ok [])) := by
    intro i
    simp [afterPrompt]
  unfold Confirms Console.Confirms
  constructor
  · rintro (hnone | ⟨hterminal, hall⟩)
    · cases hnone
    · have hfirst := hall 0 (Nat.succ_pos count)
      rw [hzero.1, hzero.2] at hfirst
      refine ⟨⟨hterminal, hfirst⟩, .inr ⟨hterminal, fun i hi => ?_⟩⟩
      have hnext := hall (i + 1) (Nat.succ_lt_succ hi)
      rwa [(hsucc i).1, (hsucc i).2] at hnext
  · rintro ⟨⟨hterminal, hfirst⟩, hrest⟩
    refine .inr ⟨hterminal, fun i hi => ?_⟩
    cases i with
    | zero =>
        rw [hzero.1, hzero.2]
        exact hfirst
    | succ i =>
        rw [(hsucc i).1, (hsucc i).2]
        rcases hrest with hnone | ⟨_, hall⟩
        · omega
        · exact hall i (by omega)

namespace PermissionManager

theorem grants_nil (p : PermissionManager) (input : Input) : p.Grants input [] :=
  ⟨by simp, .inr (.inl rfl)⟩

/-- The operations are granted one by one, each with the stdin the one before has left. -/
theorem grants_cons_iff (p : PermissionManager) (input : Input) (operation : Operation)
    (operations : List Operation) :
    p.Grants input (operation :: operations) ↔
      ∃ input', p.ensure operation input = .ok input' ∧ p.Grants input' operations := by
  have hensure : ∀ input', p.ensure operation input = .ok input' ↔
      p.ensureAllowed input.console operation = .ok () ∧
        (if p.skipPrompts then input else input.afterPrompt) = input' := by
    intro input'
    rw [ensure]
    cases p.ensureAllowed input.console operation with
    | error e => simp [Except.map]
    | ok _ => simp [Except.map]
  simp only [hensure, and_assoc, exists_and_left, exists_eq_left']
  rw [ensureAllowed_ok_iff]
  unfold Grants
  cases hskip : p.skipPrompts with
  | true => simp [forall_and]
  | false =>
      simp only [List.length_cons, Input.confirms_succ, List.mem_cons, forall_eq_or_imp,
        forall_and, Bool.false_eq_true, false_or, if_false]
      tauto

/-- Checks that are made one after the other pass exactly when all of them are granted. -/
theorem grants_iff (p : PermissionManager) (operations : List Operation) (input : Input) :
    p.Grants input operations ↔ ∃ input', p.ensureAll operations input = .ok input' := by
  induction operations generalizing input with
  | nil => exact iff_of_true (p.grants_nil input) ⟨input, rfl⟩
  | cons operation operations ih =>
      rw [grants_cons_iff, ensureAll]
      cases p.ensure operation input with
      | error e => simp
      | ok input' => simpa using ih input'

theorem grants_single_iff (p : PermissionManager) (input : Input) (operation : Operation) :
    p.Grants input [operation] ↔ p.ensureAllowed input.console operation = .ok () := by
  rw [grants_cons_iff, ensure]
  cases p.ensureAllowed input.console operation with
  | error e => simp [Except.map]
  | ok _ => simp [Except.map, grants_nil]

/-- Without prompts and rules everything is granted. -/
theorem grants_free (input : Input) (operations : List Operation) :
    Grants ⟨true, none⟩ input operations :=
  ⟨by simp, .inl rfl⟩

end PermissionManager

/-! ## What the permissions decide -/

section Decided

variable {p : PermissionManager} {input : Input} {operations : List Operation}

/-- Where everything is granted, the checks change nothing. -/
theorem checked_of_grants (name : Text) (h : p.Grants input operations) (go : Run) :
    checked name p input operations go = checked name ⟨true, none⟩ input operations go := by
  obtain ⟨input', hall⟩ := (p.grants_iff operations input).mp h
  obtain ⟨free, hfree⟩ := (PermissionManager.grants_iff _ operations input).mp
    (PermissionManager.grants_free input operations)
  rw [checked, checked, hall, hfree]

theorem checked_of_not_grants (name : Text) (h : ¬p.Grants input operations) (go : Run) :
    ∃ e, checked name p input operations go = .denied name e := by
  rw [p.grants_iff operations input] at h
  rw [checked]
  cases hall : p.ensureAll operations input with
  | error e => exact ⟨e, rfl⟩
  | ok input' => exact absurd ⟨input', hall⟩ h

variable (json : Bool)

/-- A command of a session that needs a permission is its check and what comes behind it. -/
theorem runCommand_guarded (env : Env) {command : Commands} {operation : Operation}
    (hcommand : (Invocation.session command).operations = [operation]) :
    ∃ name go, ∀ p : PermissionManager, runCommand json p env command =
      guarded name (p.ensureAllowed env.console operation) go := by
  cases command with
  | shell =>
      obtain rfl := List.singleton_inj.mp hcommand
      exact ⟨_, _, fun _ => rfl⟩
  | exec command timeout =>
      obtain rfl := List.singleton_inj.mp hcommand
      exact ⟨_, _, fun _ => rfl⟩
  | push localPath remotePath =>
      obtain rfl := List.singleton_inj.mp hcommand
      exact ⟨_, _, fun _ => rfl⟩
  | _ => cases hcommand

/-- The commands of a session either need one permission or none. -/
theorem session_operations (command : Commands) :
    (∃ operation, (Invocation.session command).operations = [operation]) ∨
      (Invocation.session command).operations = [] ∧ ∀ p env,
        runCommand json p env command = runCommand json ⟨true, none⟩ env command := by
  cases command with
  | shell => exact .inl ⟨_, rfl⟩
  | exec command timeout => exact .inl ⟨_, rfl⟩
  | push localPath remotePath => exact .inl ⟨_, rfl⟩
  | _ => exact .inr ⟨rfl, fun _ _ => rfl⟩

variable {w : World}

/-- Where everything is granted, a command runs as it would without permissions. -/
theorem Invocation.run_of_grants {command : Invocation}
    (hinput : command.promptInput w.input = some input)
    (h : p.Grants input command.operations) :
    command.run json p w = command.run json ⟨true, none⟩ w := by
  cases command with
  | connect options terminal passwordStdin timeout =>
      rw [promptInput] at hinput
      rw [Invocation.run, Invocation.run]
      cases hpassword : connectPassword options.password passwordStdin w.input with
      | error message => rfl
      | ok read =>
          rw [hpassword] at hinput
          obtain rfl := Option.some.inj hinput
          exact checked_of_grants _ h _
  | execPeer command timeout peer =>
      obtain rfl := Option.some.inj hinput
      rw [Invocation.run, Invocation.run]
      exact checked_of_grants _ h _
  | pushPeer localPath remotePath timeout peer =>
      obtain rfl := Option.some.inj hinput
      rw [Invocation.run, Invocation.run]
      exact checked_of_grants _ h _
  | session command =>
      obtain rfl := Option.some.inj hinput
      rw [Invocation.run, Invocation.run]
      rcases session_operations json command with ⟨operation, hone⟩ | ⟨-, hfree⟩
      · have hallowed := (p.grants_single_iff w.input operation).mp (hone ▸ h)
        have hfree := (PermissionManager.grants_single_iff _ w.input operation).mp
          (PermissionManager.grants_free w.input _)
        obtain ⟨name, go, hgo⟩ :=
          runCommand_guarded json { w.session with console := w.input.console } hone
        rw [hgo p, hgo ⟨true, none⟩, hallowed, hfree]
      · rw [hfree p]

/-- Where something is not granted, the command is denied. -/
theorem Invocation.run_of_not_grants {command : Invocation}
    (hinput : command.promptInput w.input = some input)
    (h : ¬p.Grants input command.operations) :
    ∃ name e, command.run json p w = .denied name e := by
  cases command with
  | connect options terminal passwordStdin timeout =>
      rw [promptInput] at hinput
      rw [Invocation.run]
      cases hpassword : connectPassword options.password passwordStdin w.input with
      | error message =>
          rw [hpassword] at hinput
          cases hinput
      | ok read =>
          rw [hpassword] at hinput
          obtain rfl := Option.some.inj hinput
          exact ⟨_, checked_of_not_grants _ h _⟩
  | execPeer command timeout peer =>
      obtain rfl := Option.some.inj hinput
      exact ⟨_, checked_of_not_grants _ h _⟩
  | pushPeer localPath remotePath timeout peer =>
      obtain rfl := Option.some.inj hinput
      exact ⟨_, checked_of_not_grants _ h _⟩
  | session command =>
      obtain rfl := Option.some.inj hinput
      rw [Invocation.run]
      rcases session_operations json command with ⟨operation, hone⟩ | ⟨hnone, -⟩
      · rw [hone, PermissionManager.grants_single_iff] at h
        obtain ⟨name, go, hgo⟩ :=
          runCommand_guarded json { w.session with console := w.input.console } hone
        rw [hgo p]
        cases hallowed : p.ensureAllowed w.input.console operation with
        | ok _ => exact absurd hallowed h
        | error e => exact ⟨name, e, rfl⟩
      · rw [hnone] at h
        exact absurd (p.grants_nil w.input) h

/-- Without a password to connect with nothing is asked and nothing is called. -/
theorem Invocation.run_of_no_input {command : Invocation}
    (hinput : command.promptInput w.input = none) :
    ∃ message, command.run json p w = ⟨.usage message, []⟩ := by
  cases command with
  | connect options terminal passwordStdin timeout =>
      rw [promptInput] at hinput
      rw [Invocation.run]
      cases hpassword : connectPassword options.password passwordStdin w.input with
      | error message => exact ⟨message, rfl⟩
      | ok read =>
          rw [hpassword] at hinput
          cases hinput
  | _ => cases hinput

end Decided

/-- The permissions decide about the whole run and about nothing else.  When the rules of
the sandbox allow every operation of the command line and the user says yes to each, the
run is that of the same command line without permissions; otherwise it calls nothing, and
ends with the exit code for permissions, or with that for its input when there is no
password to connect with. -/
theorem permissions_decide_runs (args : Arguments) (w : World) :
    (args.Granted w → args.run w = args.unrestricted.run w) ∧
      (¬args.Granted w → (args.run w).calls = [] ∧
        ((args.run w).ending.exitCode = some exitPermission ∨
          args.command.promptInput w.input = none ∧
            (args.run w).ending.exitCode = some exitInput)) := by
  have hfree : args.unrestricted.run w = args.command.run args.json ⟨true, none⟩ w := rfl
  constructor
  · rintro ⟨p, input, hloaded, hinput, hgrants⟩
    rw [hfree, ← Invocation.run_of_grants args.json hinput hgrants]
    simp only [Arguments.run, hloaded]
  · intro hnot
    rw [Arguments.run]
    cases hloaded : PermissionManager.fromFlags args.dangerouslySkipPermissions args.sandbox
        w.session.candidates with
    | error e => exact ⟨rfl, .inl rfl⟩
    | ok p =>
        simp only
        cases hinput : args.command.promptInput w.input with
        | none =>
            obtain ⟨message, hrun⟩ := Invocation.run_of_no_input args.json (p := p) hinput
            rw [hrun]
            exact ⟨rfl, .inr ⟨rfl, rfl⟩⟩
        | some input =>
            obtain ⟨name, e, hrun⟩ := Invocation.run_of_not_grants args.json hinput
              fun hgrants => hnot ⟨p, input, hloaded, hinput, hgrants⟩
            rw [hrun]
            exact ⟨rfl, .inl rfl⟩

/-! ## What a script can read

With `--json` the last thing printed is one JSON document, and the exit code tells the
same. -/

/-- The codes of the errors, each with its exit code. -/
def errorCodes : List (Text × Int) :=
  [("connection_error".toList, exitConnection), ("session_error".toList, exitSession),
    ("input_error".toList, exitInput), ("permission_error".toList, exitPermission)]

/-- `error.code` of a JSON document. -/
def errorCode (json : Json) : Option Text :=
  ((json.get "error").bind (Json.get "code")).bind Json.asStr

/-- The document and the exit code tell the same: success, or the same error. -/
def Told (json : Json) (exitCode : Int) : Prop :=
  (okField json = some true ∧ exitCode = exitSuccess) ∨
    okField json = some false ∧
      ∃ entry ∈ errorCodes, errorCode json = some entry.1 ∧ exitCode = entry.2

/-- What is printed last tells the exit code; `bare` says when it may be an image alone. -/
def Emitted.Tells (bare : Prop) : Emitted → Prop
  | .response r => Told r.json r.exitCode
  | .batch r => Told r.json r.exitCode
  | .image => bare

/-- Every error is told as what it is. -/
theorem errorResponse_told (command message : Text) {code : Text} {exitCode : Int}
    (hcode : (code, exitCode) ∈ errorCodes) :
    Told (errorResponse command code message exitCode).json exitCode := by
  refine .inr ⟨rfl, (code, exitCode), hcode, ?_, rfl⟩
  simp only [errorCode, errorResponse, Json.get, List.lookup_cons, String.reduceBEq,
    Option.bind_some, Json.asStr]

theorem connectionError_mem : ("connection_error".toList, exitConnection) ∈ errorCodes :=
  List.mem_cons_self

theorem connectionError_told (command message : Text) :
    Told (errorResponse command "connection_error".toList message exitConnection).json
      exitConnection :=
  errorResponse_told command message connectionError_mem

theorem permissionError_told (command message : Text) :
    Told (errorResponse command "permission_error".toList message exitPermission).json
      exitPermission :=
  errorResponse_told command message (by simp [errorCodes])

theorem failureResponse_told (command : Text) (result : Except Error SessionResponse) :
    Told (failureResponse command result).json (failureResponse command result).exitCode := by
  cases result with
  | error e => exact connectionError_told _ _
  | ok resp => exact connectionError_told _ _

section Tells

variable {bare : Prop}

theorem successResponse_tells (command text : Text) (fields : List (String × Json)) :
    Emitted.Tells bare (.response (successResponse command text fields)) := .inl ⟨rfl, rfl⟩

/-- An answer of the daemon that is no success is told as an error. -/
theorem ask_tells (d : DaemonSide) (cmd : SessionCommand) (command default : Text)
    {onSuccess : SessionResponse → Emitted} (h : ∀ resp, (onSuccess resp).Tells bare) :
    (ask d cmd command default onSuccess).emitted.Tells bare := by
  show (answerEmitted command default onSuccess (sendToDaemon d cmd)).Tells bare
  unfold answerEmitted
  split
  · split
    · exact h _
    · exact connectionError_told _ _
  · exact connectionError_told _ _

theorem guarded_tells (command : Text) (allowed : Except Error Unit) {go : Outcome}
    (h : go.emitted.Tells bare) : (guarded command allowed go).emitted.Tells bare := by
  cases allowed with
  | error e => exact permissionError_told _ _
  | ok _ => exact h

theorem runExec_tells (json : Bool) (command : Text) (daemon : Except Error (List UdsLine)) :
    Emitted.Tells bare (.response (runExec json command daemon)) := by
  show Told (runExec json command daemon).json (runExec json command daemon).exitCode
  unfold runExec
  split
  · split
    · unfold execSuccess
      dsimp only
      split
      · exact .inl ⟨rfl, rfl⟩
      · split
        · exact .inl ⟨rfl, rfl⟩
        · exact .inl ⟨rfl, rfl⟩
    · exact failureResponse_told _ _
  · exact failureResponse_told _ _

theorem runPush_tells (localPath remotePath : Text) (daemon : Except Error (List UdsLine)) :
    Emitted.Tells bare (.response (runPush localPath remotePath daemon)) := by
  show Told (runPush localPath remotePath daemon).json
    (runPush localPath remotePath daemon).exitCode
  unfold runPush
  split
  · split
    · exact .inl ⟨rfl, rfl⟩
    · exact failureResponse_told _ _
  · exact failureResponse_told _ _

/-- An image stands alone when it goes to stdout, unless the output is JSON; without a daemon
it does so always. -/
theorem runCapture_tells (json : Bool) (env : Env) (file : Option Text) (display : Option Int32)
    (format : Option CaptureFormat) (quality : UInt8) (timeout : UInt64)
    (region : Option Region) :
    (runCapture json env file display format quality timeout region).emitted.Tells
      (file = none ∧ (json = false ∨ env.daemon.running = false)) := by
  unfold runCapture
  split
  · refine ask_tells _ _ _ _ fun resp => ?_
    unfold captureSuccess
    dsimp only
    split
    · exact connectionError_told _ _
    · split
      · exact connectionError_told _ _
      · split
        · exact connectionError_told _ _
        · split
          · rename_i halone
            simp only [Bool.and_eq_true, Option.isNone_iff_eq_none, Bool.not_eq_true'] at halone
            exact ⟨halone.1, .inl halone.2⟩
          · exact .inl ⟨rfl, rfl⟩
  · rename_i hrunning
    show (fakeCapture env file display format timeout region).Tells _
    unfold fakeCapture
    split
    · exact .inl ⟨rfl, rfl⟩
    · split
      · exact ⟨rfl, .inr (Bool.eq_false_of_not_eq_true hrunning)⟩
      · exact connectionError_told _ _

theorem runStatus_tells (d : DaemonSide) : (runStatus d).emitted.Tells bare := by
  unfold runStatus
  split
  · show Told _ _
    dsimp only
    split
    · split
      · exact .inl ⟨rfl, rfl⟩
      · exact .inl ⟨rfl, rfl⟩
    · exact .inl ⟨rfl, rfl⟩
  · exact .inl ⟨rfl, rfl⟩

theorem runDisconnect_tells (d : DaemonSide) : (runDisconnect d).emitted.Tells bare := by
  unfold runDisconnect
  split
  · exact .inl ⟨rfl, rfl⟩
  · exact errorResponse_told _ _ (by simp [errorCodes])

theorem runDo_tells (d : DaemonSide) (tokens : List Text) :
    (runDo d tokens).emitted.Tells bare := by
  unfold runDo
  split
  · split
    · exact .inl ⟨rfl, rfl⟩
    · exact connectionError_told "do".toList _
  · exact errorResponse_told "do".toList "No active session".toList (by simp [errorCodes])

end Tells

/-- A capture of which only the image is printed. -/
def Commands.Bare (json : Bool) (d : DaemonSide) : Commands → Prop
  | .capture none _ _ _ _ _ => json = false ∨ d.running = false
  | _ => False

/-- Every command of a session tells its exit code. -/
theorem runCommand_tells (json : Bool) (p : PermissionManager) (env : Env) (command : Commands) :
    (runCommand json p env command).emitted.Tells (command.Bare json env.daemon) := by
  cases command with
  | disconnect => exact runDisconnect_tells env.daemon
  | status => exact runStatus_tells env.daemon
  | capture file display format quality timeout region =>
      have htells := runCapture_tells json env file display format quality timeout region
      cases file with
      | none => simpa [Commands.Bare, runCommand] using htells
      | some file => simpa [Commands.Bare, runCommand] using htells
  | doSteps tokens => exact runDo_tells env.daemon tokens
  | exec command timeout => exact guarded_tells _ _ (runExec_tells json command _)
  | push localPath remotePath => exact guarded_tells _ _ (runPush_tells localPath remotePath _)
  | shell =>
      exact guarded_tells _ _ (ask_tells _ _ _ _ fun _ => successResponse_tells _ _ _)
  | _ => exact ask_tells _ _ _ _ fun _ => successResponse_tells _ _ _

/-- How a run may end: with a document or a text that tells its exit code, or without one when
only an image is printed, when an interactive session is over, when there is no password to
connect with, or when a pushed file is not answered for. -/
def Arguments.Tells (args : Arguments) (w : World) : Ending → Prop
  | .emitted last =>
      last.Tells (∃ command, args.command = .session command ∧
        command.Bare args.json w.session.daemon)
  | .usage _ => args.command.promptInput w.input = none
  | .session => args.json = false
  | .waiting => ∃ localPath remotePath timeout peer,
      args.command = .pushPeer localPath remotePath timeout peer

theorem Emitted.Tells.mono {bare bare' : Prop} (hbare : bare → bare') {last : Emitted}
    (h : last.Tells bare) : last.Tells bare' := by
  cases last with
  | response r => exact h
  | batch r => exact h
  | image => exact hbare h

/-- Behind its checks, a run tells its exit code when it does without them. -/
theorem checked_tells {args : Arguments} {w : World} (name : Text) (p : PermissionManager)
    (input : Input) (operations : List Operation) {go : Run} (h : args.Tells w go.ending) :
    args.Tells w (checked name p input operations go).ending := by
  unfold checked
  split
  · exact permissionError_told _ _
  · exact h

/-- Whatever the command line and the world around it, the JSON document and the exit code
tell the same: `ok` says true exactly when the exit code is zero, and otherwise
`error.code` is the name of the exit code.  With `--json` there is such a document, but for
the endings that have none. -/
theorem exit_code_tells_document (args : Arguments) (w : World) :
    args.Tells w (args.run w).ending := by
  rw [Arguments.run]
  split
  · exact permissionError_told _ _
  · rename_i p _
    obtain ⟨json, skip, sandbox, command⟩ := args
    cases command with
    | connect options terminal passwordStdin timeout =>
        rw [Invocation.run]
        cases hpassword : connectPassword options.password passwordStdin w.input with
        | error message =>
            show Option.map _ (Except.toOption _) = none
            rw [hpassword]
            rfl
        | ok read =>
            refine checked_tells _ p _ _ ?_
            unfold connectAllowed
            dsimp only
            split
            · split
              · exact errorResponse_told _ _ (by simp [errorCodes])
              · rename_i hjson
                dsimp only
                split
                · exact Bool.eq_false_of_not_eq_true hjson
                · exact connectionError_told _ _
            · dsimp only
              split
              · exact .inl ⟨rfl, rfl⟩
              · exact connectionError_told _ _
    | execPeer command timeout peer =>
        refine checked_tells _ p _ _ ?_
        show Told (directExecResponse _ _).json (directExecResponse _ _).exitCode
        unfold directExecResponse
        split
        · exact .inl ⟨rfl, rfl⟩
        · exact connectionError_told _ _
    | pushPeer localPath remotePath timeout peer =>
        refine checked_tells _ p _ _ ?_
        unfold pushPeerAllowed
        dsimp only
        split
        · exact ⟨localPath, remotePath, timeout, peer, rfl⟩
        · rename_i result _
          cases result with
          | error e => exact connectionError_told _ _
          | ok totals => exact .inl ⟨rfl, rfl⟩
    | session command =>
        exact (runCommand_tells json p { w.session with console := w.input.console }
          command).mono fun hbare => ⟨command, rfl, hbare⟩

end RustdeskCli.Cli
