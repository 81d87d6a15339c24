import RustdeskCli.Session.Response
set_option autoImplicit false

/-!
# Cli: permissions (`src/permissions.rs`)

What a command is checked against before anything is sent: the rules of a sandbox
configuration, if there is one, and the user's answer to a prompt, unless prompts are
switched off.  Finding no objection is `ok`; everything else is an error with its text.
-/

namespace RustdeskCli.Cli

open RustdeskCli.Foundation
open RustdeskCli.Session

/-- `SandboxRules`. -/
structure SandboxRules where
  allowedPeers : List Text
  allowedCommands : List Text
  blockedPaths : List Text
  deriving DecidableEq, Repr

/-! ## The configuration -/

/-- One of the `sandbox_config_candidates`: its path, and what reading and parsing it gives
where there is such a file. -/
structure ConfigCandidate where
  path : Text
  content : Option (Except Error SandboxRules)

/-- The loop of `load_sandbox_rules`. -/
def loadSandboxRulesFrom (searched : List Text) :
    List ConfigCandidate → Except Error SandboxRules
  | [] =>
      .error (.msg ("sandbox enabled but no `rustdesk-cli.toml` was found. Searched: ".toList ++
        ", ".toList.intercalate searched))
  | candidate :: candidates =>
      match candidate.content with
      | none => loadSandboxRulesFrom (searched ++ [candidate.path]) candidates
      | some rules => rules

/-- `load_sandbox_rules`. -/
def loadSandboxRules (candidates : List ConfigCandidate) : Except Error SandboxRules :=
  loadSandboxRulesFrom [] candidates

/-- `PermissionManager`. -/
structure PermissionManager where
  skipPrompts : Bool
  sandboxRules : Option SandboxRules
  deriving DecidableEq, Repr

/-- The terminal: whether stdin is one, whether the prompt can be flushed, and the line that
is read. -/
structure Console where
  isTerminal : Bool
  flush : Except Error Unit
  line : Except Error Text

/-- `str::to_ascii_lowercase`. -/
def toAsciiLowercase (text : Text) : Text := text.map Char.toLower

namespace PermissionManager

/-- `PermissionManager::from_flags`. -/
def fromFlags (skipPrompts sandboxEnabled : Bool) (candidates : List ConfigCandidate) :
    Except Error PermissionManager :=
  if sandboxEnabled then
    (loadSandboxRules candidates).map fun rules => ⟨skipPrompts, some rules⟩
  else .ok ⟨skipPrompts, none⟩

/-! ## Checks -/

/-- `confirm`. -/
def confirm (p : PermissionManager) (console : Console) (prompt : Text) : Except Error Unit :=
  if p.skipPrompts then .ok ()
  else if console.isTerminal = false then
    .error (.msg (prompt ++ " Permission prompt requires an interactive terminal; ".toList ++
      "rerun with --dangerously-skip-permissions for automation".toList))
  else do
    console.flush
    let line ← console.line
    let answer := toAsciiLowercase (Text.trim line)
    if answer = "y".toList ∨ answer = "yes".toList then .ok ()
    else .error (.msg "operation denied by user".toList)

/-- `ensure_connect_allowed`. -/
def ensureConnectAllowed (p : PermissionManager) (console : Console) (peerId : Text) :
    Except Error Unit :=
  let confirmed :=
    p.confirm console ("Allow connecting to remote peer `".toList ++ peerId ++ "`?".toList)
  match p.sandboxRules with
  | none => confirmed
  | some rules =>
      if rules.allowedPeers = [] then
        .error (.msg "sandbox denied connect: no peers are allowed by config".toList)
      else if (rules.allowedPeers.any fun allowed => allowed = peerId) = false then
        .error (.msg ("sandbox denied connect to peer `".toList ++ peerId ++ "`".toList))
      else confirmed

/-- The first blocked path that stands in a text. -/
def blockedPathIn (rules : SandboxRules) (text : Text) : Option Text :=
  rules.blockedPaths.find? fun blocked => !blocked.isEmpty && Text.contains text blocked

/-- `ensure_exec_allowed`. -/
def ensureExecAllowed (p : PermissionManager) (console : Console) (command : Text) :
    Except Error Unit :=
  let confirmed :=
    p.confirm console ("Allow remote exec command `".toList ++ command ++ "`?".toList)
  match p.sandboxRules with
  | none => confirmed
  | some rules =>
      let trimmed := Text.trim command
      if rules.allowedCommands = [] then
        .error (.msg "sandbox denied exec: no commands are allowed by config".toList)
      else if (rules.allowedCommands.any fun allowed => allowed.isPrefixOf trimmed) = false then
        .error (.msg ("sandbox denied exec command `".toList ++ trimmed ++ "`".toList))
      else
        match blockedPathIn rules trimmed with
        | some blocked =>
            .error (.msg ("sandbox denied exec touching blocked path `".toList ++ blocked ++
              "`".toList))
        | none => confirmed

/-- `ensure_shell_allowed`. -/
def ensureShellAllowed (p : PermissionManager) (console : Console) : Except Error Unit :=
  if p.sandboxRules.isSome then .error (.msg "sandbox denied interactive shell access".toList)
  else p.confirm console "Allow opening an interactive remote shell?".toList

/-- `ensure_path_allowed`. -/
def ensurePathAllowed (p : PermissionManager) (path : Text) : Except Error Unit :=
  match p.sandboxRules.bind fun rules => blockedPathIn rules path with
  | some blocked =>
      .error (.msg ("sandbox denied path `".toList ++ path ++
        "` because it matches blocked path `".toList ++ blocked ++ "`".toList))
  | none => .ok ()

/-- `ensure_push_allowed`. -/
def ensurePushAllowed (p : PermissionManager) (console : Console) (localPath remotePath : Text) :
    Except Error Unit := do
  p.ensurePathAllowed localPath
  p.ensurePathAllowed remotePath
  p.confirm console ("Allow pushing local file `".toList ++ localPath ++
    "` to remote path `".toList ++ remotePath ++ "`?".toList)

end PermissionManager

end RustdeskCli.Cli
