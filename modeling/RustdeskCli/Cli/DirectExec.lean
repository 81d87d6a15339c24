import RustdeskCli.Cli.DaemonArgs
import RustdeskCli.Cli.Streaming
import RustdeskCli.Daemon.Stream
import RustdeskCli.Exec.StreamedText
set_option autoImplicit false

/-!
# Cli: exec on a connection of its own (`src/main.rs`, `src/daemon.rs`)

`exec --peer` goes around the daemon: `direct_exec` makes a connection and runs the command
on a terminal of its own.  The daemon does the same in `exec_command_inner`, with another
idle timeout in the prompt drain, a client to stream to and a parser of its own for what
has been collected.  Here the two are run against the same peer.
-/

namespace RustdeskCli.Cli

open RustdeskCli.Foundation
open RustdeskCli.Session
open RustdeskCli.Terminal
open RustdeskCli.Exec
open RustdeskCli.Daemon

/-! ## direct_exec -/

/-- `MAX_EXEC_TIMEOUT_SECS`. -/
def maxExecTimeoutSecs : Nat := 3600

/-- `exec_timeout_duration`, in seconds. -/
def execTimeoutDuration (timeoutSecs : UInt64) : Nat := min timeoutSecs.toNat maxExecTimeoutSecs

/-- What `direct_exec` meets: the runtime, and `connect_with_mode` under a timeout in seconds,
which gives no result when it runs out. -/
structure DirectExecEnv where
  exec : ExecEnv
  runtime : Except Error Unit
  connect : ConnectionConfig → Login → Nat → Option (Except Error Peer)

/-- `direct_exec`. -/
def directExecOn (env : DirectExecEnv) (options : ConnectOptions) (timeoutSecs : UInt64)
    (command : Text) : Except Error (Text × Int × Bool) :=
  match env.runtime with
  | .error e => .error e
  | .ok () =>
      match env.connect (buildDirectConnectionConfig options)
          ⟨.terminal, some (.terminal [])⟩ (execTimeoutDuration timeoutSecs) with
      | none =>
          .error (.msg ("direct exec timed out after ".toList ++
            (toString timeoutSecs.toNat).toList ++ "s".toList))
      | some (.error e) => .error e
      | some (.ok peer) => (directExec env.exec command peer).1

/-- The response of `exec --peer`. -/
def directExecResponse (command : Text) : Except Error (Text × Int × Bool) → Response
  | .ok (stdout, exitCode, timedOut) =>
      { text := "exec exit_code=".toList ++ (toString exitCode).toList ++ " stdout=".toList ++
          stdout
        json := .obj [("ok", .bool true), ("command", .str "exec".toList),
          ("data", execData command stdout exitCode timedOut)]
        exitCode := exitSuccess }
  | .error e =>
      errorResponse "exec".toList "connection_error".toList e.display exitConnection

/-! ## The loops -/

section Loops

variable (zstd : Zstd)

end Loops

/-! ## The two ways -/

end RustdeskCli.Cli
