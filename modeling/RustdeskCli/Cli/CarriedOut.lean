import RustdeskCli.Cli.Wire
set_option autoImplicit false

/-!
# Cli: what a success stands for

A client that is told of a success has it from the last line of the daemon, and the daemon has
written that line because a run of the command's handler returned it: the first run, in the mode
of the command, or the one on a new connection after the first was lost.  What a command has
done to the peer is read off that run.
-/

namespace RustdeskCli.Cli

open RustdeskCli.Foundation
open RustdeskCli.Session
open RustdeskCli.Daemon
open RustdeskCli.Capture

/-! ## The runs of a handler -/

section Runs

variable {ι : Type} (lib : ImageLib ι) (req : Request) (cmd : SessionCommand) (d : DaemonLoop)

/-- The handler of a command that has an answer. -/
def runOf : SessionCommand → CommandEnv → List Stream.Wake → DaemonLoop → Uds → Daemon.Run
  | .push localPath remotePath => DaemonLoop.runPush localPath remotePath
  | .exec command _ => DaemonLoop.runExec command
  | cmd => DaemonLoop.runCommand lib cmd

/-- The runs of the handler of a request: the first one, in the mode of the command, and the one
after a connection that was lost in the first. -/
inductive RunsOn : CommandEnv → List Stream.Wake → DaemonLoop → Uds → Prop where
  | first {d₁ : DaemonLoop} (switched : d.switchMode req.switchMode cmd = (.ok (), d₁)) :
      RunsOn req.first req.firstWakes d₁ ⟨req.writes, []⟩
  | retry {d₁ d₂ d₃ : DaemonLoop} {e : Error} {uds : Uds}
      (switched : d.switchMode req.switchMode cmd = (.ok (), d₁))
      (failed : runOf lib cmd req.first req.firstWakes d₁ ⟨req.writes, []⟩ =
        some (.error e, d₂, uds))
      (lost : shouldReconnect e = true)
      (connected : d₂.reconnect req.reconnect d₂.activeConnType = (.ok (), d₃)) :
      RunsOn req.retry req.retryWakes d₃ uds

/-- A run of the handler has returned `final`, and these are the lines the client had before. -/
def CarriedOut (partials : List SessionResponse) (final : SessionResponse) : Prop :=
  ∃ env wakes run uds run' uds', RunsOn lib req cmd d env wakes run uds ∧
    runOf lib cmd env wakes run uds = some (.ok final, run', uds') ∧
    uds'.written = partials.map .line

variable {lib req cmd d}

/-- All commands but `Shell` are answered through the retry. -/
theorem withRetry_of_runRequest {uds uds' : Uds} {d' : DaemonLoop} (hshell : cmd ≠ .shell)
    (h : d.runRequest lib req cmd uds = some (uds', d')) :
    ∃ what d₁, d.withRetry req what (runOf lib cmd) uds = some (uds', d₁) := by
  have hgeneric (hrun : runOf lib cmd = DaemonLoop.runCommand lib cmd)
      (h : d.runGeneric lib req cmd uds = some (uds', d')) :
      ∃ what d₁, d.withRetry req what (runOf lib cmd) uds = some (uds', d₁) := by
    rw [hrun]
    unfold DaemonLoop.runGeneric at h
    split at h
    · cases h
    · rename_i uds₁ d₁ hretry
      have hsame : uds₁ = uds' := by
        split at h <;> exact (Prod.mk.inj (Option.some.inj h)).1
      exact ⟨_, d₁, hsame ▸ hretry⟩
  cases cmd with
  | shell => exact absurd rfl hshell
  | push localPath remotePath => exact ⟨_, _, h⟩
  | exec command timeout => exact ⟨_, _, h⟩
  | _ => exact hgeneric rfl h

/-- Only a run of the handler makes the last line a success. -/
theorem run_of_answer {uds : Uds} {d' : DaemonLoop} (hshell : cmd ≠ .shell)
    (hhandled : d.handleRequest lib { req with line := .ok cmd } = some (uds, d')) :
    ∃ uds₁ final, uds = (uds₁.sendResponse final).2 ∧
      (final.success = true → ∃ env wakes run uds₀ run', RunsOn lib req cmd d env wakes run uds₀ ∧
        runOf lib cmd env wakes run uds₀ = some (.ok final, run', uds₁)) := by
  unfold DaemonLoop.handleRequest at hhandled
  simp only at hhandled
  split at hhandled
  · obtain ⟨rfl, _⟩ := Prod.mk.inj (Option.some.inj hhandled)
    exact ⟨_, _, rfl, fun hsuccess => nomatch hsuccess⟩
  · rename_i d₁ hswitched
    obtain ⟨what, d₂, hretry⟩ := withRetry_of_runRequest hshell hhandled
    have hrun {env : CommandEnv} {wakes : List Stream.Wake} {run run' : DaemonLoop}
        {uds₀ uds₁ : Uds} {result : Except Error SessionResponse} {final : SessionResponse}
        (hon : RunsOn lib req cmd d env wakes run uds₀)
        (hresult : runOf lib cmd env wakes run uds₀ = some (result, run', uds₁))
        (hfinal : DaemonLoop.Concludes result final) (hsuccess : final.success = true) :
        ∃ env wakes run uds₀ run', RunsOn lib req cmd d env wakes run uds₀ ∧
          runOf lib cmd env wakes run uds₀ = some (.ok final, run', uds₁) := by
      rcases hfinal with rfl | ⟨message, rfl⟩
      · exact ⟨env, wakes, run, uds₀, run', hon, hresult⟩
      · cases hsuccess
    cases DaemonLoop.withRetry_retried hretry with
    | once hfirst hanswer => exact ⟨_, _, rfl, hrun (.first hswitched) hfirst hanswer⟩
    | gaveUp hfirst hlost hfailed => exact ⟨_, _, rfl, fun hsuccess => nomatch hsuccess⟩
    | twice hfirst hlost hconnected hsecond hanswer =>
        exact ⟨_, _, rfl, hrun (.retry hswitched hfirst hlost hconnected) hsecond hanswer⟩

/-- So every request that is no shell is answered with partial lines and a last one, which is a
success only when the handler has carried the command out. -/
theorem carriedOut_of_answer {uds : Uds} {d' : DaemonLoop} (hshell : cmd ≠ .shell)
    (hhandled : d.handleRequest lib { req with line := .ok cmd } = some (uds, d')) :
    ∃ partials final, uds.written = (partials ++ [final]).map .line ∧
      (final.success = true → CarriedOut lib req cmd d partials final) := by
  obtain ⟨partials, last, hwritten, _, _⟩ :=
    handleRequest_lines (fun hline => hshell (Except.ok.inj hline)) hhandled
  obtain ⟨uds₁, final, rfl, hrun⟩ := run_of_answer hshell hhandled
  have hlines : uds₁.written ++ [.line final] = partials.map .line ++ [.line last] := by
    have hsent : (uds₁.sendResponse final).2.written = uds₁.written ++ [.line final] :=
      uds₁.write_written _
    rw [← hsent, hwritten, List.map_append]
    rfl
  have hpartials := List.append_inj_left' hlines rfl
  obtain rfl : final = last := by
    have hlast := List.append_inj_right' hlines rfl
    exact Output.line.inj (List.cons.inj hlast).1
  refine ⟨partials, final, hwritten, fun hsuccess => ?_⟩
  obtain ⟨env, wakes, run, uds₀, run', hon, hresult⟩ := hrun hsuccess
  exact ⟨env, wakes, run, uds₀, run', uds₁, hon, hresult, hpartials⟩

/-- A command that streams nothing is answered with its last line alone. -/
theorem answer_of_quiet {uds : Uds} {d' : DaemonLoop} (hshell : cmd ≠ .shell)
    (hquiet : runOf lib cmd = DaemonLoop.runCommand lib cmd)
    (hhandled : d.handleRequest lib { req with line := .ok cmd } = some (uds, d')) :
    uds.written.length = 1 := by
  unfold DaemonLoop.handleRequest at hhandled
  simp only at hhandled
  split at hhandled
  · obtain ⟨rfl, _⟩ := Prod.mk.inj (Option.some.inj hhandled)
    rw [Uds.sendResponse, Uds.write_written]
    rfl
  · obtain ⟨what, d₂, hretry⟩ := withRetry_of_runRequest hshell hhandled
    rw [hquiet] at hretry
    obtain ⟨uds₁, final, rfl, ⟨added, hadded, hnone⟩, _⟩ :=
      withRetry_written (runCommand_writes lib cmd) hretry
    obtain rfl : added = [] := List.eq_nil_iff_forall_not_mem.mpr hnone
    rw [Uds.sendResponse, Uds.write_written, hadded]
    rfl

end Runs

/-! ## What the client is told -/

section Told

variable {ι : Type} {lib : ImageLib ι} {commands : Codec SessionCommand Error}
variable {responses : Codec SessionResponse Error} (hcommands : commands.Lawful id)
variable (hresponses : responses.Lawful SessionResponse.received)
variable {d : DaemonLoop} {req : Request} {cmd : SessionCommand}

include hcommands hresponses

variable (lib d req) in
/-- What the client reads: nothing, or the lines of an answer. -/
theorem lines_of_daemonOver (hshell : cmd ≠ .shell) :
    (daemonOver lib commands responses d req).lines cmd = [] ∨
      ∃ partials final,
        (daemonOver lib commands responses d req).lines cmd =
            ((partials ++ [final]).map SessionResponse.received).map .response ∧
          (runOf lib cmd = DaemonLoop.runCommand lib cmd → partials = []) ∧
          (final.success = true → CarriedOut lib req cmd d partials final) := by
  rw [daemonOver_lines lib commands responses hcommands]
  cases hhandled : d.handleRequest lib { req with line := .ok cmd } with
  | none => exact .inl rfl
  | some handled =>
      obtain ⟨partials, final, hwritten, hcarried⟩ := carriedOut_of_answer hshell hhandled
      refine .inr ⟨partials, final, ?_, fun hquiet => ?_, hcarried⟩
      · rw [Option.elim_some, hwritten, flatMap_outputBytes, linesRead_stream hresponses]
      · have hone := answer_of_quiet hshell hquiet hhandled
        rw [hwritten, List.length_map, List.length_append, List.length_singleton] at hone
        exact List.length_eq_zero_iff.mp (by omega)

/-- A success that `send_to_daemon` returns for a command that streams nothing. -/
theorem carriedOut_of_sendToDaemon (hshell : cmd ≠ .shell)
    (hquiet : runOf lib cmd = DaemonLoop.runCommand lib cmd) {resp : SessionResponse}
    (hresp : sendToDaemon (daemonOver lib commands responses d req) cmd = .ok resp)
    (hsuccess : resp.success = true) :
    ∃ final, resp = final.received ∧ CarriedOut lib req cmd d [] final := by
  replace hresp : firstResponse ((daemonOver lib commands responses d req).lines cmd) =
    .ok resp := hresp
  rcases lines_of_daemonOver lib hcommands hresponses d req hshell with
    hnone | ⟨partials, final, hlines, hpartials, hcarried⟩
  · rw [hnone] at hresp
    cases hresp
  · obtain rfl := hpartials hquiet
    rw [hlines] at hresp
    obtain rfl := Except.ok.inj hresp
    exact ⟨final, rfl, hcarried hsuccess⟩

/-- A success that `send_to_daemon_streaming` returns, and what its callback has seen by then. -/
theorem carriedOut_of_streaming (hshell : cmd ≠ .shell) {σ : Type}
    {onResponse : σ → SessionResponse → σ} {seen seen' : σ} {resp : SessionResponse}
    (hresp : sendToDaemonStreaming onResponse seen
      (reachDaemon (daemonOver lib commands responses d req) cmd) = (.ok resp, seen'))
    (hsuccess : resp.success = true) :
    ∃ partials final, resp = final.received ∧ CarriedOut lib req cmd d partials final ∧
      seen' = ((partials ++ [final]).map SessionResponse.received).foldl onResponse seen := by
  replace hresp : readResponses onResponse seen none
    ((daemonOver lib commands responses d req).lines cmd) = (.ok resp, seen') := hresp
  rcases lines_of_daemonOver lib hcommands hresponses d req hshell with
    hnone | ⟨partials, final, hlines, _, hcarried⟩
  · rw [hnone] at hresp
    cases hresp
  · have hall := readResponses_append onResponse
      ((partials ++ [final]).map SessionResponse.received) [] seen none
    rw [List.append_nil] at hall
    rw [hlines, hall, List.map_append, List.map_singleton, List.getLast?_concat] at hresp
    obtain ⟨hlast, hseen⟩ := Prod.mk.inj hresp
    obtain rfl := Except.ok.inj hlast
    refine ⟨partials, final, rfl, hcarried hsuccess, ?_⟩
    rw [← hseen, List.map_append, List.map_singleton]

end Told

end RustdeskCli.Cli
