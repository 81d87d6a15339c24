import RustdeskCli.Daemon.Loop
set_option autoImplicit false

/-!
# Daemon: answers

What a client gets for its request, and what its command did by then.  A request that comes
to its end gets one final answer, after any number of partial ones; a shell gets one line and
then what its terminal prints.  The one handler that need not return is the push, which waits
for its peer without a limit.  The answer to keyboard and mouse input does not mean that
anything has reached the peer: the messages `dispatch` produces are dropped.
-/

namespace RustdeskCli.Daemon

open RustdeskCli.Foundation
open RustdeskCli.Session
open RustdeskCli.Terminal
open RustdeskCli.Exec
open RustdeskCli.Capture
open RustdeskCli.Transfer

/-! ## One final answer -/

/-- Partial lines, then one final line, and nothing after it. -/
def OneFinalAnswer (written : List Output) : Prop :=
  ∃ partials final, written = partials ++ [.line final] ∧
    (∀ output ∈ partials, output.IsPartial) ∧ ¬ IsPartial final

/-- One final line, and then only what the terminal prints. -/
def ShellAnswer (written : List Output) : Prop :=
  ∃ final printed, written = .line final :: printed ∧ ¬ IsPartial final ∧
    ∀ output ∈ printed, ∃ data, output = .raw data

/-- A final line after partial ones. -/
theorem OneFinalAnswer.ofGrows {uds : Uds} (h : Grows Output.IsPartial [] uds.written)
    {response : SessionResponse} (hfinal : ¬ IsPartial response) :
    OneFinalAnswer (uds.sendResponse response).2.written := by
  obtain ⟨partials, hpartials, hkind⟩ := h
  refine ⟨partials, response, ?_, hkind, hfinal⟩
  rw [Uds.sendResponse, Uds.write_written, hpartials, List.nil_append]

/-- The runs of a handler write partial lines, and their answer is no partial one. -/
def RunWrites (P : Output → Prop)
    (run : CommandEnv → List Stream.Wake → DaemonLoop → Uds → Run) : Prop :=
  ∀ env wakes d uds result d' uds', run env wakes d uds = some (result, d', uds') →
    Grows P uds.written uds'.written ∧ ∀ resp, result = .ok resp → ¬ IsPartial resp

theorem runPush_writes (localPath remotePath : Text) :
    RunWrites Output.IsPartial (DaemonLoop.runPush localPath remotePath) := by
  intro env wakes d uds result d' uds' h
  have hwritten := pushFileCommand_written env localPath remotePath (d.encrypted.schedule wakes) uds
  unfold DaemonLoop.runPush at h
  split at h
  · cases h
  · rename_i hpush
    rw [hpush] at hwritten
    obtain ⟨rfl, hrest⟩ := Prod.mk.inj (Option.some.inj h)
    rw [← (Prod.mk.inj hrest).2]
    refine ⟨hwritten, ?_⟩
    rintro resp rfl
    exact pushFileCommand_answer (congrArg Prod.fst hpush)

theorem runExec_writes (command : Text) :
    RunWrites Output.IsPartial (DaemonLoop.runExec command) := by
  intro env wakes d uds result d' uds' h
  unfold DaemonLoop.runExec at h
  obtain ⟨hresult, hrest⟩ := Prod.mk.inj (Option.some.inj h)
  rw [← (Prod.mk.inj hrest).2]
  refine ⟨execStreaming_written _ _ _ _ _, ?_⟩
  rintro resp rfl
  exact execStreaming_answer hresult

/-- The other commands write nothing before their answer. -/
theorem runCommand_writes {ι : Type} (lib : ImageLib ι) (cmd : SessionCommand) :
    RunWrites (fun _ => False) (DaemonLoop.runCommand lib cmd) := by
  intro env wakes d uds result d' uds' h
  rw [DaemonLoop.runCommand_eq] at h
  obtain ⟨hresult, hrest⟩ := Prod.mk.inj (Option.some.inj h)
  rw [← (Prod.mk.inj hrest).2]
  refine ⟨.refl _ _, ?_⟩
  rintro resp rfl
  exact executeDaemonCommand_answer hresult

theorem RunWrites.final {P : Output → Prop}
    {run : CommandEnv → List Stream.Wake → DaemonLoop → Uds → Run} (hrun : RunWrites P run)
    {env : CommandEnv} {wakes : List Stream.Wake} {d d' : DaemonLoop} {uds uds' : Uds}
    {result : Except Error SessionResponse} {final : SessionResponse}
    (h : run env wakes d uds = some (result, d', uds'))
    (hanswer : DaemonLoop.Concludes result final) : ¬ IsPartial final := by
  rcases hanswer with rfl | ⟨message, rfl⟩
  · exact (hrun _ _ _ _ _ _ _ h).2 final rfl
  · exact not_isPartial_error message

/-- Whatever the two runs and the reconnect result in, the client gets what the runs wrote
and then one final line. -/
theorem withRetry_written {P : Output → Prop} {req : Request} {what : Text}
    {run : CommandEnv → List Stream.Wake → DaemonLoop → Uds → Run} (hrun : RunWrites P run)
    {d d' : DaemonLoop} {uds uds' : Uds} (h : d.withRetry req what run uds = some (uds', d')) :
    ∃ (uds₁ : Uds) (final : SessionResponse), uds' = (uds₁.sendResponse final).2 ∧
      Grows P uds.written uds₁.written ∧ ¬ IsPartial final := by
  cases DaemonLoop.withRetry_retried h with
  | once hfirst hanswer =>
      exact ⟨_, _, rfl, (hrun _ _ _ _ _ _ _ hfirst).1, hrun.final hfirst hanswer⟩
  | gaveUp hfirst hlost hfailed =>
      exact ⟨_, _, rfl, (hrun _ _ _ _ _ _ _ hfirst).1, not_isPartial_error _⟩
  | twice hfirst hlost hconnected hsecond hanswer =>
      have hwritten := (hrun _ _ _ _ _ _ _ hfirst).1
      have hmore := (hrun _ _ _ _ _ _ _ hsecond).1
      exact ⟨_, _, rfl, hwritten.trans hmore, hrun.final hsecond hanswer⟩

theorem withRetry_answer {req : Request} {what : Text}
    {run : CommandEnv → List Stream.Wake → DaemonLoop → Uds → Run}
    (hrun : RunWrites Output.IsPartial run) {d d' : DaemonLoop} {writes : List (Option Error)}
    {uds' : Uds} (h : d.withRetry req what run ⟨writes, []⟩ = some (uds', d')) :
    OneFinalAnswer uds'.written := by
  obtain ⟨uds₁, final, rfl, hwritten, hfinal⟩ := withRetry_written hrun h
  exact .ofGrows hwritten hfinal

/-- The other commands get exactly one line. -/
theorem runGeneric_line {ι : Type} {lib : ImageLib ι} {req : Request} {cmd : SessionCommand}
    {d d' : DaemonLoop} {writes : List (Option Error)} {uds' : Uds}
    (h : d.runGeneric lib req cmd ⟨writes, []⟩ = some (uds', d')) :
    ∃ final, uds'.written = [.line final] ∧ ¬ IsPartial final := by
  unfold DaemonLoop.runGeneric at h
  split at h
  · cases h
  · rename_i uds₂ d₂ hrun
    obtain ⟨uds₁, final, rfl, ⟨added, hadded, hnone⟩, hfinal⟩ :=
      withRetry_written (runCommand_writes lib cmd) hrun
    obtain rfl : added = [] := List.eq_nil_iff_forall_not_mem.mpr hnone
    have hline : (uds₁.sendResponse final).2.written = [.line final] := by
      rw [Uds.sendResponse, Uds.write_written, hadded]
      rfl
    split at h <;> obtain ⟨rfl, _⟩ := Prod.mk.inj (Option.some.inj h) <;>
      exact ⟨final, hline, hfinal⟩

theorem runGeneric_answer {ι : Type} {lib : ImageLib ι} {req : Request} {cmd : SessionCommand}
    {d d' : DaemonLoop} {writes : List (Option Error)} {uds' : Uds}
    (h : d.runGeneric lib req cmd ⟨writes, []⟩ = some (uds', d')) :
    OneFinalAnswer uds'.written := by
  obtain ⟨final, hline, hfinal⟩ := runGeneric_line h
  exact ⟨[], final, hline, by simp, hfinal⟩

/-- An error line alone is a final answer. -/
theorem errorLine_answer (writes : List (Option Error)) (message : Text) :
    OneFinalAnswer ((⟨writes, []⟩ : Uds).sendResponse (.error message)).2.written :=
  .ofGrows (.refl _ _) (not_isPartial_error message)

theorem runShell_answer (req : Request) (d : DaemonLoop) (writes : List (Option Error)) :
    ShellAnswer (d.runShell req ⟨writes, []⟩).1.written := by
  obtain ⟨final, printed, hwritten, hfinal, hraw⟩ := shellSession_written req.first.exec.zstd
    (d.encrypted.schedule req.firstWakes) ⟨writes, []⟩ d.activeServiceId
  have hanswer : ShellAnswer (shellSession req.first.exec.zstd
      (d.encrypted.schedule req.firstWakes) ⟨writes, []⟩ d.activeServiceId).2.2.1.written :=
    ⟨final, printed, hwritten, hfinal, hraw⟩
  unfold DaemonLoop.runShell
  simp only
  split
  · exact hanswer
  · split <;> exact hanswer

/-- A command in its mode is answered once. -/
theorem runRequest_answer {ι : Type} {lib : ImageLib ι} {req : Request} {cmd : SessionCommand}
    {d d' : DaemonLoop} {writes : List (Option Error)} {uds' : Uds}
    (h : d.runRequest lib req cmd ⟨writes, []⟩ = some (uds', d')) :
    (cmd ≠ .shell → OneFinalAnswer uds'.written) ∧ (cmd = .shell → ShellAnswer uds'.written) := by
  cases cmd with
  | shell =>
      have hshell := runShell_answer req d writes
      rw [(Option.some.inj h : d.runShell req ⟨writes, []⟩ = (uds', d'))] at hshell
      exact ⟨fun hne => absurd rfl hne, fun _ => hshell⟩
  | push localPath remotePath =>
      exact ⟨fun _ => withRetry_answer (runPush_writes localPath remotePath) h, by simp⟩
  | exec command timeout =>
      exact ⟨fun _ => withRetry_answer (runExec_writes command) h, by simp⟩
  | _ =>
      unfold DaemonLoop.runRequest at h
      exact ⟨fun _ => runGeneric_answer h, by simp⟩

/-- The two runs come to no end when one of them does not: the first, or the second, which is
made on a new connection when the first has lost its own. -/
theorem withRetry_eq_none_iff {req : Request} {what : Text}
    {run : CommandEnv → List Stream.Wake → DaemonLoop → Uds → Run} {d : DaemonLoop} {uds : Uds} :
    d.withRetry req what run uds = none ↔
      run req.first req.firstWakes d uds = none ∨
        ∃ e d₁ uds₁ d₂, run req.first req.firstWakes d uds = some (.error e, d₁, uds₁) ∧
          shouldReconnect e = true ∧
          d₁.reconnect req.reconnect d₁.activeConnType = (.ok (), d₂) ∧
          run req.retry req.retryWakes d₂ uds₁ = none := by
  unfold DaemonLoop.withRetry
  rcases run req.first req.firstWakes d uds with _ | ⟨e | resp, d₁, uds₁⟩
  · exact iff_of_true rfl (.inl rfl)
  · dsimp only
    by_cases hlost : shouldReconnect e = true
    · rw [if_pos hlost]
      rcases hconnected : d₁.reconnect req.reconnect d₁.activeConnType with ⟨re | _, d₂⟩
      · refine iff_of_false (by simp) ?_
        rintro (hnone | ⟨_, _, _, _, hfirst, _, hok, _⟩)
        · cases hnone
        · cases hfirst
          rw [hconnected] at hok
          cases hok
      · dsimp only
        constructor
        · intro hnone
          refine .inr ⟨e, d₁, uds₁, d₂, rfl, hlost, hconnected, ?_⟩
          rcases hretry : run req.retry req.retryWakes d₂ uds₁ with _ | ⟨_ | _, _, _⟩
          · rfl
          all_goals
            rw [hretry] at hnone
            cases hnone
        · rintro (hnone | ⟨_, _, _, _, hfirst, _, hok, hretry⟩)
          · cases hnone
          · cases hfirst
            rw [hconnected] at hok
            cases hok
            rw [hretry]
    · rw [if_neg hlost]
      refine iff_of_false (by simp) ?_
      rintro (hnone | ⟨_, _, _, _, hfirst, hreconnects, _⟩)
      · cases hnone
      · cases hfirst
        exact hlost hreconnects
  · refine iff_of_false (by simp) ?_
    rintro (hnone | ⟨_, _, _, _, hfirst, _⟩)
    · cases hnone
    · cases hfirst

/-- A handler that always returns brings its request to an end. -/
theorem withRetry_ne_none {req : Request} {what : Text}
    {run : CommandEnv → List Stream.Wake → DaemonLoop → Uds → Run}
    (hrun : ∀ env wakes d uds, run env wakes d uds ≠ none) (d : DaemonLoop) (uds : Uds) :
    d.withRetry req what run uds ≠ none := by
  intro h
  rcases withRetry_eq_none_iff.mp h with hfirst | ⟨_, _, _, _, _, _, _, hretry⟩
  · exact hrun _ _ _ _ hfirst
  · exact hrun _ _ _ _ hretry

/-- `execute_daemon_command` always returns, and with it all that is built on it. -/
theorem runGeneric_ne_none {ι : Type} (lib : ImageLib ι) (req : Request) (cmd : SessionCommand)
    (d : DaemonLoop) (uds : Uds) : d.runGeneric lib req cmd uds ≠ none := by
  intro h
  unfold DaemonLoop.runGeneric at h
  split at h
  · rename_i hrun
    exact withRetry_ne_none (fun _ _ _ _ hnone => by cases hnone) d uds hrun
  · split at h <;> cases h

/-- The one command that need not come to an end is a push. -/
theorem runRequest_eq_none {ι : Type} {lib : ImageLib ι} {req : Request} {cmd : SessionCommand}
    {d : DaemonLoop} {uds : Uds} (h : d.runRequest lib req cmd uds = none) :
    ∃ localPath remotePath, cmd = .push localPath remotePath := by
  cases cmd with
  | shell => cases h
  | push localPath remotePath => exact ⟨localPath, remotePath, rfl⟩
  | exec command timeout =>
      exact absurd h (withRetry_ne_none (fun _ _ _ _ hnone => by cases hnone) d uds)
  | _ =>
      unfold DaemonLoop.runRequest at h
      exact absurd h (runGeneric_ne_none lib req _ d uds)

/-- A request that comes to its end has got one final answer: partial lines, then exactly one
other line, the last; a shell gets one line and then only what its terminal prints. -/
theorem handleRequest_answer {ι : Type} {lib : ImageLib ι} {req : Request} {d d' : DaemonLoop}
    {uds : Uds} (h : d.handleRequest lib req = some (uds, d')) :
    (req.line ≠ .ok .shell → OneFinalAnswer uds.written) ∧
      (req.line = .ok .shell → ShellAnswer uds.written) := by
  unfold DaemonLoop.handleRequest at h
  cases hline : req.line with
  | error e =>
      rw [hline] at h
      obtain ⟨rfl, _⟩ := Prod.mk.inj (Option.some.inj h)
      exact ⟨fun _ => errorLine_answer _ _, fun hshell => by cases hshell⟩
  | ok cmd =>
      rw [hline] at h
      dsimp only at h
      rcases hswitch : d.switchMode req.switchMode cmd with ⟨e | _, d₁⟩
      all_goals
        rw [hswitch] at h
        dsimp only at h
      · obtain ⟨rfl, _⟩ := Prod.mk.inj (Option.some.inj h)
        refine ⟨fun _ => errorLine_answer _ _, fun _ => ?_⟩
        exact ⟨_, [], Uds.write_written _ _, not_isPartial_error _, by simp⟩
      · obtain ⟨hother, hshell⟩ := runRequest_answer h
        exact ⟨fun hne => hother fun hcmd => hne (congrArg _ hcmd),
          fun heq => hshell (Except.ok.inj heq)⟩

/-- A request that comes to no end is a push, in its mode. -/
theorem handleRequest_eq_none_iff {ι : Type} {lib : ImageLib ι} {req : Request}
    {d : DaemonLoop} :
    d.handleRequest lib req = none ↔
      ∃ localPath remotePath d₁, req.line = .ok (.push localPath remotePath) ∧
        d.switchMode req.switchMode (.push localPath remotePath) = (.ok (), d₁) ∧
        d₁.withRetry req "push".toList (DaemonLoop.runPush localPath remotePath)
          ⟨req.writes, []⟩ = none := by
  unfold DaemonLoop.handleRequest
  constructor
  · intro h
    cases hline : req.line with
    | error e =>
        rw [hline] at h
        cases h
    | ok cmd =>
        rw [hline] at h
        dsimp only at h
        rcases hswitch : d.switchMode req.switchMode cmd with ⟨e | _, d₁⟩
        all_goals
          rw [hswitch] at h
          dsimp only at h
        · cases h
        · obtain ⟨localPath, remotePath, rfl⟩ := runRequest_eq_none h
          exact ⟨localPath, remotePath, d₁, rfl, hswitch, h⟩
  · rintro ⟨localPath, remotePath, d₁, hline, hswitch, hnone⟩
    rw [hline]
    dsimp only
    rw [hswitch]
    exact hnone

/-! ## Input and its effect -/

/-- The messages have been sent on the stream since `s`, all of them and in order. -/
def SentSince (s s' : Stream) (messages : List ProtocolMessage) : Prop :=
  (messages.map Outgoing.input).Sublist (s'.sent.drop s.sent.length)

/-- Input without a message: no text, or no wheel notch, which is also what becomes of the
smallest delta. -/
def Silent : SessionCommand → Prop
  | .type text => text = []
  | .scroll _ _ delta => delta = 0 ∨ delta = Int32.minValue
  | _ => False

/-- An input command that is not refused is a success, and which ones have no message. -/
theorem dispatch_input {session session' : Session} {cmd : SessionCommand}
    {resp : SessionResponse} {messages : List ProtocolMessage} (hinput : cmd.isInput = true)
    (h : session.dispatch cmd = (.ok (resp, messages), session')) :
    resp.success = true ∧ (messages = [] ↔ Silent cmd) := by
  cases cmd with
  | type text =>
      obtain ⟨_, rfl, rfl, _⟩ := Session.ifConnected_ok h
      refine ⟨rfl, ?_⟩
      cases text with
      | nil => simp [Silent, Session.typeMessages]
      | cons c text => simp [Silent, Session.typeMessages, Session.keyPair]
  | key key =>
      obtain ⟨_, rfl, rfl, _⟩ := Session.ifConnected_ok h
      exact ⟨rfl, by simp [Silent, Session.keyPair]⟩
  | click x y button double =>
      obtain ⟨_, rfl, rfl, _⟩ := Session.ifConnected_ok h
      refine ⟨rfl, ?_⟩
      cases double <;> simp [Silent, Session.clickMessages, Session.maskPair]
  | drag x y x2 y2 button =>
      obtain ⟨_, rfl, rfl, _⟩ := Session.ifConnected_ok h
      exact ⟨rfl, by simp [Silent, Session.dragMessages]⟩
  | scroll x y delta =>
      obtain ⟨_, rfl, rfl, _⟩ := Session.ifConnected_ok h
      refine ⟨rfl, Iff.trans ?_ (Session.notches_eq_zero delta)⟩
      unfold Session.scrollMessages
      cases Session.notches delta <;> simp [Session.maskPair, List.replicate_succ]
  | move x y =>
      obtain ⟨_, rfl, rfl, _⟩ := Session.ifConnected_ok h
      exact ⟨rfl, by simp [Silent]⟩
  | _ => cases hinput

/-- What `execute_daemon_command` does with an input command: dispatch it, and nothing on
the stream. -/
theorem executeDaemonCommand_input {ι : Type} {lib : ImageLib ι} {env : CommandEnv}
    {s s' : Stream} {session session' : Session} {cmd : SessionCommand} {resp : SessionResponse}
    (hinput : cmd.isInput = true)
    (h : executeDaemonCommand lib env s session cmd = (.ok resp, s', session')) :
    s' = s ∧ ∃ messages, session.dispatch cmd = (.ok (resp, messages), session') := by
  cases cmd with
  | type | key | click | drag | scroll | move =>
      unfold executeDaemonCommand at h
      simp only at h
      split at h
      · cases h
      · rename_i resp₁ messages session₁ hdispatch
        obtain ⟨hresp, hrest⟩ := Prod.mk.inj h
        obtain ⟨rfl, rfl⟩ := Prod.mk.inj hrest
        obtain rfl := Except.ok.inj hresp
        exact ⟨rfl, messages, hdispatch⟩
  | _ => cases hinput

/-- Keyboard and mouse input that is not refused is answered with success, and the messages
of it were sent exactly when there were none. -/
theorem input_sent_before_success_iff {ι : Type} (lib : ImageLib ι) (env : CommandEnv)
    (s s' : Stream) (session session' : Session) (cmd : SessionCommand) (resp : SessionResponse)
    (hinput : cmd.isInput = true)
    (h : executeDaemonCommand lib env s session cmd = (.ok resp, s', session')) :
    resp.success = true ∧
      ((∀ messages, (session.dispatch cmd).1 = .ok (resp, messages) → SentSince s s' messages) ↔
        Silent cmd) := by
  obtain ⟨rfl, messages, hdispatch⟩ := executeDaemonCommand_input hinput h
  obtain ⟨hsuccess, hsilent⟩ := dispatch_input hinput hdispatch
  refine ⟨hsuccess, ?_⟩
  rw [← hsilent, hdispatch]
  unfold SentSince
  rw [List.drop_length]
  constructor
  · intro hall
    simpa using hall messages rfl
  · rintro rfl other hother
    obtain ⟨_, rfl⟩ := Prod.mk.inj (Except.ok.inj hother)
    exact .slnil

/-- Of an empty text there is nothing to send, and success says so; a click is a success too,
and none of its messages is sent. -/
theorem input_sent_before_success_iff_type_click :
    (∀ messages, (sampleDaemon.session.dispatch (.type [])).1 =
        .ok (.ok "Typed 0 characters".toList, messages) →
        SentSince sampleDaemon.encrypted sampleDaemon.encrypted messages) ∧
      ¬ ∀ messages, (sampleDaemon.session.dispatch (.click 3 4 "left".toList true)).1 =
        .ok (.ok "left click at (3, 4)".toList, messages) →
        SentSince sampleDaemon.encrypted sampleDaemon.encrypted messages :=
  ⟨(input_sent_before_success_iff sampleImages sampleCommandEnv sampleDaemon.encrypted _
      sampleDaemon.session sampleDaemon.session (.type []) _ rfl rfl).2.mpr rfl,
    (input_sent_before_success_iff sampleImages sampleCommandEnv sampleDaemon.encrypted _
      sampleDaemon.session sampleDaemon.session (.click 3 4 "left".toList true) _ rfl rfl).2.mp⟩

/-- On a daemon that has just started, a mouse move is answered with success and its message
is not sent. -/
theorem move_answered_but_not_sent :
    Reachable sampleImages sampleDaemon ∧
      ∃ resp s' session' messages,
        executeDaemonCommand sampleImages sampleCommandEnv sampleDaemon.encrypted
            sampleDaemon.session (.move 1 2) = (.ok resp, s', session') ∧
          resp.success = true ∧
          (sampleDaemon.session.dispatch (.move 1 2)).1 = .ok (resp, messages) ∧
          ¬ SentSince sampleDaemon.encrypted s' messages := by
  refine ⟨⟨_, _, _, [], startLoop_sample, rfl⟩, _, _, _, _, rfl, rfl, rfl, ?_⟩
  unfold SentSince
  decide

end RustdeskCli.Daemon
