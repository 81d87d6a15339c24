import RustdeskCli.Capture.Screenshot
import RustdeskCli.Cli.Streaming
import RustdeskCli.Transfer.Push
set_option autoImplicit false

/-!
# Daemon: command handlers (`src/daemon.rs`)

What the daemon does for one command on its stream: run a command on an ephemeral
terminal, hand a terminal to the client of a shell, reach the clipboard through a
command, take a screenshot, push a file; everything else goes to `Session::dispatch`.

A handler returns `none` when it waits for the peer without a timer and the peer has
nothing more to say.
-/

namespace RustdeskCli.Daemon

open RustdeskCli.Foundation
open RustdeskCli.Session
open RustdeskCli.Terminal
open RustdeskCli.Exec
open RustdeskCli.Capture
open RustdeskCli.Transfer
open RustdeskCli.Cli

/-! ## The connection of a client -/

/-- What the daemon writes to a client: lines of JSON, and what a shell prints. -/
inductive Output where
  | line (response : SessionResponse)
  | raw (data : Bytes)
  deriving Repr

/-- The writing half of a client's connection: the errors of the coming writes, and
everything that has been written, in order.  A failed write is recorded too. -/
structure Uds where
  writes : List (Option Error)
  written : List Output
  deriving Repr

/-- `write_all` and `flush`. -/
def Uds.write (uds : Uds) (output : Output) : Except Error Unit × Uds :=
  let uds' : Uds := ⟨uds.writes.tail, uds.written ++ [output]⟩
  match uds.writes with
  | some e :: _ => (.error e, uds')
  | _ => (.ok (), uds')

/-- `send_response` and `write_json_line`. -/
def Uds.sendResponse (uds : Uds) (response : SessionResponse) : Except Error Unit × Uds :=
  uds.write (.line response)

@[simp] theorem Uds.write_written (uds : Uds) (output : Output) :
    (uds.write output).2.written = uds.written ++ [output] := by
  unfold Uds.write
  split <;> rfl

/-- What the handlers of one command need from outside: the time of day and the process
id, and the local file of a push. -/
structure CommandEnv where
  exec : ExecEnv
  pid : Nat
  nanos : Nat
  file : LocalFile

/-! ## exec and clipboard -/

/-- `exec_command_streaming`. -/
def execStreaming (env : ExecEnv) (command : Text) (s : Stream) (uds : Uds)
    (serviceId : Option Text) : Except Error SessionResponse × Stream × Uds × Option Text :=
  match execCommandInner env command ⟨s.peer, ⟨true, uds.writes, []⟩, serviceId⟩ with
  | (result, ⟨peer, client, serviceId⟩) =>
      (result, s.after peer, ⟨client.writes, uds.written ++ client.written.map .line⟩, serviceId)

/-- `exec_command`: no client, and a service id of its own. -/
def execCommand (env : ExecEnv) (command : Text) (s : Stream) :
    Except Error SessionResponse × Stream :=
  match execCommandInner env command ⟨s.peer, ⟨false, [], []⟩, none⟩ with
  | (result, st) => (result, s.after st.peer)

/-- The command `clipboard_get` runs. -/
def clipboardGetCommand : Text :=
  "xclip -selection clipboard -o 2>/dev/null || pbpaste 2>/dev/null || echo -n ''".toList

/-- `clipboard_get`. -/
def clipboardGet (env : ExecEnv) (s : Stream) : Except Error SessionResponse × Stream :=
  match execCommand env clipboardGetCommand s with
  | (.error e, s) => (.error e, s)
  | (.ok resp, s) =>
      let text := ((resp.data.bind (Json.get "stdout")).bind Json.asStr).getD []
      (.ok (.okWithData "Clipboard text retrieved".toList (.obj [("text", .str text)])), s)

/-- The command `clipboard_set` runs. -/
def clipboardSetCommand (text : Text) : Text :=
  "cat <<'__RDCLI_CLIP_EOF__' | xclip -selection clipboard 2>/dev/null || ".toList ++
    "cat <<'__RDCLI_CLIP_EOF__' | pbcopy 2>/dev/null\n".toList ++
    text ++ "\n__RDCLI_CLIP_EOF__".toList

/-- `clipboard_set`. -/
def clipboardSet (env : ExecEnv) (text : Text) (s : Stream) :
    Except Error SessionResponse × Stream :=
  match execCommand env (clipboardSetCommand text) s with
  | (.error e, s) => (.error e, s)
  | (.ok _, s) =>
      (.ok (.okWithData "Clipboard text updated".toList
        (.obj [("chars", .int text.length), ("redacted", .bool true)])), s)

/-! ## shell -/

/-- What the loop of `shell_session` changes. -/
structure ShellState where
  peer : Peer
  uds : Uds
  serviceId : Option Text

/-- The bidirectional loop of `shell_session` on the terminal `tid`.  The client's end ends
it when nothing else does. -/
def shellLoop (zstd : Zstd) (tid : Int) (lost : Option Error) :
    List Event → ShellState → Except Error Unit × ShellState × List Event
  | [], st =>
      match lost with
      | some _ => (.ok (), { st with serviceId := none }, [])
      | none => (.ok (), { st with peer := closeTerminal st.peer tid, serviceId := none }, [])
  | .line (some line) :: inbox, st =>
      match sendTerminalData zstd st.peer tid (textBytes line) with
      | (.error e, peer) => (.error e, { st with peer := peer }, inbox)
      | (.ok (), peer) => shellLoop zstd tid lost inbox { st with peer := peer }
  | .line none :: inbox, st =>
      (.ok (), { st with peer := closeTerminal st.peer tid, serviceId := none }, inbox)
  | event :: inbox, st =>
      match event.peerEvent.arrival with
      | none => shellLoop zstd tid lost inbox st
      | some arrival =>
          match recvTerminalDataWithTimeout zstd "15".toList arrival with
          | .ok (.data data) =>
              match st.uds.write (.raw data) with
              | (.error e, uds) => (.error e, { st with uds := uds }, inbox)
              | (.ok (), uds) => shellLoop zstd tid lost inbox { st with uds := uds }
          | .ok (.closed _) => (.ok (), { st with serviceId := none }, inbox)
          | .ok (.error _) => (.ok (), { st with serviceId := none }, inbox)
          | .error _ => (.ok (), { st with serviceId := none }, inbox)

/-- The acknowledgement of a shell. -/
def shellAck (tid : Int) : SessionResponse :=
  .okWithData "Shell session started".toList
    (.obj [("mode", .str "interactive".toList), ("terminal_id", .int tid)])

/-- `shell_session`. -/
def shellSession (zstd : Zstd) (s : Stream) (uds : Uds) (serviceId : Option Text) :
    Except Error Unit × Stream × Uds × Option Text :=
  match openTerminal s.peer 24 80 with
  | (none, peer) =>
      let uds := (uds.sendResponse (.error "terminal open timed out".toList)).2
      (.error (.msg "shell: terminal open timed out".toList), s.after peer, uds, serviceId)
  | (some (.error e), peer) =>
      let uds := (uds.sendResponse (.error ("terminal open failed: ".toList ++ e.alternate))).2
      (.error (.msg ("shell: terminal open failed: ".toList ++ e.alternate)), s.after peer, uds,
        serviceId)
  | (some (.ok info), peer) =>
      let s := s.after peer
      match uds.sendResponse (shellAck info.terminalId) with
      | (.error e, uds) => (.error e, s, uds, some info.serviceId)
      | (.ok (), uds) =>
          match shellLoop zstd info.terminalId s.lost s.inbox
              ⟨⟨[], s.sends, []⟩, uds, some info.serviceId⟩ with
          | (result, st, inbox) =>
              (result, { s with
                inbox := inbox
                sends := st.peer.sends
                sent := s.sent ++ st.peer.sent.map .terminal }, st.uds, st.serviceId)

/-! ## push -/

/-- `PushTransfer::progress`. -/
def progress (t : PushTransfer) : PushProgress :=
  ⟨t.sentBytes, t.totalBytes, t.transferredBytes, t.resumedBytes⟩

/-- What `push_file_command` does after a block: report the progress, now and then. -/
def reportBlock (remotePath : Text) (t : PushTransfer) (seen : Uds × Nat) :
    Except Error Unit × Uds × Nat :=
  let (uds, lastReported) := seen
  if t.sentBytes = t.totalBytes ∨ t.sentBytes - lastReported ≥ 1024 * 1024 then
    match uds.sendResponse (pushProgressResponse remotePath (progress t)) with
    | (.error e, uds) => (.error e, uds, lastReported)
    | (.ok (), uds) => (.ok (), uds, t.sentBytes)
  else (.ok (), uds, lastReported)

/-- The answer to a finished push. -/
def pushComplete (t : PushTransfer) : SessionResponse :=
  .okWithData
    ("Pushed `".toList ++ t.localPath ++ "` to `".toList ++ t.remotePath ++ "`".toList)
    (.obj [("kind", .str "complete".toList), ("job_id", .int t.jobId),
      ("local_path", .str t.localPath), ("remote_path", .str t.remotePath),
      ("total_bytes", .int t.totalBytes), ("sent_bytes", .int t.sentBytes),
      ("transferred_bytes", .int t.transferredBytes), ("resumed_bytes", .int t.resumedBytes)])

/-- `push_file_command`. -/
def pushFileCommand (env : CommandEnv) (localPath remotePath : Text) (s : Stream) (uds : Uds) :
    Option (Except Error SessionResponse) × Stream × Uds :=
  match PushTransfer.begin env.file env.nanos localPath remotePath s with
  | (none, s) => (none, s, uds)
  | (some (.error e), s) => (some (.error e), s, uds)
  | (some (.ok t), s) =>
      match uds.sendResponse (pushProgressResponse remotePath (progress t)) with
      | (.error e, uds) => (some (.error e), s, uds)
      | (.ok (), uds) =>
          match sendBlocks env.exec.zstd (reportBlock remotePath) t s (uds, t.sentBytes) with
          | (.error e, _, s, uds, _) => (some (.error e), s, uds)
          | (.ok (), t, s, uds, _) =>
              match t.waitForDone s with
              | (.error e, s) => (some (.error e), s, uds)
              | (.ok (), s) => (some (.ok (pushComplete t)), s, uds)

/-! ## capture and dispatch -/

/-- The session id of a screenshot request. -/
def screenshotSid (env : CommandEnv) : Text :=
  "rustdesk-cli-".toList ++ (toString env.pid).toList ++ "-".toList ++ (toString env.nanos).toList

/-- `execute_daemon_command`.  The messages `dispatch` produces go nowhere. -/
def executeDaemonCommand {ι : Type} (lib : ImageLib ι) (env : CommandEnv) (s : Stream)
    (session : Session) : SessionCommand → Except Error SessionResponse × Stream × Session
  | .exec command _ =>
      match execCommand env.exec command s with
      | (result, s) => (result, s, session)
  | .clipboardGet =>
      match clipboardGet env.exec s with
      | (result, s) => (result, s, session)
  | .clipboardSet text =>
      match clipboardSet env.exec text s with
      | (result, s) => (result, s, session)
  | .capture _ format quality region display _ =>
      match requestScreenshot lib (screenshotSid env) ⟨format, quality, region, display⟩ s with
      | (none, s) => (.error (.msg "screenshot request timed out".toList), s, session)
      | (some (.error e), s) => (.error e, s, session)
      | (some (.ok bytes), s) =>
          (.ok (.okWithData "Screenshot captured".toList
            (.obj [("bytes_b64", .str (base64Encode bytes)), ("bytes", .int bytes.length),
              ("format", .str "png".toList)])), s, session)
  | other =>
      match session.dispatch other with
      | (.error e, session) => (.error e, s, session)
      | (.ok (resp, _msgs), session) => (.ok resp, s, session)

/-! ## What the handlers send -/

theorem execStreaming_extends (env : ExecEnv) (command : Text) (s : Stream) (uds : Uds)
    (serviceId : Option Text) :
    s.Extends IsTerminal (execStreaming env command s uds serviceId).2.1 :=
  s.after_extends _

theorem execCommand_extends (env : ExecEnv) (command : Text) (s : Stream) :
    s.Extends IsTerminal (execCommand env command s).2 :=
  s.after_extends _

theorem clipboardGet_extends (env : ExecEnv) (s : Stream) :
    s.Extends IsTerminal (clipboardGet env s).2 := by
  have hexec := execCommand_extends env clipboardGetCommand s
  unfold clipboardGet
  split <;> rename_i h <;> rw [h] at hexec <;> exact hexec

theorem clipboardSet_extends (env : ExecEnv) (text : Text) (s : Stream) :
    s.Extends IsTerminal (clipboardSet env text s).2 := by
  have hexec := execCommand_extends env (clipboardSetCommand text) s
  unfold clipboardSet
  split <;> rename_i h <;> rw [h] at hexec <;> exact hexec

theorem shellSession_extends (zstd : Zstd) (s : Stream) (uds : Uds) (serviceId : Option Text) :
    s.Extends IsTerminal (shellSession zstd s uds serviceId).2.1 := by
  unfold shellSession
  split
  · exact s.after_extends _
  · exact s.after_extends _
  · rename_i info peer _
    have hopen := s.after_extends peer
    simp only
    split
    · exact hopen
    · rename_i uds' _
      refine hopen.trans ⟨rfl, rfl, ?_⟩
      refine .append ?_ _
      intro m hm
      obtain ⟨action, _, rfl⟩ := List.mem_map.mp hm
      exact ⟨action, rfl⟩

theorem pushFileCommand_extends (env : CommandEnv) (localPath remotePath : Text) (s : Stream)
    (uds : Uds) : s.Extends IsTransfer (pushFileCommand env localPath remotePath s uds).2.1 := by
  have hbegin := PushTransfer.begin_extends env.file env.nanos localPath remotePath s
  unfold pushFileCommand
  split <;> rename_i h <;> rw [h] at hbegin
  · exact hbegin
  · exact hbegin
  · rename_i t s₁
    split
    · exact hbegin
    · rename_i uds₁ _
      have hblocks := sendBlocks_extends env.exec.zstd (reportBlock remotePath) t s₁
        (uds₁, t.sentBytes)
      split <;> rename_i h <;> rw [h] at hblocks
      · exact hbegin.trans hblocks
      · rename_i t₂ s₂ _ _
        have hdone := t₂.waitForDone_extends s₂
        split <;> rename_i h <;> rw [h] at hdone <;>
          exact (hbegin.trans hblocks).trans hdone

/-- What `execute_daemon_command` sends for a command: the clipboard commands and `Exec` act
on a terminal, a capture asks for a screenshot, and no other command sends anything. -/
def SentFor : SessionCommand → Outgoing → Prop
  | .exec _ _ | .clipboardGet | .clipboardSet _ => IsTerminal
  | .capture .. => IsScreenshotRequest
  | _ => fun _ => False

theorem executeDaemonCommand_extends {ι : Type} (lib : ImageLib ι) (env : CommandEnv) (s : Stream)
    (session : Session) (cmd : SessionCommand) :
    s.Extends (SentFor cmd) (executeDaemonCommand lib env s session cmd).2.1 := by
  cases cmd with
  | exec command timeout => exact execCommand_extends env.exec command s
  | clipboardGet => exact clipboardGet_extends env.exec s
  | clipboardSet text => exact clipboardSet_extends env.exec text s
  | capture output format quality region display timeoutSecs =>
      have hshot := requestScreenshot_extends lib (screenshotSid env)
        ⟨format, quality, region, display⟩ s
      unfold executeDaemonCommand
      simp only
      split <;> rename_i h <;> rw [h] at hshot <;> exact hshot
  | _ =>
      unfold executeDaemonCommand
      simp only
      split <;> exact .refl _ s

/-! ## What the handlers write to the client -/

/-- `data.kind` of a response. -/
def kind (response : SessionResponse) : Option Text :=
  (response.data.bind (Json.get "kind")).bind Json.asStr

/-- The response is a chunk of output or a progress report, with more to come. -/
def IsPartial (response : SessionResponse) : Prop :=
  kind response = some "chunk".toList ∨ kind response = some "progress".toList

/-- The output is a line with more to come. -/
def Output.IsPartial : Output → Prop
  | .line response => Daemon.IsPartial response
  | .raw _ => False

/-- Everything `exec` streams to its client is a chunk of output. -/
theorem collect_written (zstd : Zstd) (remaining sentinel : Text) (collected : Bytes)
    (client : Client) (inbox : List Arrival) :
    Grows IsPartial client.written
      (collect zstd remaining sentinel collected client inbox).2.1.written := by
  have hchunk : ∀ (client : Client) (data : Bytes),
      Grows IsPartial client.written (client.sendChunk data).2.written := by
    intro client data
    unfold Client.sendChunk
    split
    · unfold Client.sendResponse
      simp only
      split <;> exact .concat (.inl rfl) client.written
    · exact .refl _ client.written
  fun_induction collect zstd remaining sentinel collected client inbox with
  | case1 collected client => exact .refl _ client.written
  | case2 collected client arrival rest data _ e client' hsend =>
      have hsent := hchunk client data
      rwa [hsend] at hsent
  | case3 collected client arrival rest data _ client' hsend =>
      have hsent := hchunk client data
      rwa [hsend] at hsent
  | case4 collected client arrival rest data _ client' hsend all _ ih =>
      have hsent := hchunk client data
      rw [hsend] at hsent
      exact hsent.trans ih
  | case5 collected client => exact .refl _ client.written
  | case6 collected client => exact .refl _ client.written
  | case7 collected client => exact .refl _ client.written
  | case8 collected client => exact .refl _ client.written

theorem finishExec_written (env : ExecEnv) (command : Text) (tid : Int) (st : ExecState) :
    Grows IsPartial st.client.written (finishExec env command tid st).2.client.written := by
  have hcollect := collect_written env.zstd env.remaining (sentinelOf env.sentinelId) [] st.client
    st.peer.inbox
  rw [finishExec]
  rcases hrun : collect env.zstd env.remaining (sentinelOf env.sentinelId) [] st.client
    st.peer.inbox with ⟨ended, client, inbox⟩
  rw [hrun] at hcollect
  cases ended <;> exact hcollect

theorem execCommandInner_written (env : ExecEnv) (command : Text) (st : ExecState) :
    Grows IsPartial st.client.written (execCommandInner env command st).2.client.written := by
  unfold execCommandInner
  split
  · exact .refl _ _
  · exact .refl _ _
  · simp only
    split
    · exact .refl _ _
    · exact .refl _ _
    · exact .refl _ _
    · split
      · exact .refl _ _
      · exact finishExec_written env command _ _

theorem execStreaming_written (env : ExecEnv) (command : Text) (s : Stream) (uds : Uds)
    (serviceId : Option Text) :
    Grows Output.IsPartial uds.written (execStreaming env command s uds serviceId).2.2.1.written :=
  (execCommandInner_written env command ⟨s.peer, ⟨true, uds.writes, []⟩, serviceId⟩).map
    Output.line fun _ h => h

theorem reportBlock_written (remotePath : Text) (t : PushTransfer) (seen : Uds × Nat) :
    Grows Output.IsPartial seen.1.written (reportBlock remotePath t seen).2.1.written := by
  obtain ⟨uds, lastReported⟩ := seen
  unfold reportBlock
  simp only
  split
  · have hwrite : Grows Output.IsPartial uds.written
        (uds.sendResponse (pushProgressResponse remotePath (progress t))).2.written := by
      rw [Uds.sendResponse, Uds.write_written]
      exact .concat (.inr rfl) uds.written
    split <;> rename_i h <;> rw [h] at hwrite <;> exact hwrite
  · exact .refl _ uds.written

/-- The reports of a whole loop. -/
theorem sendBlocks_written (zstd : Zstd) (remotePath : Text) (t : PushTransfer) (s : Stream)
    (seen : Uds × Nat) :
    Grows Output.IsPartial seen.1.written
      (sendBlocks zstd (reportBlock remotePath) t s seen).2.2.2.1.written := by
  induction t, s, seen using sendBlocks.induct zstd (reportBlock remotePath) with
  | case1 t s seen e t₁ s₁ hblock =>
      rw [sendBlocks, hblock]
      exact .refl _ _
  | case2 t s seen t₁ s₁ hblock =>
      rw [sendBlocks, hblock]
      exact .refl _ _
  | case3 t s seen t₁ s₁ hblock e seen₁ hcall =>
      have hreport := reportBlock_written remotePath t₁ seen
      rw [sendBlocks, hblock]
      simp only [hcall]
      rwa [hcall] at hreport
  | case4 t s seen t₁ s₁ hblock seen₁ hcall ih =>
      have hreport := reportBlock_written remotePath t₁ seen
      rw [sendBlocks, hblock]
      simp only [hcall]
      rw [hcall] at hreport
      exact hreport.trans ih

/-- Everything a push writes before its answer is a progress report. -/
theorem pushFileCommand_written (env : CommandEnv) (localPath remotePath : Text) (s : Stream)
    (uds : Uds) :
    Grows Output.IsPartial uds.written
      (pushFileCommand env localPath remotePath s uds).2.2.written := by
  unfold pushFileCommand
  split
  · exact .refl _ _
  · exact .refl _ _
  · rename_i t s₁ _
    have hfirst : Grows Output.IsPartial uds.written
        (uds.sendResponse (pushProgressResponse remotePath (progress t))).2.written := by
      rw [Uds.sendResponse, Uds.write_written]
      exact .concat (.inr rfl) uds.written
    split <;> rename_i h <;> rw [h] at hfirst
    · exact hfirst
    · rename_i uds₁
      have hblocks := sendBlocks_written env.exec.zstd remotePath t s₁ (uds₁, t.sentBytes)
      split <;> rename_i h <;> rw [h] at hblocks
      · exact hfirst.trans hblocks
      · split <;> exact hfirst.trans hblocks

/-! ## What the handlers answer -/

theorem not_isPartial_of_kind {response : SessionResponse} (h : kind response = none) :
    ¬ IsPartial response := by
  intro hpartial
  rcases hpartial with hkind | hkind <;> rw [h] at hkind <;> cases hkind

theorem not_isPartial_error (message : Text) : ¬ IsPartial (.error message) :=
  not_isPartial_of_kind rfl

theorem not_isPartial_execData (message command stdout : Text) (exitCode : Int)
    (timedOut : Bool) :
    ¬ IsPartial (.okWithData message (execData command stdout exitCode timedOut)) :=
  not_isPartial_of_kind rfl

theorem execCommandInner_answer {env : ExecEnv} {command : Text} {st : ExecState}
    {resp : SessionResponse} (h : (execCommandInner env command st).1 = .ok resp) :
    ¬ IsPartial resp := by
  unfold execCommandInner at h
  split at h
  · cases h
  · cases h
  · simp only at h
    split at h
    · rw [← Except.ok.inj h]
      exact not_isPartial_execData _ _ _ _ _
    · cases h
    · cases h
    · split at h
      · cases h
      · unfold finishExec at h
        simp only at h
        split at h
        · rw [← Except.ok.inj h]
          exact not_isPartial_execData _ _ _ _ _
        · rw [← Except.ok.inj h]
          exact not_isPartial_execData _ _ _ _ _
        · cases h
        · cases h
        · cases h

theorem execStreaming_answer {env : ExecEnv} {command : Text} {s : Stream} {uds : Uds}
    {serviceId : Option Text} {resp : SessionResponse}
    (h : (execStreaming env command s uds serviceId).1 = .ok resp) : ¬ IsPartial resp :=
  execCommandInner_answer h

theorem not_isPartial_pushComplete (t : PushTransfer) : ¬ IsPartial (pushComplete t) := by
  have hkind : kind (pushComplete t) = some "complete".toList := rfl
  intro hpartial
  rcases hpartial with h | h <;> rw [hkind] at h <;> revert h <;> decide

theorem pushFileCommand_answer {env : CommandEnv} {localPath remotePath : Text} {s : Stream}
    {uds : Uds} {resp : SessionResponse}
    (h : (pushFileCommand env localPath remotePath s uds).1 = some (.ok resp)) :
    ¬ IsPartial resp := by
  unfold pushFileCommand at h
  split at h
  · cases h
  · cases h
  · split at h
    · cases h
    · split at h
      · cases h
      · split at h
        · cases h
        · rw [← Except.ok.inj (Option.some.inj h)]
          exact not_isPartial_pushComplete _

/-- No answer of `dispatch` is a partial one. -/
theorem dispatch_answer {session session' : Session} {cmd : SessionCommand}
    {resp : SessionResponse} {messages : List ProtocolMessage}
    (h : session.dispatch cmd = (.ok (resp, messages), session')) : ¬ IsPartial resp := by
  cases cmd with
  | connect peerId password server =>
      rw [Session.dispatch_connect] at h
      split at h <;> obtain ⟨hok, _⟩ := Prod.mk.inj h <;>
        obtain ⟨rfl, _⟩ := Prod.mk.inj (Except.ok.inj hok) <;> exact not_isPartial_of_kind rfl
  | status =>
      obtain ⟨hok, _⟩ := Prod.mk.inj h
      obtain ⟨rfl, _⟩ := Prod.mk.inj (Except.ok.inj hok)
      exact not_isPartial_of_kind rfl
  | _ =>
      obtain ⟨_, rfl, _⟩ := Session.ifConnected_ok h
      exact not_isPartial_of_kind rfl

theorem executeDaemonCommand_answer {ι : Type} {lib : ImageLib ι} {env : CommandEnv} {s : Stream}
    {session : Session} {cmd : SessionCommand} {resp : SessionResponse}
    (h : (executeDaemonCommand lib env s session cmd).1 = .ok resp) : ¬ IsPartial resp := by
  cases cmd with
  | exec command timeout => exact execCommandInner_answer h
  | clipboardGet =>
      unfold executeDaemonCommand clipboardGet at h
      simp only at h
      split at h
      · cases h
      · rw [← Except.ok.inj h]
        exact not_isPartial_of_kind rfl
  | clipboardSet text =>
      unfold executeDaemonCommand clipboardSet at h
      simp only at h
      split at h
      · cases h
      · rw [← Except.ok.inj h]
        exact not_isPartial_of_kind rfl
  | capture output format quality region display timeoutSecs =>
      unfold executeDaemonCommand at h
      simp only at h
      split at h
      · cases h
      · cases h
      · rw [← Except.ok.inj h]
        exact not_isPartial_of_kind rfl
  | _ =>
      unfold executeDaemonCommand at h
      simp only at h
      split at h
      · cases h
      · rename_i hdispatch
        rw [← Except.ok.inj h]
        exact dispatch_answer hdispatch

/-- The loop of a shell writes what the terminal prints and no line of JSON. -/
theorem shellLoop_written (zstd : Zstd) (tid : Int) (lost : Option Error) (inbox : List Event)
    (st : ShellState) :
    Grows (fun output => ∃ data, output = .raw data) st.uds.written
      (shellLoop zstd tid lost inbox st).2.1.uds.written := by
  fun_induction shellLoop zstd tid lost inbox st with
  | case4 line inbox st peer hsend ih => exact ih
  | case6 event inbox st _ _ hnone ih => exact ih
  | case7 event inbox st _ _ arrival _ data _ e uds hwrite =>
      have hwritten := st.uds.write_written (.raw data)
      rw [hwrite] at hwritten
      rw [hwritten]
      exact .concat ⟨data, rfl⟩ _
  | case8 event inbox st _ _ arrival _ data _ uds hwrite ih =>
      have hwritten := st.uds.write_written (.raw data)
      rw [hwrite] at hwritten
      refine Grows.trans ?_ ih
      rw [hwritten]
      exact .concat ⟨data, rfl⟩ _
  | _ => exact .refl _ _

/-- A shell writes one line, the acknowledgement or an error, and then only what the
terminal prints. -/
theorem shellSession_written (zstd : Zstd) (s : Stream) (uds : Uds) (serviceId : Option Text) :
    ∃ (response : SessionResponse) (printed : List Output),
      (shellSession zstd s uds serviceId).2.2.1.written =
        uds.written ++ .line response :: printed ∧
      ¬ IsPartial response ∧ ∀ output ∈ printed, ∃ data, output = .raw data := by
  have hline : ∀ response, (uds.sendResponse response).2.written =
      uds.written ++ .line response :: [] := fun response => uds.write_written _
  unfold shellSession
  split
  · exact ⟨_, [], hline _, not_isPartial_error _, by simp⟩
  · exact ⟨_, [], hline _, not_isPartial_error _, by simp⟩
  · rename_i info peer _
    have hack := hline (shellAck info.terminalId)
    simp only
    split <;> rename_i h <;> rw [h] at hack
    · exact ⟨_, [], hack, not_isPartial_of_kind rfl, by simp⟩
    · rename_i uds₁
      obtain ⟨printed, hprinted, hraw⟩ := shellLoop_written zstd info.terminalId
        (s.after peer).lost (s.after peer).inbox
        ⟨⟨[], (s.after peer).sends, []⟩, uds₁, some info.serviceId⟩
      refine ⟨shellAck info.terminalId, printed, ?_, not_isPartial_of_kind rfl, hraw⟩
      rw [hprinted, hack]
      simp

end RustdeskCli.Daemon
