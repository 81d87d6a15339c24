import RustdeskCli.Connection.Handshake
import RustdeskCli.Connection.Rendezvous
import RustdeskCli.Daemon.Loop
import RustdeskCli.Daemon.TerminalCleanup
set_option autoImplicit false

/-!
# Daemon: heartbeats of the peer (`src/daemon.rs`, `src/crypto.rs`)

A heartbeat is a frame without payload, and `EncryptedStream::recv` hands it to whoever
reads the stream.  The terminal functions, the screenshot loop and the file transfer pass
over it, and so does the main loop: two streams that differ only in heartbeats are alike
for every command, and a run of the daemon is, up to the turns that read heartbeats, a run
without them.

The handshake and the rendezvous exchange do not pass over it.  They fail with a heartbeat
that comes before the message they wait for.
-/

namespace RustdeskCli.Daemon

open RustdeskCli.Foundation
open RustdeskCli.Session
open RustdeskCli.Terminal
open RustdeskCli.Exec
open RustdeskCli.Capture
open RustdeskCli.Transfer
open RustdeskCli.Connection

/-! ## Streams that differ in heartbeats -/

/-- The event is a heartbeat of the peer. -/
def IsHeartbeat (event : Event) : Prop := event = .frame .heartbeat

/-- The second stream is the first with heartbeats inserted into what is not read yet. -/
inductive Stream.Padded (s : Stream) : Stream → Prop where
  | mk {inbox : List Event} (h : Inserted IsHeartbeat s.inbox inbox) :
      Padded s { s with inbox := inbox }

/-- Two results of an operation on such streams: the same value, and such streams again. -/
inductive Alike {α : Type} : α × Stream → α × Stream → Prop where
  | mk (a : α) {s s' : Stream} (padded : s.Padded s') : Alike (a, s) (a, s')

/-- The same for an operation that also returns something else. -/
inductive AlikeWith {α β : Type} : α × Stream × β → α × Stream × β → Prop where
  | mk (a : α) {s s' : Stream} (padded : s.Padded s') (b : β) : AlikeWith (a, s, b) (a, s', b)

/-- The operation leaves what is to be read alone and does not depend on it. -/
def KeepsInbox {α : Type} (f : Stream → α × Stream) : Prop :=
  ∀ s inbox, f { s with inbox := inbox } = ((f s).1, { (f s).2 with inbox := inbox })

namespace Stream.Padded

variable {s s' : Stream}

theorem refl (s : Stream) : s.Padded s := .mk (.refl _ s.inbox)

theorem sent (h : s.Padded s') : s'.sent = s.sent := by
  cases h
  rfl

theorem lost (h : s.Padded s') : s'.lost = s.lost := by
  cases h
  rfl

theorem replaced (h : s.Padded s') (inbox : List Event) :
    Padded { s with inbox := inbox } { s' with inbox := inbox } := by
  cases h
  exact .refl { s with inbox := inbox }

theorem closed (h : s.Padded s') (e : Error) :
    Padded { s with lost := some e } { s' with lost := some e } := by
  obtain ⟨h⟩ := h
  exact .mk (s := { s with lost := some e }) h

/-- Whatever ends a call of `recv_terminal_response` is the same. -/
theorem arrivals (h : s.Padded s') : s'.arrivals = s.arrivals := by
  obtain ⟨h⟩ := h
  unfold Stream.arrivals Terminal.arrivals
  rw [List.filterMap_map, List.filterMap_map]
  rw [h.filterMap_eq]
  rintro _ rfl
  rfl

theorem peer (h : s.Padded s') : s'.peer = s.peer := by
  have harrivals := h.arrivals
  obtain ⟨h⟩ := h
  unfold Stream.peer
  rw [harrivals]

end Stream.Padded

theorem KeepsInbox.inbox {α : Type} {f : Stream → α × Stream} (hf : KeepsInbox f) (s : Stream) :
    (f s).2.inbox = s.inbox :=
  congrArg (fun r => r.2.inbox) (hf s s.inbox)

theorem KeepsInbox.alike {α : Type} {f : Stream → α × Stream} (hf : KeepsInbox f)
    {s s' : Stream} (h : s.Padded s') : Alike (f s) (f s') := by
  cases h with
  | @mk inbox h =>
      rw [hf s inbox]
      exact .mk (f s).1 (.mk ((hf.inbox s).symm ▸ h))

theorem send_inbox_eq (s : Stream) (inbox : List Event) (m : Outgoing) :
    { s with inbox := inbox }.send m = ((s.send m).1, { (s.send m).2 with inbox := inbox }) := by
  unfold Stream.send
  dsimp only
  split <;> rfl

theorem send_keepsInbox (m : Outgoing) : KeepsInbox (fun s => s.send m) :=
  fun s inbox => send_inbox_eq s inbox m

theorem dropArrivals_zero (inbox : List Event) : dropArrivals 0 inbox = inbox := by
  cases inbox <;> rfl

theorem dropArrivals_inserted (n : Nat) {inbox inbox' : List Event}
    (h : Inserted IsHeartbeat inbox inbox') :
    Inserted IsHeartbeat (dropArrivals n inbox) (dropArrivals n inbox') := by
  induction h generalizing n with
  | nil => exact .refl _ _
  | keep x rest ih =>
      cases n with
      | zero => exact .keep x rest
      | succ n =>
          unfold dropArrivals
          split
          · exact ih n
          · exact ih (n + 1)
  | insert kind rest ih =>
      cases n with
      | zero =>
          rw [dropArrivals_zero, dropArrivals_zero]
          exact .insert kind rest
      | succ n =>
          cases kind
          exact ih (n + 1)

/-- The stream after the terminal functions. -/
theorem Stream.Padded.after {s s' : Stream} (h : s.Padded s') (peer : Peer) :
    (s.after peer).Padded (s'.after peer) := by
  have harrivals := h.arrivals
  obtain ⟨h⟩ := h
  unfold Stream.after
  rw [harrivals]
  exact .mk (dropArrivals_inserted _ h)

/-! ## The receive loops -/

/-- `recv_terminal_response` on the stream; its timer ends it when nothing else does. -/
def Stream.recvTerminalResponse (secs : Text) (s : Stream) : Except Error TerminalResponse :=
  Terminal.recvTerminalResponse secs (s.arrivals.head?.getD (.elapsed .response))

/-- A result, and the stream with what is left of its inbox. -/
def leaving {α : Type} (r : α × Stream) (left : List Event) : α × Stream :=
  (r.1, { r.2 with inbox := left })

/-- A loop over the inbox of a stream which passes over heartbeats does the same on streams
that differ in them. -/
theorem alike_of_leaves {α : Type} {run : List Event → Stream → α × Stream}
    (hrun : Leaves run leaving)
    (hinbox : ∀ inbox s other, run inbox { s with inbox := other } = run inbox s)
    (hskip : ∀ s inbox, run (.frame .heartbeat :: inbox) s = run inbox s)
    {s s' : Stream} (h : s.Padded s') : Alike (run s.inbox s) (run s'.inbox s') := by
  cases h with
  | @mk inbox h =>
      have hbeat : ∀ event s inbox, IsHeartbeat event →
          run (event :: inbox) s = run inbox s := by
        rintro _ s inbox rfl
        exact hskip s inbox
      obtain ⟨⟨r, s₁⟩, left, left', hl, hl', hleft⟩ := h.leave_eq hrun hbeat s
      rw [hl]
      dsimp only
      rw [hinbox inbox s inbox, hl']
      exact .mk r (.mk (s := { s₁ with inbox := left }) hleft)

section Screenshot

variable {ι : Type} (lib : ImageLib ι) (sid : Text) (options : CaptureOptions)

/-- One round of the loop: it returns, or it goes on as it was. -/
theorem recvScreenshot_cons (event : Event) :
    (∃ r, ∀ inbox s, recvScreenshot lib sid options (event :: inbox) s =
      (r, { s with inbox := inbox })) ∨
    ∀ inbox s, recvScreenshot lib sid options (event :: inbox) s =
      recvScreenshot lib sid options inbox s := by
  rcases event with (_ | m | e | e) | _ | _
  case frame.message =>
    cases m with
    | screenshotResponse response =>
        by_cases hsid : response.sid ≠ sid
        · refine .inr fun inbox s => ?_
          conv_lhs => unfold recvScreenshot
          rw [if_pos hsid]
        · left
          by_cases hmsg : response.msg ≠ []
          · refine ⟨some (.error (.msg ("screenshot failed: ".toList ++ response.msg))),
              fun inbox s => ?_⟩
            unfold recvScreenshot
            rw [if_neg hsid, if_pos hmsg]
          · refine ⟨some (processScreenshotBytes lib response.data options), fun inbox s => ?_⟩
            unfold recvScreenshot
            rw [if_neg hsid, if_neg hmsg]
    | _ => exact .inr fun _ _ => rfl
  case frame.undecodable | frame.failed | elapsed => exact .inl ⟨_, fun _ _ => rfl⟩
  all_goals exact .inr fun _ _ => rfl

theorem recvScreenshot_leaves :
    Leaves (recvScreenshot lib sid options) leaving where
  nil s := ⟨(_, s), rfl⟩
  cons event s := by
    rcases recvScreenshot_cons lib sid options event with ⟨r, hr⟩ | hr
    · exact .inl ⟨(r, s), fun inbox => hr inbox s⟩
    · exact .inr ⟨s, fun inbox => hr inbox s⟩

/-- The loop does not look at the stream's own record of what is to be read. -/
theorem recvScreenshot_inbox (inbox : List Event) (s : Stream) (other : List Event) :
    recvScreenshot lib sid options inbox { s with inbox := other } =
      recvScreenshot lib sid options inbox s := by
  induction inbox with
  | nil => rfl
  | cons event inbox ih =>
      rcases recvScreenshot_cons lib sid options event with ⟨r, hr⟩ | hr
      · rw [hr, hr]
      · rw [hr, hr, ih]

theorem recvScreenshot_alike {s s' : Stream} (h : s.Padded s') :
    Alike (recvScreenshot lib sid options s.inbox s)
      (recvScreenshot lib sid options s'.inbox s') :=
  alike_of_leaves (recvScreenshot_leaves lib sid options) (recvScreenshot_inbox lib sid options)
    (fun _ _ => rfl) h

theorem requestScreenshot_alike {s s' : Stream} (h : s.Padded s') :
    Alike (requestScreenshot lib sid options s) (requestScreenshot lib sid options s') := by
  have hsend := (send_keepsInbox (.screenshotRequest (options.display.getD 0) sid)).alike h
  unfold requestScreenshot
  generalize s.send _ = r at hsend ⊢
  generalize s'.send _ = r' at hsend ⊢
  obtain ⟨result, hpadded⟩ := hsend
  cases result with
  | error e => exact .mk _ hpadded
  | ok u => exact recvScreenshot_alike lib sid options hpadded

end Screenshot

section FileEvent

variable (skip : FileTransferEvent → Bool) (timed : Bool) (jobId : Int)

theorem recvFileEventSkipping_leaves :
    Leaves (recvFileEventSkipping skip timed jobId) leaving where
  nil s := ⟨(_, s), rfl⟩
  cons event s := by
    rcases hdelay : testDelay? event with _ | td
    · rcases recvFileEventSkipping_quiet skip timed jobId hdelay with ⟨r, hr⟩ | hr
      · exact .inl ⟨(r, s), fun inbox => hr inbox s⟩
      · exact .inr ⟨s, fun inbox => hr inbox s⟩
    · have hr := fun inbox => recvFileEventSkipping_delay skip timed jobId hdelay inbox s
      generalize s.send (.testDelay td.echo) = sent at hr
      obtain ⟨e | u, s₁⟩ := sent
      · exact .inl ⟨(_, s₁), hr⟩
      · exact .inr ⟨s₁, hr⟩

/-- The loop does not look at the stream's own record of what is to be read. -/
theorem recvFileEventSkipping_inbox (inbox : List Event) (s : Stream) (other : List Event) :
    recvFileEventSkipping skip timed jobId inbox { s with inbox := other } =
      recvFileEventSkipping skip timed jobId inbox s := by
  induction inbox generalizing s with
  | nil => rfl
  | cons event inbox ih =>
      rcases hdelay : testDelay? event with _ | td
      · rcases recvFileEventSkipping_quiet skip timed jobId hdelay with ⟨r, hr⟩ | hr
        · rw [hr, hr]
        · rw [hr, hr, ih s]
      · have hr := recvFileEventSkipping_delay skip timed jobId hdelay inbox
        rw [hr, hr, send_inbox_eq]
        rcases s.send (.testDelay td.echo) with ⟨e | u, s₁⟩
        · rfl
        · exact ih s₁

theorem recvFileEventSkipping_alike {s s' : Stream} (h : s.Padded s') :
    Alike (recvFileEventSkipping skip timed jobId s.inbox s)
      (recvFileEventSkipping skip timed jobId s'.inbox s') :=
  alike_of_leaves (recvFileEventSkipping_leaves skip timed jobId)
    (recvFileEventSkipping_inbox skip timed jobId) (fun _ _ => rfl) h

end FileEvent

/-! ## Pushing a file -/

section Push

variable {s s' : Stream}

theorem announce_keepsInbox (file : LocalFile) (localPath remotePath : Text) (jobId : Int) :
    KeepsInbox (announce file localPath remotePath jobId) := by
  intro s inbox
  rcases announce_cases file localPath remotePath jobId with
    ⟨e, hr⟩ | ⟨metadata, request, digest, -, -, -, hr⟩
  · rw [hr, hr]
  · rw [hr, hr, send_inbox_eq]
    rcases s.send request with ⟨e | u, s₁⟩
    · rfl
    · dsimp only
      rw [send_inbox_eq]
      rcases s₁.send digest with ⟨e | u, s₂⟩ <;> rfl

theorem resumeFrom_keepsInbox (jobId : Int) (totalBytes : Nat) (event : FileTransferEvent) :
    KeepsInbox (fun s => resumeFrom s jobId totalBytes event) := by
  intro s inbox
  unfold resumeFrom
  cases event with
  | digest digest =>
      dsimp only
      unfold confirmUploadFromRemoteDigest
      dsimp only
      rw [send_inbox_eq]
      rcases s.send _ with ⟨e | u, s₁⟩ <;> rfl
  | confirm confirm =>
      dsimp only
      split <;> rfl
  | done done => rfl
  | error error => rfl

theorem begin_alike (file : LocalFile) (nanos : Nat) (localPath remotePath : Text)
    (h : s.Padded s') :
    Alike (PushTransfer.begin file nanos localPath remotePath s)
      (PushTransfer.begin file nanos localPath remotePath s') := by
  have hannounce := (announce_keepsInbox file localPath remotePath (newJobId nanos)).alike h
  unfold PushTransfer.begin
  dsimp only
  generalize announce _ _ _ _ s = r at hannounce ⊢
  generalize announce _ _ _ _ s' = r' at hannounce ⊢
  obtain ⟨announced, h₁⟩ := hannounce
  cases announced with
  | error e => exact .mk _ h₁
  | ok metadata =>
      dsimp only
      have hreply := recvFileEventSkipping_alike isDone false (newJobId nanos) h₁
      generalize recvFileEventSkipping _ _ _ _ _ = r at hreply ⊢
      generalize recvFileEventSkipping _ _ _ _ _ = r' at hreply ⊢
      obtain ⟨reply, h₂⟩ := hreply
      rcases reply with _ | (e | event)
      · exact .mk _ h₂
      · exact .mk _ h₂
      · dsimp only
        have hresume := (resumeFrom_keepsInbox (newJobId nanos) metadata.len event).alike h₂
        generalize resumeFrom _ _ _ _ = r at hresume ⊢
        generalize resumeFrom _ _ _ _ = r' at hresume ⊢
        obtain ⟨resumed, h₃⟩ := hresume
        rcases resumed with e | ⟨resumedBytes, skipTransfer⟩
        · exact .mk _ h₃
        · dsimp only
          cases openAt file localPath resumedBytes with
          | error e => exact .mk _ h₃
          | ok opened => exact .mk _ h₃

theorem sendNextBlock_inbox (zstd : Zstd) (t : PushTransfer) (s : Stream) (inbox : List Event) :
    t.sendNextBlock zstd { s with inbox := inbox } =
      ((t.sendNextBlock zstd s).1, (t.sendNextBlock zstd s).2.1,
        { (t.sendNextBlock zstd s).2.2 with inbox := inbox }) := by
  unfold PushTransfer.sendNextBlock
  split
  · rfl
  · rcases t.file.read with ⟨e | chunk, file⟩
    · rfl
    · dsimp only
      split
      · rfl
      · rcases compressChunk zstd chunk with e | ⟨data, compressed⟩
        · rfl
        · dsimp only
          rw [send_inbox_eq]
          rcases s.send _ with ⟨e | u, s₁⟩ <;> rfl

theorem sendBlocks_inbox {σ : Type} (zstd : Zstd)
    (onBlock : PushTransfer → σ → Except Error Unit × σ) (inbox : List Event) (t : PushTransfer)
    (s : Stream) (seen : σ) :
    sendBlocks zstd onBlock t { s with inbox := inbox } seen =
      ((sendBlocks zstd onBlock t s seen).1, (sendBlocks zstd onBlock t s seen).2.1,
        { (sendBlocks zstd onBlock t s seen).2.2.1 with inbox := inbox },
        (sendBlocks zstd onBlock t s seen).2.2.2) := by
  induction t, s, seen using sendBlocks.induct zstd onBlock with
  | case1 t s seen e t₁ s₁ hblock =>
      rw [sendBlocks, sendNextBlock_inbox, sendBlocks, hblock]
  | case2 t s seen t₁ s₁ hblock =>
      rw [sendBlocks, sendNextBlock_inbox, sendBlocks, hblock]
  | case3 t s seen t₁ s₁ hblock e seen₁ hcall =>
      rw [sendBlocks, sendNextBlock_inbox, sendBlocks, hblock]
      simp only [hcall]
  | case4 t s seen t₁ s₁ hblock seen₁ hcall ih =>
      rw [sendBlocks, sendNextBlock_inbox, sendBlocks, hblock]
      simp only [hcall]
      exact ih

theorem sendBlocks_alike {σ : Type} (zstd : Zstd)
    (onBlock : PushTransfer → σ → Except Error Unit × σ) (t : PushTransfer) (seen : σ)
    (h : s.Padded s') :
    ∃ result t₁ s₁ s₁' seen₁, sendBlocks zstd onBlock t s seen = (result, t₁, s₁, seen₁) ∧
      sendBlocks zstd onBlock t s' seen = (result, t₁, s₁', seen₁) ∧ s₁.Padded s₁' := by
  cases h with
  | @mk inbox h =>
      have hinbox : (sendBlocks zstd onBlock t s seen).2.2.1.inbox = s.inbox :=
        congrArg (fun r => r.2.2.1.inbox) (sendBlocks_inbox zstd onBlock s.inbox t s seen)
      exact ⟨_, _, _, _, _, rfl, sendBlocks_inbox zstd onBlock inbox t s seen,
        .mk (hinbox.symm ▸ h)⟩

theorem waitForDone_alike (t : PushTransfer) (h : s.Padded s') :
    Alike (t.waitForDone s) (t.waitForDone s') := by
  unfold PushTransfer.waitForDone
  split
  · exact .mk _ h
  · have hsend := (send_keepsInbox (.fileDone ⟨t.jobId, 0⟩)).alike h
    generalize s.send _ = r at hsend ⊢
    generalize s'.send _ = r' at hsend ⊢
    obtain ⟨result, h₁⟩ := hsend
    cases result with
    | error e => exact .mk _ h₁
    | ok u =>
        dsimp only
        have hwait := recvFileEventSkipping_alike (fun _ => false) true t.jobId h₁
        unfold recvFileEvent
        generalize recvFileEventSkipping _ _ _ _ _ = r at hwait ⊢
        generalize recvFileEventSkipping _ _ _ _ _ = r' at hwait ⊢
        obtain ⟨event, h₂⟩ := hwait
        rcases event with _ | (e | (_ | _ | _ | err)) <;> exact .mk _ h₂

theorem pushFileCommand_alike (env : CommandEnv) (localPath remotePath : Text) (uds : Uds)
    (h : s.Padded s') :
    AlikeWith (pushFileCommand env localPath remotePath s uds)
      (pushFileCommand env localPath remotePath s' uds) := by
  have hbegin := begin_alike env.file env.nanos localPath remotePath h
  unfold pushFileCommand
  generalize PushTransfer.begin _ _ _ _ s = r at hbegin ⊢
  generalize PushTransfer.begin _ _ _ _ s' = r' at hbegin ⊢
  obtain ⟨begun, h₁⟩ := hbegin
  rcases begun with _ | (e | t)
  · exact .mk _ h₁ _
  · exact .mk _ h₁ _
  · dsimp only
    rcases uds.sendResponse _ with ⟨e | u, uds₁⟩
    · exact .mk _ h₁ _
    · dsimp only
      obtain ⟨result, t₁, s₁, s₁', seen₁, hl, hl', h₂⟩ :=
        sendBlocks_alike env.exec.zstd (reportBlock remotePath) t (uds₁, t.sentBytes) h₁
      rw [hl, hl']
      cases result with
      | error e => exact .mk _ h₂ _
      | ok u =>
          dsimp only
          have hdone := waitForDone_alike t₁ h₂
          generalize t₁.waitForDone s₁ = r at hdone ⊢
          generalize t₁.waitForDone s₁' = r' at hdone ⊢
          obtain ⟨done, h₃⟩ := hdone
          cases done with
          | error e => exact .mk _ h₃ _
          | ok u => exact .mk _ h₃ _

end Push

/-! ## The other commands -/

section Commands

variable {s s' : Stream}

theorem execStreaming_alike (env : ExecEnv) (command : Text) (uds : Uds) (serviceId : Option Text)
    (h : s.Padded s') :
    AlikeWith (execStreaming env command s uds serviceId)
      (execStreaming env command s' uds serviceId) := by
  unfold execStreaming
  rw [h.peer]
  exact .mk _ (h.after _) _

theorem execCommand_alike (env : ExecEnv) (command : Text) (h : s.Padded s') :
    Alike (execCommand env command s) (execCommand env command s') := by
  unfold execCommand
  rw [h.peer]
  exact .mk _ (h.after _)

/-- One round of the shell's loop: it returns, or it goes on. -/
theorem shellLoop_leaves (zstd : Zstd) (tid : Int) (lost : Option Error) :
    Leaves (shellLoop zstd tid lost) shellLeaving := by
  refine (shellLoop_rounds zstd tid lost).leaves fun st => ?_
  cases lost with
  | none => exact ⟨(_, _), rfl⟩
  | some e => exact ⟨(_, _), rfl⟩

theorem shellSession_alike (zstd : Zstd) (uds : Uds) (serviceId : Option Text)
    (h : s.Padded s') :
    AlikeWith (shellSession zstd s uds serviceId) (shellSession zstd s' uds serviceId) := by
  unfold shellSession
  rw [h.peer]
  rcases openTerminal s.peer 24 80 with ⟨_ | (e | info), peer⟩
  · exact .mk _ (h.after peer) _
  · exact .mk _ (h.after peer) _
  · have hafter := h.after peer
    dsimp only
    rcases uds.sendResponse _ with ⟨e | u, uds₁⟩
    · exact .mk _ hafter _
    · dsimp only
      generalize s.after peer = s₁ at hafter ⊢
      generalize s'.after peer = s₁' at hafter ⊢
      obtain ⟨hinbox⟩ := hafter
      dsimp only
      have hskip : ∀ event st inbox, IsHeartbeat event →
          shellLoop zstd info.terminalId s₁.lost (event :: inbox) st =
            shellLoop zstd info.terminalId s₁.lost inbox st := by
        rintro _ st inbox rfl
        rfl
      obtain ⟨⟨result, st⟩, left, left', hl, hl', hleft⟩ :=
        hinbox.leave_eq (shellLoop_leaves zstd info.terminalId s₁.lost) hskip
          ⟨⟨[], s₁.sends, []⟩, uds₁, some info.serviceId⟩
      rw [hl, hl']
      exact .mk result (.mk (s := { s₁ with
        inbox := left
        sends := st.peer.sends
        sent := s₁.sent ++ st.peer.sent.map .terminal }) hleft) _

theorem executeDaemonCommand_alike {ι : Type} (lib : ImageLib ι) (env : CommandEnv)
    (session : Session) (cmd : SessionCommand) (h : s.Padded s') :
    AlikeWith (executeDaemonCommand lib env s session cmd)
      (executeDaemonCommand lib env s' session cmd) := by
  have hexec : ∀ command,
      Alike (execCommand env.exec command s) (execCommand env.exec command s') :=
    fun command => execCommand_alike env.exec command h
  cases cmd with
  | exec command timeout =>
      have hrun := hexec command
      unfold executeDaemonCommand
      dsimp only
      generalize execCommand _ _ s = r at hrun ⊢
      generalize execCommand _ _ s' = r' at hrun ⊢
      obtain ⟨result, h₁⟩ := hrun
      exact .mk _ h₁ _
  | clipboardGet =>
      have hrun := hexec clipboardGetCommand
      unfold executeDaemonCommand clipboardGet
      dsimp only
      generalize execCommand _ _ s = r at hrun ⊢
      generalize execCommand _ _ s' = r' at hrun ⊢
      obtain ⟨result, h₁⟩ := hrun
      cases result with
      | error e => exact .mk _ h₁ _
      | ok resp => exact .mk _ h₁ _
  | clipboardSet text =>
      have hrun := hexec (clipboardSetCommand text)
      unfold executeDaemonCommand clipboardSet
      dsimp only
      generalize execCommand _ _ s = r at hrun ⊢
      generalize execCommand _ _ s' = r' at hrun ⊢
      obtain ⟨result, h₁⟩ := hrun
      cases result with
      | error e => exact .mk _ h₁ _
      | ok resp => exact .mk _ h₁ _
  | capture output format quality region display timeoutSecs =>
      have hshot := requestScreenshot_alike lib (screenshotSid env)
        ⟨format, quality, region, display⟩ h
      unfold executeDaemonCommand
      dsimp only
      generalize requestScreenshot _ _ _ s = r at hshot ⊢
      generalize requestScreenshot _ _ _ s' = r' at hshot ⊢
      obtain ⟨result, h₁⟩ := hshot
      rcases result with _ | (e | bytes) <;> exact .mk _ h₁ _
  | _ =>
      unfold executeDaemonCommand
      dsimp only
      split <;> exact .mk _ h _

end Commands

end RustdeskCli.Daemon
