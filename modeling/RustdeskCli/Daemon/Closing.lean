import RustdeskCli.Daemon.Modes
set_option autoImplicit false

/-!
# Daemon: the peer's close request

A peer that wants to end the session sends a `CloseReason` and closes the connection.
The main loop reads the request and ends the daemon.  It is not the only reader of the
stream: the terminal functions and the screenshot loop skip the request, so that the
end of the connection is all they see, and the file transfer turns it into an error
that looks like a lost connection.  Each of them then makes the daemon reconnect.

So the request is final only when the loop itself reads it, and when nothing makes the
daemon reconnect before it does.
-/

namespace RustdeskCli.Daemon

open RustdeskCli.Foundation
open RustdeskCli.Session
open RustdeskCli.Exec
open RustdeskCli.Capture
open RustdeskCli.Transfer

/-! ## Who reads the request -/

/-- The commands whose handler reads the stream. -/
def ReadsStream : SessionCommand → Bool
  | .shell | .exec .. | .push .. | .clipboardGet | .clipboardSet _ | .capture .. => true
  | _ => false

/-- The inbox holds a close request. -/
def Stream.hasClose (s : Stream) : Bool := s.inbox.any Event.isClose

/-- No connection these attempts make carries a close request. -/
def Closeless (attempts : Attempts) : Prop :=
  ∀ n conn, attempts n = .ok conn → ∀ reason, .message (.closeReason reason) ∉ conn.frames

/-- The close request, once it has come, is left to the loop, and nothing makes the daemon
reconnect before the loop has read it: no command that reads the stream is run, on the
old stream or on one connected for the command, the mode is not switched, no frame before
it fails, and no heartbeat does. -/
def LeftToLoop (d : DaemonLoop) : Action → Prop
  | .frameCut _ => d.closeSent = false
  | .peerMessage .. =>
      d.closeSent = true → ∀ e, d.encrypted.inbox.head? ≠ some (.frame (.failed e))
  | .heartbeatTick expired .. =>
      d.closeSent = true → expired = false ∧ ∀ e, d.encrypted.sends.head? ≠ some (some e)
  | .accept req => ∀ cmd, req.line = .ok cmd →
      if ReadsStream cmd then
        d.closeSent = false ∧
          (d.activeConnType ≠ connTypeForCommand cmd → Closeless req.switchMode) ∧
          (cmd ≠ .shell → Closeless req.reconnect)
      else d.closeSent = true → d.activeConnType = .defaultConn
  | _ => True

/-- No reconnect so far came after a close request, and a request that has come is still to
be read. -/
structure CloseKept (d : DaemonLoop) : Prop where
  reconnects : true ∉ d.reconnects
  unread : d.closeSent = true → d.returned = none → d.encrypted.hasClose = true

/-! ## Reconnects -/

theorem reconnectWithRetryBackoffs_ok {α : Type} {connect : Nat → Except Error α} {conn : α} :
    ∀ {backoffs : List Nat} {idx : Nat} {lastError : Option Error},
      reconnectWithRetryBackoffs connect backoffs idx lastError = .ok conn →
      ∃ n, connect n = .ok conn := by
  intro backoffs
  induction backoffs with
  | nil => intro idx lastError h; cases h
  | cons backoff backoffs ih =>
      intro idx lastError h
      unfold reconnectWithRetryBackoffs at h
      split at h
      · rename_i hconn
        exact ⟨_, hconn.trans h⟩
      · exact ih h

theorem reconnectStream_closeless {attempts : Attempts} {session session' : Session}
    {connType : ConnType} {serviceId : Option Text} {s : Stream} (hattempts : Closeless attempts)
    (h : reconnectStream attempts session connType serviceId = (.ok s, session')) :
    s.hasClose = false := by
  unfold reconnectStream at h
  split at h
  · cases h
  · rename_i conn hconn
    split at h
    · cases h
    · rename_i s₁ hinit
      obtain ⟨hs, _⟩ := Prod.mk.inj h
      obtain ⟨_, hinbox, _⟩ := initializeStreamForMode_ok hinit
      obtain ⟨n, hn⟩ := reconnectWithRetryBackoffs_ok hconn
      rw [← Except.ok.inj hs]
      unfold Stream.hasClose
      rw [hinbox]
      simp only [NewConnection.stream, List.any_map, List.any_eq_false]
      intro frame hframe hclose
      cases frame with
      | message m =>
          cases m with
          | closeReason reason => exact hattempts n conn hn reason hframe
          | _ => cases hclose
      | _ => cases hclose

/-- A reconnect before any close request is in order, and a request on the new stream is
still to be read. -/
theorem CloseKept.reconnect {d : DaemonLoop} (hd : CloseKept d) (hnone : d.closeSent = false)
    (attempts : Attempts) (connType : ConnType) :
    CloseKept (d.reconnect attempts connType).2 ∧
      (Closeless attempts → (d.reconnect attempts connType).2.closeSent = false) := by
  have hlog : true ∉ d.reconnects ++ [d.closeSent] := by
    rw [hnone]
    simpa using hd.reconnects
  unfold DaemonLoop.reconnect
  simp only
  split
  · exact ⟨⟨hlog, fun hclose => by rw [hnone] at hclose; cases hclose⟩, fun _ => hnone⟩
  · rename_i s session hs
    exact ⟨⟨hlog, fun hclose _ => hclose⟩, fun hattempts => reconnectStream_closeless hattempts hs⟩

theorem CloseKept.leave {d : DaemonLoop} (hlog : true ∉ d.reconnects) (close : Option Error)
    (result : Except Error Unit) : CloseKept (d.leave close result) :=
  ⟨hlog, fun _ hrunning => by cases hrunning⟩

theorem CloseKept.recover {d : DaemonLoop} (hd : CloseKept d) (hnone : d.closeSent = false)
    (attempts : Attempts) (close : Option Error) : CloseKept (d.recover attempts close) := by
  obtain ⟨hkept, _⟩ := hd.reconnect hnone attempts d.activeConnType
  unfold DaemonLoop.recover
  split <;> rename_i hresult <;> rw [hresult] at hkept
  · exact hkept
  · exact .leave hkept.reconnects close _

/-- Before any close request, what is done to the stream does not matter. -/
theorem CloseKept.ofNone {d d' : DaemonLoop} (hd : CloseKept d) (hnone : d.closeSent = false)
    (hclose : d'.closeSent = d.closeSent) (hlog : d'.reconnects = d.reconnects) : CloseKept d' := by
  refine ⟨hlog ▸ hd.reconnects, ?_⟩
  rw [hclose, hnone]
  intro h
  cases h

/-- What does not read the request keeps it. -/
theorem CloseKept.ofSame {d d' : DaemonLoop} (hd : CloseKept d)
    (hclose : d'.closeSent = d.closeSent) (hlog : d'.reconnects = d.reconnects)
    (hreturned : d'.returned = d.returned)
    (hread : d'.encrypted.hasClose = d.encrypted.hasClose) : CloseKept d' := by
  refine ⟨hlog ▸ hd.reconnects, ?_⟩
  rw [hclose, hreturned, hread]
  exact hd.unread

/-! ## Messages and ticks -/

theorem handlePeerMessage_inbox (s : Stream) (m : PeerMessage) :
    (DaemonLoop.handlePeerMessage s m).2.inbox = s.inbox := by
  unfold DaemonLoop.handlePeerMessage
  split
  · exact s.send_inbox _
  · rfl
  · rfl

/-- A message that lets the loop go on was no close request. -/
theorem handlePeerMessage_true {s s' : Stream} {m : PeerMessage}
    (h : DaemonLoop.handlePeerMessage s m = (true, s')) :
    (Event.frame (.message m)).isClose = false := by
  cases m with
  | closeReason reason => cases h
  | _ => rfl

/-- The loop reads a frame: only a failed one makes it reconnect, and only a close request is
read and gone. -/
theorem CloseKept.readFrame {d : DaemonLoop} {frame : Frame} {inbox : List Event}
    (hd : CloseKept d) (hinbox : d.encrypted.inbox = .frame frame :: inbox)
    (hfailed : d.closeSent = true → ∀ e, frame ≠ .failed e) (attempts : Attempts)
    (close : Option Error) :
    CloseKept ({ d with encrypted := { d.encrypted with inbox := inbox } }.readFrame attempts close
      frame) := by
  -- the daemon without the frame keeps the request, unless the frame is the request
  have hrest : (Event.frame frame).isClose = false →
      CloseKept { d with encrypted := { d.encrypted with inbox := inbox } } := by
    intro hother
    refine hd.ofSame rfl rfl rfl ?_
    unfold Stream.hasClose
    rw [hinbox, List.any_cons, hother, Bool.false_or]
  unfold DaemonLoop.readFrame
  split
  · exact hrest rfl
  · exact hrest rfl
  · rename_i e
    have hnone : d.closeSent = false :=
      Bool.eq_false_iff.mpr fun hclose => hfailed hclose e rfl
    exact (hrest rfl).recover hnone attempts close
  · rename_i m
    have hsame := handlePeerMessage_inbox { d.encrypted with inbox := inbox } m
    split <;> rename_i s hm <;> rw [hm] at hsame
    · refine (hrest (handlePeerMessage_true hm)).ofSame rfl rfl rfl ?_
      unfold Stream.hasClose
      rw [← hsame]
    · refine .leave ?_ close _
      exact hd.reconnects

theorem CloseKept.peerMessage {d d' : DaemonLoop} {attempts : Attempts} {close : Option Error}
    (hd : CloseKept d) (hrunning : d.returned = none)
    (hloop : LeftToLoop d (.peerMessage attempts close))
    (h : d.peerMessage attempts close = some d') : CloseKept d' := by
  unfold DaemonLoop.peerMessage at h
  split at h
  · rename_i frame inbox hinbox
    rw [← Option.some.inj h]
    refine hd.readFrame hinbox ?_ attempts close
    intro hclose e heq
    have hhead := hloop hclose e
    rw [hinbox, heq] at hhead
    exact hhead rfl
  · rename_i event inbox hframe hinbox
    rw [← Option.some.inj h]
    refine hd.ofSame rfl rfl rfl ?_
    unfold Stream.hasClose
    rw [hinbox, List.any_cons]
    cases event with
    | frame frame => exact (hframe frame rfl).elim
    | elapsed timer => rfl
    | line line => rfl
  · rename_i hinbox
    split at h
    · rw [← Option.some.inj h]
      refine hd.recover (Bool.eq_false_iff.mpr fun hclose => ?_) attempts close
      -- a request that has come is in the inbox, and the inbox is empty
      have hunread := hd.unread hclose hrunning
      unfold Stream.hasClose at hunread
      rw [hinbox] at hunread
      cases hunread
    · cases h

theorem CloseKept.heartbeatTick {d : DaemonLoop} {expired : Bool} {attempts : Attempts}
    {close : Option Error} (hd : CloseKept d)
    (hloop : LeftToLoop d (.heartbeatTick expired attempts close)) :
    CloseKept (d.heartbeatTick expired attempts close) := by
  have hsent : CloseKept { d with encrypted := (d.encrypted.send .heartbeat).2 } := by
    refine hd.ofSame rfl rfl rfl ?_
    unfold Stream.hasClose
    rw [Stream.send_inbox]
  unfold DaemonLoop.heartbeatTick
  split <;> rename_i hsend <;> rw [hsend] at hsent
  · refine hsent.recover (Bool.eq_false_iff.mpr fun hclose => ?_) attempts close
    obtain ⟨_, hsends⟩ := hloop hclose
    unfold Stream.send at hsend
    simp only at hsend
    split at hsend
    · rename_i e rest hhead
      exact hsends e (by rw [hhead]; rfl)
    · cases hsend
  · split
    · rename_i hexpired
      refine hsent.recover (Bool.eq_false_iff.mpr fun hclose => ?_) attempts close
      rw [(hloop hclose).1] at hexpired
      cases hexpired
    · exact hsent

/-! ## Requests -/

theorem Stream.merge_any_isClose (wakes : List Stream.Wake) (inbox : List Event) :
    (Stream.merge wakes inbox).any Event.isClose = inbox.any Event.isClose := by
  fun_induction Stream.merge wakes inbox with
  | case1 inbox => rfl
  | case2 wakes ih => exact ih
  | case3 wakes event inbox ih => rw [List.any_cons, List.any_cons, ih]
  | case4 timer wakes inbox ih => exact ih
  | case5 line wakes inbox ih => exact ih

/-- A stream that was waited on and not read is as it was. -/
theorem Stream.settle_schedule_hasClose (s : Stream) (wakes : List Stream.Wake) :
    (s.schedule wakes).settle.hasClose = s.hasClose := by
  have hframe : (fun event => Stream.isFrame event && event.isClose) = Event.isClose := by
    funext event
    cases event with
    | frame frame => exact Bool.true_and _
    | elapsed timer => rfl
    | line line => rfl
  unfold Stream.hasClose Stream.settle Stream.schedule
  rw [List.any_filter, hframe, Stream.merge_any_isClose]

/-- The commands that do not read the stream are dispatched, and leave it alone. -/
theorem executeDaemonCommand_local {ι : Type} (lib : ImageLib ι) (env : CommandEnv) (s : Stream)
    (session : Session) {cmd : SessionCommand} (hlocal : ReadsStream cmd = false) :
    (executeDaemonCommand lib env s session cmd).2.1 = s ∧
      ∀ e, (executeDaemonCommand lib env s session cmd).1 = .error e →
        e = Session.noActiveSession := by
  cases cmd with
  | shell | exec | push | clipboardGet | clipboardSet | capture => cases hlocal
  | _ =>
      unfold executeDaemonCommand
      simp only
      split
      · rename_i hdispatch
        refine ⟨rfl, ?_⟩
        intro e he
        rw [← Except.error.inj he]
        exact Session.dispatch_error hdispatch
      · refine ⟨rfl, ?_⟩
        intro e he
        cases he

theorem shouldReconnect_noActiveSession : shouldReconnect Session.noActiveSession = false := by
  decide

/-- A command that does not read the stream keeps the request, and is not run twice. -/
theorem CloseKept.withRetry_local {ι : Type} {lib : ImageLib ι} {req : Request} {what : Text}
    {cmd : SessionCommand} (hlocal : ReadsStream cmd = false) {d d' : DaemonLoop} {uds uds' : Uds}
    (hd : CloseKept d)
    (h : d.withRetry req what (DaemonLoop.runCommand lib cmd) uds = some (uds', d')) :
    CloseKept d' := by
  obtain ⟨hstream, herror⟩ := executeDaemonCommand_local lib req.first
    (d.encrypted.schedule req.firstWakes) d.session hlocal
  -- the one error such a command can end in does not look like a lost connection
  have hkeeps : ∀ {e : Error} {d₁ : DaemonLoop} {uds₁ : Uds},
      d.runCommand lib cmd req.first req.firstWakes uds = some (.error e, d₁, uds₁) →
        shouldReconnect e = false := by
    intro e d₁ uds₁ hfirst
    rw [herror _ (Prod.mk.inj (Option.some.inj hfirst)).1, shouldReconnect_noActiveSession]
  cases DaemonLoop.withRetry_retried h with
  | once hfirst hanswer =>
      rw [DaemonLoop.runCommand_eq] at hfirst
      obtain ⟨_, hrest⟩ := Prod.mk.inj (Option.some.inj hfirst)
      rw [← (Prod.mk.inj hrest).1]
      refine hd.ofSame rfl rfl rfl ?_
      simp only
      rw [hstream, Stream.settle_schedule_hasClose]
  | gaveUp hfirst hlost hfailed =>
      rw [hkeeps hfirst] at hlost
      cases hlost
  | twice hfirst hlost hconnected hsecond hanswer =>
      rw [hkeeps hfirst] at hlost
      cases hlost

/-- The runs of a handler leave the record of the requests and the reconnects alone. -/
def RunKeepsRecord (run : CommandEnv → List Stream.Wake → DaemonLoop → Uds → Run) : Prop :=
  ∀ env wakes d uds result d' uds', run env wakes d uds = some (result, d', uds') →
    d'.closeSent = d.closeSent ∧ d'.reconnects = d.reconnects

theorem runPush_keepsRecord (localPath remotePath : Text) :
    RunKeepsRecord (DaemonLoop.runPush localPath remotePath) := by
  intro env wakes d uds result d' uds' h
  unfold DaemonLoop.runPush at h
  split at h
  · cases h
  · obtain ⟨_, hrest⟩ := Prod.mk.inj (Option.some.inj h)
    rw [← (Prod.mk.inj hrest).1]
    exact ⟨rfl, rfl⟩

theorem runExec_keepsRecord (command : Text) : RunKeepsRecord (DaemonLoop.runExec command) := by
  intro env wakes d uds result d' uds' h
  obtain ⟨_, hrest⟩ := Prod.mk.inj (Option.some.inj h)
  rw [← (Prod.mk.inj hrest).1]
  exact ⟨rfl, rfl⟩

theorem runCommand_keepsRecord {ι : Type} (lib : ImageLib ι) (cmd : SessionCommand) :
    RunKeepsRecord (DaemonLoop.runCommand lib cmd) := by
  intro env wakes d uds result d' uds' h
  obtain ⟨_, hrest⟩ := Prod.mk.inj (Option.some.inj h)
  rw [← (Prod.mk.inj hrest).1]
  exact ⟨rfl, rfl⟩

/-- Before any close request, and with none on the connection of a second run, a command that
reads the stream does no harm. -/
theorem CloseKept.withRetry {req : Request} {what : Text}
    {run : CommandEnv → List Stream.Wake → DaemonLoop → Uds → Run} (hrun : RunKeepsRecord run)
    {d d' : DaemonLoop} {uds uds' : Uds} (hd : CloseKept d) (hnone : d.closeSent = false)
    (hattempts : Closeless req.reconnect) (h : d.withRetry req what run uds = some (uds', d')) :
    CloseKept d' := by
  cases DaemonLoop.withRetry_retried h with
  | once hfirst hanswer =>
      obtain ⟨hclose, hlog⟩ := hrun _ _ _ _ _ _ _ hfirst
      exact hd.ofNone hnone hclose hlog
  | gaveUp hfirst hlost hfailed =>
      rename_i d₁ d₂ uds₁ message
      obtain ⟨hclose, hlog⟩ := hrun _ _ _ _ _ _ _ hfirst
      obtain ⟨hkept, _⟩ := (hd.ofNone hnone hclose hlog).reconnect (hclose.trans hnone)
        req.reconnect d₁.activeConnType
      rw [hfailed] at hkept
      exact .leave hkept.reconnects _ _
  | twice hfirst hlost hconnected hsecond hanswer =>
      rename_i d₁ d₂ uds₁ uds₂ result final
      obtain ⟨hclose, hlog⟩ := hrun _ _ _ _ _ _ _ hfirst
      obtain ⟨hkept, hnone₂⟩ := (hd.ofNone hnone hclose hlog).reconnect (hclose.trans hnone)
        req.reconnect d₁.activeConnType
      rw [hconnected] at hkept hnone₂
      obtain ⟨hclose₂, hlog₂⟩ := hrun _ _ _ _ _ _ _ hsecond
      exact hkept.ofNone (hnone₂ hattempts) hclose₂ hlog₂

theorem CloseKept.runShell {d : DaemonLoop} (hd : CloseKept d) (hnone : d.closeSent = false)
    (req : Request) (uds : Uds) : CloseKept (d.runShell req uds).2 := by
  have hshell : ∀ s serviceId,
      CloseKept { d with encrypted := s, activeServiceId := serviceId } := fun s serviceId =>
    hd.ofNone hnone rfl rfl
  unfold DaemonLoop.runShell
  simp only
  split
  · exact hshell _ _
  · split
    · apply CloseKept.recover
      · exact hshell _ _
      · exact hnone
    · exact hshell _ _

theorem CloseKept.runGeneric {ι : Type} {lib : ImageLib ι} {req : Request} {cmd : SessionCommand}
    {d d' : DaemonLoop} {uds uds' : Uds}
    (hkept : ∀ uds₁ d₁, d.withRetry req "command".toList (DaemonLoop.runCommand lib cmd) uds =
      some (uds₁, d₁) → CloseKept d₁)
    (h : d.runGeneric lib req cmd uds = some (uds', d')) : CloseKept d' := by
  unfold DaemonLoop.runGeneric at h
  split at h
  · cases h
  · rename_i uds₁ d₁ hrun
    have hd₁ := hkept uds₁ d₁ hrun
    split at h <;> obtain ⟨_, rfl⟩ := Prod.mk.inj (Option.some.inj h)
    · exact .leave hd₁.reconnects _ _
    · exact hd₁

/-- A command on a stream of its mode. -/
theorem CloseKept.runRequest {ι : Type} {lib : ImageLib ι} {req : Request} {cmd : SessionCommand}
    {d d' : DaemonLoop} {uds uds' : Uds} (hd : CloseKept d)
    (hreads : ReadsStream cmd = true →
      d.closeSent = false ∧ (cmd ≠ .shell → Closeless req.reconnect))
    (h : d.runRequest lib req cmd uds = some (uds', d')) : CloseKept d' := by
  cases cmd with
  | shell =>
      have hshell := hd.runShell (hreads rfl).1 req uds
      rw [(Option.some.inj h : d.runShell req uds = (uds', d'))] at hshell
      exact hshell
  | push localPath remotePath =>
      obtain ⟨hnone, hattempts⟩ := hreads rfl
      exact hd.withRetry (runPush_keepsRecord localPath remotePath) hnone (hattempts (by simp)) h
  | exec command timeout =>
      obtain ⟨hnone, hattempts⟩ := hreads rfl
      exact hd.withRetry (runExec_keepsRecord command) hnone (hattempts (by simp)) h
  | clipboardGet | clipboardSet | capture =>
      obtain ⟨hnone, hattempts⟩ := hreads rfl
      exact .runGeneric (fun _ _ => hd.withRetry (runCommand_keepsRecord lib _) hnone
        (hattempts (by simp))) h
  | _ =>
      unfold DaemonLoop.runRequest at h
      refine .runGeneric ?_ h
      intro uds₁ d₁ hrun
      exact hd.withRetry_local rfl hrun

/-- The mode switch, which reconnects unless the mode is active. -/
theorem CloseKept.switchMode {d : DaemonLoop} (hd : CloseKept d) (attempts : Attempts)
    (cmd : SessionCommand)
    (hnone : d.activeConnType ≠ connTypeForCommand cmd → d.closeSent = false) :
    CloseKept (d.switchMode attempts cmd).2 ∧
      (d.closeSent = false → (d.activeConnType ≠ connTypeForCommand cmd → Closeless attempts) →
        (d.switchMode attempts cmd).2.closeSent = false) := by
  unfold DaemonLoop.switchMode
  simp only
  split
  · rename_i hne
    set d₁ := if connTypeForCommand cmd ≠ .terminal then { d with activeServiceId := none } else d
      with hd₁
    have hkept₁ : CloseKept d₁ ∧ d₁.closeSent = d.closeSent := by
      rw [hd₁]
      split
      · exact ⟨hd.ofSame rfl rfl rfl rfl, rfl⟩
      · exact ⟨hd, rfl⟩
    obtain ⟨hkept, hclose⟩ := hkept₁.1.reconnect (hkept₁.2.trans (hnone (Ne.symm hne))) attempts
      (connTypeForCommand cmd)
    split <;> rename_i hresult <;> rw [hresult] at hkept hclose
    · exact ⟨hkept, fun _ hattempts => hclose (hattempts (Ne.symm hne))⟩
    · exact ⟨hkept.ofSame rfl rfl rfl rfl, fun _ hattempts => hclose (hattempts (Ne.symm hne))⟩
  · exact ⟨hd, fun hclose _ => hclose⟩

theorem CloseKept.handleRequest {ι : Type} {lib : ImageLib ι} {req : Request}
    {d d' : DaemonLoop} {uds : Uds} (hd : CloseKept d) (hloop : LeftToLoop d (.accept req))
    (h : d.handleRequest lib req = some (uds, d')) : CloseKept d' := by
  unfold DaemonLoop.handleRequest at h
  simp only at h
  split at h
  · obtain ⟨_, rfl⟩ := Prod.mk.inj (Option.some.inj h)
    exact hd
  · rename_i cmd hline
    have hcmd := hloop cmd hline
    have hswitch : d.activeConnType ≠ connTypeForCommand cmd → d.closeSent = false := by
      intro hne
      split at hcmd
      · exact hcmd.1
      · rename_i hlocal
        refine Bool.eq_false_iff.mpr fun hclose => hne ?_
        rw [hcmd hclose]
        cases cmd <;> first | rfl | exact absurd rfl hlocal
    obtain ⟨hkept, hnone⟩ := hd.switchMode req.switchMode cmd hswitch
    split at h <;> rename_i hresult <;> rw [hresult] at hkept hnone
    · obtain ⟨_, rfl⟩ := Prod.mk.inj (Option.some.inj h)
      exact hkept
    · refine hkept.runRequest ?_ h
      intro hreads
      rw [if_pos hreads] at hcmd
      exact ⟨hnone hcmd.1 hcmd.2.1, hcmd.2.2⟩

/-! ## Runs -/

theorem CloseKept.step {ι : Type} {lib : ImageLib ι} (d : DaemonLoop) (action : Action)
    (d' : DaemonLoop) (hd : CloseKept d) (hloop : LeftToLoop d action)
    (h : loopStep lib d action = some d') : CloseKept d' := by
  unfold loopStep at h
  split at h
  · cases h
  · rename_i hreturned
    have hrunning : d.returned = none := by simpa using hreturned
    split at h
    · rename_i frame
      split at h
      · cases h
      · rw [← Option.some.inj h]
        refine ⟨hd.reconnects, ?_⟩
        intro hclose _
        unfold Stream.hasClose
        simp only [List.any_append, List.any_cons, List.any_nil, Bool.or_false, Bool.or_eq_true]
        exact (Bool.or_eq_true _ _ ▸ hclose).imp_left fun hold => hd.unread hold hrunning
    · split at h
      · cases h
      · rw [← Option.some.inj h]
        exact hd.ofSame rfl rfl rfl rfl
    · rw [← Option.some.inj h]
      exact hd.ofNone hloop rfl rfl
    · exact hd.peerMessage hrunning hloop h
    · rw [← Option.some.inj h]
      exact hd.heartbeatTick hloop
    · obtain ⟨⟨uds, d₁⟩, hrequest, rfl⟩ := Option.map_eq_some_iff.mp h
      exact hd.handleRequest hloop hrequest
    · rw [← Option.some.inj h]
      exact hd
    · rw [← Option.some.inj h]
      exact .leave hd.reconnects _ _
    · rw [← Option.some.inj h]
      exact .leave hd.reconnects _ _

theorem startLoop_closeKept {config : ConnectionConfig} {conn : NewConnection} {d : DaemonLoop}
    (h : startLoop config conn = some d) : CloseKept d := by
  unfold startLoop at h
  split at h
  · cases h
  · rw [← Option.some.inj h]
    exact ⟨by simp, fun hclose _ => hclose⟩

/-- No frame before the first close request fails. -/
def ReadableUntilClose : List Event → Prop
  | [] => True
  | event :: inbox =>
      event.isClose = true ∨ ((∀ e, event ≠ .frame (.failed e)) ∧ ReadableUntilClose inbox)

/-- The loop ends when it reads the request. -/
theorem peerMessage_close {d : DaemonLoop} {event : Event} {inbox : List Event}
    (hinbox : d.encrypted.inbox = event :: inbox) (hclose : event.isClose = true)
    (attempts : Attempts) (close : Option Error) :
    ∃ d', d.peerMessage attempts close = some d' ∧ d'.Ended ∧ d'.reconnects = d.reconnects := by
  unfold DaemonLoop.peerMessage
  rw [hinbox]
  cases event with
  | frame frame =>
      cases frame with
      | message m =>
          cases m with
          | closeReason reason => exact ⟨_, rfl, leave_ended _ _ _, rfl⟩
          | _ => cases hclose
      | _ => cases hclose
  | _ => cases hclose

/-- The loop goes on when it reads anything else that can be read. -/
theorem peerMessage_other {d : DaemonLoop} {event : Event} {inbox : List Event}
    (hinbox : d.encrypted.inbox = event :: inbox) (hother : event.isClose = false)
    (hfailed : ∀ e, event ≠ .frame (.failed e)) (attempts : Attempts) (close : Option Error) :
    ∃ d', d.peerMessage attempts close = some d' ∧ d'.encrypted.inbox = inbox ∧
      d'.returned = d.returned ∧ d'.reconnects = d.reconnects := by
  unfold DaemonLoop.peerMessage
  rw [hinbox]
  cases event with
  | frame frame =>
      cases frame with
      | failed e => exact absurd rfl (hfailed e)
      | message m =>
          cases m with
          | closeReason reason => cases hother
          | testDelay td => exact ⟨_, rfl, Stream.send_inbox _ _, rfl, rfl⟩
          | _ => exact ⟨_, rfl, rfl, rfl, rfl⟩
      | _ => exact ⟨_, rfl, rfl, rfl, rfl⟩
  | _ => exact ⟨_, rfl, rfl, rfl, rfl⟩

theorem loopStep_peerMessage {ι : Type} (lib : ImageLib ι) {d : DaemonLoop}
    (hrunning : d.returned = none) (attempts : Attempts) (close : Option Error) :
    (loopMachine lib).step d (.peerMessage attempts close) = d.peerMessage attempts close := by
  have hnot : ¬ d.returned.isSome = true := by simp [hrunning]
  exact if_neg hnot

/-- A daemon that reads on ends when it comes to the request, without a reconnect. -/
theorem reading_ends {ι : Type} (lib : ImageLib ι) (attempts : Attempts) (close : Option Error) :
    ∀ {inbox : List Event} {d : DaemonLoop}, d.encrypted.inbox = inbox → d.returned = none →
      inbox.any Event.isClose = true → ReadableUntilClose inbox →
      ∃ n d', (loopMachine lib).run d (List.replicate n (.peerMessage attempts close)) = some d' ∧
        d'.Ended ∧ d'.reconnects = d.reconnects := by
  intro inbox
  induction inbox with
  | nil => intro d _ _ hclose; cases hclose
  | cons event inbox ih =>
      intro d hinbox hrunning hany hreadable
      have hstep := loopStep_peerMessage lib hrunning attempts close
      cases hclose : event.isClose with
      | true =>
          obtain ⟨d', hd', hended, hlog⟩ := peerMessage_close hinbox hclose attempts close
          refine ⟨1, d', ?_, hended, hlog⟩
          exact (loopMachine lib).run_cons_of_step (hstep.trans hd') []
      | false =>
          have hrest : inbox.any Event.isClose = true := by
            rwa [List.any_cons, hclose, Bool.false_or] at hany
          obtain ⟨hfailed, hreadable⟩ := hreadable.resolve_left (by simp [hclose])
          obtain ⟨d₁, hd₁, hinbox₁, hreturned, hlog⟩ :=
            peerMessage_other hinbox hclose hfailed attempts close
          obtain ⟨n, d', hrun, hended, hlog'⟩ :=
            ih hinbox₁ (hreturned.trans hrunning) hrest hreadable
          refine ⟨n + 1, d', ?_, hended, hlog'.trans hlog⟩
          rw [List.replicate_succ]
          exact ((loopMachine lib).run_cons_of_step (hstep.trans hd₁) _).trans hrun

/-- Over any run in which the peer's close request is left to the loop, the daemon never
reconnects after it, a request that has come is still to be read while the daemon runs, and
the daemon ends when it reads on. -/
theorem close_request_is_final {ι : Type} (lib : ImageLib ι) (config : ConnectionConfig)
    (conn : NewConnection) (d₀ d : DaemonLoop) (actions : List Action)
    (hstart : startLoop config conn = some d₀)
    (hloop : (loopMachine lib).Meets LeftToLoop d₀ actions)
    (hrun : (loopMachine lib).run d₀ actions = some d) :
    true ∉ d.reconnects ∧
      (d.closeSent = true → d.returned = none →
        d.encrypted.hasClose = true ∧
          (ReadableUntilClose d.encrypted.inbox → ∀ attempts close, ∃ n d',
            (loopMachine lib).run d (List.replicate n (.peerMessage attempts close)) = some d' ∧
              d'.Ended ∧ true ∉ d'.reconnects)) := by
  have hd := (loopMachine lib).invariant_of_meets CloseKept.step (startLoop_closeKept hstart) hloop
    hrun
  refine ⟨hd.reconnects, fun hclose hrunning => ⟨hd.unread hclose hrunning, ?_⟩⟩
  intro hreadable attempts close
  obtain ⟨n, d', hend, hended, hlog⟩ :=
    reading_ends lib attempts close rfl hrunning (hd.unread hclose hrunning) hreadable
  exact ⟨n, d', hend, hended, hlog ▸ hd.reconnects⟩

/-- A request that the loop reads. -/
theorem close_request_is_final_read :
    ∃ d, (loopMachine sampleImages).run sampleDaemon
        [.peerSends (.message (.closeReason "bye".toList)),
          .peerCloses (.msg "unexpected eof".toList)] = some d ∧
      d.closeSent = true ∧
      ∃ n d', (loopMachine sampleImages).run d (List.replicate n
          (.peerMessage (fun _ => .ok (sampleConn [])) none)) = some d' ∧
        d'.Ended ∧ true ∉ d'.reconnects := by
  have hfinal := close_request_is_final sampleImages sampleConfig (sampleConn []) sampleDaemon _
    [.peerSends (.message (.closeReason "bye".toList)),
      .peerCloses (.msg "unexpected eof".toList)] startLoop_sample
    ⟨trivial, trivial, trivial⟩ rfl
  exact ⟨_, rfl, rfl, (hfinal.2 rfl rfl).2 (.inl rfl) _ _⟩

/-- The sample request for a screenshot. -/
def sampleCapture : SessionCommand := .capture "shot.png".toList none none none none none

/-- The peer asks to close and closes the connection; a screenshot is asked for, its loop skips
the request, and the daemon reconnects instead of ending. -/
theorem close_request_skipped_by_capture :
    startLoop sampleConfig (sampleConn []) = some sampleDaemon ∧
      ∃ d, (loopMachine sampleImages).run sampleDaemon
          [.peerSends (.message (.closeReason "bye".toList)),
            .peerCloses (.msg "unexpected eof".toList),
            .accept (sampleRequest (.ok sampleCapture) [] (.ok (sampleConn [])))] = some d ∧
        true ∈ d.reconnects ∧ d.returned = none := by
  have hrun : ∃ d, (loopMachine sampleImages).run sampleDaemon
        [.peerSends (.message (.closeReason "bye".toList)),
          .peerCloses (.msg "unexpected eof".toList),
          .accept (sampleRequest (.ok sampleCapture) [] (.ok (sampleConn [])))] = some d ∧
      d.reconnects = [true] ∧ d.returned = none := ⟨_, rfl, rfl, rfl⟩
  obtain ⟨d, hd, hlog, hrunning⟩ := hrun
  exact ⟨startLoop_sample, d, hd, by simp [hlog], hrunning⟩

end RustdeskCli.Daemon
