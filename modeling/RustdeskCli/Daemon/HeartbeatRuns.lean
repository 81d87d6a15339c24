import RustdeskCli.Daemon.Heartbeats
set_option autoImplicit false

/-!
# Daemon: runs with and without heartbeats (`src/daemon.rs`)

The main loop reads its stream between two commands and skips heartbeats; while a command
runs, the command reads the stream.  A run of the daemon in which the peer sends heartbeats
is compared with the run in which it does not: the loop takes the same turns, except those
that read a heartbeat, and every wait of a command ends in the same way, except those that
a heartbeat ended.  Both end in the same state, but for heartbeats not read yet.

A heartbeat also counts as a sign of life for the keepalive check of a tick, which is what
it is for; the two runs are compared with the same results of these checks.
-/

namespace RustdeskCli.Daemon

open RustdeskCli.Foundation
open RustdeskCli.Session
open RustdeskCli.Terminal
open RustdeskCli.Capture
open RustdeskCli.Transfer
open RustdeskCli.Connection

/-! ## Daemons that differ in heartbeats -/

/-- The second daemon is the first with heartbeats inserted into what is not read yet. -/
inductive DaemonLoop.Padded (d : DaemonLoop) : DaemonLoop → Prop where
  | mk {s : Stream} {retired : List Stream} (current : d.encrypted.Padded s)
      (past : List.Forall₂ Stream.Padded d.retired retired) :
      Padded d { d with encrypted := s, retired := retired }

namespace DaemonLoop

variable {d d' : DaemonLoop}

theorem Padded.refl (d : DaemonLoop) : d.Padded d :=
  .mk (.refl d.encrypted) (List.forall₂_same.mpr fun s _ => .refl s)

/-- Putting such streams in the place of the current ones. -/
theorem Padded.stream (h : d.Padded d') {s s' : Stream} (hs : s.Padded s') :
    Padded { d with encrypted := s } { d' with encrypted := s' } := by
  obtain ⟨_, past⟩ := h
  exact .mk hs past

/-- Changing what is not a stream in the same way. -/
theorem Padded.serviceId (h : d.Padded d') (serviceId : Option Text) :
    Padded { d with activeServiceId := serviceId } { d' with activeServiceId := serviceId } := by
  obtain ⟨current, past⟩ := h
  exact .mk current past

theorem Padded.session (h : d.Padded d') (session : Session) :
    Padded { d with session := session } { d' with session := session } := by
  obtain ⟨current, past⟩ := h
  exact .mk current past

theorem Padded.activeConnType_eq (h : d.Padded d') : d'.activeConnType = d.activeConnType := by
  obtain ⟨_, _⟩ := h
  rfl

theorem Padded.activeServiceId_eq (h : d.Padded d') :
    d'.activeServiceId = d.activeServiceId := by
  obtain ⟨_, _⟩ := h
  rfl

theorem Padded.session_eq (h : d.Padded d') : d'.session = d.session := by
  obtain ⟨_, _⟩ := h
  rfl

theorem Padded.returned_eq (h : d.Padded d') : d'.returned = d.returned := by
  obtain ⟨_, _⟩ := h
  rfl

theorem Padded.current (h : d.Padded d') : d.encrypted.Padded d'.encrypted := by
  obtain ⟨current, _⟩ := h
  exact current

theorem reconnect_padded (h : d.Padded d') (attempts : Attempts) (connType : ConnType) :
    ∃ result d₁ d₁', d.reconnect attempts connType = (result, d₁) ∧
      d'.reconnect attempts connType = (result, d₁') ∧ d₁.Padded d₁' := by
  obtain ⟨current, past⟩ := h
  unfold reconnect
  dsimp only
  rcases reconnectStream attempts d.session connType d.activeServiceId with ⟨e | s, session⟩
  · exact ⟨_, _, _, rfl, rfl, .mk current past⟩
  · refine ⟨_, _, _, rfl, rfl, .mk (.refl s) ?_⟩
    exact List.rel_append past (.cons current .nil)

theorem leave_padded (h : d.Padded d') (close : Option Error) (result : Except Error Unit) :
    (d.leave close result).Padded (d'.leave close result) := by
  obtain ⟨current, past⟩ := h
  have hsend := (send_keepsInbox (.closeReason [])).alike current
  unfold leave
  dsimp only
  generalize d.encrypted.send _ = r at hsend ⊢
  generalize Stream.send _ _ = r' at hsend ⊢
  obtain ⟨_, h₁⟩ := hsend
  exact .mk h₁ past

theorem recover_padded (h : d.Padded d') (attempts : Attempts) (close : Option Error) :
    (d.recover attempts close).Padded (d'.recover attempts close) := by
  obtain ⟨result, d₁, d₁', hl, hl', h₁⟩ := reconnect_padded h attempts d.activeConnType
  unfold recover
  rw [h.activeConnType_eq, hl, hl']
  cases result with
  | ok u => exact h₁
  | error e => exact leave_padded h₁ close _

/-! ## Turns of the loop -/

theorem readFrame_padded (h : d.Padded d') (attempts : Attempts) (close : Option Error)
    (frame : Frame) :
    (d.readFrame attempts close frame).Padded (d'.readFrame attempts close frame) := by
  cases frame with
  | heartbeat => exact h
  | undecodable e => exact h
  | failed e => exact recover_padded h attempts close
  | message m =>
      unfold readFrame
      cases m with
      | testDelay td =>
          have hsend := (send_keepsInbox (.testDelay td.echo)).alike h.current
          unfold handlePeerMessage
          dsimp only
          generalize d.encrypted.send _ = r at hsend ⊢
          generalize d'.encrypted.send _ = r' at hsend ⊢
          obtain ⟨_, h₁⟩ := hsend
          exact h.stream h₁
      | closeReason reason => exact leave_padded (h.stream h.current) close _
      | _ => exact h.stream h.current

theorem heartbeatTick_padded (h : d.Padded d') (expired : Bool) (attempts : Attempts)
    (close : Option Error) :
    (d.heartbeatTick expired attempts close).Padded (d'.heartbeatTick expired attempts close) := by
  have hsend := (send_keepsInbox .heartbeat).alike h.current
  unfold heartbeatTick
  generalize d.encrypted.send _ = r at hsend ⊢
  generalize d'.encrypted.send _ = r' at hsend ⊢
  obtain ⟨result, h₁⟩ := hsend
  cases result with
  | error e => exact recover_padded (h.stream h₁) attempts close
  | ok u =>
      cases expired with
      | true => exact recover_padded (h.stream h₁) attempts close
      | false => exact h.stream h₁

theorem switchMode_padded (h : d.Padded d') (attempts : Attempts) (cmd : SessionCommand) :
    ∃ result d₁ d₁', d.switchMode attempts cmd = (result, d₁) ∧
      d'.switchMode attempts cmd = (result, d₁') ∧ d₁.Padded d₁' := by
  obtain ⟨current, past⟩ := h
  rename_i s retired
  -- the service id is forgotten on both sides or on neither
  have hforget : Padded
      (if connTypeForCommand cmd ≠ .terminal then { d with activeServiceId := none } else d)
      (if connTypeForCommand cmd ≠ .terminal then
        { d with encrypted := s, retired := retired, activeServiceId := none }
      else { d with encrypted := s, retired := retired }) := by
    split <;> exact .mk current past
  unfold switchMode
  dsimp only
  split
  · obtain ⟨result, d₁, d₁', hl, hl', h₁⟩ :=
      reconnect_padded hforget attempts (connTypeForCommand cmd)
    rw [hl, hl']
    cases result with
    | error e => exact ⟨_, _, _, rfl, rfl, h₁⟩
    | ok u =>
        obtain ⟨current₁, past₁⟩ := h₁
        exact ⟨_, _, _, rfl, rfl, .mk current₁ past₁⟩
  · exact ⟨_, _, _, rfl, rfl, .mk current past⟩

end DaemonLoop

/-! ## Commands -/

/-- The waits of a command on a stream with heartbeats: without the wakes that deliver one,
the command meets the same on the stream without. -/
theorem merge_inserted (wakes' : List Stream.Wake) {inbox inbox' : List Event}
    (h : Inserted IsHeartbeat inbox inbox') :
    ∃ wakes, Inserted (· = Stream.Wake.stream) wakes wakes' ∧
      Inserted IsHeartbeat (Stream.merge wakes inbox) (Stream.merge wakes' inbox') := by
  induction wakes' generalizing inbox inbox' with
  | nil => exact ⟨[], .nil, h⟩
  | cons wake wakes' ih =>
      cases wake with
      | stream =>
          cases h with
          | nil =>
              obtain ⟨wakes, hwakes, hmerge⟩ := ih .nil
              exact ⟨.stream :: wakes, .keep _ hwakes, hmerge⟩
          | keep event rest =>
              obtain ⟨wakes, hwakes, hmerge⟩ := ih rest
              exact ⟨.stream :: wakes, .keep _ hwakes, .keep event hmerge⟩
          | insert kind rest =>
              obtain ⟨wakes, hwakes, hmerge⟩ := ih rest
              exact ⟨wakes, .insert rfl hwakes, .insert kind hmerge⟩
      | elapsed timer =>
          obtain ⟨wakes, hwakes, hmerge⟩ := ih h
          exact ⟨.elapsed timer :: wakes, .keep _ hwakes, .keep _ hmerge⟩
      | line line =>
          obtain ⟨wakes, hwakes, hmerge⟩ := ih h
          exact ⟨.line line :: wakes, .keep _ hwakes, .keep _ hmerge⟩

theorem schedule_padded {s s' : Stream} (h : s.Padded s') (wakes' : List Stream.Wake) :
    ∃ wakes, Inserted (· = Stream.Wake.stream) wakes wakes' ∧
      (s.schedule wakes).Padded (s'.schedule wakes') := by
  obtain ⟨h⟩ := h
  obtain ⟨wakes, hwakes, hmerge⟩ := merge_inserted wakes' h
  exact ⟨wakes, hwakes, .mk (s := s.schedule wakes) hmerge⟩

theorem settle_padded {s s' : Stream} (h : s.Padded s') : s.settle.Padded s'.settle := by
  obtain ⟨h⟩ := h
  exact .mk (s := s.settle) (h.filter Stream.isFrame)

/-- Two runs of a handler: the same result and the same lines for the client, and daemons
that differ in heartbeats. -/
inductive RunAlike : Run → Run → Prop where
  | none : RunAlike none none
  | some (result : Except Error SessionResponse) {d d' : DaemonLoop} (padded : d.Padded d')
      (uds : Uds) : RunAlike (some (result, d, uds)) (some (result, d', uds))

/-- The same for a whole request. -/
inductive AnswerAlike : Option (Uds × DaemonLoop) → Option (Uds × DaemonLoop) → Prop where
  | none : AnswerAlike none none
  | some (uds : Uds) {d d' : DaemonLoop} (padded : d.Padded d') :
      AnswerAlike (some (uds, d)) (some (uds, d'))

/-- The request, with other ends of its waits. -/
def Request.withWakes (req : Request) (first retry : List Stream.Wake) : Request :=
  { req with firstWakes := first, retryWakes := retry }

/-- Whatever a handler meets on a stream with heartbeats, it meets the like without. -/
def PassesOver (run : CommandEnv → List Stream.Wake → DaemonLoop → Uds → Run) : Prop :=
  ∀ env wakes' (d d' : DaemonLoop) uds, d.Padded d' →
    ∃ wakes, Inserted (· = Stream.Wake.stream) wakes wakes' ∧
      RunAlike (run env wakes d uds) (run env wakes' d' uds)

namespace DaemonLoop

theorem runPush_passesOver (localPath remotePath : Text) :
    PassesOver (runPush localPath remotePath) := by
  intro env wakes' d d' uds h
  obtain ⟨wakes, hwakes, hs⟩ := schedule_padded h.current wakes'
  refine ⟨wakes, hwakes, ?_⟩
  have hpush := pushFileCommand_alike env localPath remotePath uds hs
  unfold runPush
  generalize pushFileCommand _ _ _ (d.encrypted.schedule wakes) _ = r at hpush ⊢
  generalize pushFileCommand _ _ _ (d'.encrypted.schedule wakes') _ = r' at hpush ⊢
  obtain ⟨result, h₁, uds₁⟩ := hpush
  cases result with
  | none => exact .none
  | some result => exact .some result (h.stream (settle_padded h₁)) uds₁

theorem runExec_passesOver (command : Text) : PassesOver (runExec command) := by
  intro env wakes' d d' uds h
  obtain ⟨wakes, hwakes, hs⟩ := schedule_padded h.current wakes'
  refine ⟨wakes, hwakes, ?_⟩
  have hexec := execStreaming_alike env.exec command uds d.activeServiceId hs
  unfold runExec
  rw [h.activeServiceId_eq]
  generalize execStreaming _ _ (d.encrypted.schedule wakes) _ _ = r at hexec ⊢
  generalize execStreaming _ _ (d'.encrypted.schedule wakes') _ _ = r' at hexec ⊢
  obtain ⟨result, h₁, ⟨uds₁, serviceId⟩⟩ := hexec
  exact .some result ((h.stream (settle_padded h₁)).serviceId serviceId) uds₁

theorem runCommand_passesOver {ι : Type} (lib : ImageLib ι) (cmd : SessionCommand) :
    PassesOver (runCommand lib cmd) := by
  intro env wakes' d d' uds h
  obtain ⟨wakes, hwakes, hs⟩ := schedule_padded h.current wakes'
  refine ⟨wakes, hwakes, ?_⟩
  have hcommand := executeDaemonCommand_alike lib env d.session cmd hs
  unfold runCommand
  rw [h.session_eq]
  generalize executeDaemonCommand _ _ (d.encrypted.schedule wakes) _ _ = r at hcommand ⊢
  generalize executeDaemonCommand _ _ (d'.encrypted.schedule wakes') _ _ = r' at hcommand ⊢
  obtain ⟨result, h₁, session⟩ := hcommand
  exact .some result ((h.stream (settle_padded h₁)).session session) uds

/-- Running a command, and once more after a lost connection. -/
theorem withRetry_alike {run : CommandEnv → List Stream.Wake → DaemonLoop → Uds → Run}
    (hrun : PassesOver run) (req : Request) (what : Text) {d d' : DaemonLoop} (uds : Uds)
    (h : d.Padded d') :
    ∃ first retry, Inserted (· = Stream.Wake.stream) first req.firstWakes ∧
      Inserted (· = Stream.Wake.stream) retry req.retryWakes ∧
      AnswerAlike (withRetry (req.withWakes first retry) what run d uds)
        (withRetry req what run d' uds) := by
  obtain ⟨first, hfirst, halike⟩ := hrun req.first req.firstWakes d d' uds h
  have hsame := Inserted.refl (· = Stream.Wake.stream) req.retryWakes
  suffices hretry : ∃ retry, Inserted (· = Stream.Wake.stream) retry req.retryWakes ∧
      AnswerAlike (withRetry (req.withWakes first retry) what run d uds)
        (withRetry req what run d' uds) by
    obtain ⟨retry, hretry⟩ := hretry
    exact ⟨first, retry, hfirst, hretry⟩
  unfold withRetry Request.withWakes
  dsimp only
  generalize run req.first first d uds = r at halike ⊢
  generalize run req.first req.firstWakes d' uds = r' at halike ⊢
  rcases halike with _ | ⟨result, h₁, uds₁⟩
  · exact ⟨_, hsame, .none⟩
  · rcases result with e | resp
    · dsimp only
      split
      · rename_i d₁ d₁' _
        obtain ⟨reconnected, d₂, d₂', hl, hl', h₂⟩ :=
          reconnect_padded h₁ req.reconnect d₁.activeConnType
        rw [h₁.activeConnType_eq, hl, hl']
        cases reconnected with
        | error re => exact ⟨_, hsame, .some _ (leave_padded h₂ req.close _)⟩
        | ok u =>
            dsimp only
            obtain ⟨retry, hretry, hagain⟩ := hrun req.retry req.retryWakes d₂ d₂' uds₁ h₂
            refine ⟨retry, hretry, ?_⟩
            generalize run req.retry retry d₂ uds₁ = r at hagain ⊢
            generalize run req.retry req.retryWakes d₂' uds₁ = r' at hagain ⊢
            rcases hagain with _ | ⟨result₂, h₃, uds₂⟩
            · exact .none
            · cases result₂ with
              | error re => exact .some _ h₃
              | ok resp => exact .some _ h₃
      · exact ⟨_, hsame, .some _ h₁⟩
    · exact ⟨_, hsame, .some _ h₁⟩

theorem runShell_alike (req : Request) {d d' : DaemonLoop} (uds : Uds) (h : d.Padded d') :
    ∃ first, Inserted (· = Stream.Wake.stream) first req.firstWakes ∧
      AnswerAlike (some (runShell (req.withWakes first req.retryWakes) d uds))
        (some (runShell req d' uds)) := by
  obtain ⟨wakes, hwakes, hs⟩ := schedule_padded h.current req.firstWakes
  refine ⟨wakes, hwakes, ?_⟩
  have hshell := shellSession_alike req.first.exec.zstd uds d.activeServiceId hs
  unfold runShell Request.withWakes
  dsimp only
  rw [h.activeServiceId_eq]
  generalize shellSession _ (d.encrypted.schedule wakes) _ _ = r at hshell ⊢
  generalize shellSession _ (d'.encrypted.schedule req.firstWakes) _ _ = r' at hshell ⊢
  obtain ⟨result, h₁, ⟨uds₁, serviceId⟩⟩ := hshell
  have hd := (h.stream (settle_padded h₁)).serviceId serviceId
  cases result with
  | ok u => exact .some _ hd
  | error e =>
      dsimp only
      split
      · exact .some _ (recover_padded hd req.reconnect req.close)
      · exact .some _ hd

theorem runGeneric_alike {ι : Type} (lib : ImageLib ι) (req : Request) (cmd : SessionCommand)
    {d d' : DaemonLoop} (uds : Uds) (h : d.Padded d') :
    ∃ first retry, Inserted (· = Stream.Wake.stream) first req.firstWakes ∧
      Inserted (· = Stream.Wake.stream) retry req.retryWakes ∧
      AnswerAlike (runGeneric lib (req.withWakes first retry) cmd d uds)
        (runGeneric lib req cmd d' uds) := by
  obtain ⟨first, retry, hfirst, hretry, halike⟩ :=
    withRetry_alike (runCommand_passesOver lib cmd) req "command".toList uds h
  refine ⟨first, retry, hfirst, hretry, ?_⟩
  unfold runGeneric
  generalize withRetry (req.withWakes first retry) _ _ _ _ = r at halike ⊢
  generalize withRetry req _ _ _ _ = r' at halike ⊢
  rcases halike with _ | ⟨uds₁, h₁⟩
  · exact .none
  · dsimp only
    rw [h₁.returned_eq]
    split
    · exact .some _ (leave_padded h₁ req.close _)
    · exact .some _ h₁

theorem runRequest_alike {ι : Type} (lib : ImageLib ι) (req : Request) (cmd : SessionCommand)
    {d d' : DaemonLoop} (uds : Uds) (h : d.Padded d') :
    ∃ first retry, Inserted (· = Stream.Wake.stream) first req.firstWakes ∧
      Inserted (· = Stream.Wake.stream) retry req.retryWakes ∧
      AnswerAlike (runRequest lib (req.withWakes first retry) cmd d uds)
        (runRequest lib req cmd d' uds) := by
  cases cmd with
  | shell =>
      obtain ⟨first, hfirst, halike⟩ := runShell_alike req uds h
      exact ⟨first, req.retryWakes, hfirst, .refl _ _, halike⟩
  | push localPath remotePath =>
      exact withRetry_alike (runPush_passesOver localPath remotePath) req _ uds h
  | exec command timeout => exact withRetry_alike (runExec_passesOver command) req _ uds h
  | _ =>
      unfold runRequest
      exact runGeneric_alike lib req _ uds h

theorem handleRequest_alike {ι : Type} (lib : ImageLib ι) (req : Request) {d d' : DaemonLoop}
    (h : d.Padded d') :
    ∃ first retry, Inserted (· = Stream.Wake.stream) first req.firstWakes ∧
      Inserted (· = Stream.Wake.stream) retry req.retryWakes ∧
      AnswerAlike (d.handleRequest lib (req.withWakes first retry)) (d'.handleRequest lib req) := by
  have hline : ∀ first retry, (req.withWakes first retry).line = req.line := fun _ _ => rfl
  have hmode : ∀ first retry, (req.withWakes first retry).switchMode = req.switchMode :=
    fun _ _ => rfl
  have hwrites : ∀ first retry, (req.withWakes first retry).writes = req.writes := fun _ _ => rfl
  unfold handleRequest
  simp only [hline, hmode, hwrites]
  cases req.line with
  | error e => exact ⟨_, _, .refl _ _, .refl _ _, .some _ h⟩
  | ok cmd =>
      dsimp only
      obtain ⟨result, d₁, d₁', hl, hl', h₁⟩ := switchMode_padded h req.switchMode cmd
      rw [hl, hl']
      cases result with
      | error e => exact ⟨_, _, .refl _ _, .refl _ _, .some _ h₁⟩
      | ok u => exact runRequest_alike lib req cmd _ h₁

/-! ## The loop -/

/-- A turn in which the peer sends a heartbeat, or in which the loop reads one. -/
def HeartbeatTurn (d : DaemonLoop) : Action → Prop
  | .peerSends frame => frame = .heartbeat
  | .peerMessage _ _ => d.encrypted.inbox.head? = some (.frame .heartbeat)
  | _ => False

/-- The same turn; the waits of a request that a heartbeat ended may be missing. -/
inductive SameTurn : Action → Action → Prop where
  | same (action : Action) : SameTurn action action
  | accept {req : Request} {first retry : List Stream.Wake}
      (firstWakes : Inserted (· = Stream.Wake.stream) first req.firstWakes)
      (retryWakes : Inserted (· = Stream.Wake.stream) retry req.retryWakes) :
      SameTurn (.accept (req.withWakes first retry)) (.accept req)

/-- The loop reads its stream: a heartbeat and nothing else, or what it would read without
heartbeats. -/
theorem peerMessage_padded {d d' e' : DaemonLoop} (h : d.Padded d') (attempts : Attempts)
    (close : Option Error) (hstep : d'.peerMessage attempts close = some e') :
    (d'.encrypted.inbox.head? = some (.frame .heartbeat) ∧ d.Padded e') ∨
      ∃ e, d.peerMessage attempts close = some e ∧ e.Padded e' := by
  have hcurrent := h.current
  unfold peerMessage at hstep ⊢
  generalize hold : d.encrypted = s at hcurrent ⊢
  generalize d'.encrypted = s' at hcurrent hstep ⊢
  obtain ⟨hinbox⟩ := hcurrent
  dsimp only at hstep ⊢
  generalize hunread : s.inbox = l at hinbox ⊢
  cases hinbox with
  | nil =>
      dsimp only at hstep ⊢
      split at hstep
      · obtain rfl := Option.some.inj hstep
        exact .inr ⟨_, rfl, recover_padded h attempts close⟩
      · cases hstep
  | @keep event l l' rest =>
      have hpadded : ∀ inbox inbox', Inserted IsHeartbeat inbox inbox' →
          Padded { d with encrypted := { s with inbox := inbox } }
            { d' with encrypted := { s with inbox := inbox' } } := by
        intro inbox inbox' hins
        exact h.stream (.mk (s := { s with inbox := inbox }) hins)
      right
      cases event with
      | frame frame =>
          obtain rfl := Option.some.inj hstep
          exact ⟨_, rfl, readFrame_padded (hpadded l l' rest) attempts close frame⟩
      | elapsed timer =>
          obtain rfl := Option.some.inj hstep
          exact ⟨_, rfl, hpadded l l' rest⟩
      | line line =>
          obtain rfl := Option.some.inj hstep
          exact ⟨_, rfl, hpadded l l' rest⟩
  | insert kind rest =>
      cases kind
      obtain rfl := Option.some.inj hstep
      subst hold
      exact .inl ⟨rfl, h.stream (.mk (hunread.symm ▸ rest))⟩

/-- The peer sends a frame: a heartbeat, which the other daemon does not get, or the same
frame to both. -/
theorem peerSends_padded {ι : Type} (lib : ImageLib ι) {d d' e' : DaemonLoop} {frame : Frame}
    (h : d.Padded d') (hstep : loopStep lib d' (.peerSends frame) = some e') :
    (frame = .heartbeat ∧ d.Padded e') ∨
      ∃ e, loopStep lib d (.peerSends frame) = some e ∧ e.Padded e' := by
  obtain ⟨⟨hinbox⟩, past⟩ := h
  unfold loopStep at hstep
  split at hstep
  · cases hstep
  · rename_i hrunning
    dsimp only at hstep hrunning
    split at hstep
    · cases hstep
    · rename_i hopen
      obtain rfl := Option.some.inj hstep
      by_cases hbeat : frame = .heartbeat
      · subst hbeat
        have hclose : (d.closeSent || (Event.frame .heartbeat).isClose) = d.closeSent :=
          Bool.or_false d.closeSent
        have hbeat : IsHeartbeat (.frame .heartbeat) := rfl
        have hmore := hinbox.append (.insert hbeat .nil)
        rw [List.append_nil] at hmore
        refine .inl ⟨rfl, ?_⟩
        rw [hclose]
        exact .mk (.mk hmore) past
      · have hmore := hinbox.append (.refl IsHeartbeat [.frame frame])
        refine .inr ⟨{ d with
          encrypted := { d.encrypted with inbox := d.encrypted.inbox ++ [.frame frame] }
          closeSent := d.closeSent || (Event.frame frame).isClose }, ?_, ?_⟩
        · unfold loopStep
          rw [if_neg hrunning]
          dsimp only
          rw [if_neg hopen]
        · refine .mk (.mk ?_) past
          exact hmore

theorem loopStep_running {ι : Type} {lib : ImageLib ι} {d d' : DaemonLoop} {action : Action}
    (h : loopStep lib d action = some d') : ¬d.returned.isSome = true := by
  intro hreturned
  unfold loopStep at h
  rw [if_pos hreturned] at h
  cases h

/-- A turn that every running daemon can take, and that keeps two daemons alike. -/
theorem turn_padded {ι : Type} {lib : ImageLib ι} {d d' e' : DaemonLoop} {action : Action}
    {turn : DaemonLoop → DaemonLoop} (h : d.Padded d') (hstep : loopStep lib d' action = some e')
    (hturn : ∀ d : DaemonLoop, ¬d.returned.isSome = true → loopStep lib d action = some (turn d))
    (hpadded : (turn d).Padded (turn d')) :
    ∃ e, loopStep lib d action = some e ∧ e.Padded e' := by
  have hrunning := loopStep_running hstep
  rw [hturn d' hrunning] at hstep
  obtain rfl := Option.some.inj hstep
  exact ⟨turn d, hturn d (h.returned_eq ▸ hrunning), hpadded⟩

theorem peerCloses_padded {ι : Type} {lib : ImageLib ι} {d d' e' : DaemonLoop} {e : Error}
    (h : d.Padded d') (hstep : loopStep lib d' (.peerCloses e) = some e') :
    ∃ t, loopStep lib d (.peerCloses e) = some t ∧ t.Padded e' := by
  have hrunning := loopStep_running hstep
  have hrunning' : ¬d.returned.isSome = true := h.returned_eq ▸ hrunning
  have hlost := h.current.lost
  unfold loopStep at hstep ⊢
  rw [if_neg hrunning] at hstep
  rw [if_neg hrunning']
  dsimp only at hstep ⊢
  rw [hlost] at hstep
  split at hstep
  · cases hstep
  · rename_i hopen
    obtain rfl := Option.some.inj hstep
    rw [if_neg hopen]
    exact ⟨_, rfl, h.stream (h.current.closed e)⟩

/-- What one turn on a stream with heartbeats is without them: nothing, or the same turn. -/
theorem loopStep_padded {ι : Type} (lib : ImageLib ι) {d d' e' : DaemonLoop} (action : Action)
    (h : d.Padded d') (hstep : loopStep lib d' action = some e') :
    (d'.HeartbeatTurn action ∧ d.Padded e') ∨
      ∃ same e, SameTurn same action ∧ loopStep lib d same = some e ∧ e.Padded e' := by
  have hrunning := loopStep_running hstep
  have hrunning' : ¬d.returned.isSome = true := h.returned_eq ▸ hrunning
  -- the turns that both daemons take
  have hsame : (∃ e, loopStep lib d action = some e ∧ e.Padded e') →
      (d'.HeartbeatTurn action ∧ d.Padded e') ∨
        ∃ same e, SameTurn same action ∧ loopStep lib d same = some e ∧ e.Padded e' := by
    rintro ⟨e, he, hpadded⟩
    exact .inr ⟨action, e, .same action, he, hpadded⟩
  cases action with
  | peerSends frame =>
      rcases peerSends_padded lib h hstep with ⟨rfl, hpadded⟩ | hboth
      · exact .inl ⟨rfl, hpadded⟩
      · exact hsame hboth
  | peerCloses e => exact hsame (peerCloses_padded h hstep)
  | frameCut frames =>
      apply hsame
      apply turn_padded h hstep (fun d hd => by unfold loopStep; rw [if_neg hd])
      exact h.stream (h.current.replaced _)
  | peerMessage attempts close =>
      unfold loopStep at hstep
      rw [if_neg hrunning] at hstep
      rcases peerMessage_padded h attempts close hstep with ⟨hbeat, hpadded⟩ | ⟨e, he, hpadded⟩
      · exact .inl ⟨hbeat, hpadded⟩
      · refine hsame ⟨e, ?_, hpadded⟩
        unfold loopStep
        rw [if_neg hrunning']
        exact he
  | heartbeatTick expired attempts close =>
      apply hsame
      apply turn_padded h hstep (fun d hd => by unfold loopStep; rw [if_neg hd])
      exact heartbeatTick_padded h expired attempts close
  | accept req =>
      unfold loopStep at hstep
      rw [if_neg hrunning] at hstep
      obtain ⟨first, retry, hfirst, hretry, halike⟩ := handleRequest_alike lib req h
      dsimp only at hstep
      generalize hl : d.handleRequest lib (req.withWakes first retry) = r at halike
      generalize d'.handleRequest lib req = r' at halike hstep
      rcases halike with _ | ⟨uds, hpadded⟩
      · cases hstep
      · obtain rfl := Option.some.inj hstep
        refine .inr ⟨_, _, .accept hfirst hretry, ?_, hpadded⟩
        unfold loopStep
        rw [if_neg hrunning']
        dsimp only
        rw [hl]
        rfl
  | acceptError =>
      apply hsame
      apply turn_padded h hstep (fun d hd => by unfold loopStep; rw [if_neg hd])
      exact h
  | idleTimeout close =>
      apply hsame
      apply turn_padded h hstep (fun d hd => by unfold loopStep; rw [if_neg hd])
      exact leave_padded h close _
  | signal close =>
      apply hsame
      apply turn_padded h hstep (fun d hd => by unfold loopStep; rw [if_neg hd])
      exact leave_padded h close _

/-- What has been sent on the streams of the daemon, one after another. -/
def allSent (d : DaemonLoop) : List (List Outgoing) :=
  d.retired.map Stream.sent ++ [d.encrypted.sent]

theorem Padded.allSent_eq {d d' : DaemonLoop} (h : d.Padded d') : d'.allSent = d.allSent := by
  obtain ⟨current, past⟩ := h
  have hpast : ∀ {old new : List Stream}, List.Forall₂ Stream.Padded old new →
      new.map Stream.sent = old.map Stream.sent := by
    intro old new hforall
    induction hforall with
    | nil => rfl
    | cons hs _ ih => rw [List.map_cons, List.map_cons, ih, hs.sent]
  unfold allSent
  rw [hpast past, current.sent]

/-- A run with heartbeats has a run without beside it, which returns the same and sends the
same. -/
theorem run_padded {ι : Type} (lib : ImageLib ι) {d d' e' : DaemonLoop} {actions' : List Action}
    (h : d.Padded d') (hrun : (loopMachine lib).run d' actions' = some e') :
    ∃ actions e, (loopMachine lib).Erases HeartbeatTurn SameTurn d' actions actions' ∧
      (loopMachine lib).run d actions = some e ∧ e'.returned = e.returned ∧
      e'.allSent = e.allSent := by
  have hstep : ∀ (s s' : DaemonLoop) (a' : Action) (t' : DaemonLoop), s.Padded s' →
      (loopMachine lib).step s' a' = some t' →
      (s'.HeartbeatTurn a' ∧ s.Padded t') ∨
        ∃ a t, SameTurn a a' ∧ (loopMachine lib).step s a = some t ∧ t.Padded t' :=
    fun _ _ action _ hpadded hstep => loopStep_padded lib action hpadded hstep
  obtain ⟨actions, e, herased, he, hpadded⟩ := (loopMachine lib).run_erased hstep h hrun
  exact ⟨actions, e, herased, he, hpadded.returned_eq, hpadded.allSent_eq⟩

end DaemonLoop

/-! ## All receive loops -/

/-- Two results of a receive loop: the same value, and the same messages sent. -/
def SameOutcome {α : Type} (r r' : α × Stream) : Prop := r'.1 = r.1 ∧ r'.2.sent = r.2.sent

theorem Alike.sameOutcome {α : Type} {r r' : α × Stream} (h : Alike r r') : SameOutcome r r' := by
  obtain ⟨a, padded⟩ := h
  exact ⟨rfl, padded.sent⟩

/-- When inserted heartbeats change nothing: for the handshake and the rendezvous exchange,
exactly when they are not read; for the terminal, the screenshot, the file transfer and the
main loop, always. -/
theorem heartbeats_unnoticed_iff {ι : Type} (lib : ImageLib ι)
    (handshake : HandshakeEnv) (signedId : PeerWait) {waits waits' : List PeerWait}
    (hwaits : Inserted (· = PeerWait.heartbeat) waits waits')
    (rendezvous : PunchEnv) (seconds : Text) {st : PunchState} (hst : st.encrypted = true)
    {punchWaits punchWaits' : List PunchWait}
    (hpunch : Inserted (· = PunchWait.heartbeat) punchWaits punchWaits')
    (secs sid : Text) (options : CaptureOptions) (timed : Bool) (jobId : Int) {s s' : Stream}
    (hs : s.Padded s') {d d' e' : DaemonLoop} {actions' : List Action} (hd : d.Padded d')
    (hrun : (loopMachine lib).run d' actions' = some e') :
    (handshake.handshakeAndAuth signedId waits' = handshake.handshakeAndAuth signedId waits ↔
        (handshake.Secured signedId → handshake.Undisturbed waits waits')) ∧
    ((punchLoop rendezvous seconds punchWaits' st).1 =
        (punchLoop rendezvous seconds punchWaits st).1 ↔
      punchWaits'.find? (fun wait => !wait.goesOn) =
        punchWaits.find? (fun wait => !wait.goesOn)) ∧
    s'.recvTerminalResponse secs = s.recvTerminalResponse secs ∧
    SameOutcome (requestScreenshot lib sid options s) (requestScreenshot lib sid options s') ∧
    SameOutcome (recvFileEvent timed jobId s) (recvFileEvent timed jobId s') ∧
    ∃ actions e,
      (loopMachine lib).Erases DaemonLoop.HeartbeatTurn DaemonLoop.SameTurn d' actions actions' ∧
      (loopMachine lib).run d actions = some e ∧ e'.returned = e.returned ∧
      e'.allSent = e.allSent := by
  refine ⟨?_, ?_, ?_, ?_, ?_, ?_⟩
  · exact handshake.handshakeAndAuth_inserted_iff signedId hwaits
  · exact punchLoop_inserted_iff rendezvous seconds hst hpunch
  · unfold Stream.recvTerminalResponse
    rw [hs.arrivals]
  · exact (requestScreenshot_alike lib sid options hs).sameOutcome
  · exact (recvFileEventSkipping_alike (fun _ => false) timed jobId hs).sameOutcome
  · exact DaemonLoop.run_padded lib hd hrun

/-- A rendezvous server that can be reached. -/
def sampleRendezvous : PunchEnv :=
  ⟨.ok 5000, .ok (), .ok (), [], fun _ => .ok (), .ok ()⟩

/-- A heartbeat after the messages that are waited for, one in an inbox, and one that the main
loop reads. -/
theorem heartbeats_unnoticed_sample :
    sampleHandshake.handshakeAndAuth sampleSignedId (samplePeer ++ [.heartbeat]) =
        sampleHandshake.handshakeAndAuth sampleSignedId samplePeer ∧
    (punchLoop sampleRendezvous "6".toList [.message (.relayResponse ⟨[], [], []⟩), .heartbeat]
        ⟨none, true, true⟩).1 =
      (punchLoop sampleRendezvous "6".toList [.message (.relayResponse ⟨[], [], []⟩)]
        ⟨none, true, true⟩).1 ∧
    { sampleDaemon.encrypted with inbox := [.frame .heartbeat] }.recvTerminalResponse "15".toList =
      sampleDaemon.encrypted.recvTerminalResponse "15".toList ∧
    ∃ actions e,
      (loopMachine sampleImages).Erases DaemonLoop.HeartbeatTurn DaemonLoop.SameTurn sampleDaemon
        actions [.peerSends .heartbeat, .peerMessage (fun _ => .ok (sampleConn [])) none] ∧
      (loopMachine sampleImages).run sampleDaemon actions = some e ∧
      sampleDaemon.returned = e.returned ∧ sampleDaemon.allSent = e.allSent := by
  have hwaits : Inserted (· = PeerWait.heartbeat) samplePeer (samplePeer ++ [.heartbeat]) :=
    .keep _ (.keep _ (.insert rfl .nil))
  have hpunch : Inserted (· = PunchWait.heartbeat) [.message (.relayResponse ⟨[], [], []⟩)]
      [.message (.relayResponse ⟨[], [], []⟩), .heartbeat] := .keep _ (.insert rfl .nil)
  have hencrypted : PunchState.encrypted ⟨none, true, true⟩ = true := rfl
  have hs : sampleDaemon.encrypted.Padded
      { sampleDaemon.encrypted with inbox := [.frame .heartbeat] } := .mk (.insert rfl .nil)
  have hrun : (loopMachine sampleImages).run sampleDaemon
      [.peerSends .heartbeat, .peerMessage (fun _ => .ok (sampleConn [])) none] =
      some sampleDaemon := rfl
  obtain ⟨hhandshake, hrendezvous, hterminal, -, -, hloop⟩ :=
    heartbeats_unnoticed_iff sampleImages sampleHandshake sampleSignedId hwaits sampleRendezvous
      "6".toList hencrypted hpunch "15".toList [] ⟨none, none, none, none⟩ true 1 hs
      (.refl sampleDaemon) hrun
  exact ⟨hhandshake.mpr fun _ => ⟨rfl, fun _ _ => rfl⟩, hrendezvous.mpr rfl, hterminal, hloop⟩

/-- One heartbeat before the `Hash`, and the login fails. -/
theorem heartbeat_before_hash_noticed :
    ¬∀ (env : HandshakeEnv) (signedId : PeerWait) (waits waits' : List PeerWait),
      Inserted (· = PeerWait.heartbeat) waits waits' →
        env.handshakeAndAuth signedId waits' = env.handshakeAndAuth signedId waits := by
  intro hall
  have hsame := hall sampleHandshake sampleSignedId samplePeer (.heartbeat :: samplePeer)
    (.insert rfl (.refl _ samplePeer))
  obtain ⟨sent, hrest⟩ := sampleHandshake.handshakeAndAuth_of_secured sampleSignedId_secured
  have hfirst : (PeerWait.heartbeat :: samplePeer).head? = some .heartbeat := rfl
  rw [hrest (.heartbeat :: samplePeer), sampleHandshake.authenticate_heartbeat hfirst] at hsame
  cases (congrArg Prod.fst hsame).trans samplePeer_accepts

end RustdeskCli.Daemon
