import Mathlib.Logic.Relation
import RustdeskCli.Daemon.Answers
set_option autoImplicit false

/-!
# Daemon: connection modes

The daemon keeps one stream and logs it in anew whenever a command needs another
connection type.  Everything the loop does to its stream is one of two moves: it works
on the stream, or it puts a freshly logged in one in its place.  What the loop keeps
true of its modes is read off the two moves.

Not every handler runs on a stream of its kind: the type is chosen from the command,
and the clipboard commands act on a terminal while their type says that they do not.
-/

namespace RustdeskCli.Daemon

open RustdeskCli.Foundation
open RustdeskCli.Session
open RustdeskCli.Terminal
open RustdeskCli.Exec
open RustdeskCli.Capture
open RustdeskCli.Transfer

/-! ## Initialisation -/

/-- The message belongs to the initialisation of a stream. -/
def IsInit : Outgoing → Prop
  | .option _ | .captureDisplays _ | .refreshVideo _ => True
  | _ => False

/-- What `initialize_stream_for_mode` sends. -/
def initMessages : ConnType → List Outgoing
  | .defaultConn => [.option buildOptionMessage, .captureDisplays [0], .refreshVideo true]
  | _ => []

theorem sendOptionMessage_ok {s s' : Stream} (h : sendOptionMessage s = (.ok (), s')) :
    s' = (s.send (.option buildOptionMessage)).2 := by
  unfold sendOptionMessage at h
  split at h
  · cases h
  · rename_i hsend
    rw [hsend]
    exact (Prod.mk.inj h).2.symm

theorem sendSessionInit_ok {s s' : Stream} (h : sendSessionInit s = (.ok (), s')) :
    s' = ((s.send (.captureDisplays [0])).2.send (.refreshVideo true)).2 := by
  unfold sendSessionInit at h
  split at h
  · cases h
  · rename_i hcapture
    rw [hcapture]
    split at h
    · cases h
    · rename_i hrefresh
      rw [hrefresh]
      exact (Prod.mk.inj h).2.symm

/-- An initialised stream has sent the messages of its mode and is otherwise as it was. -/
theorem initializeStreamForMode_ok {s s' : Stream} {connType : ConnType}
    (h : initializeStreamForMode s connType = (.ok (), s')) :
    s'.login = s.login ∧ s'.inbox = s.inbox ∧ s'.sent = s.sent ++ initMessages connType := by
  unfold initializeStreamForMode at h
  split at h
  · rename_i hmode
    rw [hmode]
    split at h
    · cases h
    · rename_i s₁ hoption
      rw [sendSessionInit_ok h, sendOptionMessage_ok hoption]
      simp [initMessages]
  · rename_i hmode
    rw [← (Prod.mk.inj h).2]
    cases connType with
    | defaultConn => exact absurd rfl hmode
    | fileTransfer => simp [initMessages]
    | terminal => simp [initMessages]

/-- A reconnect gives a stream logged in for its mode, initialised, and nothing more. -/
theorem reconnectStream_ok {attempts : Attempts} {session session' : Session} {connType : ConnType}
    {serviceId : Option Text} {s : Stream}
    (h : reconnectStream attempts session connType serviceId = (.ok s, session')) :
    s.login = loginFor connType serviceId ∧ s.sent = initMessages connType := by
  unfold reconnectStream at h
  split at h
  · cases h
  · rename_i conn _
    split at h
    · cases h
    · rename_i s₁ hinit
      obtain ⟨hs, _⟩ := Prod.mk.inj h
      obtain ⟨hlogin, _, hsent⟩ := initializeStreamForMode_ok hinit
      rw [← Except.ok.inj hs]
      exact ⟨hlogin, hsent⟩

/-! ## Moves -/

/-- One of the two things the loop does to its stream.  `K` says which messages it may
send in a mode. -/
inductive Move (K : ConnType → Outgoing → Prop) (d d' : DaemonLoop) : Prop where
  /-- it sends on the stream -/
  | work (mode : d'.activeConnType = d.activeConnType)
      (login : d'.encrypted.login = d.encrypted.login)
      (sent : Grows (K d.activeConnType) d.encrypted.sent d'.encrypted.sent)
      (service : d'.activeServiceId.isSome →
        d.activeServiceId.isSome ∨ d.activeConnType = .terminal)
      (retired : d'.retired = d.retired)
  /-- it replaces the stream -/
  | connect (serviceId : Option Text)
      (login : d'.encrypted.login = loginFor d'.activeConnType serviceId)
      (sent : d'.encrypted.sent = initMessages d'.activeConnType)
      (service : d'.activeServiceId.isSome → d'.activeConnType = .terminal ∨
        (d.activeServiceId.isSome ∧ d'.activeConnType = d.activeConnType))
      (retired : d'.retired = d.retired ++ [d.encrypted])

/-- Moves one after another. -/
abbrev Moves (K : ConnType → Outgoing → Prop) : DaemonLoop → DaemonLoop → Prop :=
  Relation.ReflTransGen (Move K)

/-- What is true of both moves is true of all moves. -/
theorem Moves.invariant {K : ConnType → Outgoing → Prop} {Inv : DaemonLoop → Prop}
    (hmove : ∀ d d', Inv d → Move K d d' → Inv d') {d d' : DaemonLoop} (h : Moves K d d')
    (hd : Inv d) : Inv d' := by
  induction h with
  | refl => exact hd
  | tail _ hstep ih => exact hmove _ _ ih hstep

/-- The messages every stream may carry. -/
def IsRoutine : Outgoing → Prop
  | .testDelay _ | .heartbeat | .closeReason _ | .screenshotRequest .. => True
  | _ => False

section Steps

variable {ι : Type} {lib : ImageLib ι} {K : ConnType → Outgoing → Prop} {d d' : DaemonLoop}

/-- Sending on the stream, with everything else about the modes left alone. -/
theorem Move.ofSent (mode : d'.activeConnType = d.activeConnType)
    (login : d'.encrypted.login = d.encrypted.login)
    (sent : Grows (K d.activeConnType) d.encrypted.sent d'.encrypted.sent)
    (service : d'.activeServiceId = d.activeServiceId) (retired : d'.retired = d.retired) :
    Move K d d' :=
  .work mode login sent (fun h => .inl (service ▸ h)) retired

theorem Move.ofExtends {P : Outgoing → Prop} {s : Stream} (h : d.encrypted.Extends P s)
    (hP : ∀ m, P m → K d.activeConnType m) : Move K d { d with encrypted := s } :=
  .ofSent rfl h.login (h.sent.mono hP) rfl rfl

/-- A reconnect by itself does not change the mode the daemon takes itself to be in. -/
theorem reconnect_mode (d : DaemonLoop) (attempts : Attempts) (connType : ConnType) :
    (d.reconnect attempts connType).2.activeConnType = d.activeConnType := by
  unfold DaemonLoop.reconnect
  simp only
  split <;> rfl

/-- A reconnect moves to the new stream, or changes nothing. -/
theorem reconnect_move (d : DaemonLoop) (attempts : Attempts) (connType : ConnType)
    (hservice : connType = d.activeConnType ∨ connType = .terminal ∨ d.activeServiceId = none) :
    match d.reconnect attempts connType with
    | (.ok (), d') => Move K d { d' with activeConnType := connType }
    | (.error _, d') => Move K d d' := by
  unfold DaemonLoop.reconnect
  simp only
  split <;> rename_i hresult <;> split at hresult
  · cases hresult
  · rename_i s session hstream
    obtain ⟨hlogin, hsent⟩ := reconnectStream_ok hstream
    rw [← (Prod.mk.inj hresult).2]
    refine .connect d.activeServiceId hlogin hsent ?_ rfl
    intro hsome
    rcases hservice with hmode | hmode | hnone
    · exact .inr ⟨hsome, hmode⟩
    · exact .inl hmode
    · simp only [hnone, Option.isSome_none] at hsome
      cases hsome
  · rw [← (Prod.mk.inj hresult).2]
    exact .ofSent rfl rfl (.refl _ _) rfl rfl
  · cases hresult

theorem leave_move (hroutine : ∀ mode m, IsRoutine m → K mode m) (d : DaemonLoop)
    (close : Option Error) (result : Except Error Unit) : Move K d (d.leave close result) := by
  refine .ofSent rfl (d.encrypted.send_login _) ?_ rfl rfl
  unfold DaemonLoop.leave
  rw [Stream.send_sent]
  exact .concat (hroutine _ (.closeReason []) trivial) _

/-- Recovering from a lost connection moves to a new stream in the same mode, or leaves. -/
theorem recover_moves (hroutine : ∀ mode m, IsRoutine m → K mode m) (d : DaemonLoop)
    (attempts : Attempts) (close : Option Error) : Moves K d (d.recover attempts close) := by
  have hmove := reconnect_move (K := K) d attempts d.activeConnType (.inl rfl)
  have hmode := reconnect_mode d attempts d.activeConnType
  unfold DaemonLoop.recover
  split <;> rename_i d₁ hresult <;> rw [hresult] at hmove hmode <;> simp only at hmove
  · rw [← hmode] at hmove
    exact .single hmove
  · exact (Relation.ReflTransGen.single hmove).tail (leave_move hroutine _ _ _)

theorem readFrame_moves (hroutine : ∀ mode m, IsRoutine m → K mode m) (d : DaemonLoop)
    (attempts : Attempts) (close : Option Error) (frame : Frame) :
    Moves K d (d.readFrame attempts close frame) := by
  unfold DaemonLoop.readFrame
  split
  · exact .refl
  · exact .refl
  · exact recover_moves hroutine d attempts close
  · rename_i m
    have hsent : d.encrypted.Extends IsRoutine (DaemonLoop.handlePeerMessage d.encrypted m).2 := by
      unfold DaemonLoop.handlePeerMessage
      split
      · exact d.encrypted.send_extends trivial
      · exact .refl _ _
      · exact .refl _ _
    split <;> rename_i hm <;> rw [hm] at hsent
    · exact .single (.ofExtends hsent (hroutine _))
    · exact (Relation.ReflTransGen.single (.ofExtends hsent (hroutine _))).tail
        (leave_move hroutine _ _ _)

/-- Reading a frame off the inbox. -/
theorem inbox_move (d : DaemonLoop) (inbox : List Event) :
    Move K d { d with encrypted := { d.encrypted with inbox := inbox } } :=
  .ofSent rfl rfl (.refl _ _) rfl rfl

theorem peerMessage_moves (hroutine : ∀ mode m, IsRoutine m → K mode m) {attempts : Attempts}
    {close : Option Error} (h : d.peerMessage attempts close = some d') : Moves K d d' := by
  unfold DaemonLoop.peerMessage at h
  split at h
  · rename_i frame inbox _
    rw [← Option.some.inj h]
    exact .head (inbox_move d inbox) (readFrame_moves hroutine _ attempts close frame)
  · rename_i inbox _ _
    rw [← Option.some.inj h]
    exact .single (inbox_move d inbox)
  · split at h
    · rw [← Option.some.inj h]
      exact recover_moves hroutine d attempts close
    · cases h

theorem heartbeatTick_moves (hroutine : ∀ mode m, IsRoutine m → K mode m) (d : DaemonLoop)
    (expired : Bool) (attempts : Attempts) (close : Option Error) :
    Moves K d (d.heartbeatTick expired attempts close) := by
  have hsent : d.encrypted.Extends IsRoutine (d.encrypted.send .heartbeat).2 :=
    d.encrypted.send_extends trivial
  unfold DaemonLoop.heartbeatTick
  split <;> rename_i hsend <;> rw [hsend] at hsent
  · exact .head (.ofExtends hsent (hroutine _)) (recover_moves hroutine _ attempts close)
  · split
    · exact .head (.ofExtends hsent (hroutine _)) (recover_moves hroutine _ attempts close)
    · exact .single (.ofExtends hsent (hroutine _))

/-! ## Requests -/

/-- After a successful switch the daemon is in the mode of the command. -/
theorem switchMode_moves (d : DaemonLoop) (attempts : Attempts) (cmd : SessionCommand) :
    Moves K d (d.switchMode attempts cmd).2 ∧
      ((d.switchMode attempts cmd).1 = .ok () →
        (d.switchMode attempts cmd).2.activeConnType = connTypeForCommand cmd) := by
  unfold DaemonLoop.switchMode
  simp only
  split
  · rename_i hne
    set d₁ := if connTypeForCommand cmd ≠ .terminal then { d with activeServiceId := none } else d
      with hd₁
    have hfirst : Move K d d₁ := by
      rw [hd₁]
      split
      · exact .work rfl rfl (.refl _ _) (by simp) rfl
      · exact .ofSent rfl rfl (.refl _ _) rfl rfl
    have hservice : connTypeForCommand cmd = d₁.activeConnType ∨
        connTypeForCommand cmd = .terminal ∨ d₁.activeServiceId = none := by
      by_cases hterminal : connTypeForCommand cmd = .terminal
      · exact .inr (.inl hterminal)
      · exact .inr (.inr (by rw [hd₁, if_pos hterminal]))
    have hmove := reconnect_move (K := K) d₁ attempts (connTypeForCommand cmd) hservice
    split <;> rename_i hresult <;> rw [hresult] at hmove
    · exact ⟨.head hfirst (.single hmove), by simp⟩
    · exact ⟨.head hfirst (.single hmove), fun _ => rfl⟩
  · rename_i heq
    exact ⟨.refl, fun _ => (by simpa using heq : connTypeForCommand cmd = _).symm⟩

/-- The runs of a handler are moves, and stay in the mode. -/
def RunMoves (K : ConnType → Outgoing → Prop) (mode : ConnType)
    (run : CommandEnv → List Stream.Wake → DaemonLoop → Uds → Run) : Prop :=
  ∀ env wakes d uds result d' uds', d.activeConnType = mode →
    run env wakes d uds = some (result, d', uds') → Move K d d' ∧ d'.activeConnType = mode

theorem withRetry_moves (hroutine : ∀ mode m, IsRoutine m → K mode m) {req : Request}
    {what : Text} {run : CommandEnv → List Stream.Wake → DaemonLoop → Uds → Run}
    {mode : ConnType} (hrun : RunMoves K mode run) (hmode : d.activeConnType = mode)
    {uds uds' : Uds} (h : d.withRetry req what run uds = some (uds', d')) : Moves K d d' := by
  cases DaemonLoop.withRetry_retried h with
  | once hfirst hanswer => exact .single (hrun _ _ _ _ _ _ _ hmode hfirst).1
  | gaveUp hfirst hlost hfailed =>
      rename_i d₁ d₂ uds₁ message
      have hmove := (hrun _ _ _ _ _ _ _ hmode hfirst).1
      have hconn := reconnect_move (K := K) d₁ req.reconnect d₁.activeConnType (.inl rfl)
      rw [hfailed] at hconn
      exact .head hmove (.head hconn (.single (leave_move hroutine _ _ _)))
  | twice hfirst hlost hconnected hsecond hanswer =>
      rename_i d₁ d₂ uds₁ uds₂ result final
      obtain ⟨hmove, hmode₁⟩ := hrun _ _ _ _ _ _ _ hmode hfirst
      have hconn := reconnect_move (K := K) d₁ req.reconnect d₁.activeConnType (.inl rfl)
      have hmode₂ := reconnect_mode d₁ req.reconnect d₁.activeConnType
      rw [hconnected] at hconn hmode₂
      simp only at hmode₂
      simp only [← hmode₂] at hconn
      exact .head hmove (.head hconn
        (.single (hrun _ _ _ _ _ _ _ (hmode₂.trans hmode₁) hsecond).1))

theorem runPush_moves {localPath remotePath : Text} {mode : ConnType}
    (hfile : ∀ m, IsTransfer m → K mode m) :
    RunMoves K mode (DaemonLoop.runPush localPath remotePath) := by
  intro env wakes d uds result d' uds' hmode h
  have hsent := (d.encrypted.schedule_extends IsTransfer wakes).trans
    (pushFileCommand_extends env localPath remotePath (d.encrypted.schedule wakes) uds)
  unfold DaemonLoop.runPush at h
  split at h
  · cases h
  · rename_i hpush
    rw [hpush] at hsent
    obtain ⟨_, hrest⟩ := Prod.mk.inj (Option.some.inj h)
    rw [← (Prod.mk.inj hrest).1]
    exact ⟨.ofExtends (hsent.trans (Stream.settle_extends _ _)) (hmode ▸ hfile), hmode⟩

theorem runExec_moves {command : Text} (hterminal : ∀ m, IsTerminal m → K .terminal m) :
    RunMoves K .terminal (DaemonLoop.runExec command) := by
  intro env wakes d uds result d' uds' hmode h
  have hsent := (d.encrypted.schedule_extends IsTerminal wakes).trans
    (execStreaming_extends env.exec command (d.encrypted.schedule wakes) uds d.activeServiceId)
  unfold DaemonLoop.runExec at h
  obtain ⟨_, hrest⟩ := Prod.mk.inj (Option.some.inj h)
  rw [← (Prod.mk.inj hrest).1]
  have hsettled := hsent.trans (Stream.settle_extends IsTerminal _)
  refine ⟨.work rfl hsettled.login (hsettled.sent.mono ?_) (fun _ => .inr hmode) rfl, hmode⟩
  exact hmode ▸ hterminal

theorem runCommand_moves {cmd : SessionCommand} {mode : ConnType}
    (hcmd : ∀ m, SentFor cmd m → K mode m) :
    RunMoves K mode (DaemonLoop.runCommand lib cmd) := by
  intro env wakes d uds result d' uds' hmode h
  have hsent := (d.encrypted.schedule_extends (SentFor cmd) wakes).trans
    (executeDaemonCommand_extends lib env (d.encrypted.schedule wakes) d.session cmd)
  rw [DaemonLoop.runCommand_eq] at h
  obtain ⟨_, hrest⟩ := Prod.mk.inj (Option.some.inj h)
  rw [← (Prod.mk.inj hrest).1]
  have hsettled := hsent.trans (Stream.settle_extends (SentFor cmd) _)
  exact ⟨.ofSent rfl hsettled.login (hsettled.sent.mono (hmode ▸ hcmd)) rfl rfl, hmode⟩

theorem runShell_moves (hroutine : ∀ mode m, IsRoutine m → K mode m)
    (hterminal : ∀ m, IsTerminal m → K .terminal m) (hmode : d.activeConnType = .terminal)
    (req : Request) (uds : Uds) : Moves K d (d.runShell req uds).2 := by
  have hsent := (d.encrypted.schedule_extends IsTerminal req.firstWakes).trans
    (shellSession_extends req.first.exec.zstd (d.encrypted.schedule req.firstWakes) uds
      d.activeServiceId)
  have hsettled := hsent.trans (Stream.settle_extends IsTerminal _)
  have hshell : Move K d { d with
      encrypted := (shellSession req.first.exec.zstd (d.encrypted.schedule req.firstWakes) uds
        d.activeServiceId).2.1.settle
      activeServiceId := (shellSession req.first.exec.zstd (d.encrypted.schedule req.firstWakes)
        uds d.activeServiceId).2.2.2 } := by
    refine .work rfl hsettled.login (hsettled.sent.mono ?_) (fun _ => .inr hmode) rfl
    exact hmode ▸ hterminal
  unfold DaemonLoop.runShell
  simp only
  split
  · exact .single hshell
  · split
    · exact .head hshell (recover_moves hroutine _ _ _)
    · exact .single hshell

theorem runGeneric_moves (hroutine : ∀ mode m, IsRoutine m → K mode m) {req : Request}
    {cmd : SessionCommand} {mode : ConnType} (hcmd : ∀ m, SentFor cmd m → K mode m)
    (hmode : d.activeConnType = mode) {uds uds' : Uds}
    (h : d.runGeneric lib req cmd uds = some (uds', d')) : Moves K d d' := by
  unfold DaemonLoop.runGeneric at h
  split at h
  · cases h
  · rename_i uds₁ d₁ hrun
    have hmoves := withRetry_moves hroutine (runCommand_moves hcmd) hmode hrun
    split at h <;> obtain ⟨_, rfl⟩ := Prod.mk.inj (Option.some.inj h)
    · exact hmoves.tail (leave_move hroutine _ _ _)
    · exact hmoves

/-- What the handler of a command sends in the default mode. -/
def CommandSends : SessionCommand → Outgoing → Prop
  | .push .. => IsTransfer
  | cmd => SentFor cmd

/-- A command in its mode is a sequence of moves. -/
theorem runRequest_moves (hroutine : ∀ mode m, IsRoutine m → K mode m)
    (hterminal : ∀ m, IsTerminal m → K .terminal m) {req : Request} {cmd : SessionCommand}
    (hcmd : connTypeForCommand cmd = .defaultConn → ∀ m, CommandSends cmd m → K .defaultConn m)
    (hmode : d.activeConnType = connTypeForCommand cmd) {uds uds' : Uds}
    (h : d.runRequest lib req cmd uds = some (uds', d')) : Moves K d d' := by
  cases cmd with
  | shell =>
      have hshell := runShell_moves hroutine hterminal hmode req uds
      rw [(Option.some.inj h : d.runShell req uds = (uds', d'))] at hshell
      exact hshell
  | push localPath remotePath =>
      exact withRetry_moves hroutine (runPush_moves (hcmd rfl)) hmode h
  | exec command timeout => exact withRetry_moves hroutine (runExec_moves hterminal) hmode h
  | _ =>
      unfold DaemonLoop.runRequest at h
      refine runGeneric_moves hroutine ?_ hmode h
      exact hcmd rfl

theorem handleRequest_moves (hroutine : ∀ mode m, IsRoutine m → K mode m)
    (hterminal : ∀ m, IsTerminal m → K .terminal m) {req : Request}
    (hcmd : ∀ cmd, req.line = .ok cmd → connTypeForCommand cmd = .defaultConn →
      (d.switchMode req.switchMode cmd).1 = .ok () → ∀ m, CommandSends cmd m → K .defaultConn m)
    {uds : Uds} (h : d.handleRequest lib req = some (uds, d')) : Moves K d d' := by
  unfold DaemonLoop.handleRequest at h
  simp only at h
  split at h
  · obtain ⟨_, rfl⟩ := Prod.mk.inj (Option.some.inj h)
    exact .refl
  · rename_i cmd hline
    obtain ⟨hmoves, hmode⟩ := switchMode_moves (K := K) d req.switchMode cmd
    split at h <;> rename_i hswitch <;> rw [hswitch] at hmoves hmode
    · obtain ⟨_, rfl⟩ := Prod.mk.inj (Option.some.inj h)
      exact hmoves
    · have hallowed : connTypeForCommand cmd = .defaultConn →
          ∀ m, CommandSends cmd m → K .defaultConn m := fun hdefault =>
        hcmd cmd hline hdefault (by rw [hswitch])
      exact hmoves.trans (runRequest_moves hroutine hterminal hallowed (hmode rfl) h)

/-- Every action of the machine is a sequence of moves. -/
theorem loopStep_moves (hroutine : ∀ mode m, IsRoutine m → K mode m)
    (hterminal : ∀ m, IsTerminal m → K .terminal m) {action : Action}
    (hcmd : ∀ req cmd, action = .accept req → req.line = .ok cmd →
      connTypeForCommand cmd = .defaultConn → (d.switchMode req.switchMode cmd).1 = .ok () →
      ∀ m, CommandSends cmd m → K .defaultConn m)
    (h : loopStep lib d action = some d') : Moves K d d' := by
  unfold loopStep at h
  split at h
  · cases h
  · split at h
    · split at h
      · cases h
      · rw [← Option.some.inj h]
        exact .single (.ofSent rfl rfl (.refl _ _) rfl rfl)
    · split at h
      · cases h
      · rw [← Option.some.inj h]
        exact .single (.ofSent rfl rfl (.refl _ _) rfl rfl)
    · rw [← Option.some.inj h]
      exact .single (inbox_move d _)
    · exact peerMessage_moves hroutine h
    · rw [← Option.some.inj h]
      exact heartbeatTick_moves hroutine d _ _ _
    · rename_i req
      obtain ⟨⟨uds, d₁⟩, hrequest, rfl⟩ := Option.map_eq_some_iff.mp h
      exact handleRequest_moves hroutine hterminal
        (fun cmd hline hmode hswitch => hcmd req cmd rfl hline hmode hswitch) hrequest
    · rw [← Option.some.inj h]
    · rw [← Option.some.inj h]
      exact .single (leave_move hroutine d _ _)
    · rw [← Option.some.inj h]
      exact .single (leave_move hroutine d _ _)

end Steps

/-! ## The mode invariant -/

/-- What the loop keeps true of its modes: the stream was logged in for the active mode, a
service id is kept only in terminal mode, and the stream was initialised once, at first,
as its mode demands. -/
structure ModeInvariant (d : DaemonLoop) : Prop where
  mode : d.encrypted.login.connType = d.activeConnType
  service : d.activeServiceId.isSome → d.activeConnType = .terminal
  init : Grows (fun m => ¬ IsInit m) (initMessages d.activeConnType) d.encrypted.sent

theorem ModeInvariant.move {d d' : DaemonLoop} (hd : ModeInvariant d)
    (hmove : Move (fun _ m => ¬ IsInit m) d d') : ModeInvariant d' := by
  cases hmove with
  | work mode login sent service retired =>
      refine ⟨?_, ?_, ?_⟩
      · rw [login, mode]
        exact hd.mode
      · intro hsome
        rw [mode]
        exact (service hsome).elim hd.service id
      · rw [mode]
        exact hd.init.trans sent
  | connect serviceId login sent service retired =>
      refine ⟨?_, ?_, ?_⟩
      · rw [login]
        rfl
      · intro hsome
        rcases service hsome with hmode | ⟨hold, hmode⟩
        · exact hmode
        · rw [hmode]
          exact hd.service hold
      · rw [sent]
        exact .refl _ _

/-- No handler sends a message of the initialisation. -/
theorem CommandSends.not_isInit {cmd : SessionCommand} {m : Outgoing} (h : CommandSends cmd m) :
    ¬ IsInit m := by
  cases cmd with
  | push localPath remotePath =>
      rcases h with hfile | ⟨td, rfl⟩
      · cases m <;> simp_all [IsFile, IsInit]
      · exact id
  | exec command timeout => obtain ⟨action, rfl⟩ := h; exact id
  | clipboardGet => obtain ⟨action, rfl⟩ := h; exact id
  | clipboardSet text => obtain ⟨action, rfl⟩ := h; exact id
  | capture output format quality region display timeoutSecs =>
      obtain ⟨display, sid, rfl⟩ := h
      exact id
  | _ => exact h.elim

theorem ModeInvariant.step {ι : Type} {lib : ImageLib ι} (d : DaemonLoop) (action : Action)
    (d' : DaemonLoop) (hd : ModeInvariant d) (h : loopStep lib d action = some d') :
    ModeInvariant d' := by
  have hmoves : Moves (fun _ m => ¬ IsInit m) d d' := by
    refine loopStep_moves ?_ ?_ ?_ h
    · intro mode m hm
      cases m <;> simp_all [IsRoutine, IsInit]
    · rintro m ⟨action, rfl⟩
      exact id
    · intro req cmd _ _ _ _ m hm
      exact hm.not_isInit
  exact Moves.invariant (fun _ _ hinv hmove => hinv.move hmove) hmoves hd

theorem startLoop_modeInvariant {config : ConnectionConfig} {conn : NewConnection}
    {d : DaemonLoop} (h : startLoop config conn = some d) : ModeInvariant d := by
  unfold startLoop at h
  split at h
  · cases h
  · rename_i s hinit
    obtain ⟨hlogin, _, hsent⟩ := initializeStreamForMode_ok hinit
    rw [← Option.some.inj h]
    refine ⟨?_, by simp, ?_⟩
    · simp only
      rw [hlogin]
      rfl
    · simp only
      rw [hsent]
      exact .refl _ _

/-- In every reachable state of the loop, the stream was established with the active
connection type, a service id is kept only in terminal mode, and the stream has been
initialised exactly once and first if it is a default stream, and never if it is a
terminal stream. -/
theorem daemon_modes_agree {ι : Type} (lib : ImageLib ι) (d : DaemonLoop)
    (h : Reachable lib d) :
    d.encrypted.login.connType = d.activeConnType ∧
      (d.activeServiceId.isSome → d.activeConnType = .terminal) ∧
      (d.encrypted.login.connType = .defaultConn →
        ∃ rest, d.encrypted.sent =
            [.option buildOptionMessage, .captureDisplays [0], .refreshVideo true] ++ rest ∧
          ∀ m ∈ rest, ¬ IsInit m) ∧
      (d.encrypted.login.connType = .terminal → ∀ m ∈ d.encrypted.sent, ¬ IsInit m) := by
  obtain ⟨config, conn, d₀, actions, hstart, hrun⟩ := h
  have hd : ModeInvariant d := (loopMachine lib).invariant ModeInvariant.step
    (startLoop_modeInvariant hstart) hrun
  refine ⟨hd.mode, hd.service, ?_, ?_⟩
  · intro hmode
    have hinit := hd.init
    rw [← hd.mode, hmode] at hinit
    exact hinit
  · intro hmode
    have hinit := hd.init
    rw [← hd.mode, hmode] at hinit
    exact hinit.forall_mem (by simp [initMessages])

/-- A reachable daemon in terminal mode: a shell has switched it. -/
theorem daemon_modes_agree_shell :
    ∃ d, Reachable sampleImages d ∧ d.activeConnType = .terminal ∧
      d.encrypted.login.connType = d.activeConnType := by
  have hrun : ∃ d, (loopMachine sampleImages).run sampleDaemon
        [.accept (sampleRequest (.ok .shell) [] (.ok (sampleConn [])))] = some d ∧
      d.activeConnType = .terminal := ⟨_, rfl, rfl⟩
  obtain ⟨d, hd, hmode⟩ := hrun
  have hreach : Reachable sampleImages d := ⟨_, _, _, _, startLoop_sample, hd⟩
  exact ⟨d, hreach, hmode, (daemon_modes_agree sampleImages d hreach).1⟩

/-! ## When a mode switch succeeds -/

/-- The peer can be reached: one of the attempts connects and, for a default connection, the
three messages of its initialisation can be sent. -/
def CanConnect (attempts : Attempts) (connType : ConnType) : Prop :=
  ∃ conn, reconnectWithRetryBackoffs attempts reconnectBackoffs 0 none = .ok conn ∧
    (connType = .defaultConn → ∀ r ∈ conn.sends.take 3, r = none)

theorem initializeStreamForMode_ok_iff (s : Stream) (connType : ConnType) :
    (∃ s', initializeStreamForMode s connType = (.ok (), s')) ↔
      (connType = .defaultConn → ∀ r ∈ s.sends.take 3, r = none) := by
  unfold initializeStreamForMode
  split
  · rename_i hmode
    unfold sendOptionMessage sendSessionInit Stream.send
    -- the three sends succeed exactly if none of the three results is an error
    rcases s.sends with _ | ⟨_ | e₁, _ | ⟨_ | e₂, _ | ⟨_ | e₃, rest⟩⟩⟩ <;>
      simp [hmode]
  · rename_i hmode
    exact ⟨fun _ h => absurd h hmode, fun _ => ⟨s, rfl⟩⟩

theorem reconnectStream_ok_iff (attempts : Attempts) (session : Session) (connType : ConnType)
    (serviceId : Option Text) :
    (∃ s session', reconnectStream attempts session connType serviceId = (.ok s, session')) ↔
      CanConnect attempts connType := by
  unfold reconnectStream CanConnect
  cases reconnectWithRetryBackoffs attempts reconnectBackoffs 0 none with
  | error e => simp
  | ok conn =>
      have hinit : (∃ s', initializeStreamForMode (conn.stream (loginFor connType serviceId))
            connType = (.ok (), s')) ↔
          (connType = .defaultConn → ∀ r ∈ conn.sends.take 3, r = none) :=
        initializeStreamForMode_ok_iff _ _
      simp only [Except.ok.injEq, exists_eq_left']
      rw [← hinit]
      rcases initializeStreamForMode (conn.stream (loginFor connType serviceId)) connType with
        ⟨e | _, s⟩ <;> simp

theorem reconnect_ok_iff (d : DaemonLoop) (attempts : Attempts) (connType : ConnType) :
    (d.reconnect attempts connType).1 = .ok () ↔ CanConnect attempts connType := by
  rw [← reconnectStream_ok_iff attempts d.session connType d.activeServiceId]
  unfold DaemonLoop.reconnect
  simp only
  rcases reconnectStream attempts d.session connType d.activeServiceId with ⟨e | s, session⟩ <;>
    simp

/-- A switch succeeds when the mode is active already, or the peer can be reached in it. -/
theorem switchMode_ok_iff (d : DaemonLoop) (attempts : Attempts) (cmd : SessionCommand) :
    (d.switchMode attempts cmd).1 = .ok () ↔
      d.activeConnType = connTypeForCommand cmd ∨ CanConnect attempts (connTypeForCommand cmd) := by
  unfold DaemonLoop.switchMode
  simp only
  split
  · rename_i hne
    set d₁ := if connTypeForCommand cmd ≠ .terminal then { d with activeServiceId := none } else d
    rw [or_iff_right (Ne.symm hne), ← reconnect_ok_iff d₁ attempts (connTypeForCommand cmd)]
    rcases d₁.reconnect attempts (connTypeForCommand cmd) with ⟨e | _, d₂⟩ <;> simp
  · rename_i heq
    simp only [ne_eq, not_not] at heq
    simp [heq]

/-! ## A switch that fails -/

/-- The variables a switch works on, apart from the record of what has happened. -/
def DaemonLoop.SameVariables (d d' : DaemonLoop) : Prop :=
  d'.encrypted = d.encrypted ∧ d'.activeConnType = d.activeConnType ∧
    d'.activeServiceId = d.activeServiceId ∧ d'.session = d.session

/-- A reconnect that fails leaves everything as it was. -/
theorem reconnect_failed {d d' : DaemonLoop} {attempts : Attempts} {connType : ConnType} {e : Error}
    (h : d.reconnect attempts connType = (.error e, d')) :
    d.SameVariables d' ∧ d'.returned = d.returned := by
  unfold DaemonLoop.reconnect reconnectStream at h
  simp only at h
  split at h
  · rename_i hstream
    obtain ⟨-, rfl⟩ := Prod.mk.inj h
    split at hstream
    · obtain ⟨-, rfl⟩ := Prod.mk.inj hstream
      exact ⟨⟨rfl, rfl, rfl, rfl⟩, rfl⟩
    · split at hstream
      · obtain ⟨-, rfl⟩ := Prod.mk.inj hstream
        exact ⟨⟨rfl, rfl, rfl, rfl⟩, rfl⟩
      · cases (Prod.mk.inj hstream).1
  · cases (Prod.mk.inj h).1

/-- A switch that fails leaves everything as it was but the service id, which a switch to
another mode than the terminal's has forgotten before it begins. -/
theorem switchMode_failed {d d' : DaemonLoop} {attempts : Attempts} {cmd : SessionCommand}
    {e : Error} (h : d.switchMode attempts cmd = (.error e, d')) :
    DaemonLoop.SameVariables
        (if connTypeForCommand cmd ≠ .terminal then { d with activeServiceId := none } else d) d' ∧
      d'.returned = d.returned := by
  unfold DaemonLoop.switchMode at h
  simp only at h
  split at h
  · split at h
    · rename_i hreconnect
      obtain ⟨hsame, hreturned⟩ := reconnect_failed hreconnect
      obtain ⟨-, rfl⟩ := Prod.mk.inj h
      refine ⟨hsame, hreturned.trans ?_⟩
      split <;> rfl
    · cases (Prod.mk.inj h).1
  · cases (Prod.mk.inj h).1

/-- A command whose mode cannot be reached is answered with an error, the daemon goes on, and
its variables are what they were exactly when the command needs a terminal or there is no
terminal service to forget. -/
theorem failed_switch_changes_nothing_iff {ι : Type} (lib : ImageLib ι) (d : DaemonLoop)
    (req : Request) (cmd : SessionCommand) (hline : req.line = .ok cmd)
    (hmode : connTypeForCommand cmd ≠ d.activeConnType)
    (hfailed : ¬CanConnect req.switchMode (connTypeForCommand cmd)) :
    ∃ uds d' message, d.handleRequest lib req = some (uds, d') ∧
      uds.written = [.line (.error message)] ∧ d'.returned = d.returned ∧
      (d.SameVariables d' ↔ connTypeForCommand cmd = .terminal ∨ d.activeServiceId = none) := by
  have hok := switchMode_ok_iff d req.switchMode cmd
  unfold DaemonLoop.handleRequest
  rw [hline]
  simp only
  rcases hswitch : d.switchMode req.switchMode cmd with ⟨e | _, d'⟩
  · obtain ⟨⟨hencrypted, hconnType, hserviceId, hsession⟩, hreturned⟩ := switchMode_failed hswitch
    refine ⟨_, d', e.alternate, rfl, Uds.write_written _ _, hreturned, ?_⟩
    by_cases hterminal : connTypeForCommand cmd = .terminal
    · rw [if_neg (not_not_intro hterminal)] at hencrypted hconnType hserviceId hsession
      exact ⟨fun _ => .inl hterminal, fun _ => ⟨hencrypted, hconnType, hserviceId, hsession⟩⟩
    · rw [if_pos hterminal] at hencrypted hconnType hserviceId hsession
      constructor
      · intro hsame
        exact .inr (hsame.2.2.1.symm.trans hserviceId)
      · rintro (h | hnone)
        · exact absurd h hterminal
        · exact ⟨hencrypted, hconnType, hserviceId.trans hnone.symm, hsession⟩
  · rw [hswitch] at hok
    rcases hok.mp rfl with h | h
    · exact absurd h.symm hmode
    · exact absurd h hfailed

/-- An `exec` in the default mode, with the peer gone. -/
theorem failed_switch_changes_nothing_exec :
    ∃ uds d', sampleDaemon.handleRequest sampleImages
        (sampleRequest (.ok (.exec "ls".toList none)) [] (.error (.msg "refused".toList))) =
          some (uds, d') ∧ sampleDaemon.SameVariables d' := by
  have hmode : connTypeForCommand (.exec "ls".toList none) ≠ sampleDaemon.activeConnType := by
    decide
  have hfailed : ¬CanConnect
      (sampleRequest (.ok (.exec "ls".toList none)) [] (.error (.msg "refused".toList))).switchMode
      (connTypeForCommand (.exec "ls".toList none)) := by
    rintro ⟨conn, hconn, -⟩
    cases hconn
  obtain ⟨uds, d', _, hrequest, -, -, hsame⟩ := failed_switch_changes_nothing_iff sampleImages
    sampleDaemon (sampleRequest (.ok (.exec "ls".toList none)) [] (.error (.msg "refused".toList)))
    (.exec "ls".toList none) rfl hmode hfailed
  exact ⟨uds, d', hrequest, hsame.mpr (.inl rfl)⟩

/-- A terminal that the peer opens with a service id. -/
def sampleOpened : Frame :=
  .message (.terminalResponse (some (.opened ⟨1, true, [], 100, "svc".toList⟩)))

/-- A shell whose client is gone before its first line leaves a terminal service behind; the
next `status` cannot reconnect, is answered with an error, and the service id is lost. -/
theorem failed_switch_forgets_service :
    ∃ d, Reachable sampleImages d ∧ d.activeConnType = .terminal ∧
      d.activeServiceId = some "svc".toList ∧
      ∃ uds d', d.handleRequest sampleImages
          (sampleRequest (.ok .status) [] (.error (.msg "refused".toList))) = some (uds, d') ∧
        d'.returned = none ∧ d'.activeServiceId = none ∧ ¬d.SameVariables d' := by
  let shell : Request :=
    { sampleRequest (.ok .shell) [] (.ok (sampleConn [sampleOpened])) with
      writes := [some (.msg "Broken pipe (os error 32)".toList)]
      reconnect := fun _ => .ok (sampleConn []) }
  have hrun : ∃ d, (loopMachine sampleImages).run sampleDaemon [.accept shell] = some d ∧
      d.activeConnType = .terminal ∧ d.activeServiceId = some "svc".toList ∧
      ∃ uds d', d.handleRequest sampleImages
          (sampleRequest (.ok .status) [] (.error (.msg "refused".toList))) = some (uds, d') ∧
        d'.returned = none ∧ d'.activeServiceId = none :=
    ⟨_, rfl, rfl, rfl, _, _, rfl, rfl, rfl⟩
  obtain ⟨d, hd, hmode, hservice, uds, d', hrequest, hreturned, hnone⟩ := hrun
  refine ⟨d, ⟨_, _, _, _, startLoop_sample, hd⟩, hmode, hservice, uds, d', hrequest, hreturned,
    hnone, ?_⟩
  intro hsame
  cases hnone.symm.trans (hsame.2.2.1.trans hservice)

/-! ## Disconnecting -/

/-- `run_daemon` has returned and its files are gone. -/
def DaemonLoop.Ended (d : DaemonLoop) : Prop := d.returned.isSome = true ∧ d.files = false

theorem leave_ended (d : DaemonLoop) (close : Option Error) (result : Except Error Unit) :
    (d.leave close result).Ended :=
  ⟨rfl, rfl⟩

theorem reconnect_returned (d : DaemonLoop) (attempts : Attempts) (connType : ConnType) :
    (d.reconnect attempts connType).2.returned = d.returned := by
  unfold DaemonLoop.reconnect
  simp only
  split <;> rfl

theorem switchMode_returned (d : DaemonLoop) (attempts : Attempts) (cmd : SessionCommand) :
    (d.switchMode attempts cmd).2.returned = d.returned := by
  unfold DaemonLoop.switchMode
  simp only
  split
  · set d₁ := if connTypeForCommand cmd ≠ .terminal then { d with activeServiceId := none } else d
      with hd₁
    have hsame : d₁.returned = d.returned := by
      rw [hd₁]
      split <;> rfl
    have hreturned := reconnect_returned d₁ attempts (connTypeForCommand cmd)
    split <;> rename_i hresult <;> rw [hresult] at hreturned <;> exact hreturned.trans hsame
  · rfl

theorem runCommand_returned {ι : Type} {lib : ImageLib ι} {cmd : SessionCommand}
    {env : CommandEnv} {wakes : List Stream.Wake} {d d' : DaemonLoop} {uds uds' : Uds}
    {result : Except Error SessionResponse}
    (h : d.runCommand lib cmd env wakes uds = some (result, d', uds')) :
    d'.returned = d.returned := by
  rw [DaemonLoop.runCommand_eq] at h
  obtain ⟨_, hrest⟩ := Prod.mk.inj (Option.some.inj h)
  rw [← (Prod.mk.inj hrest).1]

/-- The branch of the other commands either leaves the loop or goes on. -/
theorem withRetry_runCommand_ended {ι : Type} {lib : ImageLib ι} {req : Request} {what : Text}
    {cmd : SessionCommand} {d d' : DaemonLoop} {uds uds' : Uds}
    (h : d.withRetry req what (DaemonLoop.runCommand lib cmd) uds = some (uds', d')) :
    d'.returned = d.returned ∨ d'.Ended := by
  cases DaemonLoop.withRetry_retried h with
  | once hfirst hanswer => exact .inl (runCommand_returned hfirst)
  | gaveUp hfirst hlost hfailed => exact .inr (leave_ended _ _ _)
  | twice hfirst hlost hconnected hsecond hanswer =>
      rename_i d₁ d₂ uds₁ uds₂ result final
      have hreturned := reconnect_returned d₁ req.reconnect d₁.activeConnType
      rw [hconnected] at hreturned
      left
      rw [runCommand_returned hsecond, hreturned, runCommand_returned hfirst]

/-- On a connection of its mode a disconnect ends the daemon, whatever it meets. -/
theorem runGeneric_disconnect_ended {ι : Type} {lib : ImageLib ι} {req : Request}
    {d d' : DaemonLoop} {uds uds' : Uds} (hrunning : d.returned = none)
    (h : d.runGeneric lib req .disconnect uds = some (uds', d')) : d'.Ended := by
  unfold DaemonLoop.runGeneric at h
  split at h
  · cases h
  · rename_i uds₁ d₁ hrun
    split at h <;> rename_i hleave <;> obtain ⟨_, rfl⟩ := Prod.mk.inj (Option.some.inj h)
    · exact leave_ended _ _ _
    · rcases withRetry_runCommand_ended hrun with hsame | hended
      · exact absurd ⟨by rw [hsame, hrunning]; rfl, rfl⟩ hleave
      · exact hended

/-- A disconnect is answered with one line, and it ends the daemon exactly if the daemon is in
the default mode already or gets a connection in it. -/
theorem disconnect_ends_daemon_iff {ι : Type} (lib : ImageLib ι) (d : DaemonLoop)
    (req : Request) (hrunning : d.returned = none) (hline : req.line = .ok .disconnect) :
    ∃ uds d', d.handleRequest lib req = some (uds, d') ∧
      (∃ resp, uds.written = [.line resp]) ∧
      (d'.Ended ↔
        d.activeConnType = .defaultConn ∨ CanConnect req.switchMode .defaultConn) := by
  have hiff := switchMode_ok_iff d req.switchMode .disconnect
  have hreturned := switchMode_returned d req.switchMode .disconnect
  rw [hrunning] at hreturned
  unfold DaemonLoop.handleRequest
  rw [hline]
  simp only
  rcases hswitch : d.switchMode req.switchMode .disconnect with ⟨e | _, d₁⟩ <;>
    rw [hswitch] at hiff hreturned
  · -- the switch has failed: the client gets the error and the loop goes on
    refine ⟨_, _, rfl, ⟨_, Uds.write_written _ _⟩, ?_⟩
    refine ⟨fun hended => ?_, fun hmode => ?_⟩
    · exact absurd hended.1 (by simp [show d₁.returned = none from hreturned])
    · cases hiff.mpr hmode
  · cases hrun : d₁.runGeneric lib req .disconnect ⟨req.writes, []⟩ with
    | none => exact absurd hrun (runGeneric_ne_none lib req _ d₁ _)
    | some handled =>
        obtain ⟨final, hwritten, _⟩ := runGeneric_line hrun
        refine ⟨handled.1, handled.2, hrun, ⟨final, hwritten⟩, ?_⟩
        exact ⟨fun _ => hiff.mp rfl, fun _ => runGeneric_disconnect_ended hreturned hrun⟩

/-- In the default mode a disconnect needs no connection. -/
theorem disconnect_ends_daemon_iff_default :
    ∃ uds d', sampleDaemon.handleRequest sampleImages
        (sampleRequest (.ok .disconnect) [] (.error (.msg "Connection refused".toList))) =
          some (uds, d') ∧ d'.Ended := by
  obtain ⟨uds, d', hrequest, _, hended⟩ := disconnect_ends_daemon_iff sampleImages sampleDaemon
    (sampleRequest (.ok .disconnect) [] (.error (.msg "Connection refused".toList))) rfl rfl
  exact ⟨uds, d', hrequest, hended.mpr (.inl rfl)⟩

/-- After a shell, with the peer gone, a disconnect is answered with an error and the daemon
stays. -/
theorem disconnect_refused_after_shell :
    ∃ d, Reachable sampleImages d ∧ d.returned = none ∧
      ∃ uds d', d.handleRequest sampleImages
          (sampleRequest (.ok .disconnect) [] (.error (.msg "Connection refused".toList))) =
            some (uds, d') ∧ d'.returned = none ∧ d'.files = true ∧ ¬ d'.Ended := by
  have hrun : ∃ d, (loopMachine sampleImages).run sampleDaemon
      [.accept (sampleRequest (.ok .shell) [] (.ok (sampleConn [])))] = some d ∧
      d.returned = none ∧ ∃ uds d', d.handleRequest sampleImages
          (sampleRequest (.ok .disconnect) [] (.error (.msg "Connection refused".toList))) =
            some (uds, d') ∧ d'.returned = none ∧ d'.files = true :=
    ⟨_, rfl, rfl, _, _, rfl, rfl, rfl⟩
  obtain ⟨d, hd, hrunning, uds, d', hrequest, hreturned, hfiles⟩ := hrun
  refine ⟨d, ⟨_, _, _, _, startLoop_sample, hd⟩, hrunning, uds, d', hrequest, hreturned, hfiles, ?_⟩
  intro hended
  rw [hended.2] at hfiles
  cases hfiles

/-! ## Streams of the wrong mode -/

/-- A stream carries terminal actions only if it was logged in to a terminal, and file
messages only if it was logged in for a file transfer. -/
def RightMode (s : Stream) : Prop :=
  (∀ m ∈ s.sent, IsTerminal m →
      s.login.connType = .terminal ∧ ∃ serviceId, s.login.union = some (.terminal serviceId)) ∧
    ∀ m ∈ s.sent, IsFile m → s.login.connType = .fileTransfer

/-- The commands whose handler speaks another protocol than that of the mode chosen for
them. -/
def Misplaced : SessionCommand → Prop
  | .clipboardGet | .clipboardSet _ | .push .. => True
  | _ => False

/-- No clipboard command and no push gets past its mode switch. -/
def NoneMisplaced (d : DaemonLoop) : Action → Prop
  | .accept req => ∀ cmd, req.line = .ok cmd → Misplaced cmd →
      ¬ (d.activeConnType = .defaultConn ∨ CanConnect req.switchMode .defaultConn)
  | _ => True

/-- What may be sent in a mode: terminal actions on a terminal only, and no file. -/
def Fits (mode : ConnType) (m : Outgoing) : Prop :=
  (IsTerminal m → mode = .terminal) ∧ ¬ IsFile m

theorem IsRoutine.fits {m : Outgoing} (h : IsRoutine m) (mode : ConnType) : Fits mode m := by
  refine ⟨?_, ?_⟩
  · rintro ⟨action, rfl⟩
    exact h.elim
  · intro hfile
    cases m <;> simp_all [IsRoutine, IsFile]

/-- The commands of the default mode that are not misplaced fit it. -/
theorem CommandSends.fits {cmd : SessionCommand} {m : Outgoing} (h : CommandSends cmd m)
    (hmode : connTypeForCommand cmd = .defaultConn) (hplaced : ¬ Misplaced cmd) :
    Fits .defaultConn m := by
  cases cmd with
  | exec command timeout => cases hmode
  | clipboardGet => exact absurd trivial hplaced
  | clipboardSet text => exact absurd trivial hplaced
  | push localPath remotePath => exact absurd trivial hplaced
  | capture output format quality region display timeoutSecs =>
      obtain ⟨display, sid, rfl⟩ := h
      exact IsRoutine.fits (m := .screenshotRequest display sid) trivial _
  | _ => exact h.elim

/-- The current stream was logged in for its mode, and every stream so far carries what its
login is for. -/
structure RightModes (d : DaemonLoop) : Prop where
  login : ∃ serviceId, d.encrypted.login = loginFor d.activeConnType serviceId
  current : RightMode d.encrypted
  retired : ∀ s ∈ d.retired, RightMode s

/-- What fits the mode can be sent. -/
theorem RightMode.grows {s s' : Stream} {mode : ConnType} {serviceId : Option Text}
    (hs : RightMode s) (hmode : s.login = loginFor mode serviceId) (hlogin : s'.login = s.login)
    (hsent : Grows (Fits mode) s.sent s'.sent) : RightMode s' := by
  obtain ⟨added, hadded, hfits⟩ := hsent
  unfold RightMode
  rw [hlogin, hadded]
  refine ⟨?_, ?_⟩ <;> intro m hm hkind <;> rcases List.mem_append.mp hm with hold | hnew
  · exact hs.1 m hold hkind
  · obtain rfl := (hfits m hnew).1 hkind
    rw [hmode]
    exact ⟨rfl, _, rfl⟩
  · exact hs.2 m hold hkind
  · exact absurd hkind (hfits m hnew).2

theorem initMessages_fit (mode connType : ConnType) : ∀ m ∈ initMessages connType, Fits mode m := by
  intro m hm
  cases connType with
  | defaultConn =>
      simp only [initMessages, List.mem_cons, List.not_mem_nil, or_false] at hm
      rcases hm with rfl | rfl | rfl <;> refine ⟨?_, id⟩ <;> rintro ⟨action, hterminal⟩ <;>
        cases hterminal
  | fileTransfer => cases hm
  | terminal => cases hm

/-- A fresh stream is in its mode. -/
theorem RightMode.fresh {s : Stream} {connType : ConnType} {serviceId : Option Text}
    (hlogin : s.login = loginFor connType serviceId) (hsent : s.sent = initMessages connType) :
    RightMode s := by
  have hempty : RightMode { s with sent := [] } := ⟨by simp, by simp⟩
  refine hempty.grows hlogin rfl ?_
  rw [hsent]
  exact .append (initMessages_fit connType connType) []

theorem RightModes.move {d d' : DaemonLoop} (hd : RightModes d) (hmove : Move Fits d d') :
    RightModes d' := by
  obtain ⟨serviceId, hmode⟩ := hd.login
  cases hmove with
  | work mode login sent service retired =>
      refine ⟨⟨serviceId, ?_⟩, hd.current.grows hmode login sent, ?_⟩
      · rw [login, mode]
        exact hmode
      · rw [retired]
        exact hd.retired
  | connect serviceId login sent service retired =>
      refine ⟨⟨serviceId, login⟩, .fresh login sent, ?_⟩
      rw [retired]
      intro s hs
      rcases List.mem_append.mp hs with hold | hlast
      · exact hd.retired s hold
      · exact List.mem_singleton.mp hlast ▸ hd.current

theorem RightModes.step {ι : Type} {lib : ImageLib ι} (d : DaemonLoop) (action : Action)
    (d' : DaemonLoop) (hd : RightModes d) (hplaced : NoneMisplaced d action)
    (h : loopStep lib d action = some d') : RightModes d' := by
  have hmoves : Moves Fits d d' := by
    refine loopStep_moves (fun mode m hm => hm.fits mode) ?_ ?_ h
    · rintro m ⟨action, rfl⟩
      exact ⟨fun _ => rfl, id⟩
    · rintro req cmd rfl hline hmode hswitch m hm
      refine hm.fits hmode fun hmisplaced => hplaced cmd hline hmisplaced ?_
      rw [← hmode]
      exact (switchMode_ok_iff d req.switchMode cmd).mp hswitch
  exact Moves.invariant (fun _ _ hinv hmove => hinv.move hmove) hmoves hd

/-- Over any run in which no clipboard command and no push gets past its mode switch, every
stream the daemon has used carries terminal actions only if it was logged in to a terminal,
and file messages only if it was logged in for a file transfer. -/
theorem handlers_run_in_their_mode {ι : Type} (lib : ImageLib ι) (config : ConnectionConfig)
    (conn : NewConnection) (d₀ d : DaemonLoop) (actions : List Action)
    (hstart : startLoop config conn = some d₀)
    (hplaced : (loopMachine lib).Meets NoneMisplaced d₀ actions)
    (hrun : (loopMachine lib).run d₀ actions = some d) :
    ∀ s ∈ d.retired ++ [d.encrypted], RightMode s := by
  have hinit : RightModes d₀ := by
    unfold startLoop at hstart
    split at hstart
    · cases hstart
    · rename_i s hs
      obtain ⟨hlogin, _, hsent⟩ := initializeStreamForMode_ok hs
      rw [← Option.some.inj hstart]
      exact ⟨⟨none, hlogin⟩, .fresh hlogin hsent, by simp⟩
  have hd := (loopMachine lib).invariant_of_meets RightModes.step hinit hplaced hrun
  intro s hs
  rcases List.mem_append.mp hs with hold | hlast
  · exact hd.retired s hold
  · exact List.mem_singleton.mp hlast ▸ hd.current

/-- A shell is opened on a stream of its mode, which is given up when nothing answers. -/
theorem handlers_run_in_their_mode_shell :
    ∃ d, (loopMachine sampleImages).run sampleDaemon
        [.accept (sampleRequest (.ok .shell) [] (.ok (sampleConn [])))] = some d ∧
      d.retired.map Stream.sent =
        [sampleDaemon.encrypted.sent, [.terminal (.openTerminal 0 24 80)]] ∧
      ∀ s ∈ d.retired, RightMode s := by
  have hplaced : (loopMachine sampleImages).Meets NoneMisplaced sampleDaemon
      [.accept (sampleRequest (.ok .shell) [] (.ok (sampleConn [])))] := by
    refine ⟨?_, trivial⟩
    intro cmd hline hmisplaced
    obtain rfl := Except.ok.inj hline
    exact hmisplaced.elim
  have hmodes := handlers_run_in_their_mode sampleImages _ _ _ _ _ startLoop_sample hplaced rfl
  exact ⟨_, rfl, rfl, fun s hs => hmodes s (List.mem_append_left _ hs)⟩

/-- `ClipboardGet` opens a terminal on the default connection. -/
theorem clipboard_opens_terminal_on_default_stream :
    ∃ d, Reachable sampleImages d ∧ d.encrypted.login = loginFor .defaultConn none ∧
      d.encrypted.sent = sampleDaemon.encrypted.sent ++ [.terminal (.openTerminal 0 24 80)] ∧
      ¬ RightMode d.encrypted := by
  have hrun : ∃ d, (loopMachine sampleImages).run sampleDaemon
        [.accept (sampleRequest (.ok .clipboardGet) [] (.ok (sampleConn [])))] = some d ∧
      d.encrypted.login = loginFor .defaultConn none ∧
      d.encrypted.sent = sampleDaemon.encrypted.sent ++ [.terminal (.openTerminal 0 24 80)] :=
    ⟨_, rfl, rfl, rfl⟩
  obtain ⟨d, hd, hlogin, hsent⟩ := hrun
  refine ⟨d, ⟨_, _, _, _, startLoop_sample, hd⟩, hlogin, hsent, ?_⟩
  intro hright
  obtain ⟨hmode, _⟩ := hright.1 (.terminal (.openTerminal 0 24 80)) (by simp [hsent]) ⟨_, rfl⟩
  rw [hlogin] at hmode
  cases hmode

end RustdeskCli.Daemon
