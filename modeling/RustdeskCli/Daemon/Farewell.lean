import RustdeskCli.Daemon.Modes
set_option autoImplicit false

/-!
# Daemon: the conversation on a connection

A connection of the daemon carries a conversation of a fixed shape: the messages of its
mode's initialisation, then the work of the loop and of the handlers, and at the very end
of the daemon one close request of its own.  Every turn of the loop either talks on, on
the stream it has or on new ones, or talks and then leaves through `graceful_shutdown`;
what holds over whole runs is read off these two.
-/

namespace RustdeskCli.Daemon

open RustdeskCli.Foundation
open RustdeskCli.Session
open RustdeskCli.Terminal
open RustdeskCli.Capture
open RustdeskCli.Transfer

/-! ## Turns -/

/-- The message asks the peer to close. -/
def IsFarewell (m : Outgoing) : Prop := ∃ reason, m = .closeReason reason

/-- What the loop and the handlers send between the start and the end of a conversation. -/
def Between (m : Outgoing) : Prop := ¬ IsInit m ∧ ¬ IsFarewell m

theorem IsTerminal.between {m : Outgoing} (h : IsTerminal m) : Between m := by
  obtain ⟨action, rfl⟩ := h
  refine ⟨id, ?_⟩
  rintro ⟨reason, hm⟩
  cases hm

theorem IsTransfer.between {m : Outgoing} (h : IsTransfer m) : Between m := by
  rcases h with hfile | hecho
  · refine ⟨?_, ?_⟩
    · intro hinit
      cases m <;> first | exact hinit.elim | exact hfile.elim
    · rintro ⟨reason, rfl⟩
      exact hfile.elim
  · obtain ⟨td, rfl⟩ := hecho
    refine ⟨id, ?_⟩
    rintro ⟨reason, hm⟩
    cases hm

theorem IsScreenshotRequest.between {m : Outgoing} (h : IsScreenshotRequest m) : Between m := by
  obtain ⟨display, sid, rfl⟩ := h
  refine ⟨id, ?_⟩
  rintro ⟨reason, hm⟩
  cases hm

theorem SentFor.between {cmd : SessionCommand} {m : Outgoing} (h : SentFor cmd m) : Between m := by
  cases cmd with
  | exec command timeout => exact IsTerminal.between h
  | clipboardGet => exact IsTerminal.between h
  | clipboardSet text => exact IsTerminal.between h
  | capture output format quality region display timeoutSecs =>
      exact IsScreenshotRequest.between h
  | _ => exact h.elim

/-- Nothing but frames waits to be read. -/
def Stream.FramesOnly (s : Stream) : Prop := ∀ event ∈ s.inbox, Stream.isFrame event = true

/-- After a handler nothing is left but frames. -/
theorem Stream.settle_framesOnly (s : Stream) : s.settle.FramesOnly :=
  fun _ hevent => (List.mem_filter.mp hevent).2

namespace DaemonLoop

/-- The daemon works on its stream or takes a new one, and is as much in its loop as before. -/
structure Talks (d d' : DaemonLoop) : Prop where
  moves : Moves (fun _ => Between) d d'
  returned : d'.returned = d.returned
  files : d'.files = d.files
  frames : d.encrypted.FramesOnly → d'.encrypted.FramesOnly

/-- One turn of the loop: the daemon talks, and leaves the loop after it or stays. -/
inductive Turn (d d' : DaemonLoop) : Prop where
  | stays (talks : d.Talks d')
  | leaves {d₁ : DaemonLoop} (close : Option Error) (result : Except Error Unit)
      (talks : d.Talks d₁) (left : d' = d₁.leave close result)

section Turns

variable {ι : Type} {lib : ImageLib ι} {d d' d'' : DaemonLoop}

theorem Talks.refl (d : DaemonLoop) : d.Talks d := ⟨.refl, rfl, rfl, id⟩

theorem Talks.trans (h : d.Talks d') (h' : d'.Talks d'') : d.Talks d'' :=
  ⟨h.moves.trans h'.moves, h'.returned.trans h.returned, h'.files.trans h.files,
    h'.frames ∘ h.frames⟩

/-- Talking before a turn belongs to the turn. -/
theorem Turn.after (h : d.Talks d') (h' : d'.Turn d'') : d.Turn d'' := by
  cases h' with
  | stays talks => exact .stays (h.trans talks)
  | leaves close result talks left => exact .leaves close result (h.trans talks) left

/-- Sending one message. -/
theorem send_talks (d : DaemonLoop) {m : Outgoing} (hm : Between m) :
    d.Talks { d with encrypted := (d.encrypted.send m).2 } := by
  refine ⟨.single (.ofExtends (d.encrypted.send_extends hm) fun _ => id), rfl, rfl, ?_⟩
  intro hd event hevent
  exact hd event (by simpa using hevent)

theorem reconnect_files (d : DaemonLoop) (attempts : Attempts) (connType : ConnType) :
    (d.reconnect attempts connType).2.files = d.files := by
  unfold reconnect
  simp only
  split <;> rfl

/-- A new stream brings frames. -/
theorem reconnectStream_inbox {attempts : Attempts} {session session' : Session}
    {connType : ConnType} {serviceId : Option Text} {s : Stream}
    (h : reconnectStream attempts session connType serviceId = (.ok s, session')) :
    ∃ conn : NewConnection, s.inbox = conn.frames.map .frame := by
  unfold reconnectStream at h
  split at h
  · cases h
  · rename_i conn _
    split at h
    · cases h
    · rename_i s₁ hinit
      obtain ⟨hs, _⟩ := Prod.mk.inj h
      obtain ⟨_, hinbox, _⟩ := initializeStreamForMode_ok hinit
      rw [← Except.ok.inj hs]
      exact ⟨conn, hinbox⟩

theorem reconnect_frames (d : DaemonLoop) (attempts : Attempts) (connType : ConnType)
    (hd : d.encrypted.FramesOnly) : (d.reconnect attempts connType).2.encrypted.FramesOnly := by
  unfold reconnect
  simp only
  split
  · exact hd
  · rename_i hstream
    obtain ⟨conn, hinbox⟩ := reconnectStream_inbox hstream
    intro event hevent
    rw [hinbox] at hevent
    obtain ⟨frame, _, rfl⟩ := List.mem_map.mp hevent
    rfl

/-- A reconnect in the active mode, whether it succeeds or not. -/
theorem reconnect_talks (d : DaemonLoop) (attempts : Attempts) :
    d.Talks (d.reconnect attempts d.activeConnType).2 := by
  have hmove := reconnect_move (K := fun _ => Between) d attempts d.activeConnType (.inl rfl)
  have hmode := reconnect_mode d attempts d.activeConnType
  refine ⟨?_, reconnect_returned d attempts _, reconnect_files d attempts _,
    reconnect_frames d attempts _⟩
  split at hmove <;> rename_i d₁ hresult <;> rw [hresult] at hmode ⊢
  · rw [← show d₁.activeConnType = d.activeConnType from hmode] at hmove
    exact .single hmove
  · exact .single hmove

theorem recover_turn (d : DaemonLoop) (attempts : Attempts) (close : Option Error) :
    d.Turn (d.recover attempts close) := by
  have htalks := d.reconnect_talks attempts
  unfold recover
  split <;> rename_i d₁ hresult <;> rw [hresult] at htalks
  · exact .stays htalks
  · exact .leaves close _ htalks rfl

theorem readFrame_turn (d : DaemonLoop) (attempts : Attempts) (close : Option Error)
    (frame : Frame) : d.Turn (d.readFrame attempts close frame) := by
  unfold readFrame
  split
  · exact .stays (.refl d)
  · exact .stays (.refl d)
  · exact recover_turn d attempts close
  · rename_i m
    have htalks : d.Talks { d with encrypted := (handlePeerMessage d.encrypted m).2 } := by
      unfold handlePeerMessage
      split
      · refine d.send_talks ⟨id, ?_⟩
        rintro ⟨reason, hm⟩
        cases hm
      · exact .refl d
      · exact .refl d
    split <;> rename_i hm <;> rw [hm] at htalks
    · exact .stays htalks
    · exact .leaves close _ htalks rfl

theorem inbox_talks (d : DaemonLoop) {inbox : List Event}
    (hinbox : d.encrypted.FramesOnly → ∀ event ∈ inbox, Stream.isFrame event = true) :
    d.Talks { d with encrypted := { d.encrypted with inbox := inbox } } :=
  ⟨.single (inbox_move d inbox), rfl, rfl, hinbox⟩

/-- Reading what comes first. -/
theorem read_talks {event : Event} {inbox : List Event} (h : d.encrypted.inbox = event :: inbox) :
    d.Talks { d with encrypted := { d.encrypted with inbox := inbox } } := by
  refine d.inbox_talks fun hd other hother => hd other ?_
  rw [h]
  exact List.mem_cons_of_mem _ hother

theorem peerMessage_turn {attempts : Attempts} {close : Option Error}
    (h : d.peerMessage attempts close = some d') : d.Turn d' := by
  unfold peerMessage at h
  split at h
  · rename_i frame inbox hinbox
    rw [← Option.some.inj h]
    exact .after (read_talks hinbox) (readFrame_turn _ attempts close frame)
  · rename_i inbox _ hinbox
    rw [← Option.some.inj h]
    exact .stays (read_talks hinbox)
  · split at h
    · rw [← Option.some.inj h]
      exact recover_turn d attempts close
    · cases h

theorem heartbeatTick_turn (d : DaemonLoop) (expired : Bool) (attempts : Attempts)
    (close : Option Error) : d.Turn (d.heartbeatTick expired attempts close) := by
  have hbetween : Between .heartbeat := by
    refine ⟨id, ?_⟩
    rintro ⟨reason, hm⟩
    cases hm
  have htalks := d.send_talks hbetween
  unfold heartbeatTick
  split <;> rename_i hsend <;> rw [hsend] at htalks
  · exact .after htalks (recover_turn _ attempts close)
  · split
    · exact .after htalks (recover_turn _ attempts close)
    · exact .stays htalks

/-! ### Requests -/

theorem switchMode_files (d : DaemonLoop) (attempts : Attempts) (cmd : SessionCommand) :
    (d.switchMode attempts cmd).2.files = d.files := by
  unfold switchMode
  simp only
  split
  · set d₁ := if connTypeForCommand cmd ≠ .terminal then { d with activeServiceId := none } else d
      with hd₁
    have hsame : d₁.files = d.files := by
      rw [hd₁]
      split <;> rfl
    have hfiles := reconnect_files d₁ attempts (connTypeForCommand cmd)
    split <;> rename_i hresult <;> rw [hresult] at hfiles <;> exact hfiles.trans hsame
  · rfl

theorem switchMode_frames (d : DaemonLoop) (attempts : Attempts) (cmd : SessionCommand)
    (hd : d.encrypted.FramesOnly) : (d.switchMode attempts cmd).2.encrypted.FramesOnly := by
  unfold switchMode
  simp only
  split
  · set d₁ := if connTypeForCommand cmd ≠ .terminal then { d with activeServiceId := none } else d
      with hd₁
    have hsame : d₁.encrypted.FramesOnly := by
      rw [hd₁]
      split <;> exact hd
    have hframes := reconnect_frames d₁ attempts (connTypeForCommand cmd) hsame
    split <;> rename_i hresult <;> rw [hresult] at hframes <;> exact hframes
  · exact hd

theorem switchMode_talks (d : DaemonLoop) (attempts : Attempts) (cmd : SessionCommand) :
    d.Talks (d.switchMode attempts cmd).2 :=
  ⟨(switchMode_moves d attempts cmd).1, switchMode_returned d attempts cmd,
    switchMode_files d attempts cmd, switchMode_frames d attempts cmd⟩

/-- The runs of a handler talk on the daemon's stream. -/
def RunTalks (mode : ConnType) (run : CommandEnv → List Stream.Wake → DaemonLoop → Uds → Run) :
    Prop :=
  ∀ env wakes d uds result d' uds', d.activeConnType = mode →
    run env wakes d uds = some (result, d', uds') → d.Talks d' ∧ d'.activeConnType = mode

theorem runPush_talks (localPath remotePath : Text) (mode : ConnType) :
    RunTalks mode (runPush localPath remotePath) := by
  intro env wakes d uds result d' uds' hmode h
  obtain ⟨hmove, hmode'⟩ := runPush_moves (K := fun _ => Between)
    (fun m hm => IsTransfer.between hm) env wakes d uds result d' uds' hmode h
  unfold runPush at h
  split at h
  · cases h
  · obtain ⟨_, hrest⟩ := Prod.mk.inj (Option.some.inj h)
    rw [← (Prod.mk.inj hrest).1] at hmove hmode' ⊢
    exact ⟨⟨.single hmove, rfl, rfl, fun _ => Stream.settle_framesOnly _⟩, hmode'⟩

theorem runExec_talks (command : Text) : RunTalks .terminal (runExec command) := by
  intro env wakes d uds result d' uds' hmode h
  obtain ⟨hmove, hmode'⟩ := runExec_moves (K := fun _ => Between)
    (fun m hm => IsTerminal.between hm) env wakes d uds result d' uds' hmode h
  unfold runExec at h
  obtain ⟨_, hrest⟩ := Prod.mk.inj (Option.some.inj h)
  rw [← (Prod.mk.inj hrest).1] at hmove hmode' ⊢
  exact ⟨⟨.single hmove, rfl, rfl, fun _ => Stream.settle_framesOnly _⟩, hmode'⟩

theorem runCommand_talks (cmd : SessionCommand) (mode : ConnType) :
    RunTalks mode (runCommand lib cmd) := by
  intro env wakes d uds result d' uds' hmode h
  obtain ⟨hmove, hmode'⟩ := runCommand_moves (K := fun _ => Between)
    (fun m hm => SentFor.between hm) env wakes d uds result d' uds' hmode h
  rw [runCommand_eq] at h
  obtain ⟨_, hrest⟩ := Prod.mk.inj (Option.some.inj h)
  rw [← (Prod.mk.inj hrest).1] at hmove hmode' ⊢
  exact ⟨⟨.single hmove, rfl, rfl, fun _ => Stream.settle_framesOnly _⟩, hmode'⟩

theorem withRetry_turn {req : Request} {what : Text}
    {run : CommandEnv → List Stream.Wake → DaemonLoop → Uds → Run} {mode : ConnType}
    (hrun : RunTalks mode run) (hmode : d.activeConnType = mode) {uds uds' : Uds}
    (h : d.withRetry req what run uds = some (uds', d')) : d.Turn d' := by
  cases withRetry_retried h with
  | once hfirst hanswer => exact .stays (hrun _ _ _ _ _ _ _ hmode hfirst).1
  | gaveUp hfirst hlost hfailed =>
      rename_i d₁ d₂ uds₁ message
      have htalks := d₁.reconnect_talks req.reconnect
      rw [hfailed] at htalks
      exact .leaves _ _ ((hrun _ _ _ _ _ _ _ hmode hfirst).1.trans htalks) rfl
  | twice hfirst hlost hconnected hsecond hanswer =>
      rename_i d₁ d₂ uds₁ uds₂ result final
      obtain ⟨hfirstTalks, hmode₁⟩ := hrun _ _ _ _ _ _ _ hmode hfirst
      have htalks := d₁.reconnect_talks req.reconnect
      have hmode₂ := reconnect_mode d₁ req.reconnect d₁.activeConnType
      rw [hconnected] at htalks hmode₂
      have hsecondTalks := (hrun _ _ _ _ _ _ _ (hmode₂.trans hmode₁) hsecond).1
      exact .stays ((hfirstTalks.trans htalks).trans hsecondTalks)

theorem runShell_turn (hmode : d.activeConnType = .terminal) (req : Request) (uds : Uds) :
    d.Turn (d.runShell req uds).2 := by
  have hsent := (d.encrypted.schedule_extends IsTerminal req.firstWakes).trans
    (shellSession_extends req.first.exec.zstd (d.encrypted.schedule req.firstWakes) uds
      d.activeServiceId)
  have hsettled := hsent.trans (Stream.settle_extends IsTerminal _)
  have htalks : d.Talks { d with
      encrypted := (shellSession req.first.exec.zstd (d.encrypted.schedule req.firstWakes) uds
        d.activeServiceId).2.1.settle
      activeServiceId := (shellSession req.first.exec.zstd (d.encrypted.schedule req.firstWakes)
        uds d.activeServiceId).2.2.2 } :=
    ⟨.single (.work rfl hsettled.login (hsettled.sent.mono fun _ => IsTerminal.between)
      (fun _ => .inr hmode) rfl), rfl, rfl, fun _ => Stream.settle_framesOnly _⟩
  unfold runShell
  simp only
  split
  · exact .stays htalks
  · split
    · exact .after htalks (recover_turn _ req.reconnect req.close)
    · exact .stays htalks

/-- The branch of the other commands has left the loop, or is still in it. -/
theorem runGeneric_turn {req : Request} {cmd : SessionCommand} {uds uds' : Uds}
    (h : d.runGeneric lib req cmd uds = some (uds', d')) : d.Turn d' := by
  unfold runGeneric at h
  split at h
  · cases h
  · rename_i uds₁ d₁ hrun
    have hturn := withRetry_turn (runCommand_talks cmd d.activeConnType) rfl hrun
    split at h <;> rename_i hleave <;> obtain ⟨_, rfl⟩ := Prod.mk.inj (Option.some.inj h)
    · cases hturn with
      | stays talks => exact .leaves req.close _ talks rfl
      | leaves close result talks left =>
          -- the answer to the disconnect was the end already
          rw [left] at hleave
          cases hleave.1
    · exact hturn

theorem runRequest_turn {req : Request} {cmd : SessionCommand}
    (hmode : d.activeConnType = connTypeForCommand cmd) {uds uds' : Uds}
    (h : d.runRequest lib req cmd uds = some (uds', d')) : d.Turn d' := by
  cases cmd with
  | shell =>
      have hshell := runShell_turn hmode req uds
      rw [(Option.some.inj h : d.runShell req uds = (uds', d'))] at hshell
      exact hshell
  | push localPath remotePath =>
      exact withRetry_turn (runPush_talks localPath remotePath d.activeConnType) rfl h
  | exec command timeout => exact withRetry_turn (runExec_talks command) hmode h
  | _ =>
      unfold runRequest at h
      exact runGeneric_turn h

theorem handleRequest_turn {req : Request} {uds : Uds}
    (h : d.handleRequest lib req = some (uds, d')) : d.Turn d' := by
  unfold handleRequest at h
  simp only at h
  split at h
  · obtain ⟨_, rfl⟩ := Prod.mk.inj (Option.some.inj h)
    exact .stays (.refl d)
  · rename_i cmd _
    have htalks := d.switchMode_talks req.switchMode cmd
    have hmode := (switchMode_moves (K := fun _ => Between) d req.switchMode cmd).2
    split at h <;> rename_i hswitch <;> rw [hswitch] at htalks hmode
    · obtain ⟨_, rfl⟩ := Prod.mk.inj (Option.some.inj h)
      exact .stays htalks
    · exact .after htalks (runRequest_turn (hmode rfl) h)

/-- Every action of the machine is a turn. -/
theorem loopStep_turn {action : Action} (h : loopStep lib d action = some d') : d.Turn d' := by
  unfold loopStep at h
  split at h
  · cases h
  · split at h
    · split at h
      · cases h
      · rename_i frame _
        rw [← Option.some.inj h]
        refine .stays ⟨.single (.ofSent rfl rfl (.refl _ _) rfl rfl), rfl, rfl, ?_⟩
        intro hd event hevent
        rcases List.mem_append.mp hevent with hold | hnew
        · exact hd event hold
        · exact List.mem_singleton.mp hnew ▸ rfl
    · split at h
      · cases h
      · rw [← Option.some.inj h]
        exact .stays ⟨.single (.ofSent rfl rfl (.refl _ _) rfl rfl), rfl, rfl, id⟩
    · rw [← Option.some.inj h]
      refine .stays (d.inbox_talks fun _ event hevent => ?_)
      obtain ⟨frame, _, rfl⟩ := List.mem_map.mp hevent
      rfl
    · exact peerMessage_turn h
    · rw [← Option.some.inj h]
      exact heartbeatTick_turn d _ _ _
    · obtain ⟨⟨uds, d₁⟩, hrequest, rfl⟩ := Option.map_eq_some_iff.mp h
      exact handleRequest_turn hrequest
    · rw [← Option.some.inj h]
      exact .stays (.refl d)
    · rw [← Option.some.inj h]
      exact .leaves _ _ (.refl d) rfl
    · rw [← Option.some.inj h]
      exact .leaves _ _ (.refl d) rfl

end Turns

end DaemonLoop

/-! ## Conversations -/

/-- What has been sent on a stream: the initialisation of its mode, messages that neither
initialise nor close, and `farewell`. -/
def Conversation (s : Stream) (farewell : List Outgoing) : Prop :=
  ∃ body, s.sent = initMessages s.login.connType ++ body ++ farewell ∧ ∀ m ∈ body, Between m

/-- A daemon in its loop: it is logged in for its mode, its files are there, and every
conversation goes on or was broken off without a word. -/
structure Conversing (d : DaemonLoop) : Prop where
  running : d.returned = none
  files : d.files = true
  mode : d.encrypted.login.connType = d.activeConnType
  current : Conversation d.encrypted []
  retired : ∀ s ∈ d.retired, Conversation s []

/-- A daemon that has left its loop: it has taken its leave on its last stream and only
there. -/
structure Parted (d : DaemonLoop) : Prop where
  returned : d.returned.isSome = true
  files : d.files = false
  current : Conversation d.encrypted [.closeReason []]
  retired : ∀ s ∈ d.retired, Conversation s []

/-- Talking goes on with a conversation, and a new stream begins with its initialisation. -/
theorem Conversation.move {d d' : DaemonLoop}
    (hmode : d.encrypted.login.connType = d.activeConnType)
    (hcurrent : Conversation d.encrypted []) (hretired : ∀ s ∈ d.retired, Conversation s [])
    (hmove : Move (fun _ => Between) d d') :
    d'.encrypted.login.connType = d'.activeConnType ∧ Conversation d'.encrypted [] ∧
      ∀ s ∈ d'.retired, Conversation s [] := by
  cases hmove with
  | work mode login sent service retired =>
      obtain ⟨body, hbody, hbetween⟩ := hcurrent
      obtain ⟨added, hadded, hmore⟩ := sent
      refine ⟨?_, ⟨body ++ added, ?_, ?_⟩, ?_⟩
      · rw [login, mode]
        exact hmode
      · rw [hadded, hbody, login]
        simp
      · intro m hm
        rcases List.mem_append.mp hm with hold | hnew
        · exact hbetween m hold
        · exact hmore m hnew
      · rw [retired]
        exact hretired
  | connect serviceId login sent service retired =>
      refine ⟨?_, ⟨[], ?_, by simp⟩, ?_⟩
      · rw [login]
        rfl
      · rw [sent, login]
        simp [loginFor]
      · rw [retired]
        intro s hs
        rcases List.mem_append.mp hs with hold | hlast
        · exact hretired s hold
        · exact List.mem_singleton.mp hlast ▸ hcurrent

theorem Conversing.talks {d d' : DaemonLoop} (hd : Conversing d) (h : d.Talks d') :
    Conversing d' := by
  have hkept : d'.encrypted.login.connType = d'.activeConnType ∧ Conversation d'.encrypted [] ∧
      ∀ s ∈ d'.retired, Conversation s [] :=
    Moves.invariant (fun _ _ hinv hmove => Conversation.move hinv.1 hinv.2.1 hinv.2.2 hmove)
      h.moves ⟨hd.mode, hd.current, hd.retired⟩
  exact ⟨h.returned.trans hd.running, h.files.trans hd.files, hkept.1, hkept.2.1, hkept.2.2⟩

theorem Conversing.leave {d : DaemonLoop} (hd : Conversing d) (close : Option Error)
    (result : Except Error Unit) : Parted (d.leave close result) := by
  obtain ⟨body, hbody, hbetween⟩ := hd.current
  refine ⟨rfl, rfl, ⟨body, ?_, hbetween⟩, hd.retired⟩
  have hsent : (d.leave close result).encrypted.sent = d.encrypted.sent ++ [.closeReason []] :=
    d.encrypted.send_sent _
  have hlogin : (d.leave close result).encrypted.login = d.encrypted.login :=
    d.encrypted.send_login _
  rw [hsent, hlogin, hbody]
  simp

/-- One action takes a daemon that is conversing to one that is, or to one that has parted. -/
theorem Conversing.step {ι : Type} {lib : ImageLib ι} (d : DaemonLoop) (action : Action)
    (d' : DaemonLoop) (hd : Conversing d ∨ Parted d) (h : loopStep lib d action = some d') :
    Conversing d' ∨ Parted d' := by
  rcases hd with hd | hd
  · cases DaemonLoop.loopStep_turn h with
    | stays talks => exact .inl (hd.talks talks)
    | leaves close result talks left =>
        rw [left]
        exact .inr ((hd.talks talks).leave close result)
  · unfold loopStep at h
    rw [if_pos hd.returned] at h
    cases h

theorem startLoop_conversing {config : ConnectionConfig} {conn : NewConnection} {d : DaemonLoop}
    (h : startLoop config conn = some d) : Conversing d := by
  unfold startLoop at h
  split at h
  · cases h
  · rename_i s hs
    obtain ⟨hlogin, _, hsent⟩ := initializeStreamForMode_ok hs
    rw [← Option.some.inj h]
    refine ⟨rfl, rfl, ?_, ⟨[], ?_, by simp⟩, by simp⟩
    · rw [hlogin]
      rfl
    · rw [hsent, hlogin]
      simp [NewConnection.stream, loginFor]

/-- Over any run of a daemon every stream it has used carries the initialisation of its mode,
once and first.  A close request is sent exactly when the daemon returns, last on the stream
of that moment; the streams given up before it end without one.  The socket and the lock file
are there exactly until then. -/
theorem one_farewell_per_daemon {ι : Type} (lib : ImageLib ι) (config : ConnectionConfig)
    (conn : NewConnection) (d₀ d : DaemonLoop) (actions : List Action)
    (hstart : startLoop config conn = some d₀)
    (hrun : (loopMachine lib).run d₀ actions = some d) :
    Conversation d.encrypted (if d.returned.isSome then [.closeReason []] else []) ∧
      (∀ s ∈ d.retired, Conversation s []) ∧ d.files = d.returned.isNone := by
  have hd : Conversing d ∨ Parted d := (loopMachine lib).invariant Conversing.step
    (.inl (startLoop_conversing hstart)) hrun
  rcases hd with hd | hd
  · have hnone := hd.running
    rw [hnone]
    exact ⟨hd.current, hd.retired, hd.files⟩
  · rw [if_pos hd.returned]
    refine ⟨hd.current, hd.retired, ?_⟩
    rw [hd.files]
    cases hreturned : d.returned with
    | none => exact absurd hd.returned (by simp [hreturned])
    | some result => rfl

/-- A shell and a signal: the first stream is broken off, the second is left with a close
request. -/
theorem one_farewell_per_daemon_shell :
    ∃ d, (loopMachine sampleImages).run sampleDaemon
        [.accept (sampleRequest (.ok .shell) [] (.ok (sampleConn []))), .signal none] = some d ∧
      d.returned = some (.ok ()) ∧ Conversation d.encrypted [.closeReason []] ∧
      ∀ s ∈ d.retired, Conversation s [] := by
  obtain ⟨hcurrent, hretired, _⟩ := one_farewell_per_daemon sampleImages _ _ _ _
    [.accept (sampleRequest (.ok .shell) [] (.ok (sampleConn []))), .signal none]
    startLoop_sample rfl
  exact ⟨_, rfl, rfl, hcurrent, hretired⟩

end RustdeskCli.Daemon
