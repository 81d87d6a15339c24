import RustdeskCli.Daemon.ForeignMessages
set_option autoImplicit false

/-!
# Daemon: errors of the peer at the end of a push (`src/file_transfer.rs`, `src/daemon.rs`)

After the last block `wait_for_done` says that the file is complete and looks for half a
second whether the peer reports an error.  It reads one event of the transfer and takes
everything but a `FileTransferError` for success, so an error that is queued behind another
event of the transfer is never read, and neither is one behind whatever makes
`recv_file_event` fail.  The error is reported exactly when nothing but messages for
somebody else stands in front of it, and the echoes that these ask for can be sent.
-/

namespace RustdeskCli.Daemon

open RustdeskCli.Foundation
open RustdeskCli.Session
open RustdeskCli.Terminal
open RustdeskCli.Transfer
open RustdeskCli.Cli

/-! ## What the wait has before it -/

/-- The frames that come before the timer of the wait ends it. -/
def available : List Event → List Frame
  | [] => []
  | .frame frame :: inbox => frame :: available inbox
  | .line _ :: inbox => available inbox
  | .elapsed _ :: _ => []

/-- An error of the transfer comes, and no `FileTransferDone` of the transfer before it. -/
def ErrorBeforeDone (jobId : Int) (frames : List Frame) : Prop :=
  ∃ before err after, frames = before ++ .message (.fileError err) :: after ∧ err.id = jobId ∧
    ∀ done, .message (.fileDone done) ∈ before → done.id ≠ jobId

/-- How many echoes the frames ask for. -/
def echoCount (frames : List Frame) : Nat := (echoes (frames.map .frame)).length

/-- The next `n` sends succeed. -/
def SendsSucceed (n : Nat) (sends : List (Option Error)) : Prop :=
  ∀ k < n, (sends[k]?).join = none

/-- An error of the transfer comes, behind nothing but messages for somebody else, whose
echoes can be sent. -/
def ErrorFirst (jobId : Int) (frames : List Frame) (sends : List (Option Error)) : Prop :=
  ∃ before err after, frames = before ++ .message (.fileError err) :: after ∧ err.id = jobId ∧
    (∀ frame ∈ before, ForeignToJob jobId (.frame frame)) ∧ SendsSucceed (echoCount before) sends

theorem sendsSucceed_zero (sends : List (Option Error)) : SendsSucceed 0 sends :=
  fun _ hk => absurd hk (Nat.not_lt_zero _)

theorem sendsSucceed_succ {n : Nat} {sends : List (Option Error)} :
    SendsSucceed (n + 1) sends ↔ nextOutcome sends = none ∧ SendsSucceed n sends.tail := by
  unfold SendsSucceed nextOutcome
  constructor
  · intro h
    refine ⟨by rw [List.head?_eq_getElem?]; exact h 0 (Nat.succ_pos n), fun k hk => ?_⟩
    rw [List.getElem?_tail]
    exact h (k + 1) (Nat.succ_lt_succ hk)
  · rintro ⟨hfirst, hrest⟩ k hk
    cases k with
    | zero => rwa [List.head?_eq_getElem?] at hfirst
    | succ k =>
        have hsend := hrest k (Nat.lt_of_succ_lt_succ hk)
        rwa [List.getElem?_tail] at hsend

theorem echoCount_cons (frame : Frame) (frames : List Frame) :
    echoCount (frame :: frames) =
      (testDelay? (.frame frame)).toList.length + echoCount frames := by
  unfold echoCount
  rw [List.map_cons, echoes_cons, List.length_append]
  cases testDelay? (.frame frame) <;> rfl

namespace ErrorFirst

variable {jobId : Int} {frame : Frame} {frames : List Frame} {sends : List (Option Error)}

theorem nil : ¬ ErrorFirst jobId [] sends := by
  rintro ⟨before, err, after, heq, -⟩
  cases before <;> cases heq

/-- The error itself. -/
theorem error {err : FileTransferError} (h : err.id = jobId) :
    ErrorFirst jobId (.message (.fileError err) :: frames) sends :=
  ⟨[], err, frames, rfl, h, fun _ hframe => absurd hframe List.not_mem_nil, sendsSucceed_zero _⟩

/-- A message for somebody else that asks for no echo. -/
theorem foreign (hforeign : ForeignToJob jobId (.frame frame))
    (hdelay : testDelay? (.frame frame) = none) :
    ErrorFirst jobId (frame :: frames) sends ↔ ErrorFirst jobId frames sends := by
  constructor
  · rintro ⟨_ | ⟨first, before⟩, err, after, heq, hid, hbefore, hsends⟩
    · obtain ⟨rfl, -⟩ := List.cons.inj heq
      exact absurd hid hforeign
    · obtain ⟨rfl, rfl⟩ := List.cons.inj heq
      rw [echoCount_cons, hdelay] at hsends
      refine ⟨before, err, after, rfl, hid,
        fun other hother => hbefore other (List.mem_cons_of_mem _ hother), ?_⟩
      rwa [Option.toList_none, List.length_nil, Nat.zero_add] at hsends
  · rintro ⟨before, err, after, rfl, hid, hbefore, hsends⟩
    refine ⟨frame :: before, err, after, rfl, hid, ?_, ?_⟩
    · rintro other (_ | ⟨_, hother⟩)
      · exact hforeign
      · exact hbefore other hother
    · rw [echoCount_cons, hdelay]
      rwa [Option.toList_none, List.length_nil, Nat.zero_add]

/-- A `TestDelay`. -/
theorem delay {td : TestDelay} :
    ErrorFirst jobId (.message (.testDelay td) :: frames) sends ↔
      nextOutcome sends = none ∧ ErrorFirst jobId frames sends.tail := by
  constructor
  · rintro ⟨_ | ⟨first, before⟩, err, after, heq, hid, hbefore, hsends⟩
    · cases heq
    · obtain ⟨rfl, rfl⟩ := List.cons.inj heq
      rw [echoCount_cons, Nat.add_comm] at hsends
      obtain ⟨hnext, hsends⟩ := sendsSucceed_succ.mp hsends
      exact ⟨hnext, before, err, after, rfl, hid,
        fun other hother => hbefore other (List.mem_cons_of_mem _ hother), hsends⟩
  · rintro ⟨hnext, before, err, after, rfl, hid, hbefore, hsends⟩
    refine ⟨.message (.testDelay td) :: before, err, after, rfl, hid, ?_, ?_⟩
    · rintro other (_ | ⟨_, hother⟩)
      · trivial
      · exact hbefore other hother
    · rw [echoCount_cons, Nat.add_comm]
      exact sendsSucceed_succ.mpr ⟨hnext, hsends⟩

/-- Anything else in front hides the error. -/
theorem hidden (hforeign : ¬ ForeignToJob jobId (.frame frame))
    (herror : ∀ err, frame = .message (.fileError err) → err.id ≠ jobId) :
    ¬ ErrorFirst jobId (frame :: frames) sends := by
  rintro ⟨_ | ⟨first, before⟩, err, after, heq, hid, hbefore, -⟩
  · exact herror err (List.cons.inj heq).1 hid
  · obtain ⟨rfl, -⟩ := List.cons.inj heq
    exact hforeign (hbefore frame List.mem_cons_self)

end ErrorFirst

/-! ## The wait -/

/-- What ends a wait is an error of the transfer. -/
def IsError (reply : Option (Except Error FileTransferEvent)) : Prop :=
  ∃ err, reply = some (.ok (.error err))

/-- A frame that is neither for somebody else nor an error of the transfer ends the wait
with something else. -/
theorem recvFileEvent_hides {jobId : Int} {frame : Frame}
    (hforeign : ¬ ForeignToJob jobId (.frame frame))
    (herror : ∀ err, frame = .message (.fileError err) → err.id ≠ jobId) (inbox : List Event)
    (s : Stream) :
    ¬ IsError (recvFileEventSkipping (fun _ => false) true jobId (.frame frame :: inbox) s).1 := by
  rintro ⟨err, h⟩
  unfold recvFileEventSkipping at h
  -- another event of the transfer
  have hevent : ∀ id event, ¬ id ≠ jobId → (∀ err, event ≠ .error err) →
      fileStep jobId s frame ≠ (ofJob jobId id event, s) := by
    intro id event hid hother hstep
    rw [hstep, ofJob, if_pos (not_not.mp hid)] at h
    exact hother err (Except.ok.inj (Option.some.inj h))
  rcases frame with _ | m | e | e
  case heartbeat => exact hforeign trivial
  case undecodable | failed => cases h
  case message =>
    cases m with
    | sendConfirm confirm =>
        exact hevent confirm.id (.confirm confirm) hforeign (by intro _ h; cases h) rfl
    | digest digest => exact hevent digest.id (.digest digest) hforeign (by intro _ h; cases h) rfl
    | fileDone done => exact hevent done.id (.done done) hforeign (by intro _ h; cases h) rfl
    | fileError error => exact hforeign (herror error rfl)
    | closeReason reason => cases h
    | _ => exact hforeign trivial

/-- The wait ends with an error of the transfer exactly when one comes first. -/
theorem recvFileEvent_isError_iff (jobId : Int) (inbox : List Event) (s : Stream) :
    IsError (recvFileEventSkipping (fun _ => false) true jobId inbox s).1 ↔
      ErrorFirst jobId (available inbox) s.sends := by
  induction inbox generalizing s with
  | nil =>
      refine iff_of_false ?_ ErrorFirst.nil
      rintro ⟨err, h⟩
      obtain ⟨e, -, he⟩ := Option.map_eq_some_iff.mp h
      cases he
  | cons event inbox ih =>
      rcases event with frame | timer | line
      · rw [available]
        by_cases hforeign : ForeignToJob jobId (.frame frame)
        · rcases hdelay : testDelay? (.frame frame) with _ | td
          · rw [recvFileEventSkipping_foreign _ _ jobId hforeign hdelay, ih,
              ErrorFirst.foreign hforeign hdelay]
          · obtain rfl : frame = .message (.testDelay td) :=
              Event.frame.inj (testDelay?_eq_some hdelay)
            rw [recvFileEventSkipping_delay _ _ jobId hdelay, ErrorFirst.delay,
              ← s.send_ok_iff (.testDelay td.echo), ← s.send_sends (.testDelay td.echo)]
            rcases s.send (.testDelay td.echo) with ⟨e | u, s₁⟩
            · refine iff_of_false ?_ (by rintro ⟨h, -⟩; cases h)
              rintro ⟨err, h⟩
              cases h
            · rw [and_iff_right rfl]
              exact ih s₁
        · by_cases herror : ∃ err, frame = .message (.fileError err) ∧ err.id = jobId
          · obtain ⟨err, rfl, hid⟩ := herror
            have hstep : fileStep jobId s (.message (.fileError err)) = (.event (.error err), s) :=
              congrArg (·, s) (if_pos hid)
            refine iff_of_true ⟨err, ?_⟩ (ErrorFirst.error hid)
            unfold recvFileEventSkipping
            rw [hstep]
            rfl
          · have hother : ∀ err, frame = .message (.fileError err) → err.id ≠ jobId :=
              fun err hframe hid => herror ⟨err, hframe, hid⟩
            exact iff_of_false (recvFileEvent_hides hforeign hother inbox s)
              (ErrorFirst.hidden hforeign hother)
      · refine iff_of_false ?_ ErrorFirst.nil
        rintro ⟨err, h⟩
        cases h
      · exact ih s

/-! ## The end of a push -/

/-- The peer cannot be told that the file is complete, or an error of the transfer comes
first. -/
def WaitFails (t : PushTransfer) (s : Stream) : Prop :=
  nextOutcome s.sends ≠ none ∨ ErrorFirst t.jobId (available s.inbox) s.sends.tail

theorem waitForDone_error_iff {t : PushTransfer} (hskip : t.skipTransfer = false) (s : Stream) :
    (∃ e, (t.waitForDone s).1 = .error e) ↔ WaitFails t s := by
  have hok := s.send_ok_iff (.fileDone ⟨t.jobId, 0⟩)
  have hsends := s.send_sends (.fileDone ⟨t.jobId, 0⟩)
  have hinbox := s.send_inbox (.fileDone ⟨t.jobId, 0⟩)
  unfold PushTransfer.waitForDone WaitFails
  rw [if_neg (by rw [hskip]; exact Bool.false_ne_true)]
  generalize s.send (.fileDone ⟨t.jobId, 0⟩) = sent at hok hsends hinbox ⊢
  obtain ⟨e | u, s₁⟩ := sent
  · refine iff_of_true ⟨_, rfl⟩ (.inl ?_)
    intro hnone
    cases hok.mpr hnone
  · rw [or_iff_right (not_not.mpr (hok.mp rfl)), ← hsends, ← hinbox]
    dsimp only
    rw [← recvFileEvent_isError_iff, recvFileEvent]
    rcases recvFileEventSkipping _ true t.jobId s₁.inbox s₁ with ⟨reply, s₂⟩
    -- whatever ends the wait, only an error of the transfer makes it fail
    rcases reply with _ | (e | (_ | _ | _ | err))
    case some.ok.error => exact iff_of_true ⟨_, rfl⟩ ⟨err, rfl⟩
    all_goals exact iff_of_false (by rintro ⟨_, h⟩; cases h) (by rintro ⟨_, h⟩; cases h)

/-- The push comes to `wait_for_done` with the transfer `t` and the stream `s`. -/
def ReachesWait (env : CommandEnv) (localPath remotePath : Text) (s₀ : Stream) (uds : Uds)
    (t : PushTransfer) (s : Stream) : Prop :=
  ∃ t₀ s₁ uds₁ seen,
    PushTransfer.begin env.file env.nanos localPath remotePath s₀ = (some (.ok t₀), s₁) ∧
    uds.sendResponse (pushProgressResponse remotePath (progress t₀)) = (.ok (), uds₁) ∧
    sendBlocks env.exec.zstd (reportBlock remotePath) t₀ s₁ (uds₁, t₀.sentBytes) =
      (.ok (), t, s, seen)

theorem pushFileCommand_of_reachesWait {env : CommandEnv} {localPath remotePath : Text}
    {s₀ s : Stream} {uds : Uds} {t : PushTransfer}
    (h : ReachesWait env localPath remotePath s₀ uds t s) :
    (pushFileCommand env localPath remotePath s₀ uds).1 =
      some ((t.waitForDone s).1.map fun _ => pushComplete t) := by
  obtain ⟨t₀, s₁, uds₁, ⟨uds₂, reported⟩, hbegin, hreport, hblocks⟩ := h
  unfold pushFileCommand
  rw [hbegin]
  dsimp only
  rw [hreport]
  dsimp only
  rw [hblocks]
  dsimp only
  rcases t.waitForDone s with ⟨e | u, s₂⟩ <;> rfl

/-- An error of the peer is not swallowed: if one comes within the time limit, and no
`FileTransferDone` before it, then `wait_for_done` fails and the push does not report
success. -/
def ErrorsReported (t : PushTransfer) (s : Stream) : Prop :=
  t.skipTransfer = false → ErrorBeforeDone t.jobId (available s.inbox) →
    (∃ e, (t.waitForDone s).1 = .error e) ∧
      ∀ env localPath remotePath s₀ uds, ReachesWait env localPath remotePath s₀ uds t s →
        ∀ response, (pushFileCommand env localPath remotePath s₀ uds).1 ≠ some (.ok response)

/-- It is not swallowed exactly when nothing stands in front of it but messages for
somebody else whose echoes can be sent, or when the peer cannot be told that the file is
complete. -/
theorem errors_reported_iff (t : PushTransfer) (s : Stream) :
    ErrorsReported t s ↔
      (t.skipTransfer = false → ErrorBeforeDone t.jobId (available s.inbox) → WaitFails t s) := by
  refine forall_congr' fun hskip => forall_congr' fun _ => ?_
  rw [← waitForDone_error_iff hskip s]
  refine and_iff_left_of_imp ?_
  rintro ⟨e, herror⟩ env localPath remotePath s₀ uds hreaches response hsuccess
  rw [pushFileCommand_of_reachesWait hreaches, herror] at hsuccess
  cases hsuccess

/-- The peer has the whole file, confirms the transfer late and then reports an error. -/
def lateConfirm : Stream :=
  { sampleStream with
    inbox := [.frame (.message (.digest ⟨1, 0, 0, 4, true, true, 4, false⟩)),
      .frame (.message (.sendConfirm ⟨1, 0, some (.offsetBlk 4)⟩)),
      .frame (.message (.fileError ⟨1, "No space left on device".toList, 0⟩))] }

/-- The transfer, of which no block is left to send. -/
def lateTransfer : PushTransfer :=
  { sampleTransfer with file := ⟨[], []⟩, sentBytes := 4, resumedBytes := 4 }

/-- The stream when the wait begins. -/
def lateBegun : Stream :=
  { sampleStream with
    inbox := lateConfirm.inbox.tail
    sent := [.receive ⟨1, "/remote".toList, "a.bin".toList, 4, 0, 1, 4⟩,
      .digest ⟨1, 0, 0, 4, false, false, 0, true⟩,
      .sendConfirm ⟨1, 0, some (.offsetBlk 4)⟩] }

/-- The environment of a push of the sample file. -/
def sampleFileEnv : CommandEnv :=
  { sampleCommandEnv with file := { sampleFile with reads := [] } }

/-- The peer's error is behind a confirmation: the wait ends with the confirmation and the
push reports success. -/
theorem late_confirm_hides_error :
    ReachesWait sampleFileEnv "a.bin".toList "/remote/".toList lateConfirm ⟨[], []⟩ lateTransfer
        lateBegun ∧
      ¬ ErrorsReported lateTransfer lateBegun ∧ (lateTransfer.waitForDone lateBegun).1 = .ok () ∧
      (pushFileCommand sampleFileEnv "a.bin".toList "/remote/".toList lateConfirm ⟨[], []⟩).1 =
        some (.ok (pushComplete lateTransfer)) := by
  have hblock : lateTransfer.sendNextBlock sampleFileEnv.exec.zstd lateBegun =
      (.ok false, lateTransfer, lateBegun) := rfl
  have hreaches : ReachesWait sampleFileEnv "a.bin".toList "/remote/".toList lateConfirm ⟨[], []⟩
      lateTransfer lateBegun := by
    refine ⟨lateTransfer, lateBegun, _,
      (⟨[], [.line (pushProgressResponse "/remote/".toList (progress lateTransfer))]⟩, 4),
      by decide +kernel, rfl, ?_⟩
    rw [sendBlocks, hblock]
    rfl
  have hwait : (lateTransfer.waitForDone lateBegun).1 = .ok () := by decide +kernel
  refine ⟨hreaches, fun hreported => ?_, hwait, ?_⟩
  · have hlate : ErrorBeforeDone lateTransfer.jobId (available lateBegun.inbox) :=
      ⟨[.message (.sendConfirm ⟨1, 0, some (.offsetBlk 4)⟩)], _, [], rfl, rfl, by simp⟩
    obtain ⟨⟨e, herror⟩, -⟩ := hreported rfl hlate
    rw [hwait] at herror
    cases herror
  · rw [pushFileCommand_of_reachesWait hreaches, hwait]
    rfl

end RustdeskCli.Daemon
