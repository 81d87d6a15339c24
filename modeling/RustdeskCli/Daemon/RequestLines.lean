import RustdeskCli.Cli.Wire
import RustdeskCli.Daemon.PushErrors
set_option autoImplicit false

/-!
# Daemon: request lines and their answers (`src/daemon.rs`)

Every request line is owed one final answer.  A line that `serde` refuses gets an error, but
one that is no UTF-8 never comes to `serde`: `read_line` fails, and the loop goes on with the
next client without a word to this one.  The other way to leave a client without an answer
is a push, for `PushTransfer::begin` waits for the peer without a limit.
-/

namespace RustdeskCli.Daemon

open RustdeskCli.Foundation
open RustdeskCli.Session
open RustdeskCli.Capture
open RustdeskCli.Transfer
open RustdeskCli.Cli

/-! ## A push that waits for ever -/

/-- The loop of `PushTransfer::begin` reads on after this event. -/
def PassedOver (jobId : Int) : Event → Prop
  | .frame (.message (.fileDone _)) => True
  | .frame frame => ForeignToJob jobId (.frame frame)
  | _ => True

/-- The peer lets a push begin and never answers it, nor does it go away: everything that it
sends is passed over, and the `TestDelay`s among it can be echoed. -/
structure NeverAnswered (env : CommandEnv) (localPath remotePath : Text) (s : Stream) :
    Prop where
  metadata : ∃ metadata, env.file.metadata = .ok metadata ∧ metadata.isFile = true
  target : ∃ target, parseRemoteTarget remotePath localPath = .ok target
  lost : s.lost = none
  passed : ∀ event ∈ s.inbox, PassedOver (newJobId env.nanos) event
  /-- the announcement, and the echoes -/
  sends : SendsSucceed ((echoes s.inbox).length + 2) s.sends

/-- An event that is not passed over ends the wait. -/
theorem recvFileEventSkipping_ends {jobId : Int} {event : Event}
    (hpassed : ¬ PassedOver jobId event) (inbox : List Event) (s : Stream) :
    (recvFileEventSkipping isDone false jobId (event :: inbox) s).1 ≠ none := by
  -- an event of the transfer that is no `Done`
  have hevent : ∀ frame id reply, fileStep jobId s frame = (ofJob jobId id reply, s) →
      ¬ id ≠ jobId → isDone reply = false →
      (recvFileEventSkipping isDone false jobId (.frame frame :: inbox) s).1 ≠ none := by
    intro frame id reply hstep hid hdone h
    unfold recvFileEventSkipping at h
    rw [hstep, ofJob, if_pos (not_not.mp hid)] at h
    dsimp only at h
    rw [if_neg (by rw [hdone]; exact Bool.false_ne_true)] at h
    cases h
  rcases event with frame | timer | line
  case elapsed | line => exact absurd trivial hpassed
  rcases frame with _ | m | e | e
  case heartbeat => exact absurd trivial hpassed
  case undecodable | failed =>
    intro h
    cases h
  cases m with
  | sendConfirm confirm => exact hevent _ confirm.id (.confirm confirm) rfl hpassed rfl
  | digest digest => exact hevent _ digest.id (.digest digest) rfl hpassed rfl
  | fileError error => exact hevent _ error.id (.error error) rfl hpassed rfl
  | closeReason reason =>
      intro h
      cases h
  | _ => exact absurd trivial hpassed

/-- What is passed over and asks for no echo leaves no trace. -/
theorem recvFileEventSkipping_passes {jobId : Int} {event : Event}
    (hpassed : PassedOver jobId event) (hdelay : testDelay? event = none) (inbox : List Event)
    (s : Stream) :
    recvFileEventSkipping isDone false jobId (event :: inbox) s =
      recvFileEventSkipping isDone false jobId inbox s := by
  rcases event with frame | timer | line
  case elapsed | line => rfl
  by_cases hforeign : ForeignToJob jobId (.frame frame)
  · exact recvFileEventSkipping_foreign isDone false jobId hforeign hdelay inbox s
  · obtain ⟨done, rfl⟩ : ∃ done, frame = .message (.fileDone done) := by
      unfold PassedOver at hpassed
      split at hpassed
      · rename_i done heq
        exact ⟨done, Event.frame.inj heq⟩
      · rename_i heq
        cases Event.frame.inj heq
        exact absurd hpassed hforeign
      · rename_i hother
        exact absurd rfl (hother frame)
    have hstep : fileStep jobId s (.message (.fileDone done)) = (.event (.done done), s) :=
      congrArg (·, s) (if_pos (not_not.mp hforeign))
    conv_lhs => unfold recvFileEventSkipping
    rw [hstep]
    rfl

/-- The wait of `begin` comes to no end exactly when there is nothing to end it. -/
theorem recvFileEventSkipping_eq_none_iff (jobId : Int) (inbox : List Event) (s : Stream) :
    (recvFileEventSkipping isDone false jobId inbox s).1 = none ↔
      s.lost = none ∧ (∀ event ∈ inbox, PassedOver jobId event) ∧
        SendsSucceed (echoes inbox).length s.sends := by
  induction inbox generalizing s with
  | nil =>
      have hnil : (recvFileEventSkipping isDone false jobId [] s).1 = none ↔ s.lost = none :=
        Option.map_eq_none_iff
      rw [hnil]
      simp [echoes, sendsSucceed_zero]
  | cons event inbox ih =>
      rw [List.forall_mem_cons, echoes_cons]
      by_cases hpassed : PassedOver jobId event
      · rw [and_iff_right hpassed]
        rcases hdelay : testDelay? event with _ | td
        · rw [recvFileEventSkipping_passes hpassed hdelay, ih]
          rfl
        · have hok := s.send_ok_iff (.testDelay td.echo)
          have hsends := s.send_sends (.testDelay td.echo)
          have hlost := s.send_lost (.testDelay td.echo)
          rw [recvFileEventSkipping_delay isDone false jobId hdelay, Option.map_some,
            Option.toList_some, List.length_append, List.length_singleton, Nat.add_comm,
            sendsSucceed_succ, ← hok]
          generalize s.send (.testDelay td.echo) = sent at hsends hlost ⊢
          obtain ⟨e | _, s₁⟩ := sent
          · exact iff_of_false (fun h => by cases h) fun h => by cases h.2.2.1
          · dsimp only at hsends hlost ⊢
            rw [ih, hsends, hlost, and_iff_right rfl]
      · exact iff_of_false (recvFileEventSkipping_ends hpassed inbox s)
          fun h => hpassed h.2.1.1

/-- The announcement of the file succeeds when there is a file, a name for it on the other
side, and its two messages can be sent. -/
theorem announce_ok_iff {file : LocalFile} {localPath remotePath : Text} {jobId : Int}
    {s : Stream} {metadata : Metadata} :
    (announce file localPath remotePath jobId s).1 = .ok metadata ↔
      file.metadata = .ok metadata ∧ metadata.isFile = true ∧
        (∃ target, parseRemoteTarget remotePath localPath = .ok target) ∧
        SendsSucceed 2 s.sends := by
  unfold announce sendLocalDigest
  cases file.metadata with
  | error e => exact iff_of_false (fun h => by cases h) fun h => by cases h.1
  | ok found =>
      dsimp only
      by_cases hfile : found.isFile = true
      · rw [if_neg (by rw [hfile]; decide)]
        cases parseRemoteTarget remotePath localPath with
        | error e => exact iff_of_false (fun h => by cases h) fun ⟨_, _, ⟨_, h⟩, _⟩ => by cases h
        | ok target =>
            dsimp only
            rw [sendsSucceed_succ, sendsSucceed_succ, and_iff_left (sendsSucceed_zero _)]
            -- the first of the two sends, and then the second
            have hok := s.send_ok_iff (.receive ⟨jobId, target.dir, target.fileName, found.len,
              found.modifiedTime, 1, found.len⟩)
            have hsends := s.send_sends (.receive ⟨jobId, target.dir, target.fileName, found.len,
              found.modifiedTime, 1, found.len⟩)
            rw [← hok]
            generalize s.send _ = sent at hsends ⊢
            obtain ⟨e | _, s₁⟩ := sent
            · exact iff_of_false (fun h => by cases h) fun h => by cases h.2.2.2.1
            · rw [← hsends, ← s₁.send_ok_iff (.digest ⟨jobId, 0, found.modifiedTime, found.len,
                false, false, 0, true⟩)]
              dsimp only
              generalize s₁.send _ = sent
              obtain ⟨e | _, s₂⟩ := sent
              · exact iff_of_false (fun h => by cases h) fun h => by cases h.2.2.2.2
              · refine ⟨fun h => ?_, fun h => h.1⟩
                obtain rfl := Except.ok.inj h
                exact ⟨rfl, hfile, ⟨target, rfl⟩, rfl, rfl⟩
      · rw [if_pos (by simpa using hfile)]
        refine iff_of_false (fun h => by cases h) fun h => hfile ?_
        rw [Except.ok.inj h.1]
        exact h.2.1

/-- The stream behind the announcement. -/
theorem announce_stream {file : LocalFile} {localPath remotePath : Text} {jobId : Int}
    {s s' : Stream} {metadata : Metadata}
    (h : announce file localPath remotePath jobId s = (.ok metadata, s')) :
    s'.inbox = s.inbox ∧ s'.lost = s.lost ∧ s'.sends = s.sends.tail.tail := by
  rcases announce_cases file localPath remotePath jobId with
    ⟨e, hr⟩ | ⟨found, request, digest, -, -, -, hr⟩
  · rw [hr] at h
    cases h
  · rw [hr] at h
    have hinbox := s.send_inbox request
    have hlost := s.send_lost request
    have hsends := s.send_sends request
    generalize s.send request = sent at h hinbox hlost hsends
    obtain ⟨e | _, s₁⟩ := sent
    · cases h
    · dsimp only at h hinbox hlost hsends
      have hinbox' := s₁.send_inbox digest
      have hlost' := s₁.send_lost digest
      have hsends' := s₁.send_sends digest
      generalize s₁.send digest = sent at h hinbox' hlost' hsends'
      obtain ⟨e | _, s₂⟩ := sent
      · cases h
      · obtain ⟨-, rfl⟩ := Prod.mk.inj h
        exact ⟨hinbox'.trans hinbox, hlost'.trans hlost, by rw [← hsends]; exact hsends'⟩

/-- `begin` comes to no end exactly when the peer never answers. -/
theorem begin_eq_none_iff (env : CommandEnv) (localPath remotePath : Text) (s : Stream) :
    (PushTransfer.begin env.file env.nanos localPath remotePath s).1 = none ↔
      NeverAnswered env localPath remotePath s := by
  unfold PushTransfer.begin
  dsimp only
  rcases hannounce : announce env.file localPath remotePath (newJobId env.nanos) s with
    ⟨e | metadata, s₁⟩
  · refine iff_of_false (fun h => by cases h) fun h => ?_
    obtain ⟨metadata, hmetadata, hfile⟩ := h.metadata
    have hsends : SendsSucceed 2 s.sends := fun k hk => h.sends k (by omega)
    have hok : (announce env.file localPath remotePath (newJobId env.nanos) s).1 =
        .ok metadata := announce_ok_iff.mpr ⟨hmetadata, hfile, h.target, hsends⟩
    rw [hannounce] at hok
    cases hok
  · obtain ⟨hmetadata, hfile, htarget, hsends⟩ :=
      announce_ok_iff.mp (congrArg Prod.fst hannounce)
    obtain ⟨hinbox, hlost, hrest⟩ := announce_stream hannounce
    have hwait := recvFileEventSkipping_eq_none_iff (newJobId env.nanos) s₁.inbox s₁
    rw [hinbox, hlost, hrest] at hwait
    have hnever : NeverAnswered env localPath remotePath s ↔
        (recvFileEventSkipping isDone false (newJobId env.nanos) s.inbox s₁).1 = none := by
      rw [hwait]
      rw [sendsSucceed_succ, sendsSucceed_succ] at hsends
      constructor
      · rintro ⟨-, -, hlost, hpassed, hall⟩
        rw [sendsSucceed_succ, sendsSucceed_succ] at hall
        exact ⟨hlost, hpassed, hall.2.2⟩
      · rintro ⟨hlost, hpassed, hechoes⟩
        refine ⟨⟨metadata, hmetadata, hfile⟩, htarget, hlost, hpassed, ?_⟩
        rw [sendsSucceed_succ, sendsSucceed_succ]
        exact ⟨hsends.1, hsends.2.1, hechoes⟩
    rw [hnever]
    dsimp only
    rw [hinbox]
    rcases recvFileEventSkipping isDone false (newJobId env.nanos) s.inbox s₁ with
      ⟨_ | (e | reply), s₂⟩
    · exact iff_of_true rfl rfl
    · exact iff_of_false (fun h => by cases h) fun h => by cases h
    · refine iff_of_false (fun h => ?_) fun h => by cases h
      dsimp only at h
      split at h
      · cases h
      · split at h <;> cases h

/-- Everything in a push but its beginning comes to an end. -/
theorem pushFileCommand_eq_none_iff (env : CommandEnv) (localPath remotePath : Text)
    (s : Stream) (uds : Uds) :
    (pushFileCommand env localPath remotePath s uds).1 = none ↔
      NeverAnswered env localPath remotePath s := by
  rw [← begin_eq_none_iff]
  unfold pushFileCommand
  rcases PushTransfer.begin env.file env.nanos localPath remotePath s with
    ⟨_ | (e | t), s₁⟩
  · exact iff_of_true rfl rfl
  · exact iff_of_false (fun h => by cases h) fun h => by cases h
  · refine iff_of_false (fun h => ?_) fun h => by cases h
    dsimp only at h
    split at h
    · cases h
    · split at h
      · cases h
      · split at h <;> cases h

theorem runPush_eq_none_iff (localPath remotePath : Text) (env : CommandEnv)
    (wakes : List Stream.Wake) (d : DaemonLoop) (uds : Uds) :
    DaemonLoop.runPush localPath remotePath env wakes d uds = none ↔
      NeverAnswered env localPath remotePath (d.encrypted.schedule wakes) := by
  rw [← pushFileCommand_eq_none_iff env localPath remotePath _ uds]
  unfold DaemonLoop.runPush
  rcases pushFileCommand env localPath remotePath (d.encrypted.schedule wakes) uds with
    ⟨_ | result, s, uds'⟩
  · exact iff_of_true rfl rfl
  · exact iff_of_false (fun h => by cases h) fun h => by cases h

/-- A push, in its mode, waits for ever: its first run does, or the run on a new connection
after the first has lost its own. -/
def PushWaits (req : Request) (localPath remotePath : Text) (d : DaemonLoop) : Prop :=
  ∃ d₁, d.switchMode req.switchMode (.push localPath remotePath) = (.ok (), d₁) ∧
    (NeverAnswered req.first localPath remotePath (d₁.encrypted.schedule req.firstWakes) ∨
      ∃ e d₂ uds d₃,
        DaemonLoop.runPush localPath remotePath req.first req.firstWakes d₁ ⟨req.writes, []⟩ =
          some (.error e, d₂, uds) ∧
        shouldReconnect e = true ∧
        d₂.reconnect req.reconnect d₂.activeConnType = (.ok (), d₃) ∧
        NeverAnswered req.retry localPath remotePath (d₃.encrypted.schedule req.retryWakes))

theorem handleRequest_waits_iff {ι : Type} (lib : ImageLib ι) (req : Request) (d : DaemonLoop) :
    d.handleRequest lib req = none ↔
      ∃ localPath remotePath, req.line = .ok (.push localPath remotePath) ∧
        PushWaits req localPath remotePath d := by
  rw [handleRequest_eq_none_iff]
  refine exists_congr fun localPath => exists_congr fun remotePath => ?_
  unfold PushWaits
  simp only [withRetry_eq_none_iff, runPush_eq_none_iff]
  exact exists_and_left

/-! ## Request lines -/

section Lines

variable (commands : Codec SessionCommand Error)

/-- The line that the daemon reads of these bytes is text. -/
def LineIsText (arrived : Bytes) : Prop :=
  ∀ line ∈ (Records.cutAfter 0x0A arrived).head?, ∃ text, Text.utf8 text = line

/-- Exactly a line that is no text comes to nobody. -/
theorem readRequest_isSome_iff (arrived : Bytes) :
    (∃ line, readRequest commands arrived = some line) ↔ LineIsText arrived := by
  unfold readRequest LineIsText
  rcases Records.cutAfter 0x0A arrived with _ | ⟨line, rest⟩
  · exact iff_of_true ⟨_, rfl⟩ (by simp)
  · dsimp only
    rw [List.head?_cons]
    cases htext : fromUtf8 line with
    | none =>
        refine iff_of_false (fun ⟨_, h⟩ => by cases h) fun h => ?_
        obtain ⟨text, hutf8⟩ := h line rfl
        rw [fromUtf8_eq_some_iff.mpr hutf8] at htext
        cases htext
    | some text =>
        refine iff_of_true ⟨_, rfl⟩ ?_
        rintro _ ⟨⟩
        exact ⟨text, fromUtf8_eq_some_iff.mp htext⟩

variable {ι : Type} (lib : ImageLib ι)

/-- A client's connection, from its accept on, when these bytes arrive on it: what is written
to it, and the daemon behind it; `none` when its handler does not return. -/
def serveConnection (arrived : Bytes) (req : Request) (d : DaemonLoop) :
    Option (Uds × DaemonLoop) :=
  match readRequest commands arrived with
  | none => some (⟨req.writes, []⟩, d)
  | some line => d.handleRequest lib { req with line := line }

/-- It is one turn of the loop. -/
theorem loopStep_requestTurn (arrived : Bytes) (req : Request) {d : DaemonLoop}
    (hrunning : d.returned = none) :
    loopStep lib d (requestTurn commands arrived req) =
      (serveConnection commands lib arrived req d).map Prod.snd := by
  unfold loopStep requestTurn serveConnection
  rw [if_neg (by simp [hrunning])]
  cases readRequest commands arrived <;> rfl

/-- The client is answered: partial lines, then exactly one other line, which is the last;
a shell gets one line, and then only what its terminal prints. -/
def AnsweredOnce (arrived : Bytes) (req : Request) (d : DaemonLoop) : Prop :=
  ∃ uds d', serveConnection commands lib arrived req d = some (uds, d') ∧
    (readRequest commands arrived ≠ some (.ok .shell) → OneFinalAnswer uds.written) ∧
    (readRequest commands arrived = some (.ok .shell) → ShellAnswer uds.written)

/-- A request line is answered once, whatever it says and whatever comes of it, exactly when
it is text and no push that it asks for waits for ever. -/
theorem one_final_answer_iff (arrived : Bytes) (req : Request) (d : DaemonLoop) :
    AnsweredOnce commands lib arrived req d ↔
      LineIsText arrived ∧
        ∀ localPath remotePath,
          readRequest commands arrived = some (.ok (.push localPath remotePath)) →
            ¬ PushWaits req localPath remotePath d := by
  rw [← readRequest_isSome_iff commands]
  unfold AnsweredOnce serveConnection
  cases hread : readRequest commands arrived with
  | none =>
      refine iff_of_false ?_ fun ⟨⟨_, h⟩, _⟩ => by cases h
      -- nothing is written, and so no final line
      rintro ⟨uds, d', hserved, hanswer, -⟩
      obtain ⟨partials, final, hwritten, -⟩ := hanswer (by simp)
      obtain ⟨rfl, -⟩ := Prod.mk.inj (Option.some.inj hserved)
      exact List.append_ne_nil_of_right_ne_nil _ (by simp) hwritten.symm
  | some line =>
      rw [and_iff_right ⟨line, rfl⟩]
      have hwaits := handleRequest_waits_iff lib { req with line := line } d
      dsimp only at hwaits ⊢
      cases hserved : d.handleRequest lib { req with line := line } with
      | none =>
          obtain ⟨localPath, remotePath, hline, hpush⟩ := hwaits.mp hserved
          refine iff_of_false (fun ⟨_, _, h, _⟩ => by cases h) fun h => ?_
          exact h localPath remotePath (congrArg some hline) hpush
      | some handled =>
          obtain ⟨hother, hshell⟩ := handleRequest_answer hserved
          refine iff_of_true ⟨handled.1, handled.2, rfl, fun hne => hother fun hline => ?_,
            fun heq => hshell (Option.some.inj heq)⟩ fun localPath remotePath hline hpush => ?_
          · exact hne (congrArg some hline)
          · rw [hwaits.mpr ⟨localPath, remotePath, Option.some.inj hline, hpush⟩] at hserved
            cases hserved

end Lines

/-- A daemon that has just started reads the line FF and says nothing. -/
theorem line_without_text_unanswered :
    Reachable sampleImages sampleDaemon ∧
      (∃ d', serveConnection commandCodec sampleImages [0xFF, 0x0A]
        (sampleRequest (.ok .status) [] (.error (.msg "refused".toList))) sampleDaemon =
          some (⟨[], []⟩, d')) ∧
      ¬ AnsweredOnce commandCodec sampleImages [0xFF, 0x0A]
        (sampleRequest (.ok .status) [] (.error (.msg "refused".toList))) sampleDaemon := by
  have hserved : serveConnection commandCodec sampleImages [0xFF, 0x0A]
      (sampleRequest (.ok .status) [] (.error (.msg "refused".toList))) sampleDaemon =
        some (⟨[], []⟩, sampleDaemon) := by
    have hread : readRequest commandCodec [0xFF, 0x0A] = none := by decide +kernel
    unfold serveConnection
    rw [hread]
    rfl
  refine ⟨⟨_, _, _, [], startLoop_sample, rfl⟩, ⟨_, hserved⟩, ?_⟩
  rintro ⟨uds, d', hsome, hanswer, -⟩
  rw [hserved] at hsome
  obtain ⟨rfl, -⟩ := Prod.mk.inj (Option.some.inj hsome)
  obtain ⟨partials, final, hwritten, -⟩ := hanswer (by decide +kernel)
  exact List.append_ne_nil_of_right_ne_nil _ (by simp) hwritten.symm

end RustdeskCli.Daemon
