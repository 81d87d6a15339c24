import RustdeskCli.Daemon.Heartbeats
set_option autoImplicit false

/-!
# Daemon: messages for somebody else (`src/file_transfer.rs`, `src/capture.rs`)

While a file transfer negotiates and while a screenshot is waited for, the peer sends
other things on the same stream: video, measurements of the delay, events of other
transfers.  None of them changes what `PushTransfer::begin` or
`request_screenshot_with_sid` returns.  A `TestDelay` that `begin` reads is echoed, and
these echoes are the only trace that the other messages leave in what is sent.

The two runs that are compared differ in more than the messages: each echo is a send of
its own, and whether it succeeds is not the other run's business.  So the second run has
the outcomes of the first for the sends both make, and its own echoes succeed.
-/

namespace RustdeskCli.Daemon

open RustdeskCli.Foundation
open RustdeskCli.Session
open RustdeskCli.Terminal
open RustdeskCli.Capture
open RustdeskCli.Transfer

/-! ## What does not belong to an operation -/

/-- A heartbeat or a message that is not for the transfer `jobId`, and not the end of the
session either. -/
def ForeignToJob (jobId : Int) : Event → Prop
  | .frame .heartbeat => True
  | .frame (.message (.sendConfirm confirm)) => confirm.id ≠ jobId
  | .frame (.message (.digest digest)) => digest.id ≠ jobId
  | .frame (.message (.fileDone done)) => done.id ≠ jobId
  | .frame (.message (.fileError error)) => error.id ≠ jobId
  | .frame (.message (.closeReason _)) => False
  | .frame (.message _) => True
  | _ => False

/-- A heartbeat or a message that is not the screenshot `sid`. -/
def ForeignToScreenshot (sid : Text) : Event → Prop
  | .frame .heartbeat => True
  | .frame (.message (.screenshotResponse response)) => response.sid ≠ sid
  | .frame (.message _) => True
  | _ => False

/-- The echoes of the `TestDelay`s among the events. -/
def echoes (events : List Event) : List Outgoing :=
  (events.filterMap testDelay?).map fun td => .testDelay td.echo

/-- The same sends fail, with the same errors. -/
def SameOutcomes (sends sends' : List (Option Error)) : Prop :=
  ∀ n : Nat, (sends[n]?).join = (sends'[n]?).join

/-- The outcomes of the sends made while the events are read: an echo of an inserted
`TestDelay` succeeds, and the others go as they did. -/
def withEchoes : List (Event ⊕ Event) → List (Option Error) → List (Option Error)
  | [], sends => sends
  | .inl event :: mix, sends =>
      if (testDelay? event).isSome then nextOutcome sends :: withEchoes mix sends.tail
      else withEchoes mix sends
  | .inr event :: mix, sends =>
      if (testDelay? event).isSome then none :: withEchoes mix sends else withEchoes mix sends

/-- The outcomes of the sends of `begin`: two that announce the file, then those made while
it reads. -/
def beginSends (mix : List (Event ⊕ Event)) (sends : List (Option Error)) : List (Option Error) :=
  nextOutcome sends :: nextOutcome sends.tail :: withEchoes mix sends.tail.tail

theorem SameOutcomes.next {sends sends' : List (Option Error)} (h : SameOutcomes sends sends') :
    nextOutcome sends = nextOutcome sends' := by
  unfold nextOutcome
  rw [List.head?_eq_getElem?, List.head?_eq_getElem?]
  exact h 0

theorem SameOutcomes.tail {sends sends' : List (Option Error)} (h : SameOutcomes sends sends') :
    SameOutcomes sends.tail sends'.tail := by
  intro n
  rw [List.getElem?_tail, List.getElem?_tail]
  exact h (n + 1)

/-! ## Streams that differ in echoes -/

/-- The second stream is the first after some more messages have been sent on it. -/
structure EchoApart (more : List Outgoing) (s s' : Stream) : Prop where
  lost : s'.lost = s.lost
  sent : Merged s.sent more s'.sent

namespace EchoApart

variable {more : List Outgoing} {s s' : Stream}

theorem read (h : EchoApart more s s') (inbox inbox' : List Event) :
    EchoApart more { s with inbox := inbox } { s' with inbox := inbox' } :=
  ⟨h.lost, h.sent⟩

/-- A message that both send, with the same outcome. -/
theorem send (h : EchoApart more s s') (hnext : nextOutcome s'.sends = nextOutcome s.sends)
    {m : Outgoing} {r : Except Error Unit} {s₁ : Stream} (hsend : s.send m = (r, s₁)) :
    ∃ s₁', s'.send m = (r, s₁') ∧ EchoApart more s₁ s₁' ∧ s₁.sends = s.sends.tail ∧
      s₁'.sends = s'.sends.tail := by
  have hr : (s'.send m).1 = r := by rw [s'.send_fst, hnext, ← s.send_fst, hsend]
  have hs₁ : s₁ = (s.send m).2 := by rw [hsend]
  refine ⟨(s'.send m).2, Prod.ext hr rfl, ⟨?_, ?_⟩, ?_, s'.send_sends m⟩
  · rw [hs₁, s'.send_lost, s.send_lost, h.lost]
  · rw [hs₁, s'.send_sent, s.send_sent]
    exact h.sent.concat m
  · rw [hs₁, s.send_sends]

/-- A message that only the second sends. -/
theorem send_more (h : EchoApart more s s') (hnext : nextOutcome s'.sends = none) (m : Outgoing) :
    ∃ s₁', s'.send m = (.ok (), s₁') ∧ EchoApart (more ++ [m]) s s₁' ∧
      s₁'.sends = s'.sends.tail := by
  have hr : (s'.send m).1 = .ok () := (s'.send_ok_iff m).mpr hnext
  refine ⟨(s'.send m).2, Prod.ext hr rfl, ⟨?_, ?_⟩, s'.send_sends m⟩
  · rw [s'.send_lost, h.lost]
  · rw [s'.send_sent]
    exact h.sent.insert m

end EchoApart

/-! ## Waiting for an event of the transfer -/

section Waiting

variable (skip : FileTransferEvent → Bool) (timed : Bool) (jobId : Int)

/-- What is not for the transfer is passed over. -/
theorem recvFileEventSkipping_foreign {event : Event} (hforeign : ForeignToJob jobId event)
    (h : testDelay? event = none) (inbox : List Event) (s : Stream) :
    recvFileEventSkipping skip timed jobId (event :: inbox) s =
      recvFileEventSkipping skip timed jobId inbox s := by
  have hpass : ∀ frame, event = .frame frame → fileStep jobId s frame = (.again, s) →
      recvFileEventSkipping skip timed jobId (event :: inbox) s =
        recvFileEventSkipping skip timed jobId inbox s := by
    rintro frame rfl hstep
    conv_lhs => unfold recvFileEventSkipping
    rw [hstep]
  unfold ForeignToJob at hforeign
  split at hforeign
  case h_1 => rfl
  -- an event of another transfer
  case h_2 | h_3 | h_4 | h_5 =>
    refine hpass _ rfl ?_
    unfold fileStep ofJob
    dsimp only
    rw [if_neg hforeign]
  case h_7 m hconfirm hdigest hdone herror hclose =>
    refine hpass _ rfl ?_
    cases m with
    | testDelay td => cases h
    | sendConfirm confirm => exact absurd rfl (hconfirm confirm)
    | digest digest => exact absurd rfl (hdigest digest)
    | fileDone done => exact absurd rfl (hdone done)
    | fileError error => exact absurd rfl (herror error)
    | closeReason reason => exact absurd rfl (hclose reason)
    | _ => rfl
  all_goals exact absurd hforeign id

/-- Two results of an operation, without and with what was inserted: the same value, and
streams which differ in `more` and in what is left of the insertion. -/
structure AlikeApart {α : Type} (left : List (Event ⊕ Event)) (more : List Outgoing)
    (r r' : α × Stream) : Prop where
  result : r'.1 = r.1
  apart : EchoApart more r.2 r'.2
  inbox : r.2.inbox = Mix.plain left
  inbox' : r'.2.inbox = Mix.whole left

theorem echoes_cons (event : Event) (events : List Event) :
    echoes (event :: events) =
      ((testDelay? event).map fun td => Outgoing.testDelay td.echo).toList ++ echoes events := by
  unfold echoes
  rw [List.filterMap_cons]
  cases testDelay? event <;> rfl

/-- The two waits end alike, of the second after reading `taken`, and the sends that come then
go the same way. -/
def WaitsApart (mix taken left : List (Event ⊕ Event)) (s : Stream) : Prop :=
  ∀ more s', EchoApart more s s' → SameOutcomes s'.sends (withEchoes taken s.sends) →
    AlikeApart left (more ++ echoes (Mix.extra taken))
        (recvFileEventSkipping skip timed jobId (Mix.plain mix) s)
        (recvFileEventSkipping skip timed jobId (Mix.whole mix) s') ∧
      SameOutcomes (recvFileEventSkipping skip timed jobId (Mix.whole mix) s').2.sends
        (recvFileEventSkipping skip timed jobId (Mix.plain mix) s).2.sends

variable {skip timed jobId} {mix : List (Event ⊕ Event)} {event : Event} {s : Stream}

/-- An event of both runs that is not a `TestDelay` ends both waits, or both go on. -/
theorem waitsApart_quiet (hdelay : testDelay? event = none)
    (ih : ∃ taken left, mix = taken ++ left ∧ WaitsApart skip timed jobId mix taken left s) :
    ∃ taken left, .inl event :: mix = taken ++ left ∧
      WaitsApart skip timed jobId (.inl event :: mix) taken left s := by
  rcases recvFileEventSkipping_quiet skip timed jobId hdelay with ⟨r, hr⟩ | hr
  · refine ⟨[.inl event], mix, rfl, fun more s' hapart hsends => ?_⟩
    rw [Mix.plain_inl, Mix.whole_inl, hr, hr]
    rw [withEchoes, hdelay] at hsends
    refine ⟨⟨rfl, ?_, rfl, rfl⟩, hsends⟩
    simpa [echoes] using hapart.read _ _
  · obtain ⟨taken, left, rfl, halike⟩ := ih
    refine ⟨.inl event :: taken, left, rfl, fun more s' hapart hsends => ?_⟩
    rw [Mix.plain_inl, Mix.whole_inl, hr, hr]
    rw [withEchoes, hdelay] at hsends
    exact halike more s' hapart hsends

/-- A `TestDelay` of both runs is echoed in both, with the same outcome. -/
theorem waitsApart_delay {td : TestDelay} (hdelay : testDelay? event = some td)
    (ih : ∀ s, ∃ taken left, mix = taken ++ left ∧
      WaitsApart skip timed jobId mix taken left s) :
    ∃ taken left, .inl event :: mix = taken ++ left ∧
      WaitsApart skip timed jobId (.inl event :: mix) taken left s := by
  have hr := recvFileEventSkipping_delay skip timed jobId hdelay
  rcases hsend : s.send (.testDelay td.echo) with ⟨e | u, s₁⟩
  · refine ⟨[.inl event], mix, rfl, fun more s' hapart hsends => ?_⟩
    rw [withEchoes, hdelay] at hsends
    obtain ⟨s₁', hsend', hapart₁, htail, htail'⟩ := hapart.send hsends.next hsend
    rw [Mix.plain_inl, Mix.whole_inl, hr, hr, hsend, hsend']
    refine ⟨⟨rfl, ?_, rfl, rfl⟩, ?_⟩
    · simpa [echoes] using hapart₁.read _ _
    · dsimp only
      rw [htail, htail']
      exact hsends.tail
  · obtain ⟨taken, left, rfl, halike⟩ := ih s₁
    refine ⟨.inl event :: taken, left, rfl, fun more s' hapart hsends => ?_⟩
    rw [withEchoes, hdelay] at hsends
    obtain ⟨s₁', hsend', hapart₁, htail, htail'⟩ := hapart.send hsends.next hsend
    rw [Mix.plain_inl, Mix.whole_inl, hr, hr, hsend, hsend']
    refine halike more s₁' hapart₁ ?_
    rw [htail, htail']
    exact hsends.tail

/-- After an inserted event the second wait goes on, with one more echo behind it if the event
asked for one. -/
theorem waitsApart_inserted {taken left : List (Event ⊕ Event)}
    (hforeign : ForeignToJob jobId event) (ih : WaitsApart skip timed jobId mix taken left s) :
    WaitsApart skip timed jobId (.inr event :: mix) (.inr event :: taken) left s := by
  intro more s' hapart hsends
  rw [Mix.plain_inr, Mix.whole_inr, Mix.extra_inr, echoes_cons]
  rw [withEchoes] at hsends
  rcases hdelay : testDelay? event with _ | td
  · rw [hdelay] at hsends
    rw [recvFileEventSkipping_foreign skip timed jobId hforeign hdelay]
    exact ih more s' hapart hsends
  · rw [hdelay] at hsends
    obtain ⟨s₁', hsend', hapart₁, htail'⟩ := hapart.send_more hsends.next (.testDelay td.echo)
    rw [recvFileEventSkipping_delay skip timed jobId hdelay, hsend', ← List.append_assoc]
    refine ih _ s₁' hapart₁ ?_
    rw [htail']
    exact hsends.tail

variable (skip timed) in
/-- The wait ends with the same event, and the inserted frames in front of it are read. -/
theorem recvFileEventSkipping_apart
    (hforeign : ∀ event ∈ Mix.extra mix, ForeignToJob jobId event) (s : Stream) :
    ∃ taken left, mix = taken ++ left ∧ WaitsApart skip timed jobId mix taken left s := by
  induction mix generalizing s with
  | nil =>
      refine ⟨[], [], rfl, fun more s' hapart hsends => ⟨⟨?_, ?_, rfl, rfl⟩, hsends⟩⟩
      · dsimp only [Mix.plain_nil, Mix.whole_nil, recvFileEventSkipping]
        rw [hapart.lost]
      · rw [Mix.extra_nil, show more ++ echoes [] = more from List.append_nil more]
        exact hapart.read _ _
  | cons slot mix ih =>
      rcases slot with event | event
      · rcases hdelay : testDelay? event with _ | td
        · exact waitsApart_quiet hdelay (ih hforeign s)
        · exact waitsApart_delay hdelay (ih hforeign)
      · obtain ⟨taken, left, rfl, halike⟩ :=
          ih (fun other hother => hforeign other (List.mem_cons_of_mem event hother)) s
        exact ⟨.inr event :: taken, left, rfl,
          waitsApart_inserted (hforeign event List.mem_cons_self) halike⟩

end Waiting

/-! ## The whole negotiation -/

section Begin

variable {more : List Outgoing} {s s' s₁ : Stream}

theorem announce_apart {file : LocalFile} {localPath remotePath : Text} {jobId : Int}
    {r : Except Error Metadata} (h : EchoApart more s s')
    (hfirst : nextOutcome s'.sends = nextOutcome s.sends)
    (hsecond : nextOutcome s'.sends.tail = nextOutcome s.sends.tail)
    (hannounce : announce file localPath remotePath jobId s = (r, s₁)) :
    ∃ s₁', announce file localPath remotePath jobId s' = (r, s₁') ∧ EchoApart more s₁ s₁' ∧
      ∀ metadata, r = .ok metadata →
        s₁.sends = s.sends.tail.tail ∧ s₁'.sends = s'.sends.tail.tail := by
  rcases announce_cases file localPath remotePath jobId with
    ⟨e, hr⟩ | ⟨metadata, m, m', -, -, -, hr⟩
  · rw [hr] at hannounce ⊢
    obtain ⟨rfl, rfl⟩ := Prod.mk.inj hannounce
    exact ⟨s', rfl, h, by intro _ hok; cases hok⟩
  · rw [hr] at hannounce ⊢
    rcases hrequest : s.send m with ⟨e | u, s₂⟩
    all_goals
      obtain ⟨s₂', hrequest', hapart₂, htail, htail'⟩ := h.send hfirst hrequest
      rw [hrequest] at hannounce
      rw [hrequest']
    · obtain ⟨rfl, rfl⟩ := Prod.mk.inj hannounce
      exact ⟨s₂', rfl, hapart₂, by intro _ hok; cases hok⟩
    · rw [← htail, ← htail'] at hsecond
      dsimp only at hannounce ⊢
      rcases hdigest : s₂.send m' with ⟨e | u, s₃⟩
      all_goals
        obtain ⟨s₃', hdigest', hapart₃, hend, hend'⟩ := hapart₂.send hsecond hdigest
        rw [hdigest] at hannounce
        rw [hdigest']
        obtain ⟨rfl, rfl⟩ := Prod.mk.inj hannounce
      · exact ⟨s₃', rfl, hapart₃, by intro _ hok; cases hok⟩
      · refine ⟨s₃', rfl, hapart₃, fun _ _ => ?_⟩
        rw [hend, hend', htail, htail']
        exact ⟨rfl, rfl⟩

theorem resumeFrom_apart {jobId : Int} {totalBytes : Nat} {event : FileTransferEvent}
    {r : Except Error (Nat × Bool)} (h : EchoApart more s s')
    (hnext : nextOutcome s'.sends = nextOutcome s.sends)
    (hresume : resumeFrom s jobId totalBytes event = (r, s₁)) :
    ∃ s₁', resumeFrom s' jobId totalBytes event = (r, s₁') ∧ EchoApart more s₁ s₁' := by
  cases event with
  | digest digest =>
      unfold resumeFrom confirmUploadFromRemoteDigest at hresume ⊢
      dsimp only at hresume ⊢
      generalize hm : Outgoing.sendConfirm _ = m at hresume ⊢
      rcases hsend : s.send m with ⟨e | u, s₂⟩
      all_goals
        rw [hsend] at hresume
        obtain ⟨rfl, rfl⟩ := Prod.mk.inj hresume
        obtain ⟨s₂', hsend', hapart₂, _, _⟩ := h.send hnext hsend
        rw [hsend']
        exact ⟨s₂', rfl, hapart₂⟩
  | confirm confirm =>
      unfold resumeFrom at hresume ⊢
      dsimp only at hresume ⊢
      split at hresume <;> (obtain ⟨rfl, rfl⟩ := Prod.mk.inj hresume; exact ⟨s', rfl, h⟩)
  | done done =>
      obtain ⟨rfl, rfl⟩ := Prod.mk.inj hresume
      exact ⟨s', rfl, h⟩
  | error error =>
      obtain ⟨rfl, rfl⟩ := Prod.mk.inj hresume
      exact ⟨s', rfl, h⟩

/-- What `begin` does when its wait is over. -/
def answered (file : LocalFile) (nanos : Nat) (localPath remotePath : Text)
    (metadata : Metadata) :
    Option (Except Error FileTransferEvent) × Stream → Option (Except Error PushTransfer) × Stream
  | (none, s) => (none, s)
  | (some (.error e), s) =>
      (some (.error (e.context "waiting for file transfer confirmation".toList)), s)
  | (some (.ok event), s) =>
      match resumeFrom s (newJobId nanos) metadata.len event with
      | (.error e, s) => (some (.error e), s)
      | (.ok (resumedBytes, skipTransfer), s) =>
          (some ((openAt file localPath resumedBytes).map fun opened =>
            { localPath := localPath, remotePath := remotePath, file := opened
              totalBytes := metadata.len, sentBytes := resumedBytes, transferredBytes := 0
              resumedBytes := resumedBytes, jobId := newJobId nanos
              skipTransfer := skipTransfer }), s)

theorem begin_eq (file : LocalFile) (nanos : Nat) (localPath remotePath : Text) (s : Stream) :
    PushTransfer.begin file nanos localPath remotePath s =
      match announce file localPath remotePath (newJobId nanos) s with
      | (.error e, s) => (some (.error e), s)
      | (.ok metadata, s) =>
          answered file nanos localPath remotePath metadata
            (recvFileEventSkipping isDone false (newJobId nanos) s.inbox s) := by
  unfold PushTransfer.begin
  dsimp only
  rcases announce file localPath remotePath (newJobId nanos) s with ⟨e | metadata, s₁⟩
  · rfl
  · dsimp only
    rcases recvFileEventSkipping isDone false (newJobId nanos) s₁.inbox s₁ with
      ⟨_ | (e | event), s₂⟩
    · rfl
    · rfl
    · dsimp only [answered]
      rcases resumeFrom s₂ (newJobId nanos) metadata.len event with
        ⟨e | ⟨resumedBytes, skipTransfer⟩, s₃⟩
      · rfl
      · dsimp only
        cases openAt file localPath resumedBytes with
        | error e => rfl
        | ok opened => rfl

/-- Once the waits have ended alike, the rest of `begin` is the same. -/
theorem answered_apart (file : LocalFile) (nanos : Nat) (localPath remotePath : Text)
    (metadata : Metadata) {left : List (Event ⊕ Event)}
    {r r' : Option (Except Error FileTransferEvent) × Stream} (h : AlikeApart left more r r')
    (hnext : nextOutcome r'.2.sends = nextOutcome r.2.sends) :
    AlikeApart left more (answered file nanos localPath remotePath metadata r)
      (answered file nanos localPath remotePath metadata r') := by
  obtain ⟨reply, s⟩ := r
  obtain ⟨reply', s'⟩ := r'
  obtain ⟨hreply, hapart, hleft, hleft'⟩ := h
  dsimp only at hreply
  subst hreply
  rcases reply' with _ | (e | event)
  · exact ⟨rfl, hapart, hleft, hleft'⟩
  · exact ⟨rfl, hapart, hleft, hleft'⟩
  · have hkeeps := resumeFrom_keepsInbox (newJobId nanos) metadata.len event
    have hinbox := hkeeps.inbox s
    have hinbox' := hkeeps.inbox s'
    unfold answered
    dsimp only
    rcases hresumed : resumeFrom s (newJobId nanos) metadata.len event with ⟨result, s₁⟩
    obtain ⟨s₁', hresumed', hapart₁⟩ := resumeFrom_apart hapart hnext hresumed
    rw [hresumed] at hinbox
    rw [hresumed'] at hinbox'
    rw [hresumed']
    rcases result with e | ⟨resumedBytes, skipTransfer⟩
    · exact ⟨rfl, hapart₁, hinbox.trans hleft, hinbox'.trans hleft'⟩
    · exact ⟨rfl, hapart₁, hinbox.trans hleft, hinbox'.trans hleft'⟩

/-- The inserted frames in front of the reply are read, and only their echoes differ. -/
theorem begin_apart (file : LocalFile) (nanos : Nat) (localPath remotePath : Text) (s : Stream)
    (mix : List (Event ⊕ Event))
    (hforeign : ∀ event ∈ Mix.extra mix, ForeignToJob (newJobId nanos) event) :
    ∃ taken left, mix = taken ++ left ∧ ∀ sends', SameOutcomes sends' (beginSends taken s.sends) →
      AlikeApart left (echoes (Mix.extra taken))
        (PushTransfer.begin file nanos localPath remotePath { s with inbox := Mix.plain mix })
        (PushTransfer.begin file nanos localPath remotePath
          { s with inbox := Mix.whole mix, sends := sends' }) := by
  have hkeeps := announce_keepsInbox file localPath remotePath (newJobId nanos)
  have hinbox := hkeeps.inbox { s with inbox := Mix.plain mix }
  have hstart : ∀ sends', EchoApart [] { s with inbox := Mix.plain mix }
      { s with inbox := Mix.whole mix, sends := sends' } := fun _ => ⟨rfl, .refl s.sent⟩
  rcases hannounce : announce file localPath remotePath (newJobId nanos)
    { s with inbox := Mix.plain mix } with ⟨e | metadata, s₁⟩
  all_goals rw [hannounce] at hinbox
  · refine ⟨[], mix, rfl, fun sends' hsends => ?_⟩
    have hinbox' := hkeeps.inbox { s with inbox := Mix.whole mix, sends := sends' }
    obtain ⟨s₁', hannounce', hapart₁, _⟩ :=
      announce_apart (hstart sends') hsends.next hsends.tail.next hannounce
    rw [hannounce'] at hinbox'
    rw [begin_eq, begin_eq, hannounce, hannounce']
    exact ⟨rfl, hapart₁, hinbox, hinbox'⟩
  · obtain ⟨taken, left, hmix, hwait⟩ :=
      recvFileEventSkipping_apart isDone false hforeign s₁
    refine ⟨taken, left, hmix, fun sends' hsends => ?_⟩
    have hinbox' := hkeeps.inbox { s with inbox := Mix.whole mix, sends := sends' }
    obtain ⟨s₁', hannounce', hapart₁, htails⟩ :=
      announce_apart (hstart sends') hsends.next hsends.tail.next hannounce
    rw [hannounce'] at hinbox'
    obtain ⟨htail, htail'⟩ := htails metadata rfl
    have hsends₁ : SameOutcomes s₁'.sends (withEchoes taken s₁.sends) := by
      rw [htail, htail']
      exact hsends.tail.tail
    obtain ⟨hreply, hnext⟩ := hwait [] s₁' hapart₁ hsends₁
    rw [begin_eq, begin_eq, hannounce, hannounce']
    dsimp only at hinbox hinbox' ⊢
    rw [hinbox, hinbox']
    exact answered_apart file nanos localPath remotePath metadata hreply hnext.next

end Begin

/-! ## The screenshot -/

section Screenshot

variable {ι : Type} (lib : ImageLib ι) (sid : Text) (options : CaptureOptions)

theorem recvScreenshot_foreign {event : Event} (h : ForeignToScreenshot sid event)
    (s : Stream) (inbox : List Event) :
    recvScreenshot lib sid options (event :: inbox) s = recvScreenshot lib sid options inbox s := by
  rcases event with (_ | m | e | e) | timer | line
  case frame.message =>
    cases m with
    | screenshotResponse response =>
        conv_lhs => unfold recvScreenshot
        exact if_pos h
    | _ => rfl
  case frame.heartbeat => rfl
  all_goals exact absurd h id

/-- The same screenshot, whatever else the peer sends. -/
theorem requestScreenshotWithSid_foreign (display : Int32) (s : Stream)
    (mix : List (Event ⊕ Event))
    (hforeign : ∀ event ∈ Mix.extra mix, ForeignToScreenshot sid event) :
    (requestScreenshotWithSid lib display sid options { s with inbox := Mix.whole mix }).1 =
      (requestScreenshotWithSid lib display sid options { s with inbox := Mix.plain mix }).1 := by
  unfold requestScreenshotWithSid
  rw [send_inbox_eq s (Mix.whole mix), send_inbox_eq s (Mix.plain mix)]
  rcases s.send (.screenshotRequest display sid) with ⟨e | u, s₁⟩
  · rfl
  · dsimp only
    rw [recvScreenshot_inbox lib sid options (Mix.whole mix),
      recvScreenshot_inbox lib sid options (Mix.plain mix)]
    obtain ⟨r, left, left', hl, hl', _⟩ := (Mix.inserted hforeign).leave_eq
      (recvScreenshot_leaves lib sid options)
      (fun event s inbox h => recvScreenshot_foreign lib sid options h s inbox) s₁
    rw [hl, hl']
    rfl

end Screenshot

/-! ## Isolation -/

/-- What is not for the operation changes neither what `begin` returns nor what
`request_screenshot_with_sid` returns.  Of the inserted messages `begin` reads those in
front of the one it returns with, and it sends an echo for each `TestDelay` among them and
otherwise the same; the rest is left in the inbox. -/
theorem foreign_messages_ignored {ι : Type} (lib : ImageLib ι) (file : LocalFile) (nanos : Nat)
    (localPath remotePath : Text) (display : Int32) (sid : Text) (options : CaptureOptions)
    (s : Stream) (mix : List (Event ⊕ Event)) :
    ((∀ event ∈ Mix.extra mix, ForeignToJob (newJobId nanos) event) →
      ∃ taken left, mix = taken ++ left ∧
        ∀ sends', SameOutcomes sends' (beginSends taken s.sends) →
          AlikeApart left (echoes (Mix.extra taken))
            (PushTransfer.begin file nanos localPath remotePath { s with inbox := Mix.plain mix })
            (PushTransfer.begin file nanos localPath remotePath
              { s with inbox := Mix.whole mix, sends := sends' })) ∧
      ((∀ event ∈ Mix.extra mix, ForeignToScreenshot sid event) →
        (requestScreenshotWithSid lib display sid options { s with inbox := Mix.whole mix }).1 =
          (requestScreenshotWithSid lib display sid options
            { s with inbox := Mix.plain mix }).1) :=
  ⟨begin_apart file nanos localPath remotePath s mix,
    requestScreenshotWithSid_foreign lib sid options display s mix⟩

/-- The peer has the file. -/
def skipConfirm : Event := .frame (.message (.sendConfirm ⟨1, 0, some (.skip true)⟩))

/-- A measurement of the delay. -/
def sampleDelay : Event := .frame (.message (.testDelay ⟨7, false, 0, 0⟩))

/-- The confirmation behind a heartbeat, a `TestDelay` and the digest of another transfer,
and in front of a video frame. -/
def sampleMix : List (Event ⊕ Event) :=
  [.inr (.frame .heartbeat), .inr sampleDelay,
    .inr (.frame (.message (.digest ⟨2, 0, 0, 4, true, true, 1, false⟩))), .inl skipConfirm,
    .inr (.frame (.message .other))]

/-- The hypotheses hold of that insertion. -/
theorem foreign_messages_ignored_sample :
    (∀ event ∈ Mix.extra sampleMix, ForeignToJob (newJobId 0) event) ∧
      (∀ event ∈ Mix.extra sampleMix, ForeignToScreenshot [] event) ∧
      (∃ taken left, sampleMix = taken ++ left ∧
        ∀ sends', SameOutcomes sends' (beginSends taken []) →
          AlikeApart left (echoes (Mix.extra taken))
            (PushTransfer.begin sampleFile 0 "a.bin".toList "/remote/".toList
              { sampleStream with inbox := Mix.plain sampleMix })
            (PushTransfer.begin sampleFile 0 "a.bin".toList "/remote/".toList
              { sampleStream with inbox := Mix.whole sampleMix, sends := sends' })) ∧
      (requestScreenshotWithSid sampleImages 0 [] ⟨none, none, none, none⟩
          { sampleStream with inbox := Mix.whole sampleMix }).1 =
        (requestScreenshotWithSid sampleImages 0 [] ⟨none, none, none, none⟩
          { sampleStream with inbox := Mix.plain sampleMix }).1 := by
  have hjob : ∀ event ∈ Mix.extra sampleMix, ForeignToJob (newJobId 0) event := by
    simp [sampleMix, sampleDelay, ForeignToJob, newJobId]
  have hsid : ∀ event ∈ Mix.extra sampleMix, ForeignToScreenshot [] event := by
    simp [sampleMix, sampleDelay, ForeignToScreenshot]
  obtain ⟨hbegin, hshot⟩ := foreign_messages_ignored sampleImages sampleFile 0 "a.bin".toList
    "/remote/".toList 0 [] ⟨none, none, none, none⟩ sampleStream sampleMix
  exact ⟨hjob, hsid, hbegin hjob, hshot hsid⟩

/-- A `TestDelay` in front of the confirmation makes `begin` fail when the connection no
longer takes what is sent, and one behind the confirmation gets no echo. -/
theorem inserted_delay_noticed :
    ForeignToJob (newJobId 0) sampleDelay ∧
      (PushTransfer.begin sampleFile 0 "a.bin".toList "/remote/".toList
          { sampleStream with
            inbox := Mix.whole [.inr sampleDelay, .inl skipConfirm]
            sends := [none, none, some (.msg "Broken pipe (os error 32)".toList)] }).1 ≠
        (PushTransfer.begin sampleFile 0 "a.bin".toList "/remote/".toList
          { sampleStream with
            inbox := Mix.plain [.inr sampleDelay, .inl skipConfirm]
            sends := [none, none, some (.msg "Broken pipe (os error 32)".toList)] }).1 ∧
      ¬ Merged
        (PushTransfer.begin sampleFile 0 "a.bin".toList "/remote/".toList
          { sampleStream with inbox := Mix.plain [.inl skipConfirm, .inr sampleDelay] }).2.sent
        (echoes (Mix.extra [.inl skipConfirm, .inr sampleDelay]))
        (PushTransfer.begin sampleFile 0 "a.bin".toList "/remote/".toList
          { sampleStream with
            inbox := Mix.whole [.inl skipConfirm, .inr sampleDelay] }).2.sent := by
  refine ⟨trivial, by decide +kernel, fun h => ?_⟩
  have hlength := h.length_eq
  revert hlength
  decide +kernel

end RustdeskCli.Daemon
