import RustdeskCli.Cli.Wire
import RustdeskCli.Daemon.Farewell
import RustdeskCli.Daemon.ShellInput
set_option autoImplicit false
set_option linter.dupNamespace false

/-!
# Cli: `shell` without input

`shell` is sent like every other command: `send_command` writes the one line of its request
and closes its side before it reads anything.  The daemon hands what comes behind the
request to the terminal, and behind this one there is nothing: the reader task meets the
end of the stream at once, and the terminal that is opened is never typed into.
-/

namespace RustdeskCli.Daemon

open RustdeskCli.Foundation
open RustdeskCli.Session
open RustdeskCli.Terminal
open RustdeskCli.Exec

/-! ## What has been typed -/

/-- What a message types into a terminal. -/
def Outgoing.typed : Outgoing → Option TerminalData
  | .terminal (.data td) => some td
  | _ => none

/-- The message types nothing. -/
def Quiet (m : Outgoing) : Prop := m.typed = none

/-- What has been typed on a stream. -/
def Stream.typed (s : Stream) : List TerminalData := s.sent.filterMap Outgoing.typed

/-- What the daemon has typed, on all of its streams. -/
def DaemonLoop.typed (d : DaemonLoop) : List TerminalData :=
  d.retired.flatMap Stream.typed ++ d.encrypted.typed

theorem typed_of_quiet {sent : List Outgoing} (h : ∀ m ∈ sent, Quiet m) :
    sent.filterMap Outgoing.typed = [] :=
  List.filterMap_eq_nil_iff.mpr h

theorem initMessages_quiet (connType : ConnType) : ∀ m ∈ initMessages connType, Quiet m := by
  intro m hm
  cases connType with
  | defaultConn =>
      simp only [initMessages, List.mem_cons, List.not_mem_nil, or_false] at hm
      rcases hm with rfl | rfl | rfl <;> rfl
  | fileTransfer => cases hm
  | terminal => cases hm

/-- Moves that type nothing leave what has been typed as it is. -/
theorem Moves.typed {d d' : DaemonLoop} (h : Moves (fun _ => Quiet) d d') : d'.typed = d.typed := by
  suffices hmove : ∀ d₁ d₂ : DaemonLoop, d₁.typed = d.typed → Move (fun _ => Quiet) d₁ d₂ →
      d₂.typed = d.typed from Moves.invariant hmove h rfl
  intro d₁ d₂ hd hmove
  rw [← hd]
  unfold DaemonLoop.typed Stream.typed
  cases hmove with
  | work mode login sent service retired =>
      obtain ⟨added, hadded, hquiet⟩ := sent
      rw [retired, hadded, List.filterMap_append, typed_of_quiet hquiet, List.append_nil]
  | connect serviceId login sent service retired =>
      rw [retired, sent, typed_of_quiet (initMessages_quiet _), List.flatMap_append]
      simp

/-! ## A shell whose client says nothing -/

/-- No line of the client is among the events. -/
def Wordless (events : List Event) : Prop := ∀ line, .line (some line) ∉ events

theorem Wordless.of_cons {event : Event} {events : List Event} (h : Wordless (event :: events)) :
    Wordless events :=
  fun line hmem => h line (List.mem_cons_of_mem _ hmem)

theorem dropArrivals_subset (n : Nat) (inbox : List Event) : dropArrivals n inbox ⊆ inbox := by
  induction inbox generalizing n with
  | nil => cases n <;> exact List.Subset.refl _
  | cons event inbox ih =>
      cases n with
      | zero => exact List.Subset.refl _
      | succ n =>
          rw [dropArrivals]
          split <;> exact List.subset_cons_of_subset event (ih _)

/-- The loop of a shell sends at most `CloseTerminal` when no line comes. -/
theorem shellLoop_wordless (zstd : Zstd) (tid : Int) (lost : Option Error) :
    ∀ (events : List Event) (st : ShellState), Wordless events →
      Grows (fun action => Quiet (.terminal action)) st.peer.sent
        (shellLoop zstd tid lost events st).2.1.peer.sent := by
  have hclose : ∀ peer : Peer, Grows (fun action => Quiet (.terminal action)) peer.sent
      (closeTerminal peer tid).sent := by
    intro peer
    rw [closeTerminal_sent]
    refine .append ?_ _
    intro action haction
    obtain rfl := List.mem_singleton.mp haction
    rfl
  intro events
  induction events with
  | nil =>
      intro st _
      cases lost with
      | none => exact hclose st.peer
      | some e => exact .refl _ _
  | cons event events ih =>
      intro st hwords
      have hrest := hwords.of_cons
      have harrived : ∀ event : Event, (∀ line, event ≠ .line line) →
          Grows (fun action => Quiet (.terminal action)) st.peer.sent
            (shellLoop zstd tid lost (event :: events) st).2.1.peer.sent := by
        intro event hline
        rw [shellLoop]
        · cases event.peerEvent.arrival with
          | none => exact ih st hrest
          | some arrival =>
              simp only
              rcases recvTerminalDataWithTimeout zstd "15".toList arrival with
                e | data | exitCode | message
              · exact .refl _ _
              · simp only
                rcases hwrite : st.uds.write (.raw data) with ⟨e | u, uds⟩
                · exact .refl _ _
                · exact ih { st with uds := uds } hrest
              · exact .refl _ _
              · exact .refl _ _
        · exact fun line => hline (some line)
        · exact hline none
      cases event with
      | frame frame => exact harrived _ (by simp)
      | elapsed timer => exact harrived _ (by simp)
      | line line =>
          cases line with
          | some line => exact absurd List.mem_cons_self (hwords line)
          | none => exact hclose st.peer

/-- So does the whole shell, after it has opened its terminal. -/
theorem shellSession_wordless (zstd : Zstd) (s : Stream) (uds : Uds) (serviceId : Option Text)
    (hwords : Wordless s.inbox) :
    s.Extends Quiet (shellSession zstd s uds serviceId).2.1 := by
  have hopened := openTerminal_sent s.peer 24 80
  have hafter : ∀ peer : Peer, peer.sent = s.peer.sent ++ [.openTerminal 0 24 80] →
      s.Extends Quiet (s.after peer) := by
    intro peer hsent
    refine ⟨rfl, rfl, .append ?_ s.sent⟩
    rw [hsent, show s.peer.sent = [] from rfl]
    intro m hm
    obtain rfl := List.mem_singleton.mp hm
    rfl
  unfold shellSession
  rcases hopen : openTerminal s.peer 24 80 with ⟨_ | (e | info), peer⟩ <;> rw [hopen] at hopened
  · exact hafter peer hopened
  · exact hafter peer hopened
  · have hopen := hafter peer hopened
    simp only
    rcases uds.sendResponse _ with ⟨e | u, uds₁⟩
    · exact hopen
    · have hrest : Wordless (s.after peer).inbox :=
        fun line hmem => hwords line (dropArrivals_subset _ _ hmem)
      obtain ⟨added, hadded, hquiet⟩ := shellLoop_wordless zstd info.terminalId (s.after peer).lost
        (s.after peer).inbox ⟨⟨[], (s.after peer).sends, []⟩, uds₁, some info.serviceId⟩ hrest
      refine hopen.trans ⟨rfl, rfl, ?_⟩
      simp only [hadded, List.nil_append]
      refine .append ?_ _
      intro m hm
      obtain ⟨action, haction, rfl⟩ := List.mem_map.mp hm
      exact hquiet action haction

/-- The line of the client, if the wait ends with one. -/
def Stream.Wake.clientLine : Stream.Wake → Option (Option Text)
  | .line said => some said
  | _ => none

/-- The lines of the client among the ends of the waits. -/
def wakeLines (wakes : List Stream.Wake) : List (Option Text) :=
  wakes.filterMap Stream.Wake.clientLine

/-- What is scheduled has no other lines than the client's. -/
theorem merge_wordless {wakes : List Stream.Wake} (hwakes : ∀ line, some line ∉ wakeLines wakes)
    {inbox : List Event} (hinbox : ∀ event ∈ inbox, Stream.isFrame event = true) :
    Wordless (Stream.merge wakes inbox) := by
  induction wakes generalizing inbox with
  | nil =>
      intro line hmem
      cases hinbox _ hmem
  | cons wake wakes ih =>
      have hrest : ∀ line, some line ∉ wakeLines wakes := by
        intro line hmem
        obtain ⟨other, hother, heq⟩ := List.mem_filterMap.mp hmem
        exact hwakes line (List.mem_filterMap.mpr ⟨other, List.mem_cons_of_mem _ hother, heq⟩)
      cases wake with
      | stream =>
          cases inbox with
          | nil => exact ih hrest (by simp)
          | cons event inbox =>
              intro line hmem
              rcases List.mem_cons.mp hmem with rfl | hmem
              · cases hinbox _ List.mem_cons_self
              · exact ih hrest (fun e he => hinbox e (List.mem_cons_of_mem _ he)) line hmem
      | elapsed timer =>
          intro line hmem
          rcases List.mem_cons.mp hmem with heq | hmem
          · cases heq
          · exact ih hrest hinbox line hmem
      | line said =>
          intro line hmem
          rcases List.mem_cons.mp hmem with heq | hmem
          · refine hwakes line (List.mem_filterMap.mpr ⟨_, List.mem_cons_self, ?_⟩)
            rw [← Event.line.inj heq]
            rfl
          · exact ih hrest hinbox line hmem

section Shell

variable {ι : Type} {lib : Capture.ImageLib ι} {d d' : DaemonLoop}

/-- The stream of a running daemon has nothing but frames to be read. -/
theorem Reachable.framesOnly (hd : Reachable lib d) : d.encrypted.FramesOnly := by
  obtain ⟨config, conn, d₀, actions, hstart, hrun⟩ := hd
  have hstep : ∀ d action d', d.encrypted.FramesOnly → loopStep lib d action = some d' →
      d'.encrypted.FramesOnly := by
    intro d action d' hd h
    cases DaemonLoop.loopStep_turn h with
    | stays talks => exact talks.frames hd
    | leaves close result talks left =>
        rw [left]
        intro event hevent
        exact talks.frames hd event (by simpa [DaemonLoop.leave] using hevent)
  have hinit : d₀.encrypted.FramesOnly := by
    unfold startLoop at hstart
    split at hstart
    · cases hstart
    · rename_i s hs
      obtain ⟨_, hinbox, _⟩ := initializeStreamForMode_ok hs
      rw [← Option.some.inj hstart]
      intro event hevent
      rw [show s.inbox = conn.frames.map .frame from hinbox] at hevent
      obtain ⟨frame, _, rfl⟩ := List.mem_map.mp hevent
      rfl
  exact (loopMachine lib).invariant hstep hinit hrun

/-- A shell whose client says nothing types nothing, on no stream. -/
theorem handleRequest_wordless (hd : d.encrypted.FramesOnly) {req : Request}
    (hline : req.line = .ok .shell) (hwakes : ∀ line, some line ∉ wakeLines req.firstWakes)
    {uds : Uds} (h : d.handleRequest lib req = some (uds, d')) : d'.typed = d.typed := by
  have hroutine : ∀ (mode : ConnType) (m : Outgoing), IsRoutine m → Quiet m := by
    intro mode m hm
    cases m <;> first | rfl | exact hm.elim
  obtain ⟨hmoves, hmode⟩ := switchMode_moves (K := fun _ => Quiet) d req.switchMode .shell
  have hframes := DaemonLoop.switchMode_frames d req.switchMode .shell hd
  unfold DaemonLoop.handleRequest at h
  rw [hline] at h
  simp only at h
  split at h <;> rename_i d₁ hswitch <;> rw [hswitch] at hmoves hmode hframes
  · obtain ⟨_, rfl⟩ := Prod.mk.inj (Option.some.inj h)
    exact Moves.typed hmoves
  · have hterminal : d₁.activeConnType = .terminal := hmode rfl
    have hscheduled : Wordless (d₁.encrypted.schedule req.firstWakes).inbox :=
      merge_wordless hwakes hframes
    have hsent := (d₁.encrypted.schedule_extends Quiet req.firstWakes).trans
      (shellSession_wordless req.first.exec.zstd (d₁.encrypted.schedule req.firstWakes)
        ⟨req.writes, []⟩ d₁.activeServiceId hscheduled)
    have hsettled := hsent.trans (Stream.settle_extends Quiet _)
    have hshell : Move (fun _ => Quiet) d₁ { d₁ with
        encrypted := (shellSession req.first.exec.zstd (d₁.encrypted.schedule req.firstWakes)
          ⟨req.writes, []⟩ d₁.activeServiceId).2.1.settle
        activeServiceId := (shellSession req.first.exec.zstd
          (d₁.encrypted.schedule req.firstWakes) ⟨req.writes, []⟩ d₁.activeServiceId).2.2.2 } :=
      .work rfl hsettled.login hsettled.sent (fun _ => .inr hterminal) rfl
    have hwhole : Moves (fun _ => Quiet) d₁ (d₁.runShell req ⟨req.writes, []⟩).2 := by
      unfold DaemonLoop.runShell
      simp only
      split
      · exact .single hshell
      · split
        · exact .head hshell (recover_moves hroutine _ _ _)
        · exact .single hshell
    rw [(Option.some.inj h : d₁.runShell req ⟨req.writes, []⟩ = (uds, d'))] at hwhole
    exact Moves.typed (hmoves.trans hwhole)

end Shell

end RustdeskCli.Daemon

namespace RustdeskCli.Cli

open RustdeskCli.Foundation
open RustdeskCli.Session
open RustdeskCli.Daemon

/-- What comes behind the request, which is left in the buffer of the daemon's reader. -/
def behindRequest (arrived : Bytes) : Bytes := (Records.cutAfter 0x0A arrived).tail.flatten

/-- The `shell` of the command line is a shell that nobody types into: whatever the daemon has
done before, whatever the peer sends and in whatever order, the request of `send_command` has
it type nothing, on the stream it finds or on any that it gets. -/
theorem shell_command_types_nothing {ι : Type} (lib : Capture.ImageLib ι)
    (commands : Codec SessionCommand Error) (hcommands : commands.Lawful id) (d d' : DaemonLoop)
    (hd : Reachable lib d) (req : Request)
    (hlines : wakeLines req.firstWakes =
      readerTask (behindRequest (commands.stream [.shell])))
    (hturn : loopStep lib d (requestTurn commands (commands.stream [.shell]) req) = some d') :
    d'.typed = d.typed := by
  have hwhole : commands.bytes .shell <+: commands.stream [.shell] := by
    rw [Codec.stream_singleton]
    exact List.prefix_append _ _
  have hbehind : behindRequest (commands.stream [.shell]) = [] := by
    rw [behindRequest, Codec.stream_singleton,
      Records.cutAfter_record (Codec.lf_not_mem_bytes hcommands .shell)]
    rfl
  have hwakes : ∀ line, some line ∉ wakeLines req.firstWakes := by
    intro line hmem
    rw [hlines, hbehind] at hmem
    simp [readerTask, byteLines, readerLoop] at hmem
  unfold requestTurn at hturn
  rw [readRequest_whole hcommands .shell List.prefix_rfl hwhole] at hturn
  unfold loopStep at hturn
  split at hturn
  · cases hturn
  · obtain ⟨⟨uds, d₁⟩, hrequest, rfl⟩ := Option.map_eq_some_iff.mp hturn
    have hline : ({ req with line := .ok .shell } : Request).line = .ok .shell := rfl
    exact handleRequest_wordless hd.framesOnly hline hwakes hrequest

/-- A terminal is opened, and nothing is typed. -/
theorem shell_command_types_nothing_sample :
    ∃ d', loopStep sampleImages sampleDaemon (requestTurn commandCodec
        (commandCodec.stream [.shell])
        (sampleRequest (.ok .status) [.line none] (.ok (sampleConn [])))) = some d' ∧
      d'.retired.length = 2 ∧ d'.typed = [] := by
  refine ⟨_, rfl, by decide +kernel, ?_⟩
  exact shell_command_types_nothing sampleImages commandCodec commandCodec_lawful sampleDaemon _
    ⟨_, _, _, [], startLoop_sample, rfl⟩
    (sampleRequest (.ok .status) [.line none] (.ok (sampleConn []))) (by decide +kernel) rfl

end RustdeskCli.Cli
