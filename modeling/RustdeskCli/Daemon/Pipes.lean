import RustdeskCli.Daemon.TerminalCleanup
import RustdeskCli.Terminal.Session
import RustdeskCli.Transfer.Push
set_option autoImplicit false

/-!
# Daemon: what the interactive sessions let through (`src/terminal.rs`, `src/daemon.rs`)

`run_terminal_session` and the daemon's `shell_session` are meant to be pipes in both
directions.  Here is what they really pass on, for every interleaving of the two sides and
however the session ends: each chunk of input they have taken goes to the terminal once and
in order, each piece of output they have taken is written once and in order, and nothing
else is typed or written.
-/

namespace RustdeskCli.Daemon

open RustdeskCli.Foundation
open RustdeskCli.Session
open RustdeskCli.Terminal
open RustdeskCli.Exec
open RustdeskCli.Transfer

/-! ## The two pipes -/

section Pipes

variable (zstd : Zstd) (tid : Int)

/-- The actions `send_terminal_data` makes of some data: one, or none when the data cannot be
compressed. -/
def packed (data : Bytes) : List TerminalAction :=
  if data.length > compressThreshold then
    match zstd.encodeAll data with
    | .ok payload => [.data ⟨tid, payload, true⟩]
    | .error _ => []
  else [.data ⟨tid, data, false⟩]

/-- What an action brings to the terminal. -/
def unpacked : TerminalAction → Option Bytes
  | .data td =>
      if td.terminalId = tid then
        if td.compressed then (zstd.decodeAll td.data).toOption else some td.data
      else none
  | _ => none

/-- The data, if it can be sent. -/
def sendable (data : Bytes) : List Bytes := if packs zstd data then [data] else []

theorem sendTerminalData_sent (peer : Peer) (data : Bytes) :
    (sendTerminalData zstd peer tid data).2.sent = peer.sent ++ packed zstd tid data := by
  unfold sendTerminalData packed
  by_cases hlong : data.length > compressThreshold
  · simp only [if_pos hlong]
    cases hpayload : zstd.encodeAll data with
    | error e => simp
    | ok payload =>
      have hsent := peer.sendAction_sent (.data ⟨tid, payload, true⟩)
      rcases hresult : peer.sendAction (.data ⟨tid, payload, true⟩) with ⟨e | u, peer'⟩ <;>
        rw [hresult] at hsent <;> simpa [hresult] using hsent
  · simp only [if_neg hlong]
    have hsent := peer.sendAction_sent (.data ⟨tid, data, false⟩)
    rcases hresult : peer.sendAction (.data ⟨tid, data, false⟩) with ⟨e | u, peer'⟩ <;>
      rw [hresult] at hsent <;> simpa [hresult] using hsent

variable {zstd}

/-- What can be sent arrives as it was. -/
theorem packed_unpacked (hzstd : RoundTrips zstd) (data : Bytes) :
    (packed zstd tid data).map (unpacked zstd tid) = (sendable zstd data).map some := by
  unfold packed sendable packs
  by_cases hlong : data.length > compressThreshold
  · rw [if_pos hlong]
    cases hencode : zstd.encodeAll data with
    | error e => simp [Nat.not_le.mpr hlong, Except.isOk, Except.toBool]
    | ok payload =>
        simp [Except.isOk, Except.toBool, unpacked, hzstd data payload hencode, Except.toOption]
  · rw [if_neg hlong]
    simp [Nat.not_lt.mp hlong, unpacked]

/-- The same for everything that is typed while some events are taken. -/
theorem flatMap_packed_unpacked (hzstd : RoundTrips zstd) {α : Type} (chunk : α → Option Bytes)
    (taken : List α) :
    (taken.flatMap fun x => (chunk x).toList.flatMap (packed zstd tid)).map (unpacked zstd tid) =
      (taken.flatMap fun x => (chunk x).toList.flatMap (sendable zstd)).map some := by
  induction taken with
  | nil => rfl
  | cons x taken ih =>
      rw [List.flatMap_cons, List.flatMap_cons, List.map_append, List.map_append, ih]
      congr 1
      cases chunk x with
      | none => rfl
      | some data => simpa using packed_unpacked tid hzstd data

/-- What ends a session: its terminal is closed, or nothing more is sent. -/
def IsClosing (actions : List TerminalAction) : Prop :=
  actions = [] ∨ actions = [.closeTerminal tid]

/-- A session has passed on what it took: its input has been typed, chunk by chunk, and after it
at most the terminal closed; its output has been written, piece by piece. -/
structure PassedOn {α β : Type} (zstd : Zstd) (tid : Int) (input : α → Option Bytes)
    (output : α → List β) (taken : List α) (sent sent' : List TerminalAction)
    (written written' : List β) : Prop where
  typed : ∃ typed closing, sent' = sent ++ (typed ++ closing) ∧
    typed.map (unpacked zstd tid) =
      (taken.flatMap fun x => (input x).toList.flatMap (sendable zstd)).map some ∧
    IsClosing tid closing
  written : written' = written ++ taken.flatMap output

variable {tid}

/-- What a round of a session adds to its two pipes; it closes the terminal only when it ends
the session. -/
def RoundPasses {α β σ ρ : Type} (zstd : Zstd) (tid : Int) (input : α → Option Bytes)
    (output : α → List β) (sent : σ → List TerminalAction) (written : σ → List β) (final : ρ → σ)
    (st : σ) (x : α) (round : ρ ⊕ σ) : Prop :=
  ∃ closing, IsClosing tid closing ∧ (round.isRight = true → closing = []) ∧
    sent (round.elim final id) =
      sent st ++ (input x).toList.flatMap (packed zstd tid) ++ closing ∧
    written (round.elim final id) = written st ++ output x

/-- A loop passes on what it takes when each of its rounds does. -/
theorem passedOn_of_rounds (hzstd : RoundTrips zstd) {α β σ ρ τ : Type} {run : List α → σ → τ}
    {leave : ρ → List α → τ} {round : σ → α → ρ ⊕ σ} (hrounds : Rounds run leave round)
    {input : α → Option Bytes} {output : α → List β} {sent : σ → List TerminalAction}
    {written : σ → List β} {final : ρ → σ}
    (hround : ∀ st x,
      RoundPasses zstd tid input output sent written final st x (round st x))
    (hdry : ∀ st r left, run [] st = leave r left → left = [] ∧ ∃ closing, IsClosing tid closing ∧
      sent (final r) = sent st ++ closing ∧ written (final r) = written st)
    {l left : List α} {st : σ} {r : ρ} (hrun : run l st = leave r left) :
    ∃ taken, l = taken ++ left ∧
      PassedOn zstd tid input output taken (sent st) (sent (final r)) (written st)
        (written (final r)) := by
  have hgoes : ∀ st x st', round st x = .inr st' →
      sent st' = sent st ++ (input x).toList.flatMap (packed zstd tid) ∧
        written st' = written st ++ output x := by
    intro st x st' hx
    obtain ⟨closing, _, hnone, hsent, hwritten⟩ := hround st x
    rw [hx] at hnone hsent hwritten
    rw [hnone rfl, List.append_nil] at hsent
    exact ⟨hsent, hwritten⟩
  have hsent : ∀ {l : List α} {st st' : σ}, (roundMachine round).run st l = some st' →
      sent st' = sent st ++ l.flatMap fun x => (input x).toList.flatMap (packed zstd tid) :=
    fun h => roundMachine_log (fun st x st' hx => (hgoes st x st' hx).1) h
  have hwritten : ∀ {l : List α} {st st' : σ}, (roundMachine round).run st l = some st' →
      written st' = written st ++ l.flatMap output :=
    fun h => roundMachine_log (fun st x st' hx => (hgoes st x st' hx).2) h
  rcases hrounds.splits hrun with ⟨before, x, st', rfl, hbefore, hlast⟩ | ⟨st', hall, hlast⟩
  · obtain ⟨closing, hclosing, _, hlastSent, hlastWritten⟩ := hround st' x
    rw [hlast] at hlastSent hlastWritten
    refine ⟨before ++ [x], by simp, ⟨_, closing, ?_, flatMap_packed_unpacked tid hzstd input _,
      hclosing⟩, ?_⟩
    · refine hlastSent.trans ?_
      rw [hsent hbefore]
      simp [List.flatMap_append, List.append_assoc]
    · refine hlastWritten.trans ?_
      rw [hwritten hbefore]
      simp [List.flatMap_append, List.append_assoc]
  · obtain ⟨rfl, closing, hclosing, hlastSent, hlastWritten⟩ := hdry st' r left hlast
    refine ⟨l, by simp, ⟨_, closing, ?_, flatMap_packed_unpacked tid hzstd input _, hclosing⟩, ?_⟩
    · rw [hlastSent, hsent hall, List.append_assoc]
    · rw [hlastWritten, hwritten hall]

end Pipes

/-! ## The direct session -/

/-- The chunk of the standard input that a round takes. -/
def directInput : DirectEvent → Option Bytes
  | .stdin chunk => chunk
  | .stream _ => none

/-- What the terminal prints when an event has been taken. -/
def Event.printed (zstd : Zstd) (event : Event) : List Bytes :=
  match event.peerEvent.arrival with
  | none => []
  | some arrival =>
      match recvTerminalDataWithTimeout zstd "15".toList arrival with
      | .ok (.data data) => [data]
      | _ => []

/-- What a round prints. -/
def directOutput (zstd : Zstd) : DirectEvent → List Bytes
  | .stdin _ => []
  | .stream event => event.printed zstd

theorem print_written (stdout : Stdout) (data : Bytes) :
    (stdout.print data).2.written = stdout.written ++ [data] := by
  unfold Stdout.print
  split
  · rfl
  · split <;> rfl

section Direct

variable {zstd : Zstd} {tid : Int}

theorem directRound_passes (st : DirectState) (event : DirectEvent) :
    RoundPasses zstd tid directInput (directOutput zstd) (·.peer.sent) (·.stdout.written) Prod.snd
      st event (directRound zstd tid st event) := by
  rcases event with (_ | data) | event
  · refine ⟨[.closeTerminal tid], .inr rfl, fun h => (Bool.false_ne_true h).elim, ?_⟩
    simp [directRound, directInput, directOutput, closeTerminal]
  · refine ⟨[], .inl rfl, fun _ => rfl, ?_⟩
    have hsent := sendTerminalData_sent zstd tid st.peer data
    unfold directRound
    dsimp only
    rcases hresult : sendTerminalData zstd st.peer tid data with ⟨e | u, peer⟩ <;>
      rw [hresult] at hsent <;> simpa [directInput, directOutput] using hsent
  · refine ⟨[], .inl rfl, fun _ => rfl, ?_⟩
    unfold directRound directInput directOutput Event.printed
    dsimp only
    cases event.peerEvent.arrival with
    | none => simp
    | some arrival =>
        dsimp only
        rcases recvTerminalDataWithTimeout zstd "15".toList arrival with
          e | data | exitCode | message
        · simp
        · have hwritten := print_written st.stdout data
          dsimp only
          rcases hresult : st.stdout.print data with ⟨e | u, stdout⟩ <;>
            rw [hresult] at hwritten <;> simpa using hwritten
        · simp
        · simp

/-- The loop has nothing left to take: the connection is lost, or the input has ended. -/
theorem terminalLoop_dry {lost : Option Error} {st : DirectState}
    {r : Except Error Unit × DirectState} {left : List DirectEvent}
    (h : terminalLoop zstd tid lost [] st = directLeaving r left) :
    left = [] ∧ ∃ closing, IsClosing tid closing ∧
      r.2.peer.sent = st.peer.sent ++ closing ∧ r.2.stdout.written = st.stdout.written := by
  cases lost with
  | some e =>
      obtain ⟨_, hrest⟩ := Prod.mk.inj h
      obtain ⟨hst, hleft⟩ := Prod.mk.inj hrest
      rw [← hst]
      exact ⟨hleft.symm, [], .inl rfl, by simp, rfl⟩
  | none =>
      obtain ⟨_, hrest⟩ := Prod.mk.inj h
      obtain ⟨hst, hleft⟩ := Prod.mk.inj hrest
      rw [← hst]
      exact ⟨hleft.symm, [.closeTerminal tid], .inr rfl, by simp [closeTerminal], rfl⟩

/-- `run_terminal_session` on a stream that is logged in: its result, what it has printed, and
what it has sent. -/
def runTerminalSessionSent (zstd : Zstd) (lines columns : Option Text) (s : Stream)
    (races : List Race) (stdout : Stdout) : Except Error Unit × Stdout × List Outgoing :=
  match connectTerminal lines columns s with
  | (.error e, s) => (.error e, stdout, s.sent)
  | (.ok info, s) =>
      match terminalLoop zstd info.terminalId s.lost (directEvents races s.inbox)
          ⟨⟨[], s.sends, []⟩, stdout⟩ with
      | (result, st, _) => (result, st.stdout, s.sent ++ st.peer.sent.map .terminal)

theorem runTerminalSessionSent_eq (zstd : Zstd) (lines columns : Option Text) (s : Stream)
    (races : List Race) (stdout : Stdout) :
    ((runTerminalSessionSent zstd lines columns s races stdout).1,
        (runTerminalSessionSent zstd lines columns s races stdout).2.1) =
      runTerminalSession zstd lines columns s races stdout := by
  unfold runTerminalSessionSent runTerminalSession
  rcases connectTerminal lines columns s with ⟨e | info, s'⟩ <;> rfl

/-- `run_terminal_session` is a pipe: however its two sides interleave and however it ends, it
has typed the chunks of the standard input that it has taken, each once and in order, and
after them at most closed the terminal; and it has printed the output that it has taken, each
piece once and in order. -/
theorem terminal_session_passes_on (hzstd : RoundTrips zstd) (lines columns : Option Text)
    (s s' : Stream) (info : TerminalInfo) (races : List Race) (stdout : Stdout)
    (hopen : connectTerminal lines columns s = (.ok info, s')) :
    ∃ taken left sent, directEvents races s'.inbox = taken ++ left ∧
      (runTerminalSessionSent zstd lines columns s races stdout).2.2 =
        s'.sent ++ sent.map .terminal ∧
      PassedOn zstd info.terminalId directInput (directOutput zstd) taken [] sent stdout.written
        (runTerminalSessionSent zstd lines columns s races stdout).2.1.written := by
  rcases hloop : terminalLoop zstd info.terminalId s'.lost (directEvents races s'.inbox)
      ⟨⟨[], s'.sends, []⟩, stdout⟩ with ⟨result, st, left⟩
  have hrun : terminalLoop zstd info.terminalId s'.lost (directEvents races s'.inbox)
      ⟨⟨[], s'.sends, []⟩, stdout⟩ = directLeaving (result, st) left := hloop
  obtain ⟨taken, htaken, hpassed⟩ := passedOn_of_rounds hzstd
    (terminalLoop_rounds zstd info.terminalId s'.lost) directRound_passes
    (fun _ _ _ => terminalLoop_dry) hrun
  have hsession : runTerminalSessionSent zstd lines columns s races stdout =
      (result, st.stdout, s'.sent ++ st.peer.sent.map .terminal) := by
    unfold runTerminalSessionSent
    rw [hopen]
    dsimp only
    rw [hloop]
  refine ⟨taken, left, st.peer.sent, htaken, ?_, ?_⟩
  · rw [hsession]
  · rw [hsession]
    exact hpassed

end Direct

theorem storingZstd_roundTrips : RoundTrips storingZstd := by
  intro data packed h
  rw [← Except.ok.inj h]
  rfl

/-- What a terminal does that prints `hi` and ends. -/
def printsHi : List Event :=
  [.frame (.message (.terminalResponse (some (.data ⟨7, [0x68, 0x69], false⟩)))),
    .frame (.message (.terminalResponse (some (.closed ⟨7, 0⟩))))]

/-- Such a terminal, opened by the peer itself, with a heartbeat before it prints. -/
def sampleTerminal : Stream := openedStream (.frame .heartbeat :: printsHi)

/-- A session in which `ls` is typed before the terminal prints. -/
theorem terminal_session_passes_on_ls :
    (runTerminalSessionSent storingZstd none none sampleTerminal
          [.stdin (some [0x6C, 0x73, 0x0A])] ⟨[], []⟩).2 =
        (⟨[], [[0x68, 0x69]]⟩, [.terminal (.data ⟨7, [0x6C, 0x73, 0x0A], false⟩)]) ∧
      ∃ taken left sent,
        directEvents [.stdin (some [0x6C, 0x73, 0x0A])] sampleTerminal.inbox.tail =
          taken ++ left ∧
        (runTerminalSessionSent storingZstd none none sampleTerminal
          [.stdin (some [0x6C, 0x73, 0x0A])] ⟨[], []⟩).2.2 = [] ++ sent.map .terminal ∧
        PassedOn storingZstd 7 directInput (directOutput storingZstd) taken [] sent []
          (runTerminalSessionSent storingZstd none none sampleTerminal
            [.stdin (some [0x6C, 0x73, 0x0A])] ⟨[], []⟩).2.1.written :=
  ⟨rfl, terminal_session_passes_on storingZstd_roundTrips none none sampleTerminal
    { sampleTerminal with inbox := sampleTerminal.inbox.tail } ⟨7, 1, ['s']⟩
    [.stdin (some [0x6C, 0x73, 0x0A])] ⟨[], []⟩ rfl⟩

/-! ## The shell of the daemon -/

section Shell

variable {zstd : Zstd} {tid : Int}

/-- What a round types: a line of the client. -/
def shellInput : Event → Option Bytes
  | .line (some text) => some (textBytes text)
  | _ => none

/-- What a round writes to the client. -/
def shellOutput (zstd : Zstd) (event : Event) : List Output := (event.printed zstd).map .raw

theorem shellStep_passes (st : ShellState) (event : Event) :
    RoundPasses zstd tid shellInput (shellOutput zstd) (·.peer.sent) (·.uds.written) Prod.snd
      st event (shellStep zstd tid st (event.shell zstd)) := by
  have harrived : ∀ event : Event, (∀ text, event ≠ .line text) →
      RoundPasses zstd tid shellInput (shellOutput zstd) (·.peer.sent) (·.uds.written) Prod.snd
        st event (shellStep zstd tid st (event.shell zstd)) := by
    intro event hline
    have hinput : shellInput event = none := by
      cases event with
      | line text => exact absurd rfl (hline text)
      | frame frame => rfl
      | elapsed timer => rfl
    refine ⟨[], .inl rfl, fun _ => rfl, ?_⟩
    rw [hinput, Event.shell]
    · unfold shellOutput Event.printed
      cases event.peerEvent.arrival with
      | none => simp [shellStep]
      | some arrival =>
          dsimp only
          rcases recvTerminalDataWithTimeout zstd "15".toList arrival with
            e | data | exitCode | message
          · simp [shellStep]
          · have hwritten := st.uds.write_written (.raw data)
            unfold shellStep
            dsimp only
            rcases hresult : st.uds.write (.raw data) with ⟨e | u, uds⟩ <;>
              rw [hresult] at hwritten <;> simpa using hwritten
          · simp [shellStep]
          · simp [shellStep]
    · exact fun text => hline (some text)
    · exact hline none
  rcases event with frame | timer | (_ | text)
  · exact harrived _ (by simp)
  · exact harrived _ (by simp)
  · refine ⟨[.closeTerminal tid], .inr rfl, fun h => (Bool.false_ne_true h).elim, ?_⟩
    simp [shellStep, Event.shell, shellInput, shellOutput, Event.printed, Event.peerEvent,
      PeerEvent.arrival, closeTerminal]
  · refine ⟨[], .inl rfl, fun _ => rfl, ?_⟩
    have hsent := sendTerminalData_sent zstd tid st.peer (textBytes text)
    rw [Event.shell]
    unfold shellStep
    dsimp only
    rcases hresult : sendTerminalData zstd st.peer tid (textBytes text) with ⟨e | u, peer⟩ <;>
      rw [hresult] at hsent <;>
      simpa [shellInput, shellOutput, Event.printed, Event.peerEvent, PeerEvent.arrival] using hsent

/-- The loop of a shell has nothing left to take. -/
theorem shellLoop_dry {lost : Option Error} {st : ShellState} {r : Except Error Unit × ShellState}
    {left : List Event} (h : shellLoop zstd tid lost [] st = shellLeaving r left) :
    left = [] ∧ ∃ closing, IsClosing tid closing ∧
      r.2.peer.sent = st.peer.sent ++ closing ∧ r.2.uds.written = st.uds.written := by
  cases lost with
  | some e =>
      obtain ⟨_, hrest⟩ := Prod.mk.inj h
      obtain ⟨hst, hleft⟩ := Prod.mk.inj hrest
      rw [← hst]
      exact ⟨hleft.symm, [], .inl rfl, by simp, rfl⟩
  | none =>
      obtain ⟨_, hrest⟩ := Prod.mk.inj h
      obtain ⟨hst, hleft⟩ := Prod.mk.inj hrest
      rw [← hst]
      exact ⟨hleft.symm, [.closeTerminal tid], .inr rfl, by simp [closeTerminal], rfl⟩

/-- `shell_session` is a pipe in the same way: once the terminal is open and the client has its
acknowledgement, the client's lines that it has taken have been typed, each once and in order,
and the output that it has taken has been written to the client, each piece once and in
order. -/
theorem shell_session_passes_on (hzstd : RoundTrips zstd) (s : Stream) (uds uds' : Uds)
    (serviceId : Option Text) (info : TerminalInfo) (peer : Peer)
    (hopen : openTerminal s.peer 24 80 = (some (.ok info), peer))
    (hack : uds.sendResponse (shellAck info.terminalId) = (.ok (), uds')) :
    ∃ taken sent,
      (s.after peer).inbox = taken ++ (shellSession zstd s uds serviceId).2.1.inbox ∧
      (shellSession zstd s uds serviceId).2.1.sent =
        (s.after peer).sent ++ sent.map .terminal ∧
      PassedOn zstd info.terminalId shellInput (shellOutput zstd) taken [] sent uds'.written
        (shellSession zstd s uds serviceId).2.2.1.written := by
  rcases hloop : shellLoop zstd info.terminalId (s.after peer).lost (s.after peer).inbox
      ⟨⟨[], (s.after peer).sends, []⟩, uds', some info.serviceId⟩ with ⟨result, st, left⟩
  have hrun : shellLoop zstd info.terminalId (s.after peer).lost (s.after peer).inbox
      ⟨⟨[], (s.after peer).sends, []⟩, uds', some info.serviceId⟩ =
        shellLeaving (result, st) left := hloop
  obtain ⟨taken, htaken, hpassed⟩ := passedOn_of_rounds hzstd
    (shellLoop_rounds zstd info.terminalId (s.after peer).lost) shellStep_passes
    (fun _ _ _ => shellLoop_dry) hrun
  have hsession : shellSession zstd s uds serviceId =
      (result, { s.after peer with
        inbox := left
        sends := st.peer.sends
        sent := (s.after peer).sent ++ st.peer.sent.map .terminal }, st.uds, st.serviceId) := by
    unfold shellSession
    rw [hopen]
    dsimp only
    rw [hack]
    dsimp only
    rw [hloop]
  refine ⟨taken, st.peer.sent, ?_, ?_, ?_⟩
  · rw [hsession]
    exact htaken
  · rw [hsession]
  · rw [hsession]
    exact hpassed

end Shell

/-- Such a terminal behind a line of the client. -/
def sampleShell : Stream := openedStream (.line (some ['l', 's', '\n']) :: printsHi)

/-- A shell in which `ls` is typed and answered. -/
theorem shell_session_passes_on_ls :
    ∃ peer, openTerminal sampleShell.peer 24 80 = (some (.ok ⟨7, 1, ['s']⟩), peer) ∧
      ∃ taken sent,
        (sampleShell.after peer).inbox =
          taken ++ (shellSession storingZstd sampleShell ⟨[], []⟩ none).2.1.inbox ∧
        (shellSession storingZstd sampleShell ⟨[], []⟩ none).2.1.sent =
          (sampleShell.after peer).sent ++ sent.map .terminal ∧
        PassedOn storingZstd 7 shellInput (shellOutput storingZstd) taken [] sent
          [.line (shellAck 7)] (shellSession storingZstd sampleShell ⟨[], []⟩ none).2.2.1.written :=
  ⟨_, rfl, shell_session_passes_on storingZstd_roundTrips sampleShell ⟨[], []⟩
    ⟨[], [.line (shellAck 7)]⟩ none ⟨7, 1, ['s']⟩ _ rfl rfl⟩

end RustdeskCli.Daemon
