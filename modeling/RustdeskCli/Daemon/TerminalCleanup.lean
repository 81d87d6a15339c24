import RustdeskCli.Daemon.Handlers
import RustdeskCli.Exec.StreamedText
import RustdeskCli.Foundation.Rounds
set_option autoImplicit false

/-!
# Daemon: what an exec and a shell leave behind (`src/daemon.rs`)

`exec_command_inner` and `shell_session` open a terminal on the peer and remember its
service.  Each of their exits has to close the terminal and forget the service by hand.
The exits behind a `?` do neither: a client that no longer takes its output, a library
that does not compress what is typed.  `exec` closes the terminal but keeps the service
when the prompt drain meets a message it cannot read; a shell forgets the service but
does not close the terminal when the wait for the terminal ends in an error or an error
event, the timer of that wait among them.
-/

namespace RustdeskCli.Daemon

open RustdeskCli.Foundation
open RustdeskCli.Session
open RustdeskCli.Terminal
open RustdeskCli.Exec

/-- The terminal `tid` has been closed from one side or the other, and its service is
forgotten: `later` is what was sent and `read` what ended the waits since it was opened. -/
def Released (tid : Int) (later : List TerminalAction) (read : List Arrival)
    (serviceId : Option Text) : Prop :=
  (.closeTerminal tid ∈ later ∨ ∃ closed, .response (.closed closed) ∈ read) ∧ serviceId = none

/-! ## Typing -/

/-- The data can be sent: it is short, or the library compresses it. -/
def packs (zstd : Zstd) (data : Bytes) : Bool :=
  data.length ≤ compressThreshold || (zstd.encodeAll data).isOk

/-- The message carries the data, compressed or as it is. -/
def Carries (zstd : Zstd) (td : TerminalData) (data : Bytes) : Prop :=
  if td.compressed then zstd.encodeAll data = .ok td.data else td.data = data

section Typing

variable {zstd : Zstd} {data : Bytes} (peer : Peer)

/-- On a stream that does not fail the next send succeeds. -/
theorem nextOutcome_eq_none {sends : List (Option Error)} (hsends : ∀ e, some e ∉ sends) :
    nextOutcome sends = none := by
  rcases sends with _ | ⟨_ | e, sends⟩
  · rfl
  · rfl
  · exact absurd List.mem_cons_self (hsends e)

/-- A send that the stream takes. -/
theorem sendAction_ok (hnext : nextOutcome peer.sends = none) (action : TerminalAction) :
    peer.sendAction action =
      (.ok (), ⟨peer.inbox, peer.sends.tail, peer.sent ++ [action]⟩) := by
  rw [Peer.sendAction]
  split
  · rename_i hhead
    rw [hhead] at hnext
    cases hnext
  · rfl

/-- What can be sent is sent as one message. -/
theorem sendTerminalData_of_packs (hnext : nextOutcome peer.sends = none)
    (hpacks : packs zstd data = true) (tid : Int) :
    ∃ td : TerminalData, td.terminalId = tid ∧ Carries zstd td data ∧
      sendTerminalData zstd peer tid data =
        (.ok (), ⟨peer.inbox, peer.sends.tail, peer.sent ++ [.data td]⟩) := by
  unfold sendTerminalData
  by_cases hlong : data.length > compressThreshold
  · cases hencode : zstd.encodeAll data with
    | error e =>
        simp only [packs, hencode, Except.isOk, Except.toBool, Bool.or_false,
          decide_eq_true_eq] at hpacks
        omega
    | ok payload =>
        refine ⟨⟨tid, payload, true⟩, rfl, hencode, ?_⟩
        simp only [if_pos hlong, sendAction_ok peer hnext]
  · refine ⟨⟨tid, data, false⟩, rfl, rfl, ?_⟩
    simp only [if_neg hlong, sendAction_ok peer hnext]

/-- What cannot be compressed is not sent. -/
theorem sendTerminalData_of_not_packs (hpacks : packs zstd data = false) (tid : Int) :
    ∃ e, sendTerminalData zstd peer tid data = (.error e, peer) := by
  unfold sendTerminalData
  simp only [packs, Bool.or_eq_false_iff, decide_eq_false_iff_not, not_le] at hpacks
  cases hencode : zstd.encodeAll data with
  | ok payload => simp [hencode, Except.isOk, Except.toBool] at hpacks
  | error e =>
      refine ⟨e.context "zstd compression failed".toList, ?_⟩
      simp only [gt_iff_lt, if_pos hpacks.1]

end Typing

/-! ## exec -/

/-- The arrival is a chunk of output. -/
def isChunk (zstd : Zstd) (secs : Text) (arrival : Arrival) : Bool :=
  match recvTerminalDataWithTimeout zstd secs arrival with
  | .ok (.data _) => true
  | _ => false

/-- What comes after the prompt: the first arrival that is no chunk, and the rest. -/
def afterPrompt (zstd : Zstd) (inbox : List Arrival) : List Arrival :=
  inbox.dropWhile (isChunk zstd "2".toList)

/-- Every chunk an `exec` shows from here on is taken by the client it is streamed to. -/
def TakesShown (env : ExecEnv) (client : Client) (inbox : List Arrival) : Prop :=
  client.streaming = true → ∀ e, some e ∉ client.writes.take
    (shown env.zstd env.remaining (sentinelOf env.sentinelId) inbox).length

/-- Nothing gets in the way of an `exec` once its terminal is open.  Either the terminal
closes or reports an error right after the prompt; or no message that cannot be read ends
the prompt drain, the command can be typed, and a client that is streamed to takes every
chunk that is shown. -/
def ExecUndisturbed (env : ExecEnv) (command : Text) (client : Client) (inbox : List Arrival) :
    Prop :=
  (∃ arrival event, (afterPrompt env.zstd inbox).head? = some arrival ∧
      recvTerminalDataWithTimeout env.zstd "2".toList arrival = .ok event) ∨
    (∀ arrival e, (afterPrompt env.zstd inbox).head? = some arrival →
        recvTerminalDataWithTimeout env.zstd "2".toList arrival = .error e →
        isTerminalResponseTimeout e = true) ∧
      packs env.zstd (textBytes (wrapped command (sentinelOf env.sentinelId))) = true ∧
      TakesShown env client (afterPrompt env.zstd inbox).tail

/-- The drain reads the prompt. -/
theorem drainPrompt_afterPrompt (zstd : Zstd) (inbox : List Arrival) :
    drainPrompt zstd "2".toList inbox = drainPrompt zstd "2".toList (afterPrompt zstd inbox) := by
  induction inbox with
  | nil => rfl
  | cons arrival rest ih =>
      rw [afterPrompt, List.dropWhile_cons]
      split
      · rename_i hchunk
        rw [drainPrompt]
        unfold isChunk at hchunk
        split at hchunk
        · rename_i hrecv
          simp only [hrecv]
          exact ih
        · cases hchunk
      · rfl

/-- How the drain ends, read off the first arrival after the prompt. -/
theorem drainPrompt_cases (zstd : Zstd) (inbox : List Arrival) :
    (afterPrompt zstd inbox = [] ∧ drainPrompt zstd "2".toList inbox = (.idle, [])) ∨
      ∃ arrival rest, afterPrompt zstd inbox = arrival :: rest ∧
        ((∃ exitCode, recvTerminalDataWithTimeout zstd "2".toList arrival = .ok (.closed exitCode) ∧
            drainPrompt zstd "2".toList inbox = (.closed exitCode, rest)) ∨
          (∃ message, recvTerminalDataWithTimeout zstd "2".toList arrival = .ok (.error message) ∧
            drainPrompt zstd "2".toList inbox = (.terminalError message, rest)) ∨
          (∃ e, recvTerminalDataWithTimeout zstd "2".toList arrival = .error e ∧
            ((isTerminalResponseTimeout e = true ∧
                drainPrompt zstd "2".toList inbox = (.idle, rest)) ∨
              (isTerminalResponseTimeout e = false ∧
                drainPrompt zstd "2".toList inbox = (.failed e, rest))))) := by
  rw [drainPrompt_afterPrompt]
  cases hafter : afterPrompt zstd inbox with
  | nil => exact .inl ⟨rfl, rfl⟩
  | cons arrival rest =>
      have hno : isChunk zstd "2".toList arrival = false := by
        have hhead := List.head?_dropWhile_not (isChunk zstd "2".toList) inbox
        rw [← afterPrompt, hafter] at hhead
        simpa using hhead
      refine .inr ⟨arrival, rest, rfl, ?_⟩
      rw [drainPrompt]
      rw [isChunk] at hno
      rcases hrecv : recvTerminalDataWithTimeout zstd "2".toList arrival with
        e | data | exitCode | message
      · refine .inr (.inr ⟨e, rfl, ?_⟩)
        cases htimeout : isTerminalResponseTimeout e with
        | true => exact .inl ⟨rfl, by simp [htimeout]⟩
        | false => exact .inr ⟨rfl, by simp [htimeout]⟩
      · rw [hrecv] at hno
        cases hno
      · exact .inl ⟨exitCode, rfl, rfl⟩
      · exact .inr (.inl ⟨message, rfl, rfl⟩)

/-- One write to the client: there is none to write to, it fails, or it goes through. -/
theorem sendChunk_cases (client : Client) (data : Bytes) :
    (client.streaming = false ∧ client.sendChunk data = (.ok (), client)) ∨
      (client.streaming = true ∧ ∃ e writes client', client.writes = some e :: writes ∧
        client.sendChunk data = (.error e, client')) ∨
      (client.streaming = true ∧ (∀ e, some e ∉ client.writes.take 1) ∧
        ∃ client', client.sendChunk data = (.ok (), client') ∧ client'.streaming = true ∧
          client'.writes = client.writes.tail) := by
  rw [Client.sendChunk]
  cases hstreaming : client.streaming with
  | false => exact .inl ⟨rfl, rfl⟩
  | true =>
      rw [if_pos rfl, Client.sendResponse]
      rcases hwrites : client.writes with _ | ⟨_ | e, writes⟩
      · exact .inr (.inr ⟨rfl, by simp, _, rfl, hstreaming, rfl⟩)
      · exact .inr (.inr ⟨rfl, by simp, _, rfl, hstreaming, rfl⟩)
      · exact .inr (.inl ⟨rfl, e, writes, _, rfl, rfl⟩)

/-- The collection loop reads from the front of what arrives, and leaves by a failed write
exactly when the client does not take one of the chunks shown. -/
theorem collect_ends (zstd : Zstd) (remaining sentinel : Text) :
    ∀ (inbox : List Arrival) (collected : Bytes) (client : Client),
      (∃ read, inbox = read ++ (collect zstd remaining sentinel collected client inbox).2.2) ∧
        ((∃ e, (collect zstd remaining sentinel collected client inbox).1 = .writeFailed e) ↔
          client.streaming = true ∧ ∃ e, some e ∈ client.writes.take
            (untilSentinel sentinel collected (printed zstd remaining inbox)).length) := by
  intro inbox
  induction inbox with
  | nil => intro collected client; exact ⟨⟨[], rfl⟩, by simp [collect, printed, untilSentinel]⟩
  | cons arrival rest ih =>
      intro collected client
      rw [collect, printed]
      rcases recvTerminalDataWithTimeout zstd remaining arrival with e | data | exitCode | message
      · simp only
        split <;> exact ⟨⟨[arrival], rfl⟩, by simp [untilSentinel]⟩
      · rcases sendChunk_cases client data with
          ⟨hstreaming, hsend⟩ | ⟨hstreaming, e, writes, client', hwrites, hsend⟩ |
            ⟨hstreaming, hfirst, client', hsend, hstreaming', hwrites'⟩
        · simp only [hsend, untilSentinel]
          split
          · exact ⟨⟨[arrival], rfl⟩, by simp [hstreaming]⟩
          · obtain ⟨⟨read, hread⟩, hends⟩ := ih (collected ++ data) client
            refine ⟨⟨arrival :: read, by rw [List.cons_append, ← hread]⟩, ?_⟩
            rw [hends]
            simp [hstreaming]
        · simp only [hsend]
          refine ⟨⟨[arrival], rfl⟩, ?_⟩
          have htaken : some e ∈ client.writes.take
              (untilSentinel sentinel collected (data :: printed zstd remaining rest)).length := by
            rw [hwrites, untilSentinel]
            split <;> simp
          exact iff_of_true ⟨e, rfl⟩ ⟨hstreaming, e, htaken⟩
        · simp only [hsend, untilSentinel]
          split
          · refine ⟨⟨[arrival], rfl⟩, ?_⟩
            simp [hfirst]
          · obtain ⟨⟨read, hread⟩, hends⟩ := ih (collected ++ data) client'
            refine ⟨⟨arrival :: read, by rw [List.cons_append, ← hread]⟩, ?_⟩
            rw [hends, hstreaming, hstreaming', hwrites']
            rcases hwrites : client.writes with _ | ⟨first, writes⟩
            · simp
            · have hnone : first = none := by
                cases first with
                | none => rfl
                | some e => exact absurd (by rw [hwrites]; simp) (hfirst e)
              simp [hnone]
      · exact ⟨⟨[arrival], rfl⟩, by simp [untilSentinel]⟩
      · exact ⟨⟨[arrival], rfl⟩, by simp [untilSentinel]⟩

/-- What is left after the collection loop: by a failed write, everything as it was; by
any other end, a closed terminal. -/
theorem finishExec_ends (env : ExecEnv) (command : Text) (tid : Int) (st : ExecState)
    {ended : Collected} {client : Client} {inbox : List Arrival}
    (hcollect : collect env.zstd env.remaining (sentinelOf env.sentinelId) [] st.client
      st.peer.inbox = (ended, client, inbox)) :
    ((∃ e, ended = .writeFailed e) ∧ (finishExec env command tid st).2 =
        ⟨{ st.peer with inbox := inbox }, client, st.activeServiceId⟩) ∨
      ((¬ ∃ e, ended = .writeFailed e) ∧ (finishExec env command tid st).2 =
        ⟨closeTerminal { st.peer with inbox := inbox } tid, client, none⟩) := by
  unfold finishExec
  simp only [hcollect]
  cases ended with
  | writeFailed e => exact .inl ⟨⟨e, rfl⟩, rfl⟩
  | complete bytes timedOut => exact .inr ⟨by simp, rfl⟩
  | closed exitCode bytes => exact .inr ⟨by simp, rfl⟩
  | terminalError message => exact .inr ⟨by simp, rfl⟩
  | failed e => exact .inr ⟨by simp, rfl⟩

/-- Once the command has been typed, only a client that does not take a chunk keeps the
terminal open. -/
theorem finishExec_released (env : ExecEnv) (command : Text) (tid : Int) (st : ExecState) :
    ∃ later read, (finishExec env command tid st).2.peer.sent = st.peer.sent ++ later ∧
      st.peer.inbox = read ++ (finishExec env command tid st).2.peer.inbox ∧
      (TakesShown env st.client st.peer.inbox ∧ .closeTerminal tid ∈ later ∧
          (finishExec env command tid st).2.activeServiceId = none ∨
        ¬ TakesShown env st.client st.peer.inbox ∧
          (finishExec env command tid st).2.activeServiceId = st.activeServiceId) := by
  obtain ⟨⟨read, hread⟩, hends⟩ := collect_ends env.zstd env.remaining
    (sentinelOf env.sentinelId) st.peer.inbox [] st.client
  rcases hcollect : collect env.zstd env.remaining (sentinelOf env.sentinelId) [] st.client
    st.peer.inbox with ⟨ended, client, inbox⟩
  rw [hcollect] at hread hends
  have hcond : TakesShown env st.client st.peer.inbox ↔ ¬ ∃ e, ended = .writeFailed e := by
    rw [hends, TakesShown, shown]
    simp
  rw [hcond]
  rcases finishExec_ends env command tid st hcollect with ⟨hfailed, hst⟩ | ⟨hdone, hst⟩
  · refine ⟨[], read, by rw [hst, List.append_nil], by rw [hst]; exact hread, ?_⟩
    exact .inr ⟨fun h => h hfailed, by rw [hst]⟩
  · refine ⟨[.closeTerminal tid], read, ?_, ?_, ?_⟩
    · rw [hst]
      exact closeTerminal_sent { st.peer with inbox := inbox } tid
    · rw [hst]
      exact hread.trans (by rw [closeTerminal, Peer.sendAction_inbox])
    · exact .inl ⟨hdone, List.mem_singleton_self _, by rw [hst]⟩

/-- An `exec` whose prompt drain ends idle releases its terminal when the command can be
typed and the client takes what is shown. -/
theorem execCommandInner_idle (env : ExecEnv) (command : Text) {st : ExecState}
    {info : TerminalInfo} {peer : Peer} {rest : List Arrival}
    (hopen : openTerminal st.peer 24 80 = (some (.ok info), peer))
    (hsends : ∀ e, some e ∉ peer.sends)
    (hdrain : drainPrompt env.zstd "2".toList peer.inbox = (.idle, rest)) :
    ∃ later read, (execCommandInner env command st).2.peer.sent = peer.sent ++ later ∧
      rest = read ++ (execCommandInner env command st).2.peer.inbox ∧
      ((packs env.zstd (textBytes (wrapped command (sentinelOf env.sentinelId))) = true ∧
            TakesShown env st.client rest) ∧
          .closeTerminal info.terminalId ∈ later ∧
          (execCommandInner env command st).2.activeServiceId = none ∨
        ¬ (packs env.zstd (textBytes (wrapped command (sentinelOf env.sentinelId))) = true ∧
            TakesShown env st.client rest) ∧
          (execCommandInner env command st).2.activeServiceId = some info.serviceId) := by
  unfold execCommandInner
  simp only [hopen, hdrain]
  cases hpacks : packs env.zstd (textBytes (wrapped command (sentinelOf env.sentinelId))) with
  | false =>
      obtain ⟨e, hsend⟩ := sendTerminalData_of_not_packs { peer with inbox := rest }
        hpacks info.terminalId
      simp only [hsend]
      exact ⟨[], [], by simp, by simp, .inr ⟨by simp, trivial⟩⟩
  | true =>
      obtain ⟨td, _, _, hsend⟩ := sendTerminalData_of_packs
        { peer with inbox := rest } (nextOutcome_eq_none hsends) hpacks info.terminalId
      simp only [hsend]
      obtain ⟨later, read, hsent, hinbox, hends⟩ := finishExec_released env command
        info.terminalId ⟨⟨rest, peer.sends.tail, peer.sent ++ [.data td]⟩, st.client,
          some info.serviceId⟩
      refine ⟨.data td :: later, read, by rw [hsent]; simp, hinbox, ?_⟩
      rcases hends with ⟨htakes, hclose, hnone⟩ | ⟨htakes, hsome⟩
      · exact .inl ⟨⟨trivial, htakes⟩, List.mem_cons_of_mem _ hclose, hnone⟩
      · exact .inr ⟨fun h => htakes h.2, hsome⟩

/-- Closed events come from `TerminalClosed`. -/
theorem arrival_of_closed {zstd : Zstd} {secs : Text} {arrival : Arrival} {exitCode : Int}
    (h : recvTerminalDataWithTimeout zstd secs arrival = .ok (.closed exitCode)) :
    ∃ closed, arrival = .response (.closed closed) := by
  unfold recvTerminalDataWithTimeout at h
  cases arrival with
  | response response =>
      cases response with
      | closed closed => exact ⟨closed, rfl⟩
      | data td =>
          simp only [recvTerminalResponse] at h
          split at h
          · split at h <;> cases h
          · cases h
      | opened opened => cases h
      | error error => cases h
  | emptyUnion => cases h
  | undecodable e => cases h
  | failed e => cases h
  | elapsed timer => cases h

/-- An `exec` whose prompt drain ends idle is undisturbed when the command can be typed and
the client takes what is shown. -/
theorem execUndisturbed_idle {env : ExecEnv} {command : Text} {client : Client}
    {inbox : List Arrival}
    (hidle : ∀ arrival, (afterPrompt env.zstd inbox).head? = some arrival →
      ∃ e, recvTerminalDataWithTimeout env.zstd "2".toList arrival = .error e ∧
        isTerminalResponseTimeout e = true) :
    ExecUndisturbed env command client inbox ↔
      packs env.zstd (textBytes (wrapped command (sentinelOf env.sentinelId))) = true ∧
        TakesShown env client (afterPrompt env.zstd inbox).tail := by
  constructor
  · rintro (⟨arrival, event, harrival, hrecv⟩ | ⟨_, hmeets⟩)
    · obtain ⟨e, he, _⟩ := hidle arrival harrival
      rw [he] at hrecv
      cases hrecv
    · exact hmeets
  · intro hmeets
    refine .inr ⟨?_, hmeets⟩
    intro arrival e harrival hrecv
    obtain ⟨e', he', htimeout⟩ := hidle arrival harrival
    rw [he'] at hrecv
    rw [← Except.error.inj hrecv]
    exact htimeout

theorem released_iff_of_ends {tid : Int} {later : List TerminalAction} {read : List Arrival}
    {serviceId : Option Text} {service : Text} {P : Prop}
    (h : P ∧ .closeTerminal tid ∈ later ∧ serviceId = none ∨ ¬ P ∧ serviceId = some service) :
    Released tid later read serviceId ↔ P := by
  rcases h with ⟨hP, hclose, hnone⟩ | ⟨hP, hsome⟩
  · exact iff_of_true ⟨.inl hclose, hnone⟩ hP
  · refine iff_of_false (fun hreleased => ?_) hP
    rw [hreleased.2] at hsome
    cases hsome

/-- What an `exec` sends and reads after its terminal is open, and when it releases it. -/
theorem execCommandInner_released (env : ExecEnv) (command : Text) {st : ExecState}
    {info : TerminalInfo} {peer : Peer}
    (hopen : openTerminal st.peer 24 80 = (some (.ok info), peer))
    (hsends : ∀ e, some e ∉ peer.sends) :
    ∃ later read, (execCommandInner env command st).2.peer.sent = peer.sent ++ later ∧
      peer.inbox = read ++ (execCommandInner env command st).2.peer.inbox ∧
      (Released info.terminalId later read (execCommandInner env command st).2.activeServiceId ↔
        ExecUndisturbed env command st.client peer.inbox) := by
  have hprompt : peer.inbox =
      peer.inbox.takeWhile (isChunk env.zstd "2".toList) ++ afterPrompt env.zstd peer.inbox :=
    List.takeWhile_append_dropWhile.symm
  rcases drainPrompt_cases env.zstd peer.inbox with ⟨hafter, hdrain⟩ | ⟨arrival, rest, hafter,
    hends⟩
  · obtain ⟨later, read, hsent, hrest, hends⟩ :=
      execCommandInner_idle env command hopen hsends hdrain
    refine ⟨later, peer.inbox.takeWhile (isChunk env.zstd "2".toList) ++ read, hsent, ?_, ?_⟩
    · rw [List.append_assoc, ← hrest, ← hafter]
      exact hprompt
    · rw [execUndisturbed_idle (by simp [hafter]), hafter]
      exact released_iff_of_ends hends
  · have hhead : (afterPrompt env.zstd peer.inbox).head? = some arrival := by rw [hafter]; rfl
    have hread : peer.inbox =
        (peer.inbox.takeWhile (isChunk env.zstd "2".toList) ++ [arrival]) ++ rest := by
      rw [hafter] at hprompt
      rw [List.append_assoc]
      exact hprompt
    have hclosed : peer.inbox =
        (peer.inbox.takeWhile (isChunk env.zstd "2".toList) ++ [arrival]) ++
          (closeTerminal { peer with inbox := rest } info.terminalId).inbox :=
      hread.trans (by rw [closeTerminal, Peer.sendAction_inbox])
    rcases hends with ⟨exitCode, hrecv, hdrain⟩ | ⟨message, hrecv, hdrain⟩ | ⟨e, hrecv, hends⟩
    · -- the terminal has closed itself
      obtain ⟨closed, harrival⟩ := arrival_of_closed hrecv
      unfold execCommandInner
      simp only [hopen, hdrain]
      refine ⟨[], _, by simp, hread, iff_of_true ⟨.inr ⟨closed, ?_⟩, rfl⟩
        (.inl ⟨arrival, _, hhead, hrecv⟩)⟩
      rw [harrival]
      simp
    · unfold execCommandInner
      simp only [hopen, hdrain]
      exact ⟨[.closeTerminal info.terminalId], _, closeTerminal_sent _ _, hclosed,
        iff_of_true ⟨.inl (by simp), rfl⟩ (.inl ⟨arrival, _, hhead, hrecv⟩)⟩
    · rcases hends with ⟨htimeout, hdrain⟩ | ⟨htimeout, hdrain⟩
      · obtain ⟨later, read, hsent, hrest, hends⟩ :=
          execCommandInner_idle env command hopen hsends hdrain
        refine ⟨later, peer.inbox.takeWhile (isChunk env.zstd "2".toList) ++ [arrival] ++ read,
          hsent, ?_, ?_⟩
        · rw [List.append_assoc, ← hrest]
          exact hread
        · rw [execUndisturbed_idle, hafter]
          · exact released_iff_of_ends hends
          · intro other hother
            rw [hhead] at hother
            rw [← Option.some.inj hother]
            exact ⟨e, hrecv, htimeout⟩
      · -- the message could not be read: the service is not forgotten
        unfold execCommandInner
        simp only [hopen, hdrain]
        refine ⟨[.closeTerminal info.terminalId], _, closeTerminal_sent _ _, hclosed,
          iff_of_false ?_ ?_⟩
        · intro hreleased
          cases hreleased.2
        · rintro (⟨other, event, hother, hevent⟩ | ⟨hreads, _⟩)
          · rw [hhead] at hother
            rw [← Option.some.inj hother, hrecv] at hevent
            cases hevent
          · rw [hreads arrival e hhead hrecv] at htimeout
            cases htimeout

/-! ## shell -/

/-- What an event is to the loop of a shell. -/
inductive ShellEvent where
  | typed (data : Bytes)
  /-- the client's end -/
  | ended
  /-- a message that is not for the terminal -/
  | skipped
  | printed (data : Bytes)
  | closed
  /-- an error of the terminal, or a wait for it that ends in an error -/
  | broken
  deriving DecidableEq, Repr

/-- What the loop of a shell sees. -/
def Event.shell (zstd : Zstd) : Event → ShellEvent
  | .line (some text) => .typed (textBytes text)
  | .line none => .ended
  | event =>
      match event.peerEvent.arrival with
      | none => .skipped
      | some arrival =>
          match recvTerminalDataWithTimeout zstd "15".toList arrival with
          | .ok (.data data) => .printed data
          | .ok (.closed _) => .closed
          | .ok (.error _) => .broken
          | .error _ => .broken

/-- The loop goes on after the event, if the client takes what is printed. -/
def passes (zstd : Zstd) (event : Event) : Bool :=
  match event.shell zstd with
  | .typed data => packs zstd data
  | .skipped => true
  | .printed _ => true
  | _ => false

/-- The event is output for the client. -/
def prints (zstd : Zstd) (event : Event) : Bool :=
  match event.shell zstd with
  | .printed _ => true
  | _ => false

/-- How many writes to the client are made while the loop goes on. -/
def shellWrites (zstd : Zstd) (events : List Event) : Nat :=
  (events.takeWhile (passes zstd)).countP (prints zstd)

/-- The client takes everything printed while the loop goes on, and `P` holds of the first
event after which it does not. -/
def LoopRuns (zstd : Zstd) (P : Option Event → Prop) (writes : List (Option Error))
    (events : List Event) : Prop :=
  (∀ e, some e ∉ writes.take (shellWrites zstd events)) ∧
    P (events.dropWhile (passes zstd)).head?

/-- The client's end or the terminal's.  When nothing is left, that is the client's end,
unless the stream is lost. -/
def EndsWell (zstd : Zstd) (lost : Option Error) : Option Event → Prop
  | none => lost = none
  | some event => event.shell zstd = .ended ∨ event.shell zstd = .closed

section ShellLoop

variable {zstd : Zstd} {P : Option Event → Prop} {writes : List (Option Error)} {event : Event}
  {events : List Event}

theorem loopRuns_skip (hpass : passes zstd event = true) (hprint : prints zstd event = false) :
    LoopRuns zstd P writes (event :: events) ↔ LoopRuns zstd P writes events := by
  simp [LoopRuns, shellWrites, hpass, hprint]

theorem loopRuns_print (hpass : passes zstd event = true) (hprint : prints zstd event = true) :
    LoopRuns zstd P writes (event :: events) ↔
      (∀ e, some e ∉ writes.take 1) ∧ LoopRuns zstd P writes.tail events := by
  have hcount : shellWrites zstd (event :: events) = shellWrites zstd events + 1 := by
    simp [shellWrites, hpass, hprint]
  rw [LoopRuns, LoopRuns, hcount, List.dropWhile_cons, if_pos hpass, ← and_assoc]
  refine and_congr_left' ?_
  cases writes with
  | nil => simp
  | cons first writes => simp [not_or, forall_and]

theorem loopRuns_stop (hpass : passes zstd event = false) :
    LoopRuns zstd P writes (event :: events) ↔ P (some event) := by
  simp [LoopRuns, shellWrites, hpass]

end ShellLoop

/-- One round of the loop of a shell: it goes on with a state, or ends. -/
def shellStep (zstd : Zstd) (tid : Int) (st : ShellState) :
    ShellEvent → (Except Error Unit × ShellState) ⊕ ShellState
  | .typed data =>
      match sendTerminalData zstd st.peer tid data with
      | (.error e, peer) => .inl (.error e, { st with peer := peer })
      | (.ok (), peer) => .inr { st with peer := peer }
  | .ended => .inl (.ok (), { st with peer := closeTerminal st.peer tid, serviceId := none })
  | .skipped => .inr st
  | .printed data =>
      match st.uds.write (.raw data) with
      | (.error e, uds) => .inl (.error e, { st with uds := uds })
      | (.ok (), uds) => .inr { st with uds := uds }
  | .closed => .inl (.ok (), { st with serviceId := none })
  | .broken => .inl (.ok (), { st with serviceId := none })

/-- The loop of a shell, round by round. -/
theorem shellLoop_cons (zstd : Zstd) (tid : Int) (lost : Option Error) (event : Event)
    (inbox : List Event) (st : ShellState) :
    shellLoop zstd tid lost (event :: inbox) st =
      (shellStep zstd tid st (event.shell zstd)).elim (fun ended => (ended.1, ended.2, inbox))
        (shellLoop zstd tid lost inbox) := by
  have harrived (event : Event) (hline : ∀ text, event ≠ .line text) :
      shellLoop zstd tid lost (event :: inbox) st =
        (shellStep zstd tid st (event.shell zstd)).elim (fun ended => (ended.1, ended.2, inbox))
          (shellLoop zstd tid lost inbox) := by
    rw [shellLoop, Event.shell]
    · cases event.peerEvent.arrival with
      | none => rfl
      | some arrival =>
          simp only
          rcases recvTerminalDataWithTimeout zstd "15".toList arrival with
            e | data | exitCode | message
          · rfl
          · simp only [shellStep]
            rcases st.uds.write (.raw data) with ⟨e | _, uds⟩ <;> rfl
          · rfl
          · rfl
    · exact fun text => hline (some text)
    · exact hline none
    · exact fun text => hline (some text)
    · exact hline none
  cases event with
  | frame frame => exact harrived _ (by simp)
  | elapsed timer => exact harrived _ (by simp)
  | line text =>
      cases text with
      | none => rfl
      | some text =>
          rw [shellLoop, Event.shell, shellStep]
          rcases sendTerminalData zstd st.peer tid (textBytes text) with ⟨e | _, peer⟩ <;> rfl

/-- The result of the shell's loop, and what is left of the inbox. -/
def shellLeaving (r : Except Error Unit × ShellState) (left : List Event) :
    Except Error Unit × ShellState × List Event :=
  (r.1, r.2, left)

theorem shellLoop_rounds (zstd : Zstd) (tid : Int) (lost : Option Error) :
    Rounds (shellLoop zstd tid lost) shellLeaving
      (fun st event => shellStep zstd tid st (event.shell zstd)) where
  cons event inbox st := shellLoop_cons zstd tid lost event inbox st
  leave_injective r r' l l' h := by
    obtain ⟨hresult, hrest⟩ := Prod.mk.inj h
    obtain ⟨hstate, hleft⟩ := Prod.mk.inj hrest
    exact ⟨Prod.ext hresult hstate, hleft⟩
  ends := ⟨.line none, fun _ => ⟨_, rfl⟩⟩

/-- One write to the client fails or goes through. -/
theorem write_cases (uds : Uds) (output : Output) :
    (∃ e writes uds', uds.writes = some e :: writes ∧ uds.write output = (.error e, uds')) ∨
      (∀ e, some e ∉ uds.writes.take 1) ∧
        ∃ uds', uds.write output = (.ok (), uds') ∧ uds'.writes = uds.writes.tail := by
  rw [Uds.write]
  rcases hwrites : uds.writes with _ | ⟨_ | e, writes⟩
  · exact .inr ⟨by simp, _, rfl, rfl⟩
  · exact .inr ⟨by simp, _, rfl, rfl⟩
  · exact .inl ⟨e, writes, _, rfl, rfl⟩

/-- The terminal's end is a `TerminalClosed`. -/
theorem shell_eq_closed_iff {zstd : Zstd} {event : Event} :
    event.shell zstd = .closed ↔
      ∃ closed, event.peerEvent.arrival = some (.response (.closed closed)) := by
  have harrived (hline : ∀ text, event ≠ .line text) : event.shell zstd = .closed ↔
      ∃ closed, event.peerEvent.arrival = some (.response (.closed closed)) := by
    rw [Event.shell]
    · cases event.peerEvent.arrival with
      | none => simp
      | some arrival =>
          simp only
          constructor
          · intro h
            rcases hrecv : recvTerminalDataWithTimeout zstd "15".toList arrival with
              e | data | exitCode | message
            · rw [hrecv] at h
              cases h
            · rw [hrecv] at h
              cases h
            · obtain ⟨closed, rfl⟩ := arrival_of_closed hrecv
              exact ⟨closed, rfl⟩
            · rw [hrecv] at h
              cases h
          · rintro ⟨closed, h⟩
            cases h
            rfl
    · exact fun text => hline (some text)
    · exact hline none
  cases event with
  | frame frame => exact harrived (by simp)
  | elapsed timer => exact harrived (by simp)
  | line text => cases text <;> simp [Event.shell, Event.peerEvent, PeerEvent.arrival]

/-- An event that is not the terminal's end says nothing of the terminal's release. -/
theorem released_cons {zstd : Zstd} {tid : Int} {later : List TerminalAction} {event : Event}
    {read : List Event} {serviceId : Option Text} (hevent : event.shell zstd ≠ .closed) :
    Released tid later (Terminal.arrivals ((event :: read).map Event.peerEvent)) serviceId ↔
      Released tid later (Terminal.arrivals (read.map Event.peerEvent)) serviceId := by
  have hclosed : ∀ closed, event.peerEvent.arrival ≠ some (.response (.closed closed)) :=
    fun closed h => hevent (shell_eq_closed_iff.mpr ⟨closed, h⟩)
  rw [Released, Released, Terminal.arrivals, Terminal.arrivals, List.map_cons,
    List.filterMap_cons]
  cases harrival : event.peerEvent.arrival with
  | none => rfl
  | some arrival =>
      simp only [List.mem_cons]
      have hne : ∀ closed, Arrival.response (.closed closed) ≠ arrival := by
        rintro closed rfl
        exact hclosed closed harrival
      simp [hne]

/-- What an event types into the terminal. -/
def ShellEvent.typedData : ShellEvent → List Bytes
  | .typed data => [data]
  | _ => []

/-- What a round of the loop does when the loop goes on after it. -/
structure RoundGoesOn (zstd : Zstd) (tid : Int) (st : ShellState) (event : Event)
    (datas : List TerminalData) (next : ShellState) : Prop where
  sends : ∀ e, some e ∉ next.peer.sends
  sent : next.peer.sent = st.peer.sent ++ datas.map .data
  tids : ∀ td ∈ datas, td.terminalId = tid
  carries : List.Forall₂ (Carries zstd) datas (event.shell zstd).typedData
  not_closed : event.shell zstd ≠ .closed
  not_ended : event.shell zstd ≠ .ended
  runs : ∀ P events, LoopRuns zstd P st.uds.writes (event :: events) ↔
    LoopRuns zstd P next.uds.writes events

/-- What a round of the loop does when it breaks off, which neither the client's end nor the
terminal's does. -/
structure RoundBreaks (zstd : Zstd) (st : ShellState) (event : Event) (next : ShellState) :
    Prop where
  sent : next.peer.sent = st.peer.sent
  not_closed : event.shell zstd ≠ .closed
  not_ended : event.shell zstd ≠ .ended
  runs : ∀ P events, LoopRuns zstd P st.uds.writes (event :: events) → P (some event)

/-- A round of the loop on a stream that does not fail goes on, breaks off, or is the last. -/
theorem shellStep_cases (zstd : Zstd) (tid : Int) {st : ShellState} (event : Event)
    (hsends : ∀ e, some e ∉ st.peer.sends) :
    (∃ datas next, shellStep zstd tid st (event.shell zstd) = .inr next ∧
      RoundGoesOn zstd tid st event datas next) ∨
    (∃ result next, shellStep zstd tid st (event.shell zstd) = .inl (result, next) ∧
      RoundBreaks zstd st event next) ∨
    passes zstd event = false ∧ (event.shell zstd = .ended ∨ event.shell zstd = .closed) := by
  cases hshell : event.shell zstd with
  | typed data =>
      cases hpacks : packs zstd data with
      | false =>
          have hpass : passes zstd event = false := by simp [passes, hshell, hpacks]
          obtain ⟨e, hsend⟩ := sendTerminalData_of_not_packs st.peer hpacks tid
          refine .inr (.inl ⟨_, _, by simp only [shellStep, hsend]; rfl, ?_⟩)
          exact ⟨rfl, by simp [hshell], by simp [hshell], fun _ _ => (loopRuns_stop hpass).mp⟩
      | true =>
          have hpass : passes zstd event = true := by simp [passes, hshell, hpacks]
          have hprint : prints zstd event = false := by simp [prints, hshell]
          obtain ⟨td, htid, hcarries, hsend⟩ :=
            sendTerminalData_of_packs st.peer (nextOutcome_eq_none hsends) hpacks tid
          refine .inl ⟨[td], _, by simp only [shellStep, hsend]; rfl, ?_⟩
          exact
            { sends := fun e he => hsends e (List.mem_of_mem_tail he)
              sent := rfl
              tids := List.forall_mem_singleton.mpr htid
              carries := by rw [hshell]; exact .cons hcarries .nil
              not_closed := by simp [hshell]
              not_ended := by simp [hshell]
              runs := fun _ _ => loopRuns_skip hpass hprint }
  | ended => exact .inr (.inr ⟨by simp [passes, hshell], .inl rfl⟩)
  | skipped =>
      have hpass : passes zstd event = true := by simp [passes, hshell]
      have hprint : prints zstd event = false := by simp [prints, hshell]
      refine .inl ⟨[], st, rfl, ?_⟩
      exact
        { sends := hsends
          sent := (List.append_nil _).symm
          tids := by simp
          carries := by rw [hshell]; exact .nil
          not_closed := by simp [hshell]
          not_ended := by simp [hshell]
          runs := fun _ _ => loopRuns_skip hpass hprint }
  | printed data =>
      have hpass : passes zstd event = true := by simp [passes, hshell]
      have hprint : prints zstd event = true := by simp [prints, hshell]
      rcases write_cases st.uds (.raw data) with
        ⟨e, writes, uds', hwrites, hwrite⟩ | ⟨hfirst, uds', hwrite, hwrites⟩
      · refine .inr (.inl ⟨_, _, by simp only [shellStep, hwrite]; rfl, ?_⟩)
        refine ⟨rfl, by simp [hshell], by simp [hshell], fun _ _ hruns => ?_⟩
        exact absurd (by rw [hwrites]; simp) (((loopRuns_print hpass hprint).mp hruns).1 e)
      · refine .inl ⟨[], _, by simp only [shellStep, hwrite]; rfl, ?_⟩
        exact
          { sends := hsends
            sent := (List.append_nil _).symm
            tids := by simp
            carries := by rw [hshell]; exact .nil
            not_closed := by simp [hshell]
            not_ended := by simp [hshell]
            runs := fun P events => by
              rw [loopRuns_print hpass hprint, and_iff_right hfirst, ← hwrites] }
  | closed => exact .inr (.inr ⟨by simp [passes, hshell], .inr rfl⟩)
  | broken =>
      have hpass : passes zstd event = false := by simp [passes, hshell]
      refine .inr (.inl ⟨_, _, rfl, ?_⟩)
      exact ⟨rfl, by simp [hshell], by simp [hshell], fun _ _ => (loopRuns_stop hpass).mp⟩

/-- What the loop of a shell sends and reads, and when it releases the terminal. -/
theorem shellLoop_released (zstd : Zstd) (tid : Int) (lost : Option Error) :
    ∀ (inbox : List Event) (st : ShellState), (∀ e, some e ∉ st.peer.sends) →
      ∃ later read, (shellLoop zstd tid lost inbox st).2.1.peer.sent = st.peer.sent ++ later ∧
        inbox = read ++ (shellLoop zstd tid lost inbox st).2.2 ∧
        (Released tid later (Terminal.arrivals (read.map Event.peerEvent))
            (shellLoop zstd tid lost inbox st).2.1.serviceId ↔
          LoopRuns zstd (EndsWell zstd lost) st.uds.writes inbox) := by
  intro inbox
  induction inbox with
  | nil =>
      intro st _
      cases lost with
      | some e =>
          refine ⟨[], [], by simp [shellLoop], rfl, iff_of_false ?_ ?_⟩
          · simp [Released, Terminal.arrivals]
          · simp [LoopRuns, EndsWell]
      | none =>
          refine ⟨[.closeTerminal tid], [], closeTerminal_sent _ _, rfl, iff_of_true ?_ ?_⟩
          · exact ⟨.inl (by simp), rfl⟩
          · simp [LoopRuns, EndsWell, shellWrites]
  | cons event inbox ih =>
      intro st hsends
      rw [shellLoop_cons]
      rcases shellStep_cases zstd tid event hsends with
        ⟨datas, next, hstep, hround⟩ | ⟨result, next, hstep, hround⟩ | ⟨hpass, hended | hclosed⟩
      · rw [hstep, Sum.elim_inr, hround.runs]
        obtain ⟨later, read, hsent, hread, hreleased⟩ := ih next hround.sends
        refine ⟨datas.map .data ++ later, event :: read, ?_, ?_, ?_⟩
        · rw [hsent, hround.sent, List.append_assoc]
        · rw [List.cons_append, ← hread]
        · rw [released_cons hround.not_closed, ← hreleased]
          simp [Released]
      · rw [hstep, Sum.elim_inl]
        refine ⟨[], [event], ?_, rfl, iff_of_false ?_ ?_⟩
        · rw [hround.sent, List.append_nil]
        · rw [released_cons hround.not_closed]
          simp [Released, Terminal.arrivals]
        · intro hruns
          rcases hround.runs _ _ hruns with hended | hclosed
          · exact hround.not_ended hended
          · exact hround.not_closed hclosed
      · rw [hended]
        refine ⟨[.closeTerminal tid], [event], closeTerminal_sent _ _, rfl, iff_of_true ?_ ?_⟩
        · exact ⟨.inl (by simp), rfl⟩
        · exact (loopRuns_stop hpass).mpr (.inl hended)
      · obtain ⟨closed, harrival⟩ := shell_eq_closed_iff.mp hclosed
        rw [hclosed]
        refine ⟨[], [event], by simp [shellStep], rfl, iff_of_true ?_ ?_⟩
        · exact ⟨.inr ⟨closed, by simp [Terminal.arrivals, harrival]⟩, rfl⟩
        · exact (loopRuns_stop hpass).mpr (.inr hclosed)

/-- Nothing gets in the way of a shell once its terminal is open: the client takes the
acknowledgement and all that is printed, every line can be typed, and the client's end or
the terminal's is what ends it. -/
def ShellUndisturbed (zstd : Zstd) (lost : Option Error) (writes : List (Option Error))
    (events : List Event) : Prop :=
  (∀ e, some e ∉ writes.take 1) ∧ LoopRuns zstd (EndsWell zstd lost) writes.tail events

/-- What a shell sends and reads after its terminal is open, and when it releases it. -/
theorem shellSession_released (zstd : Zstd) {s : Stream} (uds : Uds) (serviceId : Option Text)
    {info : TerminalInfo} {peer : Peer}
    (hopen : openTerminal s.peer 24 80 = (some (.ok info), peer))
    (hsends : ∀ e, some e ∉ peer.sends) :
    ∃ later read,
      (shellSession zstd s uds serviceId).2.1.sent = (s.after peer).sent ++ later.map .terminal ∧
      (s.after peer).inbox = read ++ (shellSession zstd s uds serviceId).2.1.inbox ∧
      (Released info.terminalId later (Terminal.arrivals (read.map Event.peerEvent))
          (shellSession zstd s uds serviceId).2.2.2 ↔
        ShellUndisturbed zstd s.lost uds.writes (s.after peer).inbox) := by
  unfold shellSession
  simp only [hopen, Uds.sendResponse]
  rcases write_cases uds (.line (shellAck info.terminalId)) with
    ⟨e, writes, uds', hwrites, hwrite⟩ | ⟨hfirst, uds', hwrite, hwrites⟩
  · simp only [hwrite]
    refine ⟨[], [], by simp, rfl, iff_of_false ?_ ?_⟩
    · simp [Released]
    · exact fun h => h.1 e (by rw [hwrites]; simp)
  · simp only [hwrite]
    obtain ⟨later, read, hsent, hread, hreleased⟩ := shellLoop_released zstd info.terminalId s.lost
      (s.after peer).inbox ⟨⟨[], (s.after peer).sends, []⟩, uds', some info.serviceId⟩ hsends
    refine ⟨later, read, ?_, hread, ?_⟩
    · exact congrArg (fun sent => (s.after peer).sent ++ sent.map Outgoing.terminal) hsent
    · rw [ShellUndisturbed, ← hwrites]
      exact hreleased.trans (and_iff_right hfirst).symm

/-! ## Every exit -/

/-- After an `exec` on the terminal of `info`, opened by `peer`, the terminal is released. -/
def ExecReleased (env : ExecEnv) (command : Text) (st : ExecState) (info : TerminalInfo)
    (peer : Peer) : Prop :=
  ∃ later read, (execCommandInner env command st).2.peer.sent = peer.sent ++ later ∧
    peer.inbox = read ++ (execCommandInner env command st).2.peer.inbox ∧
    Released info.terminalId later read (execCommandInner env command st).2.activeServiceId

/-- After a shell on the terminal of `info`, opened by `peer`, the terminal is released. -/
def ShellReleased (zstd : Zstd) (s : Stream) (uds : Uds) (serviceId : Option Text)
    (info : TerminalInfo) (peer : Peer) : Prop :=
  ∃ later read,
    (shellSession zstd s uds serviceId).2.1.sent = (s.after peer).sent ++ later.map .terminal ∧
    (s.after peer).inbox = read ++ (shellSession zstd s uds serviceId).2.1.inbox ∧
    Released info.terminalId later (Terminal.arrivals (read.map Event.peerEvent))
      (shellSession zstd s uds serviceId).2.2.2

theorem execReleased_iff (env : ExecEnv) (command : Text) {st : ExecState} {info : TerminalInfo}
    {peer : Peer} (hopen : openTerminal st.peer 24 80 = (some (.ok info), peer))
    (hsends : ∀ e, some e ∉ peer.sends) :
    ExecReleased env command st info peer ↔ ExecUndisturbed env command st.client peer.inbox := by
  obtain ⟨later, read, hsent, hread, hreleased⟩ :=
    execCommandInner_released env command hopen hsends
  rw [← hreleased]
  constructor
  · rintro ⟨later', read', hsent', hread', hreleased'⟩
    rw [hsent, List.append_right_inj] at hsent'
    rw [hread, List.append_left_inj] at hread'
    rwa [hsent', hread']
  · exact fun h => ⟨later, read, hsent, hread, h⟩

theorem shellReleased_iff (zstd : Zstd) {s : Stream} (uds : Uds) (serviceId : Option Text)
    {info : TerminalInfo} {peer : Peer}
    (hopen : openTerminal s.peer 24 80 = (some (.ok info), peer))
    (hsends : ∀ e, some e ∉ peer.sends) :
    ShellReleased zstd s uds serviceId info peer ↔
      ShellUndisturbed zstd s.lost uds.writes (s.after peer).inbox := by
  obtain ⟨later, read, hsent, hread, hreleased⟩ :=
    shellSession_released zstd uds serviceId hopen hsends
  rw [← hreleased]
  constructor
  · rintro ⟨later', read', hsent', hread', hreleased'⟩
    have hinj : Function.Injective Outgoing.terminal := fun _ _ h => Outgoing.terminal.inj h
    rw [hsent, List.append_right_inj, hinj.list_map.eq_iff] at hsent'
    rw [hread, List.append_left_inj] at hread'
    rwa [hsent', hread']
  · exact fun h => ⟨later, read, hsent, hread, h⟩

/-- In every run in which the terminal was opened and no send on the stream fails, an
`exec` and a shell release the terminal exactly when nothing gets in their way. -/
theorem terminal_released_iff (env : ExecEnv) (command : Text) (st : ExecState) (zstd : Zstd)
    (s : Stream) (uds : Uds) (serviceId : Option Text) (info : TerminalInfo) (peer : Peer)
    (hsends : ∀ e, some e ∉ peer.sends) :
    (openTerminal st.peer 24 80 = (some (.ok info), peer) →
      (ExecReleased env command st info peer ↔
        ExecUndisturbed env command st.client peer.inbox)) ∧
      (openTerminal s.peer 24 80 = (some (.ok info), peer) →
        (ShellReleased zstd s uds serviceId info peer ↔
          ShellUndisturbed zstd s.lost uds.writes (s.after peer).inbox)) := by
  constructor
  · intro hopen
    exact execReleased_iff env command hopen hsends
  · intro hopen
    exact shellReleased_iff zstd uds serviceId hopen hsends

/-- A terminal that the peer has opened. -/
def opened : TerminalOpened := ⟨7, true, [], 1, ['s']⟩

/-- The stream on which it was opened, and what it delivers next. -/
def openedStream (events : List Event) : Stream :=
  ⟨⟨.terminal, none⟩, .frame (.message (.terminalResponse (some (.opened opened)))) :: events,
    none, [], []⟩

/-- An `exec` whose terminal closes itself and a shell whose client ends release it. -/
theorem terminal_released_ended :
    ExecReleased ⟨⟨.ok, .ok⟩, 0, ['5']⟩ ['w']
        ⟨⟨[.response (.opened opened), .response (.closed ⟨7, 0⟩)], [], []⟩, ⟨true, [], []⟩, none⟩
        ⟨7, 1, ['s']⟩ ⟨[.response (.closed ⟨7, 0⟩)], [], [.openTerminal 0 24 80]⟩ ∧
      ShellReleased ⟨.ok, .ok⟩ (openedStream [.line none]) ⟨[], []⟩ none ⟨7, 1, ['s']⟩
        ⟨[], [], [.openTerminal 0 24 80]⟩ := by
  have hexec := (terminal_released_iff ⟨⟨.ok, .ok⟩, 0, ['5']⟩ ['w']
    ⟨⟨[.response (.opened opened), .response (.closed ⟨7, 0⟩)], [], []⟩, ⟨true, [], []⟩, none⟩
    ⟨.ok, .ok⟩ (openedStream []) ⟨[], []⟩ none ⟨7, 1, ['s']⟩
    ⟨[.response (.closed ⟨7, 0⟩)], [], [.openTerminal 0 24 80]⟩ (by simp)).1 rfl
  have hshell := (terminal_released_iff ⟨⟨.ok, .ok⟩, 0, ['5']⟩ ['w'] ⟨⟨[], [], []⟩, ⟨true, [], []⟩,
    none⟩ ⟨.ok, .ok⟩ (openedStream [.line none]) ⟨[], []⟩ none ⟨7, 1, ['s']⟩
    ⟨[], [], [.openTerminal 0 24 80]⟩ (by simp)).2 rfl
  refine ⟨hexec.mpr ?_, hshell.mpr ?_⟩
  · exact .inl ⟨.response (.closed ⟨7, 0⟩), .closed 0, rfl, rfl⟩
  · exact ⟨by simp, by simp, .inl rfl⟩

/-- An `exec` whose client is gone when the first chunk is written to it, and a shell whose
terminal reports an error: the terminals were opened and the stream does not fail, and
neither terminal is released. -/
theorem terminal_leaked :
    (openTerminal ⟨[.response (.opened opened), .elapsed .response,
          .response (.data ⟨7, [0x68], false⟩)], [], []⟩ 24 80 =
        (some (.ok ⟨7, 1, ['s']⟩), ⟨[.elapsed .response, .response (.data ⟨7, [0x68], false⟩)], [],
          [.openTerminal 0 24 80]⟩) ∧
      ¬ ExecReleased ⟨⟨.ok, .ok⟩, 0, ['5']⟩ ['w']
        ⟨⟨[.response (.opened opened), .elapsed .response, .response (.data ⟨7, [0x68], false⟩)],
          [], []⟩, ⟨true, [some (.msg "Broken pipe (os error 32)".toList)], []⟩, none⟩
        ⟨7, 1, ['s']⟩ ⟨[.elapsed .response, .response (.data ⟨7, [0x68], false⟩)], [],
          [.openTerminal 0 24 80]⟩) ∧
      openTerminal (openedStream
          [.frame (.message (.terminalResponse (some (.error ⟨7, ['p']⟩))))]).peer 24 80 =
        (some (.ok ⟨7, 1, ['s']⟩),
          ⟨[.response (.error ⟨7, ['p']⟩)], [], [.openTerminal 0 24 80]⟩) ∧
      ¬ ShellReleased ⟨.ok, .ok⟩ (openedStream
          [.frame (.message (.terminalResponse (some (.error ⟨7, ['p']⟩))))]) ⟨[], []⟩ none
        ⟨7, 1, ['s']⟩ ⟨[.response (.error ⟨7, ['p']⟩)], [], [.openTerminal 0 24 80]⟩ := by
  refine ⟨⟨rfl, ?_⟩, rfl, ?_⟩
  · rintro ⟨later, read, _, _, _, hnone⟩
    revert hnone
    decide +kernel
  · rw [shellReleased_iff _ _ _ rfl (by simp)]
    rintro ⟨_, hloop⟩
    rcases (loopRuns_stop rfl).mp hloop with h | h <;> cases h

end RustdeskCli.Daemon
