import RustdeskCli.Exec.Command
set_option autoImplicit false

/-!
# Exec: responses of other terminals (`src/daemon.rs`, `src/terminal.rs`)

Two runs of `exec_command_inner` that differ only in responses about other
terminals should end alike.  They do not: the id that every response carries is
dropped before anybody looks at it, so a response of another terminal is taken for
one of the terminal that is being opened, drained or read.
-/

namespace RustdeskCli.Exec

open RustdeskCli.Foundation
open RustdeskCli.Session
open RustdeskCli.Terminal

/-- A response about the life of another terminal than `tid`. -/
def isForeign (tid : Int) : PeerEvent → Bool
  | .terminal (some (.opened _)) => false
  | .terminal (some response) => response.terminalId ≠ tid
  | _ => false

/-- The events without those of other terminals. -/
def withoutForeign (tid : Int) (events : List PeerEvent) : List PeerEvent :=
  events.filter fun event => !isForeign tid event

/-- What an `exec` is given: the environment, the command, which sends fail, the client
it streams to, and the service it was attached to before. -/
structure ExecCall where
  env : ExecEnv
  command : Text
  sends : List (Option Error)
  client : Client
  activeServiceId : Option Text

/-- The stream of the call when the peer does these things. -/
def ExecCall.peer (call : ExecCall) (events : List PeerEvent) : Peer :=
  ⟨arrivals events, call.sends, []⟩

/-- The result of `exec_command_inner` when the peer does these things. -/
def ExecCall.result (call : ExecCall) (events : List PeerEvent) : Except Error SessionResponse :=
  (execCommandInner call.env call.command
    ⟨call.peer events, call.client, call.activeServiceId⟩).1

/-- The result does not change when responses of other terminals are inserted or
removed anywhere. -/
def Isolated (call : ExecCall) (tid : Int) (events : List PeerEvent) : Prop :=
  ∀ events', withoutForeign tid events' = withoutForeign tid events →
    call.result events' = call.result events

/-- The id of some other terminal. -/
def otherTerminal (tid : Int) : Int := if tid = 0 then 1 else 0

/-- An error of some other terminal. -/
def foreignError (tid : Int) (message : Text) : PeerEvent :=
  .terminal (some (.error ⟨otherTerminal tid, message⟩))

theorem withoutForeign_foreignError (tid : Int) (message : Text) (events : List PeerEvent) :
    withoutForeign tid (foreignError tid message :: events) = withoutForeign tid events := by
  have hother : otherTerminal tid ≠ tid := by
    rw [otherTerminal]
    split <;> omega
  simp [withoutForeign, foreignError, isForeign, TerminalResponse.terminalId, hother]

/-- A terminal is opened only when `OpenTerminal` could be sent. -/
theorem sendAction_of_openTerminal {peer : Peer} {rows cols : Nat} {info : TerminalInfo}
    (h : (openTerminal peer rows cols).1 = some (.ok info)) :
    (peer.sendAction (.openTerminal 0 rows cols)).1 = .ok () := by
  rw [openTerminal] at h
  rcases hsend : peer.sendAction (.openTerminal 0 rows cols) with ⟨e | _, peer'⟩
  · simp [hsend] at h
  · rfl

/-- An error of `open_terminal` is the result of the call. -/
theorem result_of_open_error {call : ExecCall} {events : List PeerEvent} {e : Error}
    (h : (openTerminal (call.peer events) 24 80).1 = some (.error e)) :
    call.result events = .error e := by
  unfold ExecCall.result execCommandInner
  rcases hpeer : openTerminal (call.peer events) 24 80 with ⟨opened, peer'⟩
  rw [hpeer] at h
  simp only at h
  simp only [h]

/-- The error of another terminal becomes the result of the call. -/
theorem result_foreignError (call : ExecCall) (tid : Int) (message : Text)
    (events : List PeerEvent)
    (hsend : ((call.peer events).sendAction (.openTerminal 0 24 80)).1 = .ok ()) :
    call.result (foreignError tid message :: events) =
      .error (.msg ("terminal error on open: ".toList ++ message)) := by
  apply result_of_open_error
  have hsend' : ((call.peer (foreignError tid message :: events)).sendAction
      (.openTerminal 0 24 80)).1 = .ok () := by
    rw [← hsend]
    simp only [Peer.sendAction, ExecCall.peer]
    split <;> rfl
  rcases hres : (call.peer (foreignError tid message :: events)).sendAction
      (.openTerminal 0 24 80) with ⟨_ | _, peer'⟩
  · simp [hres] at hsend'
  · have hinbox : peer'.inbox =
        .response (.error ⟨otherTerminal tid, message⟩) :: arrivals events := by
      have := Peer.sendAction_inbox (call.peer (foreignError tid message :: events))
        (.openTerminal 0 24 80)
      rw [hres] at this
      exact this
    simp [openTerminal, hres, Peer.await, hinbox, recvTerminalResponse]

/-- An `exec` is never isolated: whatever the peer does, if a terminal is opened, some
responses of other terminals change the result. -/
theorem exec_never_isolated (call : ExecCall) (events : List PeerEvent) (info : TerminalInfo)
    (hopen : (openTerminal (call.peer events) 24 80).1 = some (.ok info)) :
    ¬ Isolated call info.terminalId events := by
  intro hisolated
  have hsend := sendAction_of_openTerminal hopen
  have hresult : ∀ message : Text,
      Except.error (.msg ("terminal error on open: ".toList ++ message)) = call.result events := by
    intro message
    rw [← result_foreignError call info.terminalId message events hsend]
    exact hisolated _ (withoutForeign_foreignError _ _ _)
  have hsame := (hresult ['a']).trans (hresult ['b']).symm
  simp [Error.msg] at hsame

/-- A call with sends that succeed and no client. -/
def sampleCall : ExecCall :=
  ⟨⟨⟨fun data => .ok data, fun data => .ok data⟩, 1, "30".toList⟩, "true".toList, [],
    ⟨false, [], []⟩, none⟩

/-- Terminal 2 is opened, its prompt is drained, and the sentinel comes back. -/
def sampleEvents : List PeerEvent :=
  [.terminal (some (.opened ⟨2, true, [], 7, "svc".toList⟩)), .elapsed .response,
    .terminal (some (.data ⟨2, textBytes (sentinelOf 1 ++ "0\r\n".toList), false⟩))]

/-- The sample opens terminal 2 and is not isolated. -/
theorem exec_never_isolated_sample : ¬ Isolated sampleCall 2 sampleEvents :=
  exec_never_isolated sampleCall sampleEvents ⟨2, 7, "svc".toList⟩ (by decide +kernel)

/-- The late `Closed` of terminal 1 in front of the sample's events turns its success
into an error. -/
theorem stale_closed_fails_exec :
    withoutForeign 2 (.terminal (some (.closed ⟨1, 0⟩)) :: sampleEvents) =
        withoutForeign 2 sampleEvents ∧
      (sampleCall.result sampleEvents).isOk = true ∧
      sampleCall.result (.terminal (some (.closed ⟨1, 0⟩)) :: sampleEvents) =
        .error (.msg ("expected TerminalOpened, got ".toList ++
          "Closed(TerminalClosed \x7b terminal_id: 1, exit_code: 0 \x7d)".toList)) := by
  refine ⟨by decide +kernel, by decide +kernel, ?_⟩
  apply result_of_open_error
  decide +kernel

end RustdeskCli.Exec
