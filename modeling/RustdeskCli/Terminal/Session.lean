import RustdeskCli.Cli.Responses
import RustdeskCli.Daemon.Stream
import RustdeskCli.Foundation.Rounds
set_option autoImplicit false

/-!
# Terminal: the interactive session (`src/terminal.rs`)

`run_terminal_session` is `connect --terminal` without the daemon.  `connect_terminal`
waits a moment for the peer to open a terminal by itself and asks for one if it does not;
then a loop takes chunks of the standard input and events of the terminal, whichever is
there first.

Which of the two sides of a `select!` is there first is not up to the program: a list of
races says it for a whole session.
-/

namespace RustdeskCli.Terminal

open RustdeskCli.Foundation
open RustdeskCli.Session
open RustdeskCli.Cli
open RustdeskCli.Daemon

/-! ## Opening -/

/-- `str::parse::<u32>`. -/
def parseUInt32 (text : Text) : Option Nat :=
  let value :=
    match text with
    | '+' :: digits => parseDigits digits
    | digits => parseDigits digits
  value.filter (· < 2 ^ 32)

/-- A side of the terminal, from the value of its variable. -/
def terminalSide (value : Option Text) (unset : Nat) : Nat :=
  ((value.bind parseUInt32).filter (0 < ·)).getD unset

/-- `default_terminal_size`, from the values of `LINES` and `COLUMNS`. -/
def defaultTerminalSize (lines columns : Option Text) : Nat × Nat :=
  (terminalSide lines 24, terminalSide columns 80)

/-- What `connect_terminal` makes of the response that comes while it waits for the peer to
open a terminal by itself. -/
def initialOpened : TerminalResponse → Except Error TerminalInfo
  | .opened opened =>
      match terminalInfoFromOpened opened with
      | .error e => .error (e.context "processing initial TerminalOpened after login".toList)
      | .ok info => .ok info
  | .error e => .error (.msg ("terminal error after login: ".toList ++ e.message))
  -- the arm `other` of the source
  | .data td =>
      .error (.msg ("expected TerminalOpened after terminal login, got ".toList ++ td.debug))
  | .closed c =>
      .error (.msg ("expected TerminalOpened after terminal login, got ".toList ++ c.debug))

/-- `connect_terminal` on a stream that is logged in; `.caller` is the timer of the probe. -/
def connectTerminal (lines columns : Option Text) (s : Stream) :
    Except Error TerminalInfo × Stream :=
  match s.peer.await .caller with
  | (.elapsed .caller, peer) =>
      let (rows, cols) := defaultTerminalSize lines columns
      match openTerminal peer rows cols with
      -- no timer stands around this call, so a silent peer runs into its own
      | (none, peer) =>
          (.error (Error.context (.msg "timed out waiting for TerminalOpened after 15s".toList)
            "opening remote terminal".toList), s.after peer)
      | (some (.error e), peer) =>
          (.error (e.context "opening remote terminal".toList), s.after peer)
      | (some (.ok info), peer) => (.ok info, s.after peer)
  | (arrival, peer) =>
      match recvTerminalResponse "15".toList arrival with
      | .error e => (.error (e.context "waiting for initial TerminalOpened".toList), s.after peer)
      | .ok response => (initialOpened response, s.after peer)

/-! ## The loop -/

/-- The standard output: the errors of the coming calls of `write_all` and `flush`, and what
has been written. -/
structure Stdout where
  calls : List (Option Error)
  written : List Bytes
  deriving DecidableEq, Repr

/-- `write_all` and `flush`, each with its context. -/
def Stdout.print (stdout : Stdout) (data : Bytes) : Except Error Unit × Stdout :=
  let written := stdout.written ++ [data]
  match stdout.calls with
  | some e :: calls => (.error (e.context "writing terminal stdout".toList), ⟨calls, written⟩)
  | _ =>
      match stdout.calls.tail with
      | some e :: calls => (.error (e.context "flushing terminal stdout".toList), ⟨calls, written⟩)
      | _ => (.ok (), ⟨stdout.calls.tail.tail, written⟩)

/-- What a round of the loop takes: a chunk of the standard input (`none` at its end), or
what the stream or its timer does. -/
inductive DirectEvent where
  | stdin (chunk : Option Bytes)
  | stream (event : Event)
  deriving DecidableEq, Repr

/-- What the loop of `run_terminal_session` changes. -/
structure DirectState where
  peer : Peer
  stdout : Stdout
  deriving DecidableEq, Repr

/-- The loop of `run_terminal_session` on the terminal `tid`.  The end of the standard input
ends it when nothing else does. -/
def terminalLoop (zstd : Zstd) (tid : Int) (lost : Option Error) :
    List DirectEvent → DirectState → Except Error Unit × DirectState × List DirectEvent
  | [], st =>
      match lost with
      | some e =>
          (.error (((e.context "reading terminal response".toList).context
            "receiving terminal data".toList).context "receiving terminal output".toList), st, [])
      | none => (.ok (), { st with peer := closeTerminal st.peer tid }, [])
  | .stdin (some data) :: events, st =>
      match sendTerminalData zstd st.peer tid data with
      | (.error e, peer) => (.error e, { st with peer := peer }, events)
      | (.ok (), peer) => terminalLoop zstd tid lost events { st with peer := peer }
  | .stdin none :: events, st =>
      (.ok (), { st with peer := closeTerminal st.peer tid }, events)
  | .stream event :: events, st =>
      match event.peerEvent.arrival with
      | none => terminalLoop zstd tid lost events st
      | some arrival =>
          match recvTerminalDataWithTimeout zstd "15".toList arrival with
          | .ok (.data data) =>
              match st.stdout.print data with
              | (.error e, stdout) => (.error e, { st with stdout := stdout }, events)
              | (.ok (), stdout) => terminalLoop zstd tid lost events { st with stdout := stdout }
          | .ok (.closed _) => (.ok (), st, events)
          | .ok (.error message) =>
              (.error (.msg ("terminal error: ".toList ++ message)), st, events)
          | .error e => (.error (e.context "receiving terminal output".toList), st, events)

/-- How one race between the standard input and the stream ends. -/
inductive Race where
  | stream
  | stdin (chunk : Option Bytes)
  deriving DecidableEq, Repr

/-- The rounds of a session whose races end like this; after them the stream delivers what it
has. -/
def directEvents : List Race → List Event → List DirectEvent
  | [], inbox => inbox.map .stream
  | .stream :: races, [] => directEvents races []
  | .stream :: races, event :: inbox => .stream event :: directEvents races inbox
  | .stdin chunk :: races, inbox => .stdin chunk :: directEvents races inbox

/-- `run_terminal_session` on a stream that is logged in: its result, and what it has
printed. -/
def runTerminalSession (zstd : Zstd) (lines columns : Option Text) (s : Stream)
    (races : List Race) (stdout : Stdout) : Except Error Unit × Stdout :=
  match connectTerminal lines columns s with
  | (.error e, _) => (.error e, stdout)
  | (.ok info, s) =>
      match terminalLoop zstd info.terminalId s.lost (directEvents races s.inbox)
          ⟨⟨[], s.sends, []⟩, stdout⟩ with
      | (result, st, _) => (result, st.stdout)

/-! ## Round by round -/

/-- One round of the loop: it goes on with a state, or ends. -/
def directRound (zstd : Zstd) (tid : Int) (st : DirectState) :
    DirectEvent → (Except Error Unit × DirectState) ⊕ DirectState
  | .stdin (some data) =>
      match sendTerminalData zstd st.peer tid data with
      | (.error e, peer) => .inl (.error e, { st with peer := peer })
      | (.ok (), peer) => .inr { st with peer := peer }
  | .stdin none => .inl (.ok (), { st with peer := closeTerminal st.peer tid })
  | .stream event =>
      match event.peerEvent.arrival with
      | none => .inr st
      | some arrival =>
          match recvTerminalDataWithTimeout zstd "15".toList arrival with
          | .ok (.data data) =>
              match st.stdout.print data with
              | (.error e, stdout) => .inl (.error e, { st with stdout := stdout })
              | (.ok (), stdout) => .inr { st with stdout := stdout }
          | .ok (.closed _) => .inl (.ok (), st)
          | .ok (.error message) =>
              .inl (.error (.msg ("terminal error: ".toList ++ message)), st)
          | .error e => .inl (.error (e.context "receiving terminal output".toList), st)

/-- The result of a loop, and what it has not read. -/
def directLeaving (r : Except Error Unit × DirectState) (left : List DirectEvent) :
    Except Error Unit × DirectState × List DirectEvent :=
  (r.1, r.2, left)

theorem terminalLoop_rounds (zstd : Zstd) (tid : Int) (lost : Option Error) :
    Rounds (terminalLoop zstd tid lost) directLeaving (directRound zstd tid) where
  cons event events st := by
    rcases event with (_ | data) | event
    · rfl
    · rw [terminalLoop, directRound]
      rcases sendTerminalData zstd st.peer tid data with ⟨e | u, peer⟩ <;> rfl
    · rw [terminalLoop, directRound]
      cases event.peerEvent.arrival with
      | none => rfl
      | some arrival =>
          dsimp only
          rcases recvTerminalDataWithTimeout zstd "15".toList arrival with
            e | data | exitCode | message
          · rfl
          · dsimp only
            rcases st.stdout.print data with ⟨e | u, stdout⟩ <;> rfl
          · rfl
          · rfl
  leave_injective r r' l l' h := by
    obtain ⟨hresult, hrest⟩ := Prod.mk.inj h
    obtain ⟨hstate, hleft⟩ := Prod.mk.inj hrest
    exact ⟨Prod.ext hresult hstate, hleft⟩
  ends := ⟨.stdin none, fun _ => ⟨_, rfl⟩⟩

end RustdeskCli.Terminal
