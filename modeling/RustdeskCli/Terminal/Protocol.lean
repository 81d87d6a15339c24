import RustdeskCli.Foundation.Bytes
import RustdeskCli.Session.Response
set_option autoImplicit false

/-!
# Terminal: the remote terminal protocol (`src/terminal.rs`)

The protobuf messages, and the functions that send an action and wait for a
response.  A wait is a race between the stream and one or more timers; what ends
it is an `Arrival`, and a run of the program is given the arrivals of its waits in
order.  When there are no more, the timer ends every further wait.

The responses carry the id of their terminal.  Nothing below reads it, except where
`TerminalOpened` says which terminal was opened.
-/

namespace RustdeskCli.Terminal

open RustdeskCli.Foundation
open RustdeskCli.Session

/-- `TerminalOpened`, without the list of persistent sessions, which nothing reads. -/
structure TerminalOpened where
  terminalId : Int
  success : Bool
  message : Text
  pid : Nat
  serviceId : Text
  deriving DecidableEq, Repr

/-- `TerminalData`. -/
structure TerminalData where
  terminalId : Int
  data : Bytes
  compressed : Bool
  deriving DecidableEq, Repr

/-- `TerminalClosed`. -/
structure TerminalClosed where
  terminalId : Int
  exitCode : Int
  deriving DecidableEq, Repr

/-- `TerminalError`. -/
structure TerminalError where
  terminalId : Int
  message : Text
  deriving DecidableEq, Repr

/-- `terminal_response::Union`. -/
inductive TerminalResponse where
  | opened (opened : TerminalOpened)
  | data (data : TerminalData)
  | closed (closed : TerminalClosed)
  | error (error : TerminalError)
  deriving DecidableEq, Repr

/-- The terminal a response is about. -/
def TerminalResponse.terminalId : TerminalResponse → Int
  | .opened o => o.terminalId
  | .data d => d.terminalId
  | .closed c => c.terminalId
  | .error e => e.terminalId

/-- `terminal_action::Union`, with the actions `exec` uses. -/
inductive TerminalAction where
  | openTerminal (terminalId : Int) (rows cols : Nat)
  | data (data : TerminalData)
  | closeTerminal (terminalId : Int)
  deriving DecidableEq, Repr

/-- `TerminalInfo`. -/
structure TerminalInfo where
  terminalId : Int
  pid : Nat
  serviceId : Text
  deriving DecidableEq, Repr

/-- `TerminalEvent`. -/
inductive TerminalEvent where
  | data (data : Bytes)
  | closed (exitCode : Int)
  | error (message : Text)
  deriving DecidableEq, Repr

/-! ## What the stream does -/

/-- The timers around a wait for a `TerminalResponse`. -/
inductive Timer where
  /-- the timer of `recv_terminal_response` itself -/
  | response
  /-- `OPEN_TERMINAL_TIMEOUT` in `open_terminal` -/
  | opened
  /-- the timer that a caller of `open_terminal` puts around it -/
  | caller
  deriving DecidableEq, Repr

/-- What `EncryptedStream::recv` and the timers do, in order. -/
inductive PeerEvent where
  /-- a message that is a `TerminalResponse`, with its union -/
  | terminal (union : Option TerminalResponse)
  /-- a heartbeat or a message of another kind -/
  | other
  /-- bytes that `Message::decode` refuses -/
  | undecodable (e : Error)
  /-- an error of the stream -/
  | failed (e : Error)
  | elapsed (timer : Timer)
  deriving DecidableEq, Repr

/-- What ends one call of `recv_terminal_response`. -/
inductive Arrival where
  | response (response : TerminalResponse)
  | emptyUnion
  | undecodable (e : Error)
  | failed (e : Error)
  | elapsed (timer : Timer)
  deriving DecidableEq, Repr

/-- What an event is for the loop of `recv_terminal_response`; it skips messages that
are not for the terminal. -/
def PeerEvent.arrival : PeerEvent → Option Arrival
  | .terminal (some response) => some (.response response)
  | .terminal none => some .emptyUnion
  | .other => none
  | .undecodable e => some (.undecodable e)
  | .failed e => some (.failed e)
  | .elapsed timer => some (.elapsed timer)

/-- What ends the successive calls of `recv_terminal_response`. -/
def arrivals (events : List PeerEvent) : List Arrival := events.filterMap PeerEvent.arrival

/-- `terminal_response_timeout_error`; `secs` is the printed duration. -/
def terminalResponseTimeoutError (secs : Text) : Error :=
  .msg ("timed out waiting for TerminalResponse after ".toList ++ secs ++ "s".toList)

/-- `is_terminal_response_timeout`. -/
def isTerminalResponseTimeout (e : Error) : Bool :=
  Text.contains e.alternate "timed out waiting for TerminalResponse after".toList

/-- `recv_terminal_response` with a timeout that prints as `secs`. -/
def recvTerminalResponse (secs : Text) : Arrival → Except Error TerminalResponse
  | .response response => .ok response
  | .emptyUnion => .error (.msg "TerminalResponse with empty union".toList)
  | .undecodable e => .error (e.context "decoding Message".toList)
  | .failed e => .error (e.context "reading terminal response".toList)
  | .elapsed _ => .error (terminalResponseTimeoutError secs)

/-- The compression library, as the program calls it. -/
structure Zstd where
  encodeAll : Bytes → Except Error Bytes
  decodeAll : Bytes → Except Error Bytes

/-- `recv_terminal_data_with_timeout`. -/
def recvTerminalDataWithTimeout (zstd : Zstd) (secs : Text) (arrival : Arrival) :
    Except Error TerminalEvent :=
  match recvTerminalResponse secs arrival with
  | .error e => .error (e.context "receiving terminal data".toList)
  | .ok (.data td) =>
      if td.compressed then
        match zstd.decodeAll td.data with
        | .ok data => .ok (.data data)
        | .error e => .error (e.context "zstd decompression of terminal data failed".toList)
      else .ok (.data td.data)
  | .ok (.closed c) => .ok (.closed c.exitCode)
  | .ok (.error e) => .ok (.error e.message)
  | .ok (.opened _) => .error (.msg "unexpected TerminalOpened during data receive".toList)

/-! ## Sending -/

/-- The peer as one stream sees it: what ends its waits, which of its sends fail,
and what it has sent. -/
structure Peer where
  inbox : List Arrival
  /-- the errors of the coming sends; a send after the last of these succeeds -/
  sends : List (Option Error)
  /-- the actions handed to the stream, in order -/
  sent : List TerminalAction
  deriving DecidableEq, Repr

namespace Peer

/-- `send_action`.  A failed send may have reached the peer, so it is recorded too. -/
def sendAction (peer : Peer) (action : TerminalAction) : Except Error Unit × Peer :=
  let peer' := { peer with sends := peer.sends.tail, sent := peer.sent ++ [action] }
  match peer.sends with
  | some e :: _ => (.error e, peer')
  | _ => (.ok (), peer')

/-- The next thing that ends a wait. -/
def await (peer : Peer) (timer : Timer) : Arrival × Peer :=
  match peer.inbox with
  | [] => (.elapsed timer, peer)
  | arrival :: rest => (arrival, { peer with inbox := rest })

@[simp] theorem sendAction_inbox (peer : Peer) (action : TerminalAction) :
    (peer.sendAction action).2.inbox = peer.inbox := by
  rw [sendAction]
  split <;> rfl

@[simp] theorem sendAction_sent (peer : Peer) (action : TerminalAction) :
    (peer.sendAction action).2.sent = peer.sent ++ [action] := by
  rw [sendAction]
  split <;> rfl

end Peer

/-- `terminal_info_from_opened`. -/
def terminalInfoFromOpened (opened : TerminalOpened) : Except Error TerminalInfo :=
  if opened.success then .ok ⟨opened.terminalId, opened.pid, opened.serviceId⟩
  else .error (.msg ("remote refused to open terminal: ".toList ++ opened.message))

/-- The decimal text of an `i32`. -/
def intText (n : Int) : Text := (toString n).toList

/-- `{other:?}` of a `Data` response. -/
def TerminalData.debug (td : TerminalData) : Text :=
  "Data(TerminalData \x7b terminal_id: ".toList ++ intText td.terminalId ++
    ", data: [".toList ++
    ", ".toList.intercalate (td.data.map fun b => (toString b.toNat).toList) ++
    "], compressed: ".toList ++ (toString td.compressed).toList ++ " \x7d)".toList

/-- `{other:?}` of a `Closed` response. -/
def TerminalClosed.debug (c : TerminalClosed) : Text :=
  "Closed(TerminalClosed \x7b terminal_id: ".toList ++ intText c.terminalId ++
    ", exit_code: ".toList ++ intText c.exitCode ++ " \x7d)".toList

/-- `open_terminal`; `none` when the caller's timer ends it first. -/
def openTerminal (peer : Peer) (rows cols : Nat) : Option (Except Error TerminalInfo) × Peer :=
  match peer.sendAction (.openTerminal 0 rows cols) with
  | (.error e, peer) => (some (.error (e.context "sending OpenTerminal".toList)), peer)
  | (.ok (), peer) =>
      match peer.await .caller with
      | (.elapsed .caller, peer) => (none, peer)
      | (.elapsed .opened, peer) =>
          (some (.error (.msg "timed out waiting for TerminalOpened after 15s".toList)), peer)
      | (arrival, peer) =>
          match recvTerminalResponse "15".toList arrival with
          | .error e => (some (.error (e.context "waiting for TerminalOpened".toList)), peer)
          | .ok (.opened opened) => (some (terminalInfoFromOpened opened), peer)
          | .ok (.error e) =>
              (some (.error (.msg ("terminal error on open: ".toList ++ e.message))), peer)
          -- the last arm of the source, `other`, can be one of two
          | .ok (.data td) =>
              (some (.error (.msg ("expected TerminalOpened, got ".toList ++ td.debug))), peer)
          | .ok (.closed c) =>
              (some (.error (.msg ("expected TerminalOpened, got ".toList ++ c.debug))), peer)

/-- `COMPRESS_THRESHOLD`. -/
def compressThreshold : Nat := 1024

/-- `send_terminal_data`. -/
def sendTerminalData (zstd : Zstd) (peer : Peer) (terminalId : Int) (data : Bytes) :
    Except Error Unit × Peer :=
  let packed :=
    if data.length > compressThreshold then
      match zstd.encodeAll data with
      | .ok payload => Except.ok (payload, true)
      | .error e => .error (e.context "zstd compression failed".toList)
    else .ok (data, false)
  match packed with
  | .error e => (.error e, peer)
  | .ok (payload, compressed) =>
      match peer.sendAction (.data ⟨terminalId, payload, compressed⟩) with
      | (.ok (), peer) => (.ok (), peer)
      | (.error e, peer) => (.error (e.context "sending TerminalData".toList), peer)

/-- `close_terminal`; every caller here ignores its result. -/
def closeTerminal (peer : Peer) (terminalId : Int) : Peer :=
  (peer.sendAction (.closeTerminal terminalId)).2

end RustdeskCli.Terminal
