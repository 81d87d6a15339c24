import RustdeskCli.Daemon.ExecRequest
import RustdeskCli.Foundation.Log
import RustdeskCli.Session.Command
set_option autoImplicit false

/-!
# Daemon: the encrypted stream (`src/daemon.rs`, `src/crypto.rs`)

The stream to the peer as the daemon's loops see it, one message at a time.  All of
them read the same stream: the main loop, the terminal functions, the screenshot loop
and the file transfer.  A stream remembers how it was logged in and everything that
has been sent on it.

What ends the waits of one command, frames of the peer, timers, lines of the client,
is merged into the inbox before the command runs (`schedule`) and taken out again
after it (`settle`).
-/

namespace RustdeskCli.Daemon

open RustdeskCli.Foundation
open RustdeskCli.Session
open RustdeskCli.Terminal

/-! ## Messages -/

/-- `TestDelay`. -/
structure TestDelay where
  time : Int
  fromClient : Bool
  lastDelay : Nat
  targetBitrate : Nat
  deriving DecidableEq, Repr

/-- The echo of a `TestDelay`. -/
def TestDelay.echo (td : TestDelay) : TestDelay := { td with fromClient := true }

/-- `FileTransferDigest`. -/
structure FileTransferDigest where
  id : Int
  fileNum : Int
  lastModified : Nat
  fileSize : Nat
  isUpload : Bool
  isIdentical : Bool
  transferredSize : UInt64
  isResume : Bool
  deriving DecidableEq, Repr

/-- `file_transfer_send_confirm_request::Union`. -/
inductive ConfirmUnion where
  | skip (skip : Bool)
  | offsetBlk (offset : UInt32)
  deriving DecidableEq, Repr

/-- `FileTransferSendConfirmRequest`. -/
structure SendConfirm where
  id : Int
  fileNum : Int
  union : Option ConfirmUnion
  deriving DecidableEq, Repr

/-- `FileTransferDone`. -/
structure FileTransferDone where
  id : Int
  fileNum : Int
  deriving DecidableEq, Repr

/-- `FileTransferError`. -/
structure FileTransferError where
  id : Int
  error : Text
  fileNum : Int
  deriving DecidableEq, Repr

/-- `FileTransferBlock`. -/
structure FileTransferBlock where
  id : Int
  fileNum : Int
  data : Bytes
  compressed : Bool
  blkId : Nat
  deriving DecidableEq, Repr

/-- `FileTransferReceiveRequest` with its one `FileEntry`. -/
structure FileTransferReceiveRequest where
  id : Int
  path : Text
  name : Text
  size : Nat
  modifiedTime : Nat
  fileNum : Int
  totalSize : Nat
  deriving DecidableEq, Repr

/-- `ScreenshotResponse`. -/
structure ScreenshotResponse where
  sid : Text
  msg : Text
  data : Bytes
  deriving DecidableEq, Repr

/-- `message::Union` of a received message; the kinds no loop looks at are `other`, and
so are the unions of `FileAction`, `FileResponse` and `Misc` that no loop looks at. -/
inductive PeerMessage where
  | testDelay (td : TestDelay)
  | closeReason (reason : Text)
  | terminalResponse (union : Option TerminalResponse)
  | screenshotResponse (response : ScreenshotResponse)
  | sendConfirm (confirm : SendConfirm)
  | digest (digest : FileTransferDigest)
  | fileDone (done : FileTransferDone)
  | fileError (error : FileTransferError)
  | other
  deriving DecidableEq, Repr

/-- What one `EncryptedStream::recv` returns. -/
inductive Frame where
  /-- a frame of length zero -/
  | heartbeat
  | message (message : PeerMessage)
  /-- bytes that `Message::decode` refuses -/
  | undecodable (e : Error)
  /-- a frame that cannot be read or decrypted -/
  | failed (e : Error)
  deriving DecidableEq, Repr

/-- `OptionMessage`, with the fields `build_option_message` sets. -/
structure OptionMessage where
  imageQuality : Nat
  customFps : Nat
  disableAudio : Nat
  disableClipboard : Nat
  disableCamera : Nat
  terminalPersistent : Nat
  abilityVp9 : Nat
  deriving DecidableEq, Repr

/-- What the daemon hands to `EncryptedStream::send` and `send_heartbeat`.  Nothing of the
program sends an input event. -/
inductive Outgoing where
  | option (option : OptionMessage)
  | captureDisplays (add : List Int)
  | refreshVideo (refresh : Bool)
  | testDelay (td : TestDelay)
  | heartbeat
  | closeReason (reason : Text)
  | terminal (action : TerminalAction)
  | screenshotRequest (display : Int32) (sid : Text)
  | receive (request : FileTransferReceiveRequest)
  | digest (digest : FileTransferDigest)
  | sendConfirm (confirm : SendConfirm)
  | block (block : FileTransferBlock)
  | fileDone (done : FileTransferDone)
  | input (message : ProtocolMessage)
  deriving DecidableEq, Repr

/-! ## The stream -/

/-- `login_request::Union`, with the members the program sends. -/
inductive LoginUnion where
  | fileTransfer (dir : Text) (showHidden : Bool)
  | terminal (serviceId : Text)
  deriving DecidableEq, Repr

/-- How a stream was logged in. -/
structure Login where
  connType : ConnType
  union : Option LoginUnion
  deriving DecidableEq, Repr

/-- What ends a wait: a frame of the peer, a timer, or a line of a shell's client
(`none` at its end). -/
inductive Event where
  | frame (frame : Frame)
  | elapsed (timer : Timer)
  | line (line : Option Text)
  deriving DecidableEq, Repr

/-- An `EncryptedStream`. -/
structure Stream where
  login : Login
  /-- what ends the coming waits; between commands, the frames not read yet -/
  inbox : List Event
  /-- the error of every further read, once the connection has ended -/
  lost : Option Error
  /-- the errors of the coming sends; a send after the last of these succeeds -/
  sends : List (Option Error)
  /-- everything handed to the stream, in order -/
  sent : List Outgoing
  deriving DecidableEq, Repr

/-- Whether the next of some calls fails, when these are the errors of the coming ones; a call
after the last of them succeeds. -/
def nextOutcome (calls : List (Option Error)) : Option Error := calls.head?.join

namespace Stream

/-- `EncryptedStream::send`.  A failed send may have reached the peer, so it is recorded
too. -/
def send (s : Stream) (m : Outgoing) : Except Error Unit × Stream :=
  let s' := { s with sends := s.sends.tail, sent := s.sent ++ [m] }
  match s.sends with
  | some e :: _ => (.error e, s')
  | _ => (.ok (), s')

/-- How one race between the stream, the timers and the client ends. -/
inductive Wake where
  | stream
  | elapsed (timer : Timer)
  | line (line : Option Text)
  deriving DecidableEq, Repr

/-- The waits of a command end as `wakes` says; after that the stream delivers what it
has. -/
def merge : List Wake → List Event → List Event
  | [], inbox => inbox
  | .stream :: wakes, [] => merge wakes []
  | .stream :: wakes, event :: inbox => event :: merge wakes inbox
  | .elapsed timer :: wakes, inbox => .elapsed timer :: merge wakes inbox
  | .line line :: wakes, inbox => .line line :: merge wakes inbox

/-- The stream at the start of a command. -/
def schedule (s : Stream) (wakes : List Wake) : Stream :=
  { s with inbox := merge wakes s.inbox }

/-- Whether an event is a frame. -/
def isFrame : Event → Bool
  | .frame _ => true
  | _ => false

/-- The stream after a command: what is left of the frames. -/
def settle (s : Stream) : Stream := { s with inbox := s.inbox.filter isFrame }

/-! ## The terminal functions on the stream -/

end Stream

/-- What an event is for `recv_terminal_response`: it skips everything but terminal
responses and errors.  A heartbeat decodes to a message without a union. -/
def Event.peerEvent : Event → PeerEvent
  | .frame (.message (.terminalResponse union)) => .terminal union
  | .frame (.undecodable e) => .undecodable e
  | .frame (.failed e) => .failed e
  | .frame _ => .other
  | .elapsed timer => .elapsed timer
  | .line _ => .other

/-- The event ends a call of `recv_terminal_response`. -/
def Event.isArrival (event : Event) : Bool := event.peerEvent.arrival.isSome

/-- What is left after the first `n` arrivals have been read. -/
def dropArrivals : Nat → List Event → List Event
  | 0, inbox => inbox
  | _ + 1, [] => []
  | n + 1, event :: inbox =>
      if event.isArrival then dropArrivals n inbox else dropArrivals (n + 1) inbox

namespace Stream

/-- What ends the coming calls of `recv_terminal_response`. -/
def arrivals (s : Stream) : List Arrival :=
  Terminal.arrivals (s.inbox.map Event.peerEvent) ++ s.lost.toList.map .failed

/-- The stream as the terminal functions see it. -/
def peer (s : Stream) : Peer := ⟨s.arrivals, s.sends, []⟩

/-- The stream after the terminal functions have run on it. -/
def after (s : Stream) (peer : Peer) : Stream :=
  { s with
    inbox := dropArrivals (s.arrivals.length - peer.inbox.length) s.inbox
    sends := peer.sends
    sent := s.sent ++ peer.sent.map .terminal }

end Stream

/-! ## What an operation may do to a stream -/

/-- `s'` is `s` after reading some of its inbox and sending only messages of the kind `P`. -/
structure Stream.Extends (P : Outgoing → Prop) (s s' : Stream) : Prop where
  login : s'.login = s.login
  lost : s'.lost = s.lost
  sent : Grows P s.sent s'.sent

namespace Stream.Extends

variable {P Q : Outgoing → Prop} {s s' s'' : Stream}

theorem refl (P : Outgoing → Prop) (s : Stream) : s.Extends P s := ⟨rfl, rfl, .refl P s.sent⟩

theorem trans (h : s.Extends P s') (h' : s'.Extends P s'') : s.Extends P s'' :=
  ⟨h'.login.trans h.login, h'.lost.trans h.lost, h.sent.trans h'.sent⟩

theorem mono (hPQ : ∀ m, P m → Q m) (h : s.Extends P s') : s.Extends Q s' :=
  ⟨h.login, h.lost, h.sent.mono hPQ⟩

/-- Reading is not sending. -/
theorem read (h : s.Extends P s') (inbox : List Event) : s.Extends P { s' with inbox := inbox } :=
  ⟨h.login, h.lost, h.sent⟩

end Stream.Extends

/-- The message is a terminal action. -/
def IsTerminal (m : Outgoing) : Prop := ∃ action, m = .terminal action

namespace Stream

@[simp] theorem send_sent (s : Stream) (m : Outgoing) : (s.send m).2.sent = s.sent ++ [m] := by
  unfold send
  split <;> rfl

@[simp] theorem send_login (s : Stream) (m : Outgoing) : (s.send m).2.login = s.login := by
  unfold send
  split <;> rfl

@[simp] theorem send_inbox (s : Stream) (m : Outgoing) : (s.send m).2.inbox = s.inbox := by
  unfold send
  split <;> rfl

@[simp] theorem send_lost (s : Stream) (m : Outgoing) : (s.send m).2.lost = s.lost := by
  unfold send
  split <;> rfl

@[simp] theorem send_sends (s : Stream) (m : Outgoing) : (s.send m).2.sends = s.sends.tail := by
  unfold send
  split <;> rfl

theorem send_fst (s : Stream) (m : Outgoing) :
    (s.send m).1 = match nextOutcome s.sends with
      | some e => .error e
      | none => .ok () := by
  unfold send nextOutcome
  rcases s.sends with _ | ⟨_ | e, sends⟩ <;> rfl

theorem send_ok_iff (s : Stream) (m : Outgoing) :
    (s.send m).1 = .ok () ↔ nextOutcome s.sends = none := by
  rw [send_fst]
  cases nextOutcome s.sends <;> simp

theorem send_extends {P : Outgoing → Prop} (s : Stream) {m : Outgoing} (hm : P m) :
    s.Extends P (s.send m).2 :=
  ⟨s.send_login m, s.send_lost m, by rw [s.send_sent m]; exact .concat hm s.sent⟩

theorem schedule_extends (P : Outgoing → Prop) (s : Stream) (wakes : List Wake) :
    s.Extends P (s.schedule wakes) :=
  (Extends.refl P s).read _

theorem settle_extends (P : Outgoing → Prop) (s : Stream) : s.Extends P s.settle :=
  (Extends.refl P s).read _

/-- The terminal functions send terminal actions and nothing else. -/
theorem after_extends (s : Stream) (peer : Peer) : s.Extends IsTerminal (s.after peer) := by
  refine ⟨rfl, rfl, .append ?_ s.sent⟩
  intro m hm
  obtain ⟨action, _, rfl⟩ := List.mem_map.mp hm
  exact ⟨action, rfl⟩

end Stream

end RustdeskCli.Daemon
