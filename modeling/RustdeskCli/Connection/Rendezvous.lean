import RustdeskCli.Daemon.ExecRequest
import RustdeskCli.Foundation.Insertion
set_option autoImplicit false

/-!
# Connection: the rendezvous server (`src/rendezvous.rs`)

The two requests a connection makes of hbbs over TCP.  `PunchHoleRequest` is answered,
if at all, by a `PunchHoleResponse`, after which the client still waits for a
`RelayResponse` until its time is up, or by a `RelayResponse` alone; hbbs may first ask
for a key exchange, and the request is sent again.  `RequestRelay` is answered by a
`RelayResponse`.

What the server and the network do comes as arguments: the results of connecting and
sending, and the outcomes of the waits in order.
-/

namespace RustdeskCli.Connection

open RustdeskCli.Foundation
open RustdeskCli.Session
open RustdeskCli.Daemon

/-! ## Messages -/

/-- `PunchHoleRequest`, with the fields that are not defaults. -/
structure PunchHoleRequest where
  id : Text
  licenceKey : Text
  connType : ConnType
  version : Text
  udpPort : Int
  forceRelay : Bool
  deriving DecidableEq, Repr

/-- `PunchHoleResponse`, with the fields the program reads.  `failure` is the raw value of
the enumeration. -/
structure PunchHoleResponse where
  socketAddr : Bytes
  failure : Int
  relayServer : Text
  otherFailure : Text
  deriving DecidableEq, Repr

/-- `RequestRelay`, without the token and the permissions, which are never set. -/
structure RequestRelay where
  id : Text
  uuid : Text
  socketAddr : Bytes
  relayServer : Text
  secure : Bool
  licenceKey : Text
  connType : ConnType
  deriving DecidableEq, Repr

/-- `RelayResponse`, with the fields the program reads. -/
structure RelayResponse where
  uuid : Text
  relayServer : Text
  refuseReason : Text
  deriving DecidableEq, Repr

/-- `rendezvous_message::Union` of a received message; a kind that is not expected, and no
union at all, is only shown in an error. -/
inductive RendezvousUnion where
  | punchHoleResponse (resp : PunchHoleResponse)
  | relayResponse (resp : RelayResponse)
  | keyExchange (keys : List Bytes)
  | registerPeerResponse
  | other (debug : Text)
  deriving DecidableEq, Repr

/-- `PunchRelayResponse`. -/
inductive PunchRelayResponse where
  | punchHole (resp : PunchHoleResponse)
  | relay (resp : RelayResponse)
  deriving DecidableEq, Repr

/-! ## PunchHoleRequest -/

/-- How one wait of `punch_hole_via_tcp` ends. -/
inductive PunchWait where
  | elapsed
  | failed (e : Error)
  | undecodable (e : Error)
  | message (union : RendezvousUnion)
  deriving DecidableEq, Repr

/-- What `punch_hole_via_tcp` meets: the port of the UDP socket, connecting and sending, the
waits, and how a key exchange and the second sending go. -/
structure PunchEnv where
  localPort : Except Error UInt16
  connect : Except Error Unit
  send : Except Error Unit
  waits : List PunchWait
  completeKeyExchange : List Bytes → Except Error Unit
  resend : Except Error Unit

/-- The variables of the loop. -/
structure PunchState where
  punchResponse : Option PunchHoleResponse
  encrypted : Bool
  resentAfterKeyExchange : Bool
  deriving DecidableEq, Repr

/-- The end of the loop when its time is up. -/
def punchTimeout (seconds : Text) (st : PunchState) : Except Error PunchRelayResponse :=
  match st.punchResponse with
  | some response => .ok (.punchHole response)
  | none =>
      .error (.msg ("timed out waiting for PunchHoleResponse or RelayResponse over TCP ".toList ++
        "after ".toList ++ seconds ++ "s".toList))

/-- The loop of `punch_hole_via_tcp`: its result, and the messages it has read.  When there
is nothing more to come its time runs out. -/
def punchLoop (env : PunchEnv) (seconds : Text) :
    List PunchWait → PunchState → Except Error PunchRelayResponse × List RendezvousUnion
  | [], st => (punchTimeout seconds st, [])
  | .elapsed :: _, st => (punchTimeout seconds st, [])
  | .failed e :: _, _ => (.error (e.context "reading rendezvous response over TCP".toList), [])
  | .undecodable e :: _, _ =>
      (.error (e.context "decode rendezvous response from TCP".toList), [])
  | .message (.punchHoleResponse resp) :: waits, st =>
      let (result, received) := punchLoop env seconds waits { st with punchResponse := some resp }
      (result, .punchHoleResponse resp :: received)
  | .message (.relayResponse resp) :: _, _ => (.ok (.relay resp), [.relayResponse resp])
  | .message (.keyExchange keys) :: waits, st =>
      if st.encrypted || st.resentAfterKeyExchange then
        (.error (.msg "unexpected repeated TCP KeyExchange from rendezvous server".toList),
          [.keyExchange keys])
      else
        match env.completeKeyExchange keys with
        | .error e =>
            (.error (e.context "completing TCP rendezvous KeyExchange".toList),
              [.keyExchange keys])
        | .ok () =>
            match env.resend with
            | .error e =>
                (.error (e.context "sending encrypted PunchHoleRequest over TCP".toList),
                  [.keyExchange keys])
            | .ok () =>
                let (result, received) := punchLoop env seconds waits
                  { st with encrypted := true, resentAfterKeyExchange := true }
                (result, .keyExchange keys :: received)
  | .message .registerPeerResponse :: waits, st =>
      let (result, received) := punchLoop env seconds waits st
      (result, .registerPeerResponse :: received)
  | .message (.other debug) :: _, _ =>
      (.error (.msg ("unexpected rendezvous response to TCP PunchHoleRequest: ".toList ++ debug)),
        [.other debug])

/-- `punch_hole_via_tcp_with_conn_type`: its result, the request if one was sent, and the
messages received. -/
def punchHoleViaTcp (env : PunchEnv) (serverAddr targetId licenceKey : Text)
    (connType : ConnType) (seconds : Text) :
    Except Error PunchRelayResponse × Option PunchHoleRequest × List RendezvousUnion :=
  match env.localPort with
  | .error e => (.error e, none, [])
  | .ok port =>
      match env.connect with
      | .error e =>
          (.error (e.context ("failed to open TCP to rendezvous server ".toList ++ serverAddr ++
            " for PunchHoleRequest".toList)), none, [])
      | .ok () =>
          match env.send with
          | .error e => (.error e, none, [])
          | .ok () =>
              let (result, received) := punchLoop env seconds env.waits ⟨none, false, false⟩
              (result,
                some ⟨targetId, licenceKey, connType, "0.2.0".toList, port.toNat, true⟩, received)

/-- The loop ends with the first `RelayResponse` it reads, and with no other. -/
theorem punchLoop_relay_iff (env : PunchEnv) (seconds : Text) (resp : RelayResponse)
    (waits : List PunchWait) (st : PunchState) :
    .relayResponse resp ∈ (punchLoop env seconds waits st).2 ↔
      (punchLoop env seconds waits st).1 = .ok (.relay resp) := by
  have htimeout : ∀ st, punchTimeout seconds st ≠ .ok (.relay resp) := by
    intro st
    unfold punchTimeout
    split <;> simp
  fun_induction punchLoop env seconds waits st
  -- the time is up
  case case1 | case2 => simp [htimeout]
  -- the loop reads on
  case case5 | case10 | case11 =>
    rename_i hrest ih
    rw [hrest] at ih
    simpa using ih
  case case6 => simp [eq_comm]
  -- it fails
  all_goals simp

/-- The exchange gives a `RelayResponse` exactly when it has received it. -/
theorem punchHoleViaTcp_relay_iff (env : PunchEnv) (serverAddr targetId licenceKey : Text)
    (connType : ConnType) (seconds : Text) (resp : RelayResponse) :
    .relayResponse resp ∈
        (punchHoleViaTcp env serverAddr targetId licenceKey connType seconds).2.2 ↔
      (punchHoleViaTcp env serverAddr targetId licenceKey connType seconds).1 =
        .ok (.relay resp) := by
  unfold punchHoleViaTcp
  split
  · simp
  · split
    · simp
    · split
      · simp
      · exact punchLoop_relay_iff env seconds resp env.waits _

/-! ### Heartbeats

Once the connection is encrypted, a frame without payload is a heartbeat.  It decodes to a
message without a union, and the loop fails with it. -/

/-- A frame of length zero. -/
def PunchWait.heartbeat : PunchWait := .message (.other "None".toList)

/-- The loop goes on after this wait. -/
def PunchWait.goesOn : PunchWait → Bool
  | .message (.punchHoleResponse _) | .message .registerPeerResponse => true
  | _ => false

/-- What a wait does to the loop's variables when the loop goes on. -/
def PunchState.after (st : PunchState) : PunchWait → PunchState
  | .message (.punchHoleResponse resp) => { st with punchResponse := some resp }
  | _ => st

/-- How the encrypted loop ends with a wait. -/
def punchEnd (seconds : Text) (st : PunchState) : PunchWait → Except Error PunchRelayResponse
  | .failed e => .error (e.context "reading rendezvous response over TCP".toList)
  | .undecodable e => .error (e.context "decode rendezvous response from TCP".toList)
  | .message (.relayResponse resp) => .ok (.relay resp)
  | .message (.keyExchange _) =>
      .error (.msg "unexpected repeated TCP KeyExchange from rendezvous server".toList)
  | .message (.other debug) =>
      .error (.msg ("unexpected rendezvous response to TCP PunchHoleRequest: ".toList ++ debug))
  | _ => punchTimeout seconds st

/-- The encrypted loop as a loop that reads until something ends it. -/
theorem punchLoop_eq_reading (env : PunchEnv) (seconds : Text) (waits : List PunchWait)
    {st : PunchState} (hst : st.encrypted = true) :
    (punchLoop env seconds waits st).1 =
      reading (fun wait => !wait.goesOn) PunchState.after (punchEnd seconds)
        (punchTimeout seconds) waits st := by
  induction waits generalizing st with
  | nil => rfl
  | cons wait waits ih =>
      rw [reading]
      rcases wait with _ | e | e | (resp | resp | keys | _ | debug)
      case message.punchHoleResponse => exact ih hst
      case message.keyExchange =>
        unfold punchLoop
        rw [hst]
        rfl
      case message.registerPeerResponse => exact ih hst
      all_goals rfl

/-- The error a heartbeat ends the encrypted loop with. -/
def unexpectedNone : Error :=
  .msg ("unexpected rendezvous response to TCP PunchHoleRequest: ".toList ++ "None".toList)

theorem punchTimeout_ne_unexpected (seconds : Text) (st : PunchState) :
    punchTimeout seconds st ≠ .error unexpectedNone := by
  intro h
  unfold punchTimeout at h
  split at h
  · cases h
  · have hhead : some 't' = some 'u' := congrArg (fun e => e.message.head?) (Except.error.inj h)
    cases hhead

/-- Nothing but a message without a union ends the encrypted loop with that error. -/
theorem punchEnd_ne_unexpected (seconds : Text) (st : PunchState) {wait : PunchWait}
    (hne : wait ≠ .heartbeat) : punchEnd seconds st wait ≠ .error unexpectedNone := by
  intro h
  rcases wait with _ | e | e | (resp | resp | keys | _ | debug)
  case elapsed | message.punchHoleResponse | message.registerPeerResponse =>
    exact punchTimeout_ne_unexpected seconds st h
  case failed | undecodable => cases congrArg Error.causes (Except.error.inj h)
  case message.relayResponse => cases h
  case message.keyExchange =>
    -- the texts agree up to here
    have hchar : some 'p' = some 'n' := congrArg (fun e => e.message[13]?) (Except.error.inj h)
    cases hchar
  case message.other =>
    have htext := congrArg Error.message (Except.error.inj h)
    apply hne
    rw [List.append_cancel_left htext]
    rfl

/-- Heartbeats change nothing for the encrypted loop exactly when what ends it is the same
wait. -/
theorem punchLoop_inserted_iff (env : PunchEnv) (seconds : Text) {st : PunchState}
    (hst : st.encrypted = true) {waits waits' : List PunchWait}
    (h : Inserted (· = PunchWait.heartbeat) waits waits') :
    (punchLoop env seconds waits' st).1 = (punchLoop env seconds waits st).1 ↔
      waits'.find? (fun wait => !wait.goesOn) = waits.find? (fun wait => !wait.goesOn) := by
  rw [punchLoop_eq_reading env seconds waits' hst, punchLoop_eq_reading env seconds waits hst]
  exact Inserted.reading_eq_iff _ _ _ _ rfl (fun _ => rfl)
    (fun st _ _ hne => punchEnd_ne_unexpected seconds st hne) (punchTimeout_ne_unexpected seconds)
    h st

/-! ## RequestRelay -/

/-- What `request_relay_via_tcp` meets; `none` when the caller's time runs out there.  `debug`
is the text of a message in an error. -/
structure RelayEnv where
  connect : Option (Except Error Unit)
  send : Option (Except Error Unit)
  recv : Option (Except Error (Except Error RendezvousUnion))
  debug : RendezvousUnion → Text

/-- `request_relay_via_tcp_with_conn_type` under the timeout of its caller: its result, the
requests that were sent, and the messages received. -/
def requestRelayViaTcp (env : RelayEnv) (serverAddr : Text) (request : RequestRelay) :
    Option (Except Error RelayResponse) × List RequestRelay × List RendezvousUnion :=
  match env.connect with
  | none => (none, [], [])
  | some (.error e) =>
      (some (.error (e.context ("failed to open TCP to rendezvous server ".toList ++ serverAddr ++
        " for RequestRelay".toList))), [], [])
  | some (.ok ()) =>
      match env.send with
      | none => (none, [], [])
      | some (.error e) => (some (.error e), [], [])
      | some (.ok ()) =>
          match env.recv with
          | none => (none, [request], [])
          | some (.error e) =>
              (some (.error (e.context "reading RelayResponse over TCP".toList)), [request], [])
          | some (.ok (.error e)) =>
              (some (.error (e.context "decode RelayResponse from TCP".toList)), [request], [])
          | some (.ok (.ok (.relayResponse resp))) =>
              (some (.ok resp), [request], [.relayResponse resp])
          | some (.ok (.ok other)) =>
              (some (.error (.msg ("expected RelayResponse over TCP, got ".toList ++
                env.debug other))), [request], [other])

/-- The request reaches hbbs exactly when the connection is made and the request written. -/
def RelayEnv.Delivers (env : RelayEnv) : Prop :=
  env.connect = some (.ok ()) ∧ env.send = some (.ok ())

theorem requestRelayViaTcp_sent (env : RelayEnv) (serverAddr : Text) (request : RequestRelay) :
    (env.Delivers ∧ (requestRelayViaTcp env serverAddr request).2.1 = [request]) ∨
      (¬ env.Delivers ∧ (requestRelayViaTcp env serverAddr request).2 = ([], [])) := by
  unfold requestRelayViaTcp RelayEnv.Delivers
  split <;> rename_i hconnect <;> rw [hconnect]
  · simp
  · simp
  · split <;> rename_i hsend <;> rw [hsend]
    · simp
    · simp
    · left
      refine ⟨⟨rfl, rfl⟩, ?_⟩
      split <;> rfl

end RustdeskCli.Connection
