import RustdeskCli.Connection.HeartbeatTask
import RustdeskCli.Foundation.Machine
import RustdeskCli.Foundation.Insertion
set_option autoImplicit false

/-!
# Connection: the UDP socket (`src/rendezvous.rs`, `src/connection.rs`)

A connection registers at hbbs over UDP before anything else, and the client can punch
holes and ask for relays over the same socket.  UDP loses, repeats and reorders datagrams,
and the heartbeat task shares the socket, so that answers to heartbeats arrive between the
answers to requests.

A call reads the datagrams the socket gives it; without one it waits, and its result is
`none`.
-/

namespace RustdeskCli.Connection

open RustdeskCli.Foundation
open RustdeskCli.Session
open RustdeskCli.Daemon

/-! ## Datagrams -/

/-- `rendezvous_message::Union` of what the client sends, with the fields that are not
defaults. -/
inductive RendezvousRequest where
  | registerPeer (id : Text)
  | registerPk (id : Text) (uuid pk : Bytes)
  | punchHole (request : PunchHoleRequest)
  | requestRelay (request : RequestRelay)
  deriving DecidableEq, Repr

/-- `rendezvous_message::Union` of a datagram of hbbs. -/
inductive UdpUnion where
  | registerPeerResponse (requestPk : Bool)
  | registerPkResponse (result keepAlive : Int)
  | punchHoleResponse (resp : PunchHoleResponse)
  | relayResponse (resp : RelayResponse)
  | other (debug : Text)
  deriving DecidableEq, Repr

/-- What one `recv` of the socket gives, and the decoding of it. -/
inductive Datagram where
  | failed (e : Error)
  | undecodable (e : Error)
  | message (union : Option UdpUnion)
  deriving DecidableEq, Repr

/-- The socket: the datagrams to come, the errors of the coming sends, and what has been sent. -/
structure UdpSocket where
  inbox : List Datagram
  sends : List (Option Error)
  sent : List RendezvousRequest
  deriving DecidableEq, Repr

/-- A call on the socket; the result is `none` while it waits. -/
abbrev UdpCall (α : Type) := UdpSocket → Option (Except Error α) × UdpSocket

/-- What the calls need beside the socket: its local port, and `{other:?}` of an answer and of
a `RelayResponse`. -/
structure UdpEnv where
  localPort : Except Error UInt16
  debug : Option UdpUnion → Text
  debugRelay : RelayResponse → Text

/-! ## One request -/

/-- `socket.send`. -/
def UdpSocket.send (s : UdpSocket) (request : RendezvousRequest) : Except Error Unit × UdpSocket :=
  let s' := { s with sends := s.sends.tail, sent := s.sent ++ [request] }
  match nextOutcome s.sends with
  | some e => (.error e, s')
  | none => (.ok (), s')

/-- One `recv`, and what it is decoded to. -/
def Datagram.answer : Datagram → Except Error (Option UdpUnion)
  | .failed e => .error e
  | .undecodable e => .error e
  | .message union => .ok union

/-- The first datagram. -/
def recvFirst : List Datagram → Option (Except Error (Option UdpUnion)) × List Datagram
  | [] => (none, [])
  | datagram :: inbox => (some datagram.answer, inbox)

/-- The loop of `send_request`: it passes over each `RegisterPeerResponse`. -/
def recvAnswer : List Datagram → Option (Except Error (Option UdpUnion)) × List Datagram
  | [] => (none, [])
  | .message (some (.registerPeerResponse _)) :: inbox => recvAnswer inbox
  | datagram :: inbox => (some datagram.answer, inbox)

/-- A request and what `recv` makes of the datagrams after it. -/
def requestWith
    (recv : List Datagram → Option (Except Error (Option UdpUnion)) × List Datagram)
    (request : RendezvousRequest) : UdpCall (Option UdpUnion) := fun s =>
  match s.send request with
  | (.error e, s) => (some (.error e), s)
  | (.ok (), s) =>
      match recv s.inbox with
      | (answer, inbox) => (answer, { s with inbox := inbox })

/-- `send_request`. -/
def sendRequest (request : RendezvousRequest) : UdpCall (Option UdpUnion) :=
  requestWith recvAnswer request

/-- The answer a call waits for; any other is an error that shows it. -/
def expecting {α : Type} (env : UdpEnv) (name : Text) (pick : UdpUnion → Option α) :
    Option (Except Error (Option UdpUnion)) → Option (Except Error α)
  | none => none
  | some (.error e) => some (.error e)
  | some (.ok union) =>
      match union.bind pick with
      | some a => some (.ok a)
      | none =>
          some (.error (.msg ("unexpected rendezvous response to ".toList ++ name ++
            ": ".toList ++ env.debug union)))

/-- A request with the answer it waits for. -/
def callWith {α : Type} (env : UdpEnv) (name : Text) (pick : UdpUnion → Option α)
    (call : UdpCall (Option UdpUnion)) : UdpCall α := fun s =>
  match call s with
  | (answer, s) => (expecting env name pick answer, s)

/-! ## The calls -/

/-- `register_peer`.  It reads the first datagram itself, since the answer it waits for is the
one that `send_request` passes over. -/
def registerPeer (env : UdpEnv) (myId : Text) : UdpCall Bool :=
  callWith env "RegisterPeer".toList
    (fun
      | .registerPeerResponse requestPk => some requestPk
      | _ => none)
    (requestWith recvFirst (.registerPeer myId))

/-- `register_pk`. -/
def registerPk (env : UdpEnv) (myId : Text) (uuid publicKey : Bytes) : UdpCall (Int × Int) :=
  callWith env "RegisterPk".toList
    (fun
      | .registerPkResponse result keepAlive => some (result, keepAlive)
      | _ => none)
    (sendRequest (.registerPk myId uuid publicKey))

/-- `punch_hole_or_relay_with_conn_type`. -/
def punchHoleOrRelay (env : UdpEnv) (targetId licenceKey : Text) (connType : ConnType) :
    UdpCall PunchRelayResponse := fun s =>
  match env.localPort with
  | .error e => (some (.error e), s)
  | .ok port =>
      callWith env "PunchHoleRequest".toList
        (fun
          | .punchHoleResponse resp => some (.punchHole resp)
          | .relayResponse resp => some (.relay resp)
          | _ => none)
        (sendRequest (.punchHole
          ⟨targetId, licenceKey, connType, "0.2.0".toList, port.toNat, true⟩)) s

/-- `punch_hole_with_conn_type`. -/
def punchHole (env : UdpEnv) (targetId licenceKey : Text) (connType : ConnType) :
    UdpCall PunchHoleResponse := fun s =>
  match punchHoleOrRelay env targetId licenceKey connType s with
  | (none, s) => (none, s)
  | (some (.error e), s) => (some (.error e), s)
  | (some (.ok (.punchHole resp)), s) => (some (.ok resp), s)
  | (some (.ok (.relay resp)), s) =>
      (some (.error (.msg ("unexpected RelayResponse to PunchHoleRequest: ".toList ++
        env.debugRelay resp))), s)

/-- `request_relay_for_with_conn_type`. -/
def requestRelayFor (env : UdpEnv) (targetId relayServer : Text) (socketAddr : Bytes)
    (licenceKey : Text) (connType : ConnType) : UdpCall RelayResponse :=
  callWith env "RequestRelay".toList
    (fun
      | .relayResponse resp => some resp
      | _ => none)
    (sendRequest (.requestRelay
      ⟨targetId, [], socketAddr, relayServer, true, licenceKey, connType⟩))

/-- Who registers: its ID, and the random bytes it sends as UUID and key. -/
structure Registrant where
  myId : Text
  uuid : Bytes
  publicKey : Bytes
  deriving DecidableEq, Repr

/-- The registration of `connect_with_mode`.  It does not look at what hbbs says of the key. -/
def register (env : UdpEnv) (who : Registrant) : UdpCall Unit := fun s =>
  match registerPeer env who.myId s with
  | (none, s) => (none, s)
  | (some (.error e), s) => (some (.error (e.context "RegisterPeer failed".toList)), s)
  | (some (.ok false), s) => (some (.ok ()), s)
  | (some (.ok true), s) =>
      match registerPk env who.myId who.uuid who.publicKey s with
      | (none, s) => (none, s)
      | (some (.error e), s) => (some (.error (e.context "RegisterPk failed".toList)), s)
      | (some (.ok _), s) => (some (.ok ()), s)

/-- A request of a client that has registered. -/
inductive UdpRequest where
  | registerPk (uuid publicKey : Bytes)
  | punchHoleOrRelay (targetId licenceKey : Text) (connType : ConnType)
  | punchHole (targetId licenceKey : Text) (connType : ConnType)
  | requestRelayFor (targetId relayServer : Text) (socketAddr : Bytes) (licenceKey : Text)
      (connType : ConnType)
  deriving DecidableEq, Repr

/-- What its call returns. -/
inductive UdpReply where
  | registered (result keepAlive : Int)
  | punched (resp : PunchRelayResponse)
  | hole (resp : PunchHoleResponse)
  | relayed (resp : RelayResponse)
  deriving DecidableEq, Repr

/-- A call with another result. -/
def mapCall {α β : Type} (f : α → β) (call : UdpCall α) : UdpCall β := fun s =>
  match call s with
  | (result, s) => (result.map (Except.map f), s)

/-- The call of a request. -/
def UdpRequest.call (env : UdpEnv) (myId : Text) : UdpRequest → UdpCall UdpReply
  | .registerPk uuid publicKey =>
      mapCall (fun answer => .registered answer.1 answer.2)
        (Connection.registerPk env myId uuid publicKey)
  | .punchHoleOrRelay targetId licenceKey connType =>
      mapCall .punched (Connection.punchHoleOrRelay env targetId licenceKey connType)
  | .punchHole targetId licenceKey connType =>
      mapCall .hole (Connection.punchHole env targetId licenceKey connType)
  | .requestRelayFor targetId relayServer socketAddr licenceKey connType =>
      mapCall .relayed
        (Connection.requestRelayFor env targetId relayServer socketAddr licenceKey connType)

/-- One request after the other, up to one that waits. -/
def runRequests (env : UdpEnv) (myId : Text) :
    List UdpRequest → UdpSocket → List (Option (Except Error UdpReply)) × UdpSocket
  | [], s => ([], s)
  | request :: requests, s =>
      match request.call env myId s with
      | (none, s) => ([none], s)
      | (some result, s) =>
          match runRequests env myId requests s with
          | (results, s) => (some result :: results, s)

/-- A registration and the requests behind it. -/
def converse (env : UdpEnv) (who : Registrant) (requests : List UdpRequest) (s : UdpSocket) :
    Option (Except Error Unit) × List (Option (Except Error UdpReply)) × UdpSocket :=
  match register env who s with
  | (none, s) => (none, [], s)
  | (some (.error e), s) => (some (.error e), [], s)
  | (some (.ok ()), s) => (some (.ok ()), runRequests env who.myId requests s)

/-- An attempt to connect registers when its registration over UDP succeeds. -/
theorem registers_iff {α : Type} {env : UdpEnv} {who : Registrant} {s : UdpSocket}
    {attempt : ConnectEnv α} (hclient : attempt.client = .ok ())
    (hpeer : (registerPeer env who.myId s).1 = some attempt.registerPeer)
    (hpk : attempt.registerPeer = .ok true → ∃ answer,
      (registerPk env who.myId who.uuid who.publicKey (registerPeer env who.myId s).2).1 =
        some answer ∧ attempt.registerPk = answer.map fun _ => ()) :
    attempt.registers = true ↔ (register env who s).1 = some (.ok ()) := by
  unfold ConnectEnv.registers register
  rw [hclient]
  revert hpeer hpk
  generalize registerPeer env who.myId s = called
  obtain ⟨answer, socket⟩ := called
  rintro rfl hpk
  cases hwant : attempt.registerPeer with
  | error e => simp [Except.isOk, Except.toBool]
  | ok requestPk =>
      cases requestPk with
      | false => simp [Except.isOk, Except.toBool]
      | true =>
          obtain ⟨answer, hanswer, hsame⟩ := hpk hwant
          revert hanswer
          dsimp only
          generalize registerPk env who.myId who.uuid who.publicKey socket = called
          obtain ⟨answer', last⟩ := called
          rintro rfl
          rw [hsame]
          cases answer with
          | error e => simp [Except.isOk, Except.toBool, Except.map]
          | ok key => simp [Except.isOk, Except.toBool, Except.map]

/-! ## Answers to heartbeats -/

/-- The answer to a heartbeat, which is the answer to a `RegisterPeer`. -/
def IsHeartbeatAnswer (datagram : Datagram) : Prop :=
  ∃ requestPk, datagram = .message (some (.registerPeerResponse requestPk))

/-- The same socket, with answers to heartbeats among the datagrams. -/
structure UdpSocket.Noisy (s s' : UdpSocket) : Prop where
  inbox : Inserted IsHeartbeatAnswer s.inbox s'.inbox
  sends : s'.sends = s.sends
  sent : s'.sent = s.sent

/-- A call that does not notice answers to heartbeats. -/
def Tolerant {α : Type} (call : UdpCall α) : Prop :=
  ∀ s s' : UdpSocket, s.Noisy s' → (call s').1 = (call s).1 ∧ (call s).2.Noisy (call s').2

theorem recvAnswer_noisy {l l' : List Datagram} (h : Inserted IsHeartbeatAnswer l l') :
    (recvAnswer l').1 = (recvAnswer l).1 ∧
      Inserted IsHeartbeatAnswer (recvAnswer l).2 (recvAnswer l').2 := by
  induction h with
  | nil => exact ⟨rfl, .nil⟩
  | keep datagram rest ih =>
      by_cases hheartbeat : IsHeartbeatAnswer datagram
      · obtain ⟨requestPk, rfl⟩ := hheartbeat
        exact ih
      · have hstop : ∀ inbox, recvAnswer (datagram :: inbox) = (some datagram.answer, inbox) := by
          intro inbox
          unfold recvAnswer
          split
          · rename_i heq
            cases heq
          · rename_i heq
            obtain ⟨rfl, rfl⟩ := List.cons.inj heq
            exact absurd ⟨_, rfl⟩ hheartbeat
          · rename_i heq
            obtain ⟨rfl, rfl⟩ := List.cons.inj heq
            rfl
        rw [hstop, hstop]
        exact ⟨rfl, rest⟩
  | insert hheartbeat _ ih =>
      obtain ⟨requestPk, rfl⟩ := hheartbeat
      exact ih

theorem tolerant_sendRequest (request : RendezvousRequest) : Tolerant (sendRequest request) := by
  intro s s' h
  have hsends : nextOutcome s'.sends = nextOutcome s.sends := by rw [h.sends]
  obtain ⟨hanswer, hinbox⟩ := recvAnswer_noisy h.inbox
  unfold sendRequest requestWith UdpSocket.send
  rw [hsends]
  cases nextOutcome s.sends with
  | some e => exact ⟨rfl, h.inbox, by rw [h.sends], by rw [h.sent]⟩
  | none => exact ⟨hanswer, hinbox, by rw [h.sends], by rw [h.sent]⟩

theorem Tolerant.callWith {α : Type} {call : UdpCall (Option UdpUnion)} (h : Tolerant call)
    (env : UdpEnv) (name : Text) (pick : UdpUnion → Option α) :
    Tolerant (callWith env name pick call) := by
  intro s s' hnoisy
  obtain ⟨hanswer, hsocket⟩ := h s s' hnoisy
  exact ⟨congrArg (expecting env name pick) hanswer, hsocket⟩

theorem tolerant_registerPk (env : UdpEnv) (myId : Text) (uuid publicKey : Bytes) :
    Tolerant (registerPk env myId uuid publicKey) :=
  (tolerant_sendRequest _).callWith _ _ _

theorem tolerant_punchHoleOrRelay (env : UdpEnv) (targetId licenceKey : Text)
    (connType : ConnType) : Tolerant (punchHoleOrRelay env targetId licenceKey connType) := by
  intro s s' h
  unfold punchHoleOrRelay
  cases env.localPort with
  | error e => exact ⟨rfl, h⟩
  | ok port => exact (tolerant_sendRequest _).callWith _ _ _ s s' h

theorem tolerant_punchHole (env : UdpEnv) (targetId licenceKey : Text) (connType : ConnType) :
    Tolerant (punchHole env targetId licenceKey connType) := by
  intro s s' h
  obtain ⟨hanswer, hsocket⟩ := tolerant_punchHoleOrRelay env targetId licenceKey connType s s' h
  unfold punchHole
  revert hanswer hsocket
  generalize punchHoleOrRelay env targetId licenceKey connType s = before
  generalize punchHoleOrRelay env targetId licenceKey connType s' = after
  obtain ⟨answer, socket⟩ := before
  obtain ⟨answer', socket'⟩ := after
  rintro rfl hsocket
  rcases answer' with _ | _ | (_ | _) <;> exact ⟨rfl, hsocket⟩

theorem tolerant_requestRelayFor (env : UdpEnv) (targetId relayServer : Text)
    (socketAddr : Bytes) (licenceKey : Text) (connType : ConnType) :
    Tolerant (requestRelayFor env targetId relayServer socketAddr licenceKey connType) :=
  (tolerant_sendRequest _).callWith _ _ _

theorem Tolerant.mapCall {α β : Type} {call : UdpCall α} (h : Tolerant call) (f : α → β) :
    Tolerant (mapCall f call) := by
  intro s s' hnoisy
  obtain ⟨hanswer, hsocket⟩ := h s s' hnoisy
  exact ⟨congrArg (Option.map (Except.map f)) hanswer, hsocket⟩

theorem tolerant_call (env : UdpEnv) (myId : Text) (request : UdpRequest) :
    Tolerant (request.call env myId) := by
  cases request with
  | registerPk uuid publicKey => exact (tolerant_registerPk env myId uuid publicKey).mapCall _
  | punchHoleOrRelay targetId licenceKey connType =>
      exact (tolerant_punchHoleOrRelay env targetId licenceKey connType).mapCall _
  | punchHole targetId licenceKey connType =>
      exact (tolerant_punchHole env targetId licenceKey connType).mapCall _
  | requestRelayFor targetId relayServer socketAddr licenceKey connType =>
      exact (tolerant_requestRelayFor env targetId relayServer socketAddr licenceKey
        connType).mapCall _

/-- Requests one after the other do not notice answers to heartbeats. -/
theorem runRequests_noisy (env : UdpEnv) (myId : Text) (requests : List UdpRequest) :
    ∀ {s s' : UdpSocket}, s.Noisy s' →
      (runRequests env myId requests s').1 = (runRequests env myId requests s).1 ∧
        (runRequests env myId requests s).2.Noisy (runRequests env myId requests s').2 := by
  induction requests with
  | nil => exact fun h => ⟨rfl, h⟩
  | cons request requests ih =>
      intro s s' h
      obtain ⟨hanswer, hsocket⟩ := tolerant_call env myId request s s' h
      rw [runRequests, runRequests]
      revert hanswer hsocket
      generalize request.call env myId s = before
      generalize request.call env myId s' = after
      obtain ⟨answer, socket⟩ := before
      obtain ⟨answer', socket'⟩ := after
      rintro rfl hsocket
      cases answer' with
      | none => exact ⟨rfl, hsocket⟩
      | some result =>
          obtain ⟨hresults, hlast⟩ := ih hsocket
          exact ⟨congrArg (some result :: ·) hresults, hlast⟩

/-- The same socket, with answers to heartbeats behind the first datagram.  The heartbeats begin
when the registration is over. -/
structure UdpSocket.NoisyBehind (s s' : UdpSocket) : Prop where
  first : s'.inbox.head? = s.inbox.head?
  behind : Inserted IsHeartbeatAnswer s.inbox.tail s'.inbox.tail
  sends : s'.sends = s.sends
  sent : s'.sent = s.sent

theorem UdpSocket.NoisyBehind.noisy {s s' : UdpSocket} (h : s.NoisyBehind s') : s.Noisy s' := by
  refine ⟨?_, h.sends, h.sent⟩
  have hfirst := h.first
  have hbehind := h.behind
  revert hfirst hbehind
  cases s.inbox with
  | nil =>
      cases s'.inbox with
      | nil => exact fun _ _ => .nil
      | cons datagram inbox => exact fun hfirst => nomatch hfirst
  | cons datagram inbox =>
      cases s'.inbox with
      | nil => exact fun hfirst => nomatch hfirst
      | cons datagram' inbox' =>
          intro hfirst hbehind
          obtain rfl := Option.some.inj hfirst
          exact .keep datagram' hbehind

theorem recvFirst_eq (inbox : List Datagram) :
    recvFirst inbox = (inbox.head?.map Datagram.answer, inbox.tail) := by
  cases inbox <;> rfl

theorem registerPeer_noisy (env : UdpEnv) (myId : Text) {s s' : UdpSocket}
    (h : s.NoisyBehind s') :
    (registerPeer env myId s').1 = (registerPeer env myId s).1 ∧
      (registerPeer env myId s).2.Noisy (registerPeer env myId s').2 := by
  have hsends : nextOutcome s'.sends = nextOutcome s.sends := by rw [h.sends]
  unfold registerPeer callWith requestWith UdpSocket.send
  rw [hsends]
  cases nextOutcome s.sends with
  | some e => exact ⟨rfl, h.noisy.inbox, by rw [h.sends], by rw [h.sent]⟩
  | none =>
      dsimp only
      rw [recvFirst_eq, recvFirst_eq, h.first]
      exact ⟨rfl, h.behind, by rw [h.sends], by rw [h.sent]⟩

theorem register_noisy (env : UdpEnv) (who : Registrant) {s s' : UdpSocket}
    (h : s.NoisyBehind s') :
    (register env who s').1 = (register env who s).1 ∧
      (register env who s).2.Noisy (register env who s').2 := by
  obtain ⟨hanswer, hsocket⟩ := registerPeer_noisy env who.myId h
  unfold register
  revert hanswer hsocket
  generalize registerPeer env who.myId s = before
  generalize registerPeer env who.myId s' = after
  obtain ⟨answer, socket⟩ := before
  obtain ⟨answer', socket'⟩ := after
  rintro rfl hsocket
  rcases answer' with _ | _ | _ | _
  · exact ⟨rfl, hsocket⟩
  · exact ⟨rfl, hsocket⟩
  · exact ⟨rfl, hsocket⟩
  · -- a key is wanted
    obtain ⟨hkey, hlast⟩ :=
      tolerant_registerPk env who.myId who.uuid who.publicKey socket socket' hsocket
    dsimp only
    revert hkey hlast
    generalize registerPk env who.myId who.uuid who.publicKey socket = before
    generalize registerPk env who.myId who.uuid who.publicKey socket' = after
    obtain ⟨key, last⟩ := before
    obtain ⟨key', last'⟩ := after
    rintro rfl hlast
    rcases key' with _ | _ | _ <;> exact ⟨rfl, hlast⟩

/-- The heartbeat task and the requests share a socket without harm.  Whatever hbbs sends and
whichever sends fail, answers to heartbeats that come in any number at any places behind the
first datagram change no result of the registration or of the requests behind it, and
nothing that is sent; the first datagram is the one that no heartbeat can have asked for. -/
theorem heartbeat_answers_unnoticed (env : UdpEnv) (who : Registrant)
    (requests : List UdpRequest) {s s' : UdpSocket} (h : s.NoisyBehind s') :
    (converse env who requests s').1 = (converse env who requests s).1 ∧
      (converse env who requests s').2.1 = (converse env who requests s).2.1 ∧
      (converse env who requests s').2.2.sent = (converse env who requests s).2.2.sent := by
  obtain ⟨hresult, hsocket⟩ := register_noisy env who h
  unfold converse
  revert hresult hsocket
  generalize register env who s = before
  generalize register env who s' = after
  obtain ⟨result, socket⟩ := before
  obtain ⟨result', socket'⟩ := after
  rintro rfl hsocket
  rcases result' with _ | _ | _
  · exact ⟨rfl, rfl, hsocket.sent⟩
  · exact ⟨rfl, rfl, hsocket.sent⟩
  · obtain ⟨hresults, hlast⟩ := runRequests_noisy env who.myId requests hsocket
    exact ⟨rfl, hresults, hlast.sent⟩

/-! ## Registration over a network -/

/-- The answers of hbbs to a request. -/
def Answers : RendezvousRequest → UdpUnion → Bool
  | .registerPeer _, .registerPeerResponse _ => true
  | .registerPk .., .registerPkResponse .. => true
  | .punchHole _, .punchHoleResponse _ => true
  | .punchHole _, .relayResponse _ => true
  | .requestRelay _, .relayResponse _ => true
  | _, _ => false

/-- The network between a client that registers and hbbs: what hbbs has sent, and what has
arrived, in the order of its arrival. -/
structure UdpNet where
  answered : List UdpUnion
  arrived : List UdpUnion
  deriving DecidableEq, Repr

/-- The client's socket, whose sends succeed. -/
def UdpNet.socket (net : UdpNet) : UdpSocket :=
  ⟨net.arrived.map fun union => .message (some union), [], []⟩

/-- What the network does.  A request reaches hbbs at any time, any number of times or never,
and so does an answer the client. -/
inductive UdpMove where
  | answers (request : RendezvousRequest) (answer : UdpUnion)
  | arrives (answer : UdpUnion)
  deriving DecidableEq, Repr

/-- One move; hbbs answers only what the client has sent by then. -/
def UdpNet.step (env : UdpEnv) (who : Registrant) (net : UdpNet) : UdpMove → Option UdpNet
  | .answers request answer =>
      if request ∈ (register env who net.socket).2.sent ∧ Answers request answer then
        some { net with answered := net.answered ++ [answer] }
      else none
  | .arrives answer =>
      if answer ∈ net.answered then some { net with arrived := net.arrived ++ [answer] } else none

/-- The machine of a registration. -/
def registrationMachine (env : UdpEnv) (who : Registrant) : Machine UdpNet UdpMove :=
  ⟨UdpNet.step env who⟩

/-- Before anything has happened. -/
def UdpNet.new : UdpNet := ⟨[], []⟩

/-- An answer to a `RegisterPeer`. -/
def UdpUnion.isPeerResponse : UdpUnion → Bool
  | .registerPeerResponse _ => true
  | _ => false

/-- An answer to a registration. -/
def UdpUnion.isRegistration : UdpUnion → Bool
  | .registerPeerResponse _ => true
  | .registerPkResponse .. => true
  | _ => false

/-- What is under way in a registration: nothing but answers to it, and the first to arrive is
the answer to the `RegisterPeer`. -/
structure UdpNet.Registering (net : UdpNet) : Prop where
  answered : ∀ answer ∈ net.answered, answer.isRegistration = true
  arrived : ∀ answer ∈ net.arrived, answer ∈ net.answered
  early : net.arrived = [] → ∀ answer ∈ net.answered, answer.isPeerResponse = true
  first : ∀ answer, net.arrived.head? = some answer → answer.isPeerResponse = true

section Registration

variable {env : UdpEnv} {who : Registrant} {net net' : UdpNet}

theorem answer_of_isRegistration {answer : UdpUnion} (h : answer.isRegistration = true) :
    (∃ requestPk, answer = .registerPeerResponse requestPk) ∨
      ∃ result keepAlive, answer = .registerPkResponse result keepAlive := by
  cases answer with
  | registerPeerResponse requestPk => exact .inl ⟨requestPk, rfl⟩
  | registerPkResponse result keepAlive => exact .inr ⟨result, keepAlive, rfl⟩
  | punchHoleResponse resp => cases h
  | relayResponse resp => cases h
  | other debug => cases h

theorem answer_of_isPeerResponse {answer : UdpUnion} (h : answer.isPeerResponse = true) :
    ∃ requestPk, answer = .registerPeerResponse requestPk := by
  cases answer with
  | registerPeerResponse requestPk => exact ⟨requestPk, rfl⟩
  | registerPkResponse result keepAlive => cases h
  | punchHoleResponse resp => cases h
  | relayResponse resp => cases h
  | other debug => cases h

/-- The first answer to a `RegisterPk` is taken, whatever is in front of it. -/
theorem recvAnswer_registration {answers : List UdpUnion}
    (h : ∀ answer ∈ answers, answer.isRegistration = true) :
    ((recvAnswer (answers.map fun union => .message (some union))).1 = none ∧
        ∀ answer ∈ answers, answer.isPeerResponse = true) ∨
      ∃ result keepAlive, .registerPkResponse result keepAlive ∈ answers ∧
        (recvAnswer (answers.map fun union => .message (some union))).1 =
          some (.ok (some (.registerPkResponse result keepAlive))) := by
  induction answers with
  | nil => exact .inl ⟨rfl, by simp⟩
  | cons answer answers ih =>
      obtain ⟨hanswer, hanswers⟩ := List.forall_mem_cons.mp h
      rcases answer_of_isRegistration hanswer with ⟨requestPk, rfl⟩ | ⟨result, keepAlive, rfl⟩
      · rcases ih hanswers with ⟨hnone, hall⟩ | ⟨result, keepAlive, hmem, hsome⟩
        · exact .inl ⟨hnone, List.forall_mem_cons.mpr ⟨rfl, hall⟩⟩
        · exact .inr ⟨result, keepAlive, List.mem_cons_of_mem _ hmem, hsome⟩
      · exact .inr ⟨result, keepAlive, List.mem_cons_self, rfl⟩

/-- Nothing has arrived. -/
theorem register_waiting (env : UdpEnv) (who : Registrant) (h : net.arrived = []) :
    (register env who net.socket).1 = none ∧
      (register env who net.socket).2.sent = [.registerPeer who.myId] := by
  unfold UdpNet.socket
  rw [h]
  exact ⟨rfl, rfl⟩

/-- hbbs does not want a key. -/
theorem register_free (env : UdpEnv) (who : Registrant) {rest : List UdpUnion}
    (h : net.arrived = .registerPeerResponse false :: rest) :
    (register env who net.socket).1 = some (.ok ()) ∧
      (register env who net.socket).2.sent = [.registerPeer who.myId] := by
  unfold UdpNet.socket
  rw [h]
  exact ⟨rfl, rfl⟩

/-- hbbs wants a key, and the registration is over with the answer to it. -/
theorem register_asked (env : UdpEnv) (who : Registrant) {rest : List UdpUnion}
    (h : net.arrived = .registerPeerResponse true :: rest)
    (hrest : ∀ answer ∈ rest, answer.isRegistration = true) :
    (((register env who net.socket).1 = none ∧ ∀ answer ∈ rest, answer.isPeerResponse = true) ∨
        ∃ result keepAlive, .registerPkResponse result keepAlive ∈ rest ∧
          (register env who net.socket).1 = some (.ok ())) ∧
      (register env who net.socket).2.sent =
        [.registerPeer who.myId, .registerPk who.myId who.uuid who.publicKey] := by
  have hregistration := recvAnswer_registration hrest
  rcases hrecv : recvAnswer (rest.map fun union => .message (some union)) with ⟨answer, left⟩
  rw [hrecv] at hregistration
  unfold UdpNet.socket
  rw [h]
  simp only [List.map_cons, register, registerPeer, registerPk, callWith, requestWith, sendRequest,
    UdpSocket.send, nextOutcome, List.head?_nil, List.tail_nil, Option.join_none, recvFirst,
    Datagram.answer, expecting, Option.bind_some, hrecv]
  rcases hregistration with ⟨hnone, hall⟩ | ⟨result, keepAlive, hmem, hsome⟩
  · obtain rfl : answer = none := hnone
    exact ⟨.inl ⟨rfl, hall⟩, rfl⟩
  · obtain rfl : answer = _ := hsome
    exact ⟨.inr ⟨result, keepAlive, hmem, rfl⟩, rfl⟩

namespace UdpNet.Registering

/-- What has arrived in a registration. -/
theorem cases (h : net.Registering) : net.arrived = [] ∨ ∃ requestPk rest,
    net.arrived = .registerPeerResponse requestPk :: rest ∧
      ∀ answer ∈ rest, answer.isRegistration = true := by
  have hfirst := h.first
  have harrived := h.arrived
  cases hlist : net.arrived with
  | nil => exact .inl rfl
  | cons answer rest =>
      rw [hlist] at hfirst harrived
      obtain ⟨requestPk, rfl⟩ := answer_of_isPeerResponse (hfirst answer rfl)
      refine .inr ⟨requestPk, rest, rfl, ?_⟩
      intro answer hanswer
      exact h.answered answer (harrived answer (List.mem_cons_of_mem _ hanswer))

theorem sent (h : net.Registering) (env : UdpEnv) (who : Registrant) :
    (register env who net.socket).2.sent = [.registerPeer who.myId] ∨
      net.arrived ≠ [] ∧ (register env who net.socket).2.sent =
        [.registerPeer who.myId, .registerPk who.myId who.uuid who.publicKey] := by
  rcases h.cases with hnone | ⟨_ | _, rest, harrived, hrest⟩
  · exact .inl (register_waiting env who hnone).2
  · exact .inl (register_free env who harrived).2
  · refine .inr ⟨?_, (register_asked env who harrived hrest).2⟩
    rw [harrived]
    exact List.cons_ne_nil _ _

/-- hbbs answers what has been sent. -/
theorem answers (h : net.Registering) {request : RendezvousRequest} {answer : UdpUnion}
    (hsent : request ∈ (register env who net.socket).2.sent)
    (hanswer : Answers request answer = true) :
    ({ net with answered := net.answered ++ [answer] } : UdpNet).Registering := by
  have hkind : answer.isRegistration = true ∧
      (net.arrived = [] → answer.isPeerResponse = true) := by
    rcases h.sent env who with hpeer | ⟨hnonempty, hboth⟩
    · rw [hpeer] at hsent
      obtain rfl := List.mem_singleton.mp hsent
      cases answer <;> first | exact ⟨rfl, fun _ => rfl⟩ | cases hanswer
    · refine ⟨?_, fun hnone => absurd hnone hnonempty⟩
      rw [hboth] at hsent
      rcases List.mem_pair.mp hsent with rfl | rfl <;>
        cases answer <;> first | rfl | cases hanswer
  refine ⟨?_, ?_, ?_, h.first⟩
  · intro other hother
    rcases List.mem_append.mp hother with hold | hnew
    · exact h.answered other hold
    · obtain rfl := List.mem_singleton.mp hnew
      exact hkind.1
  · intro other hother
    exact List.mem_append_left _ (h.arrived other hother)
  · intro hnone other hother
    rcases List.mem_append.mp hother with hold | hnew
    · exact h.early hnone other hold
    · obtain rfl := List.mem_singleton.mp hnew
      exact hkind.2 hnone

/-- An answer arrives, for the first time or again. -/
theorem arrives (h : net.Registering) {answer : UdpUnion} (hanswer : answer ∈ net.answered) :
    ({ net with arrived := net.arrived ++ [answer] } : UdpNet).Registering := by
  refine ⟨h.answered, ?_, ?_, ?_⟩
  · intro other hother
    rcases List.mem_append.mp hother with hold | hnew
    · exact h.arrived other hold
    · obtain rfl := List.mem_singleton.mp hnew
      exact hanswer
  · intro hnone
    exact absurd hnone (List.append_ne_nil_of_right_ne_nil _ (List.cons_ne_nil _ _))
  · intro other hother
    cases hlist : net.arrived with
    | nil =>
        simp only [hlist, List.nil_append, List.head?_cons, Option.some.injEq] at hother
        exact hother ▸ h.early hlist answer hanswer
    | cons first rest =>
        simp only [hlist, List.cons_append, List.head?_cons, Option.some.injEq] at hother
        exact h.first other (by rw [hlist, ← hother]; rfl)

theorem step (h : net.Registering) {move : UdpMove} (hstep : net.step env who move = some net') :
    net'.Registering := by
  cases move with
  | answers request answer =>
      obtain ⟨⟨hsent, hanswer⟩, heq⟩ := Option.ite_none_right_eq_some.mp hstep
      obtain rfl := Option.some.inj heq
      exact h.answers hsent hanswer
  | arrives answer =>
      obtain ⟨hanswer, heq⟩ := Option.ite_none_right_eq_some.mp hstep
      obtain rfl := Option.some.inj heq
      exact h.arrives hanswer

theorem new : UdpNet.new.Registering :=
  ⟨by simp [UdpNet.new], by simp [UdpNet.new], by simp [UdpNet.new], by simp [UdpNet.new]⟩

end UdpNet.Registering

/-- One more exchange with hbbs. -/
theorem run_exchange (request : RendezvousRequest) (answer : UdpUnion)
    (hsent : request ∈ (register env who net.socket).2.sent)
    (hanswer : Answers request answer = true) :
    (registrationMachine env who).run net [.answers request answer, .arrives answer] =
      some ⟨net.answered ++ [answer], net.arrived ++ [answer]⟩ := by
  have hfirst : (registrationMachine env who).step net (.answers request answer) =
      some { net with answered := net.answered ++ [answer] } := if_pos ⟨hsent, hanswer⟩
  have hsecond : (registrationMachine env who).step
      { net with answered := net.answered ++ [answer] } (.arrives answer) =
        some ⟨net.answered ++ [answer], net.arrived ++ [answer]⟩ :=
    if_pos (List.mem_append_right _ List.mem_cons_self)
  rw [(registrationMachine env who).run_cons_of_step hfirst,
    (registrationMachine env who).run_cons_of_step hsecond, Machine.run_nil]

/-- A registration that is not over can still end. -/
theorem UdpNet.Registering.progress (h : net.Registering) :
    ∃ moves final, (registrationMachine env who).run net moves = some final ∧
      (register env who final.socket).1 = some (.ok ()) := by
  rcases h.cases with hnone | ⟨_ | _, rest, harrived, hrest⟩
  · have hsent : .registerPeer who.myId ∈ (register env who net.socket).2.sent := by
      rw [(register_waiting env who hnone).2]
      exact List.mem_cons_self
    refine ⟨_, _, run_exchange _ (.registerPeerResponse false) hsent rfl, ?_⟩
    exact (register_free env who (by rw [hnone]; rfl)).1
  · exact ⟨[], net, rfl, (register_free env who harrived).1⟩
  · obtain ⟨hresult, hsent⟩ := register_asked env who harrived hrest
    have hmem : .registerPk who.myId who.uuid who.publicKey ∈
        (register env who net.socket).2.sent := by
      rw [hsent]
      exact List.mem_cons_of_mem _ List.mem_cons_self
    refine ⟨_, _, run_exchange _ (.registerPkResponse 0 0) hmem rfl, ?_⟩
    have hmore : ∀ answer ∈ rest ++ [.registerPkResponse 0 0], answer.isRegistration = true := by
      intro answer hanswer
      rcases List.mem_append.mp hanswer with hold | hnew
      · exact hrest answer hold
      · obtain rfl := List.mem_singleton.mp hnew
        rfl
    have hlast : (⟨net.answered ++ [.registerPkResponse 0 0],
        net.arrived ++ [.registerPkResponse 0 0]⟩ : UdpNet).arrived =
          .registerPeerResponse true :: (rest ++ [.registerPkResponse 0 0]) := by
      rw [harrived]
      rfl
    obtain ⟨hover, -⟩ := register_asked env who hlast hmore
    rcases hover with ⟨-, hall⟩ | ⟨-, -, -, hover⟩
    · cases hall _ (List.mem_append_right _ List.mem_cons_self)
    · exact hover

/-- The registration over a network that loses, repeats and reorders datagrams, with an hbbs
that answers each request in kind, as often as it reaches it.  In every state that can be
reached the registration waits or has succeeded, never failed, and it can still succeed.
The client has sent one `RegisterPeer`, and one `RegisterPk` exactly when the first answer
wants a key; then it does not succeed before hbbs has answered the `RegisterPk`. -/
theorem registration_over_udp (env : UdpEnv) (who : Registrant) {moves : List UdpMove}
    {net : UdpNet} (hrun : (registrationMachine env who).run .new moves = some net) :
    ((register env who net.socket).1 = none ∨ (register env who net.socket).1 = some (.ok ())) ∧
      (register env who net.socket).2.sent =
        .registerPeer who.myId :: (if net.arrived.head? = some (.registerPeerResponse true) then
          [.registerPk who.myId who.uuid who.publicKey] else []) ∧
      ((register env who net.socket).1 = some (.ok ()) →
        net.arrived.head? = some (.registerPeerResponse true) →
          ∃ result keepAlive, .registerPkResponse result keepAlive ∈ net.answered) ∧
      ∃ more final, (registrationMachine env who).run net more = some final ∧
        (register env who final.socket).1 = some (.ok ()) := by
  have h : net.Registering := (registrationMachine env who).invariant
    (fun _ _ _ hnet hstep => hnet.step hstep) UdpNet.Registering.new hrun
  refine ⟨?_, ?_, ?_, h.progress⟩
  · rcases h.cases with hnone | ⟨_ | _, rest, harrived, hrest⟩
    · exact .inl (register_waiting env who hnone).1
    · exact .inr (register_free env who harrived).1
    · rcases (register_asked env who harrived hrest).1 with
        ⟨hwaits, -⟩ | ⟨-, -, -, hover⟩
      · exact .inl hwaits
      · exact .inr hover
  · rcases h.cases with hnone | ⟨_ | _, rest, harrived, hrest⟩
    · rw [(register_waiting env who hnone).2, hnone]
      rfl
    · rw [(register_free env who harrived).2, harrived]
      rfl
    · rw [(register_asked env who harrived hrest).2, harrived]
      rfl
  · intro hover hwants
    rcases h.cases with hnone | ⟨requestPk, rest, harrived, hrest⟩
    · rw [hnone] at hwants
      cases hwants
    · rw [harrived] at hwants
      obtain rfl := UdpUnion.registerPeerResponse.inj (Option.some.inj hwants)
      rcases (register_asked env who harrived hrest).1 with
        ⟨hwaits, -⟩ | ⟨result, keepAlive, hmem, -⟩
      · rw [hwaits] at hover
        cases hover
      · refine ⟨result, keepAlive, h.arrived _ ?_⟩
        rw [harrived]
        exact List.mem_cons_of_mem _ hmem

/-- A client whose environment shows nothing. -/
def sampleUdpEnv : UdpEnv := ⟨.ok 50000, fun _ => "None".toList, fun _ => []⟩

/-- A client that registers. -/
def sampleRegistrant : Registrant := ⟨"cli-1".toList, [1], [2]⟩

/-- hbbs wants a key; its first answer arrives twice, the second time in front of the answer to
the `RegisterPk`. -/
def repeatedMoves : List UdpMove :=
  [.answers (.registerPeer "cli-1".toList) (.registerPeerResponse true),
    .arrives (.registerPeerResponse true), .arrives (.registerPeerResponse true),
    .answers (.registerPk "cli-1".toList [1] [2]) (.registerPkResponse 0 0),
    .arrives (.registerPkResponse 0 0)]

theorem registration_over_udp_repeated :
    ∃ net, (registrationMachine sampleUdpEnv sampleRegistrant).run .new repeatedMoves = some net ∧
      (register sampleUdpEnv sampleRegistrant net.socket).2.sent =
        [.registerPeer "cli-1".toList, .registerPk "cli-1".toList [1] [2]] := by
  have hrun : (registrationMachine sampleUdpEnv sampleRegistrant).run .new repeatedMoves =
      some ⟨[.registerPeerResponse true, .registerPkResponse 0 0],
        [.registerPeerResponse true, .registerPeerResponse true, .registerPkResponse 0 0]⟩ := by
    decide
  exact ⟨_, hrun, (registration_over_udp sampleUdpEnv sampleRegistrant hrun).2.1⟩

end Registration

/-- A relay is asked for while the answers to two heartbeats are on their way. -/
theorem heartbeat_answers_unnoticed_relay :
    ∃ s s' : UdpSocket, s.NoisyBehind s' ∧ s'.inbox.length = s.inbox.length + 2 ∧
      (converse sampleUdpEnv sampleRegistrant
        [.requestRelayFor "123".toList [] [] [] .defaultConn] s').2.1 =
        [some (.ok (.relayed ⟨"u".toList, "r".toList, []⟩))] := by
  have hrelay : Inserted IsHeartbeatAnswer
      [.message (some (.relayResponse ⟨"u".toList, "r".toList, []⟩))]
      [.message (some (.registerPeerResponse false)), .message (some (.registerPeerResponse true)),
        .message (some (.relayResponse ⟨"u".toList, "r".toList, []⟩))] :=
    .insert ⟨_, rfl⟩ (.insert ⟨_, rfl⟩ (.refl _ _))
  have hnoisy : UdpSocket.NoisyBehind
      ⟨.message (some (.registerPeerResponse false)) ::
        [.message (some (.relayResponse ⟨"u".toList, "r".toList, []⟩))], [], []⟩
      ⟨.message (some (.registerPeerResponse false)) ::
        [.message (some (.registerPeerResponse false)),
          .message (some (.registerPeerResponse true)),
          .message (some (.relayResponse ⟨"u".toList, "r".toList, []⟩))], [], []⟩ :=
    ⟨rfl, hrelay, rfl, rfl⟩
  refine ⟨_, _, hnoisy, rfl, ?_⟩
  rw [(heartbeat_answers_unnoticed sampleUdpEnv sampleRegistrant _ hnoisy).2.1]
  rfl

end RustdeskCli.Connection
