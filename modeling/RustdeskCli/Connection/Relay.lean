import RustdeskCli.Connection.Rendezvous
set_option autoImplicit false

/-!
# Connection: meeting the peer at the relay (`src/connection.rs`)

hbbr joins two connections that bind the same UUID.  The client learns the peer's UUID
from a `RelayResponse`, or tells the peer its own with a `RequestRelay` to hbbs.
`connect_with_mode` sends the `RequestRelay` only when the first exchange gave it no
relay address, and uses its own UUID whenever the exchange gave it no UUID: the two
conditions are not the same one.
-/

namespace RustdeskCli.Connection

open RustdeskCli.Foundation
open RustdeskCli.Session
open RustdeskCli.Daemon

/-! ## Addresses and refusals -/

/-- `RELAY_PORT`, as it is appended. -/
def relayPortSuffix : Text := ":21117".toList

/-- `normalize_relay_addr`. -/
def normalizeRelayAddr (relayAddr : Text) : Text :=
  if relayAddr = [] then []
  else if relayAddr.head? = some '[' then
    if Text.contains relayAddr "]:".toList then relayAddr else relayAddr ++ relayPortSuffix
  else
    match relayAddr.count ':' with
    | 0 => relayAddr ++ relayPortSuffix
    | 1 => relayAddr
    | _ => '[' :: relayAddr ++ "]".toList ++ relayPortSuffix

/-- `punch_hole_response::Failure`. -/
inductive Failure where
  | idNotExist
  | offline
  | licenseMismatch
  | licenseOveruse
  deriving DecidableEq, Repr

/-- `Failure::try_from`. -/
def Failure.tryFrom (value : Int) : Option Failure :=
  if value = 0 then some .idNotExist
  else if value = 2 then some .offline
  else if value = 3 then some .licenseMismatch
  else if value = 4 then some .licenseOveruse
  else none

/-- `check_punch_hole_failure`. -/
def checkPunchHoleFailure (resp : PunchHoleResponse) : Except Error Unit :=
  if resp.otherFailure ≠ [] then
    .error (.msg ("punch hole failed: ".toList ++ resp.otherFailure))
  else
    match Failure.tryFrom resp.failure with
    | some .idNotExist =>
        if resp.socketAddr = [] ∧ resp.relayServer = [] then
          .error (.msg ("punch hole failed: the target ID does not exist ".toList ++
            "on the rendezvous server".toList))
        else .ok ()
    | some .offline => .ok ()
    | some .licenseMismatch =>
        .error (.msg "punch hole failed: license mismatch between client and server".toList)
    | some .licenseOveruse =>
        .error (.msg ("punch hole failed: license connection limit exceeded ".toList ++
          "(login overload)".toList))
    | none =>
        .error (.msg ("punch hole failed: unknown failure code ".toList ++
          (toString resp.failure).toList))

/-! ## connect_with_mode -/

/-- `ConnectionConfig`, without the password and the warmup time, which play no part before
the handshake. -/
structure ConnectionConfig where
  idServer : Text
  relayServer : Text
  serverKey : Text
  peerId : Text
  deriving DecidableEq, Repr

/-- What `connect_with_mode` meets: the registration, the 16 random bytes, the two
exchanges with hbbs, the connection to hbbr, and the handshake with the peer. -/
structure ConnectEnv (α : Type) where
  client : Except Error Unit
  registerPeer : Except Error Bool
  registerPk : Except Error Unit
  uuidBytes : Vector UInt8 16
  punch : PunchEnv
  relay : RelayEnv
  relayConnect : Except Error Unit
  relaySend : Except Error Unit
  handshake : Except Error α

/-- `format!("{b:02x}")`. -/
def hexByte (b : UInt8) : Text := [Nat.digitChar (b.toNat / 16), Nat.digitChar (b.toNat % 16)]

/-- The UUID of the client. -/
def ConnectEnv.clientUuid {α : Type} (env : ConnectEnv α) : Text :=
  env.uuidBytes.toList.flatMap hexByte

/-- A call of `relay_connect_with_type`. -/
structure RelayConnect where
  relayAddr : Text
  uuid : Text
  deriving DecidableEq, Repr

/-- What an attempt to connect has done: the relay requests hbbs got, what hbbs sent, and the
calls of `relay_connect_with_type`. -/
structure ConnectLog where
  requests : List RequestRelay
  received : List RendezvousUnion
  relayConnects : List RelayConnect
  deriving DecidableEq, Repr

/-- The first part of phase 2: what the exchange says about the relay, an address and the
peer's UUID. -/
def relayHint (config : ConnectionConfig) :
    Except Error PunchRelayResponse → Except Error (Option Text × Option Text)
  | .ok (.punchHole resp) =>
      match checkPunchHoleFailure resp with
      | .error e => .error e
      | .ok () =>
          if resp.relayServer ≠ [] then .ok (some (normalizeRelayAddr resp.relayServer), none)
          else .ok (none, none)
  | .ok (.relay resp) =>
      if resp.refuseReason ≠ [] then
        .error (.msg ("relay refused: ".toList ++ resp.refuseReason))
      else
        let peerRelayUuid := if resp.uuid ≠ [] then some resp.uuid else none
        if resp.relayServer ≠ [] then
          .ok (some (normalizeRelayAddr resp.relayServer), peerRelayUuid)
        else .ok (some (normalizeRelayAddr config.relayServer), peerRelayUuid)
  | .error _ => .ok (none, none)

/-- The relay address that `RequestRelay` gives. -/
def requestedRelay (config : ConnectionConfig) :
    Option (Except Error RelayResponse) → Except Error Text
  | some (.ok resp) =>
      if resp.refuseReason ≠ [] then
        .error (.msg ("relay refused: ".toList ++ resp.refuseReason))
      else if resp.relayServer = [] then .ok (normalizeRelayAddr config.relayServer)
      else .ok (normalizeRelayAddr resp.relayServer)
  | some (.error _) => .ok (normalizeRelayAddr config.relayServer)
  | none => .ok (normalizeRelayAddr config.relayServer)

/-- The `RequestRelay` of phase 2. -/
def relayRequest (config : ConnectionConfig) (uuid : Text) : RequestRelay where
  id := config.peerId
  uuid := uuid
  socketAddr := []
  relayServer := config.relayServer
  secure := true
  licenceKey := config.serverKey
  connType := .defaultConn

/-- `relay_connect_with_type`. -/
def relayConnectWithType {α : Type} (env : ConnectEnv α) (relayAddr : Text) : Except Error Unit :=
  match env.relayConnect with
  | .error e => .error (e.context ("failed to connect TCP to relay ".toList ++ relayAddr))
  | .ok () => env.relaySend

/-- Phases 3 and 4 of `connect_with_mode`, with the relay address of phase 2. -/
def meetAtRelay {α : Type} (env : ConnectEnv α) (log : ConnectLog) (relayAddr uuid : Text) :
    Except Error α × ConnectLog :=
  let log := { log with relayConnects := log.relayConnects ++ [⟨relayAddr, uuid⟩] }
  match relayConnectWithType env relayAddr with
  | .error e => (.error e, log)
  | .ok () => (env.handshake, log)

/-- `connect_with_mode` after the registration. -/
def coordinate {α : Type} (env : ConnectEnv α) (config : ConnectionConfig) (connType : ConnType) :
    Except Error α × ConnectLog :=
  match punchHoleViaTcp env.punch config.idServer config.peerId config.serverKey connType
      "6".toList with
  | (punched, _, received) =>
      match relayHint config punched with
      | .error e => (.error e, ⟨[], received, []⟩)
      | .ok (some relayAddr, peerRelayUuid) =>
          meetAtRelay env ⟨[], received, []⟩ relayAddr (peerRelayUuid.getD env.clientUuid)
      | .ok (none, peerRelayUuid) =>
          match requestRelayViaTcp env.relay config.idServer
              (relayRequest config env.clientUuid) with
          | (requested, requests, answered) =>
              match requestedRelay config requested with
              | .error e => (.error e, ⟨requests, received ++ answered, []⟩)
              | .ok relayAddr =>
                  meetAtRelay env ⟨requests, received ++ answered, []⟩ relayAddr
                    (peerRelayUuid.getD env.clientUuid)

/-- `connect_with_mode`. -/
def connectWithMode {α : Type} (env : ConnectEnv α) (config : ConnectionConfig)
    (connType : ConnType) : Except Error α × ConnectLog :=
  match env.client with
  | .error e =>
      (.error (e.context "failed to connect to rendezvous server".toList), ⟨[], [], []⟩)
  | .ok () =>
      match env.registerPeer with
      | .error e => (.error (e.context "RegisterPeer failed".toList), ⟨[], [], []⟩)
      | .ok requestPk =>
          match if requestPk then env.registerPk else .ok () with
          | .error e => (.error (e.context "RegisterPk failed".toList), ⟨[], [], []⟩)
          | .ok () => coordinate env config connType

/-! ## Whether the peer can know the UUID -/

/-- The peer can know the UUID: it came in a `RelayResponse`, or it was sent to hbbs in a
`RequestRelay`. -/
def ConnectLog.PeerKnows (log : ConnectLog) (uuid : Text) : Prop :=
  (∃ resp, .relayResponse resp ∈ log.received ∧ resp.uuid ≠ [] ∧ resp.uuid = uuid) ∨
    ∃ request ∈ log.requests, request.uuid = uuid

section Coordinate

variable {α : Type} (env : ConnectEnv α) (config : ConnectionConfig) (connType : ConnType)

/-- The first exchange with hbbs. -/
def ConnectEnv.punched : Except Error PunchRelayResponse :=
  (punchHoleViaTcp env.punch config.idServer config.peerId config.serverKey connType
    "6".toList).1

/-- What hbbs sent in the first exchange. -/
def ConnectEnv.punchReceived : List RendezvousUnion :=
  (punchHoleViaTcp env.punch config.idServer config.peerId config.serverKey connType
    "6".toList).2.2

/-- The second exchange with hbbs. -/
def ConnectEnv.requested :
    Option (Except Error RelayResponse) × List RequestRelay × List RendezvousUnion :=
  requestRelayViaTcp env.relay config.idServer (relayRequest config env.clientUuid)

/-- The UUIDs meet: the first exchange gave a UUID, or it gave no relay address and the
request for a relay reached hbbs. -/
def UuidShared : Prop :=
  match env.punched config connType with
  | .ok (.relay resp) => resp.uuid ≠ []
  | .ok (.punchHole resp) => resp.relayServer = [] ∧ env.relay.Delivers
  | .error _ => env.relay.Delivers

variable {env config connType}

theorem meetAtRelay_log (log : ConnectLog) (relayAddr uuid : Text) :
    (meetAtRelay env log relayAddr uuid).2 =
      { log with relayConnects := log.relayConnects ++ [⟨relayAddr, uuid⟩] } := by
  unfold meetAtRelay
  simp only
  split <;> rfl

/-- An attempt that comes to the relay comes there once, with the relay address of the first
exchange and no request, or without one and after the request. -/
theorem coordinate_call {call : RelayConnect}
    (h : call ∈ (coordinate env config connType).2.relayConnects) :
    (∃ relayAddr peerUuid,
        relayHint config (env.punched config connType) = .ok (some relayAddr, peerUuid) ∧
        (coordinate env config connType).2 = ⟨[], env.punchReceived config connType, [call]⟩ ∧
        call.uuid = peerUuid.getD env.clientUuid) ∨
      (∃ peerUuid, relayHint config (env.punched config connType) = .ok (none, peerUuid) ∧
        (coordinate env config connType).2 = ⟨(env.requested config).2.1,
          env.punchReceived config connType ++ (env.requested config).2.2, [call]⟩ ∧
        call.uuid = peerUuid.getD env.clientUuid) := by
  unfold coordinate at h ⊢
  simp only at h ⊢
  split at h <;> rename_i hhint
  · cases h
  · rename_i relayAddr peerUuid
    rw [meetAtRelay_log] at h
    obtain rfl := List.mem_singleton.mp h
    exact .inl ⟨relayAddr, peerUuid, hhint, meetAtRelay_log _ _ _, rfl⟩
  · rename_i peerUuid
    split at h <;> rename_i hrelay
    · cases h
    · rename_i relayAddr
      rw [meetAtRelay_log] at h
      obtain rfl := List.mem_singleton.mp h
      exact .inr ⟨peerUuid, hhint, meetAtRelay_log _ _ _, rfl⟩

/-- A `RelayResponse` among what hbbs sent is the result of the first exchange. -/
theorem mem_punchReceived {resp : RelayResponse} :
    .relayResponse resp ∈ env.punchReceived config connType ↔
      env.punched config connType = .ok (.relay resp) :=
  punchHoleViaTcp_relay_iff _ _ _ _ _ _ _

/-- With the relay address of the first exchange, the peer knows the UUID when it came with
it. -/
theorem peerKnows_of_hint {relayAddr : Text} {peerUuid : Option Text} {calls : List RelayConnect}
    (hhint : relayHint config (env.punched config connType) = .ok (some relayAddr, peerUuid)) :
    (⟨[], env.punchReceived config connType, calls⟩ : ConnectLog).PeerKnows
        (peerUuid.getD env.clientUuid) ↔ UuidShared env config connType := by
  unfold UuidShared ConnectLog.PeerKnows
  simp only [mem_punchReceived, List.not_mem_nil, false_and, exists_false, or_false]
  cases hpunched : env.punched config connType with
  | error e =>
      rw [hpunched] at hhint
      cases hhint
  | ok punched =>
      rw [hpunched] at hhint
      unfold relayHint at hhint
      cases punched with
      | punchHole resp =>
          simp only at hhint
          split at hhint
          · cases hhint
          · split at hhint
            · rename_i hserver
              simp [hserver]
            · cases hhint
      | relay resp =>
          simp only at hhint
          split at hhint
          · cases hhint
          · have huuid : peerUuid = if resp.uuid ≠ [] then some resp.uuid else none := by
              split at hhint <;> exact (Prod.mk.inj (Except.ok.inj hhint)).2.symm
            constructor
            · rintro ⟨other, hother, hne, _⟩
              obtain rfl := PunchRelayResponse.relay.inj (Except.ok.inj hother)
              exact hne
            · intro hne
              rw [if_pos hne] at huuid
              exact ⟨resp, rfl, hne, by rw [huuid]; rfl⟩

/-- Without a relay address there was no `RelayResponse`, and no UUID. -/
theorem relayHint_none {punched : Except Error PunchRelayResponse} {peerUuid : Option Text}
    (h : relayHint config punched = .ok (none, peerUuid)) :
    peerUuid = none ∧ (∀ resp, punched ≠ .ok (.relay resp)) ∧
      ∀ resp, punched = .ok (.punchHole resp) → resp.relayServer = [] := by
  unfold relayHint at h
  split at h
  · rename_i resp
    split at h
    · cases h
    · split at h
      · cases h
      · rename_i hserver
        refine ⟨(Prod.mk.inj (Except.ok.inj h)).2.symm, by simp, ?_⟩
        intro other hother
        obtain rfl := PunchRelayResponse.punchHole.inj (Except.ok.inj hother)
        simpa using hserver
  · split at h
    · cases h
    · simp only at h
      split at h <;> cases (Prod.mk.inj (Except.ok.inj h)).1
  · exact ⟨(Prod.mk.inj (Except.ok.inj h)).2.symm, by simp, by simp⟩

/-- Without one, the peer knows the UUID of the client when the request reached hbbs. -/
theorem peerKnows_of_request {peerUuid : Option Text} {calls : List RelayConnect}
    (hhint : relayHint config (env.punched config connType) = .ok (none, peerUuid)) :
    (⟨(env.requested config).2.1, env.punchReceived config connType ++ (env.requested config).2.2,
          calls⟩ : ConnectLog).PeerKnows (peerUuid.getD env.clientUuid) ↔
      UuidShared env config connType := by
  obtain ⟨rfl, hrelay, hserver⟩ := relayHint_none hhint
  have hshared : UuidShared env config connType ↔ env.relay.Delivers := by
    unfold UuidShared
    split
    · rename_i resp hpunched
      exact absurd hpunched (hrelay resp)
    · rename_i resp hpunched
      exact and_iff_right (hserver resp hpunched)
    · exact Iff.rfl
  rw [hshared]
  unfold ConnectLog.PeerKnows
  rcases requestRelayViaTcp_sent env.relay config.idServer (relayRequest config env.clientUuid) with
    ⟨hsent, hrequests⟩ | ⟨hunsent, hnothing⟩
  · refine ⟨fun _ => hsent, fun _ => .inr ⟨relayRequest config env.clientUuid, ?_, rfl⟩⟩
    unfold ConnectEnv.requested
    rw [hrequests]
    exact List.mem_cons_self
  · refine ⟨?_, fun hsent => absurd hsent hunsent⟩
    unfold ConnectEnv.requested
    rw [hnothing]
    rintro (⟨resp, hmem, _⟩ | ⟨request, hmem, _⟩)
    · rw [List.append_nil] at hmem
      exact absurd (mem_punchReceived.mp hmem) (hrelay resp)
    · cases hmem

end Coordinate

/-- Whenever an attempt to connect comes to the relay, the peer can know the UUID it binds
there exactly if the first exchange with hbbs gave a UUID, or gave no relay address and the
request for a relay reached hbbs. -/
theorem relay_uuid_known_iff {α : Type} (env : ConnectEnv α) (config : ConnectionConfig)
    (connType : ConnType) (call : RelayConnect)
    (h : call ∈ (connectWithMode env config connType).2.relayConnects) :
    (connectWithMode env config connType).2.PeerKnows call.uuid ↔
      UuidShared env config connType := by
  have hcoordinate : connectWithMode env config connType = coordinate env config connType := by
    unfold connectWithMode at h ⊢
    split
    · rename_i hclient
      rw [hclient] at h
      cases h
    · rename_i hclient
      rw [hclient] at h
      split
      · rename_i hregister
        simp only [hregister] at h
        cases h
      · rename_i hregister
        simp only [hregister] at h
        split
        · rename_i hpk
          rw [hpk] at h
          cases h
        · rfl
  rw [hcoordinate] at h ⊢
  rcases coordinate_call h with ⟨relayAddr, peerUuid, hhint, hlog, huuid⟩ |
    ⟨peerUuid, hhint, hlog, huuid⟩
  · rw [hlog, huuid]
    exact peerKnows_of_hint hhint
  · rw [hlog, huuid]
    exact peerKnows_of_request hhint

/-- An attempt that meets `waits` in its first exchange with hbbs, and no trouble elsewhere. -/
def sampleConnectEnv (waits : List PunchWait) : ConnectEnv Unit where
  client := .ok ()
  registerPeer := .ok false
  registerPk := .ok ()
  uuidBytes := .replicate 16 0x2a
  punch := ⟨.ok 40000, .ok (), .ok (), waits, fun _ => .ok (), .ok ()⟩
  relay := ⟨some (.ok ()), some (.ok ()), none, fun _ => []⟩
  relayConnect := .ok ()
  relaySend := .ok ()
  handshake := .ok ()

/-- The UUID of the sample attempts. -/
def sampleUuid : Text := "2a2a2a2a2a2a2a2a2a2a2a2a2a2a2a2a".toList

/-- The configuration of the sample attempts. -/
def sampleConnectionConfig : ConnectionConfig :=
  ⟨"hbbs:21116".toList, "hbbr".toList, "key".toList, "123".toList⟩

/-- When hbbs is silent, the client's own UUID is sent to it. -/
theorem relay_uuid_known_iff_silent :
    (connectWithMode (sampleConnectEnv []) sampleConnectionConfig .defaultConn).2.PeerKnows
        sampleUuid ↔ UuidShared (sampleConnectEnv []) sampleConnectionConfig .defaultConn :=
  relay_uuid_known_iff (sampleConnectEnv []) sampleConnectionConfig .defaultConn
    ⟨"hbbr:21117".toList, sampleUuid⟩ (by decide)

/-- hbbs names a relay in a `PunchHoleResponse`: the client goes there with a UUID that nobody
was told. -/
theorem punch_hole_relay_binds_unknown_uuid :
    (connectWithMode (sampleConnectEnv [.message (.punchHoleResponse ⟨[], 0, "hbbr".toList, []⟩)])
        sampleConnectionConfig .defaultConn).2 =
      ⟨[], [.punchHoleResponse ⟨[], 0, "hbbr".toList, []⟩],
        [⟨"hbbr:21117".toList, sampleUuid⟩]⟩ ∧
    ¬ (connectWithMode
        (sampleConnectEnv [.message (.punchHoleResponse ⟨[], 0, "hbbr".toList, []⟩)])
        sampleConnectionConfig .defaultConn).2.PeerKnows sampleUuid := by
  have hlog : (connectWithMode
      (sampleConnectEnv [.message (.punchHoleResponse ⟨[], 0, "hbbr".toList, []⟩)])
      sampleConnectionConfig .defaultConn).2 =
        ⟨[], [.punchHoleResponse ⟨[], 0, "hbbr".toList, []⟩],
          [⟨"hbbr:21117".toList, sampleUuid⟩]⟩ := by decide
  refine ⟨hlog, ?_⟩
  rw [hlog]
  rintro (⟨resp, hmem, _⟩ | ⟨request, hmem, _⟩)
  · simp at hmem
  · cases hmem

end RustdeskCli.Connection
