import RustdeskCli.Connection.KeyExchange
import RustdeskCli.Daemon.Stream
import RustdeskCli.Foundation.Insertion
set_option autoImplicit false

/-!
# Connection: the handshake with the peer (`src/connection.rs`)

After the relay has joined the two connections, the peer sends a `SignedId` with its
Curve25519 key, the client answers with a `PublicKey`, and from then on both sides
encrypt.  The peer sends a `Hash` with a salt and a challenge, the client logs in with
the password hashed twice, and the peer answers with a `LoginResponse`, possibly after
some `TestDelay`s.

What the peer and the network do comes as arguments, and so do the random bytes and the
third-party code.  A heartbeat is a frame without payload; it decodes to a message
without a union.
-/

namespace RustdeskCli.Connection

open RustdeskCli.Foundation
open RustdeskCli.Session
open RustdeskCli.Exec
open RustdeskCli.Daemon

/-! ## Messages -/

/-- `Hash`. -/
structure Hash where
  salt : Text
  challenge : Text
  deriving DecidableEq, Repr

/-- `IdPk`. -/
structure IdPk where
  id : Text
  pk : Bytes
  deriving DecidableEq, Repr

/-- `PeerInfo`, with the fields the program reads. -/
structure PeerInfo where
  username : Text
  hostname : Text
  displays : List DisplayInfo
  deriving DecidableEq, Repr

/-- `login_response::Union`. -/
inductive LoginResponse where
  | error (error : Text)
  | peerInfo (info : PeerInfo)
  deriving DecidableEq, Repr

/-- `message::Union` of a message received during the handshake; the kinds it does not look
at are only shown in an error. -/
inductive PeerUnion where
  | signedId (id : Bytes)
  | hash (hash : Hash)
  | loginResponse (union : Option LoginResponse)
  | peerInfo (info : PeerInfo)
  | testDelay (td : TestDelay)
  | other (name : Text)
  deriving DecidableEq, Repr

/-- `LoginRequest`. -/
structure LoginRequest where
  username : Text
  password : Bytes
  myId : Text
  myName : Text
  option : Option OptionMessage
  videoAckRequired : Bool
  sessionId : UInt64
  version : Text
  myPlatform : Text
  hwid : Bytes
  avatar : Text
  union : Option LoginUnion
  deriving DecidableEq, Repr

/-- What the handshake sends. -/
inductive HandshakeMessage where
  | publicKey (asymmetricValue symmetricValue : Bytes)
  | loginRequest (request : LoginRequest)
  deriving DecidableEq, Repr

/-- `build_login_option_message`.  A message for a terminal leaves `supported_decoding` out. -/
def buildLoginOptionMessage : ConnType → Option OptionMessage
  | .terminal => some ⟨0, 0, 0, 0, 0, 2, 0⟩
  | .fileTransfer => none
  | .defaultConn => some ⟨4, 0, 2, 2, 2, 2, 1⟩

/-! ## Waiting -/

/-- How one wait for a message of the peer ends. -/
inductive PeerWait where
  | elapsed
  | failed (e : Error)
  | undecodable (e : Error)
  | message (union : Option PeerUnion)
  deriving DecidableEq, Repr

/-- A frame of length zero. -/
def PeerWait.heartbeat : PeerWait := .message none

/-- The wait under its timeout and the decoding after it, with the texts of their errors. -/
def PeerWait.decode (timedOut waiting decoding : Text) : PeerWait → Except Error (Option PeerUnion)
  | .elapsed => .error (.msg timedOut)
  | .failed e => .error (e.context waiting)
  | .undecodable e => .error (e.context decoding)
  | .message union => .ok union

/-- The handshake as it is called, and what it meets: `SHA256`, `key_exchange_curve25519`,
`IdPk::decode` and the `Debug` of a message; the two sends; the random session id and the
operating system. -/
structure HandshakeEnv where
  sha256 : Bytes → Bytes
  keyExchange : Bytes → Except Error KeyExchangeResult
  decodeIdPk : Bytes → Except Error IdPk
  debug : PeerUnion → Text
  sendPublicKey : Except Error Unit
  sendLogin : Except Error Unit
  sessionId : UInt64
  os : Text
  password : Text
  peerId : Text
  clientId : Text
  connType : ConnType
  loginUnion : Option LoginUnion

namespace HandshakeEnv

variable (env : HandshakeEnv)

/-- `{other:?}` of the union of a message. -/
def debugUnion : Option PeerUnion → Text
  | none => "None".toList
  | some union => "Some(".toList ++ env.debug union ++ ")".toList

/-- Steps 1 and 2: the peer's key, out of its `SignedId`.  The signature is not verified. -/
def peerBoxPk (wait : PeerWait) : Except Error Bytes :=
  match wait.decode "timed out waiting for SignedId from peer (30s)".toList
      "waiting for SignedId".toList "decode SignedId message".toList with
  | .error e => .error e
  | .ok (some (.signedId signed)) =>
      if signed.length ≤ 64 then
        .error (.msg ("SignedId too short (".toList ++ (toString signed.length).toList ++
          " bytes), expected >64".toList))
      else
        match env.decodeIdPk (signed.drop 64) with
        | .error e => .error (e.context "decode IdPk from SignedId".toList)
        | .ok idPk =>
            if idPk.pk.length = 32 then .ok idPk.pk
            else
              .error (.msg ("peer Curve25519 pk is ".toList ++
                (toString idPk.pk.length).toList ++ " bytes, expected 32".toList))
  | .ok other => .error (.msg ("expected SignedId, got ".toList ++ env.debugUnion other))

/-- Step 5: the wait for the `Hash`. -/
def recvHash (wait : PeerWait) : Except Error Hash :=
  match wait.decode "timed out waiting for Hash challenge from peer".toList
      "waiting for Hash".toList "decode Hash message".toList with
  | .error e => .error e
  | .ok (some (.hash hash)) => .ok hash
  | .ok other => .error (.msg ("expected Hash, got ".toList ++ env.debugUnion other))

/-- `password_hash`. -/
def passwordHash (password : Text) (salt challenge : Bytes) : Bytes :=
  env.sha256 (env.sha256 (textBytes password ++ salt) ++ challenge)

/-- Steps 6 and 7: the request. -/
def loginRequest (hash : Hash) : LoginRequest where
  username := env.peerId
  password := env.passwordHash env.password (textBytes hash.salt) (textBytes hash.challenge)
  myId := env.clientId
  myName := "rustdesk-cli".toList
  option := buildLoginOptionMessage env.connType
  videoAckRequired := false
  sessionId := env.sessionId
  version := "0.2.0".toList
  myPlatform := if env.os = "macos".toList then "macOS".toList else env.os
  hwid := []
  avatar := []
  union := env.loginUnion

/-- One round of the loop of step 8; `none` when it goes on. -/
def loginRound (wait : PeerWait) : Option (Except Error PeerInfo) :=
  match wait.decode "timed out waiting for LoginResponse from peer".toList
      "waiting for LoginResponse".toList "decode LoginResponse".toList with
  | .error e => some (.error e)
  | .ok (some (.loginResponse (some (.peerInfo info)))) => some (.ok info)
  | .ok (some (.loginResponse (some (.error e)))) =>
      some (.error (.msg ("login rejected: ".toList ++ e)))
  | .ok (some (.loginResponse none)) =>
      some (.error (.msg "LoginResponse has no union field".toList))
  | .ok (some (.peerInfo info)) => some (.ok info)
  | .ok (some (.testDelay _)) => none
  | .ok other =>
      some (.error (.msg ("expected LoginResponse, got ".toList ++ env.debugUnion other)))

/-- Step 8: the loop.  When there is nothing more to come its time runs out. -/
def recvLoginResponse : List PeerWait → Except Error PeerInfo
  | [] => .error (.msg "timed out waiting for LoginResponse from peer".toList)
  | wait :: waits =>
      match env.loginRound wait with
      | none => recvLoginResponse waits
      | some result => result

/-- Steps 5 to 8, on the encrypted stream: the result, and what has been sent. -/
def authenticate (waits : List PeerWait) : Except Error PeerInfo × List HandshakeMessage :=
  match env.recvHash (waits.head?.getD .elapsed) with
  | .error e => (.error e, [])
  | .ok hash =>
      let sent := [HandshakeMessage.loginRequest (env.loginRequest hash)]
      match env.sendLogin with
      | .error e => (.error e, sent)
      | .ok () => (env.recvLoginResponse waits.tail, sent)

/-- `handshake_and_auth`, from the wait for the `SignedId` on; `waits` are those on the
encrypted stream. -/
def handshakeAndAuth (signedId : PeerWait) (waits : List PeerWait) :
    Except Error PeerInfo × List HandshakeMessage :=
  match env.peerBoxPk signedId with
  | .error e => (.error e, [])
  | .ok pk =>
      match env.keyExchange pk with
      | .error e =>
          (.error (e.context "NaCl key exchange with peer's Curve25519 pk failed".toList), [])
      | .ok keys =>
          let sent := [HandshakeMessage.publicKey keys.ephemeralPk keys.sealedKey]
          match env.sendPublicKey with
          | .error e => (.error e, sent)
          | .ok () =>
              match env.authenticate waits with
              | (result, sentEncrypted) => (result, sent ++ sentEncrypted)

/-! ## Heartbeats

The Hash wait takes the first frame for the `Hash`, and the loop after it skips nothing but
`TestDelay`s: a heartbeat that is read there ends the handshake. -/

/-- A wait that ended with a `TestDelay`. -/
def isTestDelay : PeerWait → Bool
  | .message (some (.testDelay _)) => true
  | _ => false

/-- The loop of step 8 ends with everything but a `TestDelay`. -/
theorem loginRound_isSome (wait : PeerWait) :
    (env.loginRound wait).isSome = !isTestDelay wait := by
  rcases wait with _ | e | e | _ | (_ | _ | (_ | _ | _) | _ | _ | _) <;> rfl

theorem msg_ne_context (message text : Text) (e : Error) : Error.msg message ≠ e.context text := by
  intro h
  cases congrArg Error.causes h

theorem debugUnion_eq_none_iff (union : Option PeerUnion) :
    env.debugUnion union = env.debugUnion none ↔ union = none := by
  refine ⟨fun h => ?_, fun h => by rw [h]⟩
  cases union with
  | none => rfl
  | some union =>
      have hhead : some 'S' = some 'N' := congrArg List.head? h
      cases hhead

/-- Nothing but a message without a union ends the Hash wait as a heartbeat does. -/
theorem recvHash_eq_heartbeat_iff (wait : PeerWait) :
    env.recvHash wait = env.recvHash .heartbeat ↔ wait = .heartbeat := by
  refine ⟨fun h => ?_, fun h => by rw [h]⟩
  have hother : ∀ union, env.recvHash (.message union) =
        .error (.msg ("expected Hash, got ".toList ++ env.debugUnion union)) →
      env.recvHash (.message union) = env.recvHash .heartbeat → union = none := by
    intro union hunion h
    rw [hunion] at h
    have htext := congrArg Error.message (Except.error.inj h)
    exact (env.debugUnion_eq_none_iff union).mp (List.append_cancel_left htext)
  rcases wait with _ | e | e | union
  · have hhead : some 't' = some 'e' :=
      congrArg (fun e => e.message.head?) (Except.error.inj h)
    cases hhead
  · exact absurd (Except.error.inj h).symm (msg_ne_context _ _ e)
  · exact absurd (Except.error.inj h).symm (msg_ne_context _ _ e)
  · rcases union with _ | (_ | _ | _ | _ | _ | _)
    · rfl
    · cases hother _ rfl h
    · cases h
    all_goals cases hother _ rfl h

/-- Nothing but a message without a union ends the loop as a heartbeat does. -/
theorem loginRound_eq_heartbeat_iff (wait : PeerWait) :
    env.loginRound wait = env.loginRound .heartbeat ↔ wait = .heartbeat := by
  refine ⟨fun h => ?_, fun h => by rw [h]⟩
  have hhead : ∀ c rest, env.loginRound wait = some (.error (.msg (c :: rest))) → c = 'e' := by
    intro c rest hwait
    rw [hwait] at h
    have hmessage : some c = some 'e' :=
      congrArg (fun e => e.message.head?) (Except.error.inj (Option.some.inj h))
    exact Option.some.inj hmessage
  have hother : ∀ union, env.loginRound (.message union) =
        some (.error (.msg ("expected LoginResponse, got ".toList ++ env.debugUnion union))) →
      env.loginRound (.message union) = env.loginRound .heartbeat → union = none := by
    intro union hunion h
    rw [hunion] at h
    have htext := congrArg Error.message (Except.error.inj (Option.some.inj h))
    exact (env.debugUnion_eq_none_iff union).mp (List.append_cancel_left htext)
  rcases wait with _ | e | e | union
  · cases hhead 't' _ rfl
  · exact absurd (Except.error.inj (Option.some.inj h)).symm (msg_ne_context _ _ e)
  · exact absurd (Except.error.inj (Option.some.inj h)).symm (msg_ne_context _ _ e)
  · rcases union with _ | (_ | _ | (_ | _ | _) | _ | _ | _)
    · rfl
    · cases hother _ rfl h
    · cases hother _ rfl h
    · cases hhead 'L' _ rfl
    · cases hhead 'l' _ rfl
    · cases h
    · cases h
    · cases h
    · cases hother _ rfl h

/-- The loop of step 8 as a loop that reads until something ends it. -/
theorem recvLoginResponse_eq_reading (waits : List PeerWait) :
    some (env.recvLoginResponse waits) =
      reading (fun wait => !isTestDelay wait) (fun (_ : Unit) _ => ())
        (fun _ wait => env.loginRound wait) (fun _ => env.loginRound .elapsed) waits () := by
  induction waits with
  | nil => rfl
  | cons wait waits ih =>
      rw [recvLoginResponse, reading, ← env.loginRound_isSome wait]
      cases hround : env.loginRound wait with
      | none => exact ih
      | some result => rfl

/-- Heartbeats change nothing for the loop of step 8 exactly when what ends it is the
same wait. -/
theorem recvLoginResponse_inserted_iff {waits waits' : List PeerWait}
    (h : Inserted (· = PeerWait.heartbeat) waits waits') :
    env.recvLoginResponse waits' = env.recvLoginResponse waits ↔
      waits'.find? (fun wait => !isTestDelay wait) =
        waits.find? (fun wait => !isTestDelay wait) := by
  have hiff := Inserted.reading_eq_iff (fun wait => !isTestDelay wait) (fun (_ : Unit) _ => ())
    (fun _ wait => env.loginRound wait) (fun _ => env.loginRound .elapsed) rfl (fun _ => rfl)
    (fun _ wait _ hne heq => hne ((env.loginRound_eq_heartbeat_iff wait).mp heq))
    (fun _ heq => by cases (env.loginRound_eq_heartbeat_iff .elapsed).mp heq) h ()
  rw [← env.recvLoginResponse_eq_reading, ← env.recvLoginResponse_eq_reading] at hiff
  exact ⟨fun heq => hiff.mp (congrArg some heq), fun hfind => Option.some.inj (hiff.mpr hfind)⟩

/-- No inserted heartbeat is read: the first wait ends alike, and if that was a `Hash` which
the client has answered, so does the first of the others that is not a `TestDelay`. -/
def Undisturbed (waits waits' : List PeerWait) : Prop :=
  waits'.head? = waits.head? ∧
    ((∃ hash, waits.head? = some (.message (some (.hash hash)))) → env.sendLogin = .ok () →
      waits'.tail.find? (fun wait => !isTestDelay wait) =
        waits.tail.find? (fun wait => !isTestDelay wait))

theorem recvHash_ok {wait : PeerWait} {hash : Hash} (h : env.recvHash wait = .ok hash) :
    wait = .message (some (.hash hash)) := by
  rcases wait with _ | e | e | _ | (_ | _ | _ | _ | _ | _) <;> cases h
  rfl

/-- A heartbeat in the place of the `Hash`. -/
theorem authenticate_heartbeat {waits : List PeerWait} (h : waits.head? = some .heartbeat) :
    env.authenticate waits =
      (.error (.msg ("expected Hash, got ".toList ++ env.debugUnion none)), []) := by
  unfold authenticate
  rw [h]
  rfl

/-- No other first frame ends the handshake in that way. -/
theorem head?_of_authenticate_heartbeat {waits : List PeerWait}
    (h : env.authenticate waits =
      (.error (.msg ("expected Hash, got ".toList ++ env.debugUnion none)), [])) :
    waits.head? = some .heartbeat := by
  have hhash : env.recvHash (waits.head?.getD .elapsed) = env.recvHash .heartbeat := by
    unfold authenticate at h
    split at h
    · rename_i e he
      exact he.trans (congrArg Except.error (Except.error.inj (congrArg Prod.fst h)))
    · simp only at h
      split at h <;> cases congrArg Prod.snd h
  have hfirst := (env.recvHash_eq_heartbeat_iff _).mp hhash
  cases hw : waits.head? with
  | none => rw [hw] at hfirst; cases hfirst
  | some wait => rw [hw] at hfirst; exact congrArg some hfirst

/-- With the same first frame, the heartbeats after it matter to the loop of step 8. -/
theorem authenticate_of_head?_eq {waits waits' : List PeerWait} (hhead : waits'.head? = waits.head?)
    (htail : Inserted (· = PeerWait.heartbeat) waits.tail waits'.tail) :
    env.authenticate waits' = env.authenticate waits ↔ env.Undisturbed waits waits' := by
  unfold authenticate Undisturbed
  rw [hhead]
  cases hhash : env.recvHash (waits.head?.getD .elapsed) with
  | error e =>
      refine ⟨fun _ => ⟨rfl, ?_⟩, fun _ => rfl⟩
      rintro ⟨hash, hfirst⟩
      rw [hfirst] at hhash
      cases hhash
  | ok hash =>
      have hfirst : waits.head? = some (.message (some (.hash hash))) := by
        have hwait := env.recvHash_ok hhash
        cases hw : waits.head? with
        | none => rw [hw] at hwait; cases hwait
        | some wait => rw [hw] at hwait; exact congrArg some hwait
      cases hsend : env.sendLogin with
      | error e => exact ⟨fun _ => ⟨rfl, fun _ hok => by cases hok⟩, fun _ => rfl⟩
      | ok u =>
          have hiff := env.recvLoginResponse_inserted_iff htail
          refine ⟨fun heq => ⟨rfl, fun _ _ => hiff.mp (congrArg Prod.fst heq)⟩, fun hund => ?_⟩
          have heq := hiff.mpr (hund.2 ⟨hash, hfirst⟩ rfl)
          simp only [heq]

/-- Heartbeats on the encrypted stream change nothing for the handshake exactly when it does
not read them. -/
theorem authenticate_inserted_iff {waits waits' : List PeerWait}
    (h : Inserted (· = PeerWait.heartbeat) waits waits') :
    env.authenticate waits' = env.authenticate waits ↔ env.Undisturbed waits waits' := by
  rcases h.head?_eq_or with ⟨hhead, htail⟩ | ⟨_, rfl, hbeat⟩
  · exact env.authenticate_of_head?_eq hhead htail
  · have hleft := env.authenticate_heartbeat hbeat
    constructor
    · intro heq
      have hfirst := env.head?_of_authenticate_heartbeat (heq.symm.trans hleft)
      refine ⟨hbeat.trans hfirst.symm, ?_⟩
      rintro ⟨hash, hhash⟩
      rw [hfirst] at hhash
      cases hhash
    · intro hund
      exact hleft.trans (env.authenticate_heartbeat (hund.1.symm.trans hbeat)).symm

/-- The handshake gets as far as the encrypted stream. -/
def Secured (signedId : PeerWait) : Prop :=
  ∃ pk keys, env.peerBoxPk signedId = .ok pk ∧ env.keyExchange pk = .ok keys ∧
    env.sendPublicKey = .ok ()

/-- Before the encrypted stream nothing depends on what comes on it. -/
theorem handshakeAndAuth_of_not_secured {signedId : PeerWait} (h : ¬env.Secured signedId)
    (waits waits' : List PeerWait) :
    env.handshakeAndAuth signedId waits' = env.handshakeAndAuth signedId waits := by
  unfold handshakeAndAuth
  cases hpk : env.peerBoxPk signedId with
  | error e => rfl
  | ok pk =>
      dsimp only
      cases hkeys : env.keyExchange pk with
      | error e => rfl
      | ok keys =>
          dsimp only
          cases hsend : env.sendPublicKey with
          | error e => rfl
          | ok u => exact absurd ⟨pk, keys, hpk, hkeys, hsend⟩ h

/-- Once it is there, the rest of the handshake is what is left. -/
theorem handshakeAndAuth_of_secured {signedId : PeerWait} (h : env.Secured signedId) :
    ∃ sent, ∀ waits, env.handshakeAndAuth signedId waits =
      ((env.authenticate waits).1, sent ++ (env.authenticate waits).2) := by
  obtain ⟨pk, keys, hpk, hkeys, hsend⟩ := h
  refine ⟨[.publicKey keys.ephemeralPk keys.sealedKey], fun waits => ?_⟩
  unfold handshakeAndAuth
  rw [hpk]
  dsimp only
  rw [hkeys, hsend]

/-- Heartbeats on the encrypted stream change nothing for `handshake_and_auth` exactly when it
does not get there or does not read them. -/
theorem handshakeAndAuth_inserted_iff (signedId : PeerWait) {waits waits' : List PeerWait}
    (h : Inserted (· = PeerWait.heartbeat) waits waits') :
    env.handshakeAndAuth signedId waits' = env.handshakeAndAuth signedId waits ↔
      (env.Secured signedId → env.Undisturbed waits waits') := by
  have hiff := env.authenticate_inserted_iff h
  by_cases hsecured : env.Secured signedId
  · obtain ⟨sent, hrest⟩ := env.handshakeAndAuth_of_secured hsecured
    rw [hrest waits', hrest waits]
    constructor
    · intro heq _
      obtain ⟨hresult, hsent⟩ := Prod.mk.inj heq
      exact hiff.mp (Prod.ext hresult (List.append_cancel_left hsent))
    · intro hund
      rw [hiff.mpr (hund hsecured)]
  · exact iff_of_true (env.handshakeAndAuth_of_not_secured hsecured waits waits')
      fun h => absurd h hsecured

end HandshakeEnv

/-! ## A login -/

/-- `SHA256` on the empty password with the empty salt and challenge. -/
def sampleSha256 (data : Bytes) : Bytes :=
  if data = [] then
    [227, 176, 196, 66, 152, 252, 28, 20, 154, 251, 244, 200, 153, 111, 185, 36, 39, 174, 65,
      228, 100, 155, 147, 76, 164, 149, 153, 27, 120, 82, 184, 85]
  else
    [93, 246, 224, 226, 118, 19, 89, 211, 10, 130, 117, 5, 142, 41, 159, 204, 3, 129, 83, 69,
      69, 245, 92, 244, 62, 65, 152, 63, 93, 76, 148, 86]

/-- A Curve25519 key of the peer. -/
def samplePeerPk : Bytes :=
  [164, 224, 146, 146, 182, 81, 194, 120, 185, 119, 44, 86, 159, 95, 169, 187, 19, 217, 6, 180,
    106, 182, 140, 157, 249, 220, 43, 68, 9, 248, 162, 9]

/-- The encoded `IdPk` with it. -/
def sampleIdPk : Bytes := [10, 3, 49, 50, 51, 18, 32] ++ samplePeerPk

/-- What `key_exchange_curve25519` makes of it with the ephemeral secret key of 32 bytes 2 and
the session key of 32 bytes 3. -/
def sampleExchange : KeyExchangeResult where
  ephemeralPk :=
    [206, 141, 58, 209, 204, 182, 51, 236, 123, 112, 193, 120, 20, 165, 199, 110, 205, 2, 150,
      133, 5, 13, 52, 71, 69, 186, 5, 135, 14, 88, 125, 89]
  sealedKey :=
    [91, 122, 148, 114, 63, 227, 3, 65, 94, 64, 65, 84, 128, 9, 241, 87, 140, 18, 218, 203, 21,
      145, 17, 169, 202, 181, 38, 74, 254, 41, 23, 2, 4, 234, 0, 91, 220, 191, 8, 175, 77, 160,
      29, 66, 245, 146, 121, 145]
  sessionKey := List.replicate 32 3

/-- A login with the empty password, in the default mode. -/
def sampleHandshake : HandshakeEnv where
  sha256 := sampleSha256
  keyExchange _ := .ok sampleExchange
  decodeIdPk data :=
    if data = sampleIdPk then .ok ⟨"123".toList, samplePeerPk⟩
    else .error (.msg "failed to decode Protobuf message".toList)
  debug _ := "TestDelay".toList
  sendPublicKey := .ok ()
  sendLogin := .ok ()
  sessionId := 7
  os := "linux".toList
  password := []
  peerId := "123".toList
  clientId := "456".toList
  connType := .defaultConn
  loginUnion := none

/-- The first frame of the peer, with a signature that nothing looks at. -/
def sampleSignedId : PeerWait := .message (some (.signedId (List.replicate 64 0 ++ sampleIdPk)))

theorem sampleSignedId_secured : sampleHandshake.Secured sampleSignedId :=
  ⟨samplePeerPk, sampleExchange, by decide, rfl, rfl⟩

/-- The frames after it of a peer that accepts the login. -/
def samplePeer : List PeerWait :=
  [.message (some (.hash ⟨[], []⟩)),
    .message (some (.loginResponse (some (.peerInfo ⟨"user".toList, "host".toList, []⟩))))]

theorem samplePeer_accepts :
    (sampleHandshake.handshakeAndAuth sampleSignedId samplePeer).1 =
      .ok ⟨"user".toList, "host".toList, []⟩ := by
  obtain ⟨sent, hrest⟩ := sampleHandshake.handshakeAndAuth_of_secured sampleSignedId_secured
  rw [hrest]
  rfl

end RustdeskCli.Connection
