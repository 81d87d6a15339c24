import RustdeskCli.Connection.Handshake
import RustdeskCli.Crypto.RefusedSends
set_option autoImplicit false

/-!
# Connection: the login over bytes (`src/crypto.rs`, `src/connection.rs`)

`handshake_and_auth` reads its first message in clear, makes an `EncryptedStream` out of its
transport and goes on with that, and hands the stream over to the session.  Here it runs on
the bytes of the peer, with the key exchange of `key_exchange_with_box_pk`, and it is
compared with the handshake on messages.

The peer is not part of the program.  What is said about it is what the program needs: it
opens the sealed key, and what it sends from then on goes through a stream with that key.
-/

namespace RustdeskCli.Connection

open RustdeskCli.Foundation
open RustdeskCli.Session
open RustdeskCli.Transport
open RustdeskCli.Crypto

/-! ## Accepted transcripts -/

namespace HandshakeEnv

variable (env : HandshakeEnv)

/-- The messages that end a login with success. -/
def Accepts (info : PeerInfo) (wait : PeerWait) : Prop :=
  wait = .message (some (.loginResponse (some (.peerInfo info)))) ∨
    wait = .message (some (.peerInfo info))

theorem loginRound_ok_iff (wait : PeerWait) (info : PeerInfo) :
    env.loginRound wait = some (.ok info) ↔ Accepts info wait := by
  unfold Accepts
  rcases wait with _ | e | e | _ | (id | hash | (_ | (e | info')) | info' | td | name) <;>
    simp [loginRound, PeerWait.decode]

/-- The loop of step 8 succeeds behind any number of `TestDelay`s. -/
theorem recvLoginResponse_ok_iff (waits : List PeerWait) (info : PeerInfo) :
    env.recvLoginResponse waits = .ok info ↔ ∃ delays answer rest,
      waits = delays ++ answer :: rest ∧ (∀ wait ∈ delays, isTestDelay wait = true) ∧
        Accepts info answer := by
  induction waits with
  | nil => simp [recvLoginResponse]
  | cons wait waits ih =>
      rw [recvLoginResponse]
      cases hround : env.loginRound wait with
      | none =>
          have hdelay : isTestDelay wait = true := by
            have hsome := env.loginRound_isSome wait
            rw [hround] at hsome
            simpa using hsome
          dsimp only
          rw [ih]
          constructor
          · rintro ⟨delays, answer, rest, rfl, hdelays, haccepts⟩
            exact ⟨wait :: delays, answer, rest, rfl,
              List.forall_mem_cons.mpr ⟨hdelay, hdelays⟩, haccepts⟩
          · rintro ⟨delays, answer, rest, heq, hdelays, haccepts⟩
            cases delays with
            | nil =>
                obtain ⟨rfl, rfl⟩ := List.cons.inj heq
                rw [(env.loginRound_ok_iff wait info).mpr haccepts] at hround
                cases hround
            | cons delay delays =>
                obtain ⟨rfl, rfl⟩ := List.cons.inj heq
                exact ⟨delays, answer, rest, rfl, (List.forall_mem_cons.mp hdelays).2, haccepts⟩
      | some result =>
          have hdelay : isTestDelay wait = false := by
            have hsome := env.loginRound_isSome wait
            rw [hround] at hsome
            simpa using hsome
          dsimp only
          constructor
          · rintro rfl
            exact ⟨[], wait, waits, rfl, by simp, (env.loginRound_ok_iff wait info).mp hround⟩
          · rintro ⟨delays, answer, rest, heq, hdelays, haccepts⟩
            cases delays with
            | nil =>
                obtain ⟨rfl, rfl⟩ := List.cons.inj heq
                rw [(env.loginRound_ok_iff wait info).mpr haccepts] at hround
                exact (Option.some.inj hround).symm
            | cons delay delays =>
                obtain ⟨rfl, rfl⟩ := List.cons.inj heq
                rw [(List.forall_mem_cons.mp hdelays).1] at hdelay
                cases hdelay

/-- The `Hash` wait succeeds with a `Hash` alone. -/
theorem recvHash_head_iff (waits : List PeerWait) (hash : Hash) :
    env.recvHash (waits.head?.getD .elapsed) = .ok hash ↔
      waits.head? = some (.message (some (.hash hash))) := by
  constructor
  · intro h
    have hwait := env.recvHash_ok h
    cases waits with
    | nil => cases hwait
    | cons wait waits => exact congrArg some hwait
  · intro h
    rw [h]
    rfl

/-- Steps 5 to 8 succeed with a `Hash`, `TestDelay`s and an answer. -/
theorem authenticate_ok_iff (waits : List PeerWait) (info : PeerInfo) :
    (env.authenticate waits).1 = .ok info ↔ env.sendLogin = .ok () ∧
      ∃ hash delays answer rest,
        waits = .message (some (.hash hash)) :: (delays ++ answer :: rest) ∧
          (∀ wait ∈ delays, isTestDelay wait = true) ∧ Accepts info answer := by
  rw [authenticate]
  cases hhash : env.recvHash (waits.head?.getD .elapsed) with
  | error e =>
      refine iff_of_false (by simp) ?_
      rintro ⟨-, hash, delays, answer, rest, rfl, -, -⟩
      cases hhash
  | ok hash =>
      rw [recvHash_head_iff] at hhash
      cases waits with
      | nil => cases hhash
      | cons first waits =>
          obtain rfl := Option.some.inj hhash
          cases env.sendLogin with
          | error e => simp
          | ok u =>
              simp only [List.tail_cons, recvLoginResponse_ok_iff, true_and]
              constructor
              · rintro ⟨delays, answer, rest, rfl, hdelays, haccepts⟩
                exact ⟨hash, delays, answer, rest, rfl, hdelays, haccepts⟩
              · rintro ⟨hash', delays, answer, rest, heq, hdelays, haccepts⟩
                exact ⟨delays, answer, rest, (List.cons.inj heq).2, hdelays, haccepts⟩

/-- A request is sent in answer to a `Hash` and to nothing else. -/
theorem loginRequest_mem_authenticate (waits : List PeerWait) (request : LoginRequest) :
    .loginRequest request ∈ (env.authenticate waits).2 ↔
      ∃ hash, waits.head? = some (.message (some (.hash hash))) ∧
        request = env.loginRequest hash := by
  rw [authenticate]
  cases hhash : env.recvHash (waits.head?.getD .elapsed) with
  | error e =>
      refine iff_of_false (by simp) ?_
      rintro ⟨hash, hhead, -⟩
      rw [(env.recvHash_head_iff waits hash).mpr hhead] at hhash
      cases hhash
  | ok hash =>
      have hhead := (env.recvHash_head_iff waits hash).mp hhash
      rw [hhead]
      cases env.sendLogin with
      | error e => simp
      | ok u => simp

theorem publicKey_not_mem_authenticate (waits : List PeerWait) (value sealedKey : Bytes) :
    .publicKey value sealedKey ∉ (env.authenticate waits).2 := by
  rw [authenticate]
  cases env.recvHash (waits.head?.getD .elapsed) with
  | error e => simp
  | ok hash =>
      cases env.sendLogin with
      | error e => simp
      | ok u => simp

/-- Which transcripts `handshake_and_auth` accepts, and what it gives away.  It succeeds exactly
when the peer's key has been exchanged, the first encrypted frame is a `Hash`, and behind
it and any number of `TestDelay`s there is an answer with a `PeerInfo`.  Only a key in clear
draws a public key, and only a `Hash` on the encrypted stream draws a request; with it the
password leaves hashed with the salt and the challenge of that `Hash`. -/
theorem login_transcripts (signedId : PeerWait) (waits : List PeerWait) :
    (∀ info, (env.handshakeAndAuth signedId waits).1 = .ok info ↔
      env.Secured signedId ∧ env.sendLogin = .ok () ∧ ∃ hash delays answer rest,
        waits = .message (some (.hash hash)) :: (delays ++ answer :: rest) ∧
          (∀ wait ∈ delays, isTestDelay wait = true) ∧ Accepts info answer) ∧
      (∀ value sealedKey, .publicKey value sealedKey ∈ (env.handshakeAndAuth signedId waits).2 ↔
        ∃ pk keys, env.peerBoxPk signedId = .ok pk ∧ env.keyExchange pk = .ok keys ∧
          value = keys.ephemeralPk ∧ sealedKey = keys.sealedKey) ∧
      ∀ request, .loginRequest request ∈ (env.handshakeAndAuth signedId waits).2 ↔
        env.Secured signedId ∧ ∃ hash, waits.head? = some (.message (some (.hash hash))) ∧
          request = env.loginRequest hash := by
  unfold handshakeAndAuth Secured
  cases hpk : env.peerBoxPk signedId with
  | error e => simp
  | ok pk =>
      dsimp only
      cases hkeys : env.keyExchange pk with
      | error e => simp [hkeys]
      | ok keys =>
          cases hsend : env.sendPublicKey with
          | error e => simp [hkeys]
          | ok u =>
              dsimp only
              have hsecured : ∃ pk' keys', (Except.ok pk : Except Error Bytes) = .ok pk' ∧
                  env.keyExchange pk' = .ok keys' ∧
                  (Except.ok u : Except Error Unit) = .ok () :=
                ⟨pk, keys, rfl, hkeys, rfl⟩
              refine ⟨fun info => ?_, fun value sealedKey => ?_, fun request => ?_⟩
              · rw [and_iff_right hsecured]
                exact env.authenticate_ok_iff waits info
              · simp [hkeys, publicKey_not_mem_authenticate]
              · rw [and_iff_right hsecured]
                simpa using env.loginRequest_mem_authenticate waits request

end HandshakeEnv

/-! ## Key exchange -/

/-- `crypto_box` as the program calls it: the public key of a secret key, the key that
`SalsaBox::new` makes of a public and a secret key, and the cipher of the box. -/
structure CryptoBox where
  publicKey : Bytes → Bytes
  sharedKey : (theirPk sk : Bytes) → Bytes
  salsa : SecretBox

/-- Both sides come to the same key, and what is sealed can be opened. -/
structure CryptoBox.Lawful (crypto : CryptoBox) : Prop where
  agrees : ∀ a b, crypto.sharedKey (crypto.publicKey a) b = crypto.sharedKey (crypto.publicKey b) a
  salsa : crypto.salsa.Lawful

/-- The nonce of the box. -/
def zeroNonce : Bytes := List.replicate 24 0

/-- `key_exchange_with_box_pk`, with the two random keys, which is `key_exchange_curve25519` on
the bytes of a public key. -/
def keyExchangeWithBoxPk (crypto : CryptoBox) (ephemeralSk sessionKey theirBoxPk : Bytes) :
    Except Error KeyExchangeResult :=
  match crypto.salsa.encrypt (crypto.sharedKey theirBoxPk ephemeralSk) zeroNonce sessionKey with
  | none => .error (.msg "Failed to seal session key: aead::Error".toList)
  | some sealedKey => .ok ⟨crypto.publicKey ephemeralSk, sealedKey, sessionKey⟩

/-- `key_exchange`: the same with an Ed25519 key, which `toMontgomery` converts. -/
def keyExchange (crypto : CryptoBox) (toMontgomery : Bytes → Except Error Bytes)
    (ephemeralSk sessionKey serverEd25519Pk : Bytes) : Except Error KeyExchangeResult :=
  match toMontgomery serverEd25519Pk with
  | .error e => .error (e.context "Invalid Ed25519 public key".toList)
  | .ok theirBoxPk => keyExchangeWithBoxPk crypto ephemeralSk sessionKey theirBoxPk

/-- What the owner of a secret key takes out of a sealed key. -/
def openSealedKey (crypto : CryptoBox) (sk ephemeralPk sealedKey : Bytes) : Option Bytes :=
  crypto.salsa.decrypt (crypto.sharedKey ephemeralPk sk) zeroNonce sealedKey

/-- The owner of the public key finds the session key in the box. -/
theorem openSealedKey_of_exchange {crypto : CryptoBox} (hcrypto : crypto.Lawful)
    {ephemeralSk sessionKey sk : Bytes} {keys : KeyExchangeResult}
    (h : keyExchangeWithBoxPk crypto ephemeralSk sessionKey (crypto.publicKey sk) = .ok keys) :
    openSealedKey crypto sk keys.ephemeralPk keys.sealedKey = some keys.sessionKey := by
  unfold keyExchangeWithBoxPk at h
  split at h
  · cases h
  · rename_i sealedKey hseal
    obtain rfl := Except.ok.inj h
    rw [hcrypto.agrees] at hseal
    exact hcrypto.salsa.opens hseal

/-! ## The handshake on bytes -/

/-- The handshake with what it needs to run on bytes: the cipher of the stream, `Message::decode`
and `Message::encode`, the text of a stream's error, and why a wait ends that finds no
complete frame: its time is up, or the connection is closed with an error. -/
structure LoginEnv extends HandshakeEnv where
  box : SecretBox
  decode : Bytes → Except Error (Option PeerUnion)
  encode : HandshakeMessage → Bytes
  streamError : StreamError → Error
  closed : Option Error

/-- The client's end: its stream, the bytes it has still to read, and those it has written. -/
structure ClientEnd where
  stream : EncryptedStream
  incoming : Bytes
  written : Bytes

namespace LoginEnv

variable (env : LoginEnv)

/-- How a wait ends that finds no complete frame. -/
def atEnd : PeerWait :=
  match env.closed with
  | some e => .failed e
  | none => .elapsed

/-- How a wait ends, and the decoding after it. -/
def waitOf : Except StreamError Bytes → PeerWait
  | .ok raw =>
      match env.decode raw with
      | .ok union => .message union
      | .error e => .undecodable e
  | .error (.transport .unexpectedEof) => env.atEnd
  | .error e => .failed (env.streamError e)

/-- A wait on the encrypted stream. -/
def recvWait (c : ClientEnd) : PeerWait × ClientEnd :=
  match c.stream.recv env.box c.incoming with
  | (result, stream, rest) => (env.waitOf result, { c with stream := stream, incoming := rest })

/-- Step 8, with fuel for as many rounds as there can be frames. -/
def recvLoginResponseOn : Nat → ClientEnd → Except Error (PeerInfo × ClientEnd)
  | 0, _ => .error (.msg "timed out waiting for LoginResponse from peer".toList)
  | fuel + 1, c =>
      match env.recvWait c with
      | (wait, c) =>
          match env.loginRound wait with
          | none => recvLoginResponseOn fuel c
          | some (.error e) => .error e
          | some (.ok info) => .ok (info, c)

/-- Steps 5 to 8. -/
def authenticateOn (c : ClientEnd) : Except Error (PeerInfo × ClientEnd) :=
  match env.recvWait c with
  | (wait, c) =>
      match env.recvHash wait with
      | .error e => .error e
      | .ok hash =>
          match c.stream.send env.box (env.encode (.loginRequest (env.loginRequest hash)))
              c.written with
          | (.error e, _, _) => .error (env.streamError e)
          | (.ok (), stream, written) =>
              match env.sendLogin with
              | .error e => .error e
              | .ok () =>
                  env.recvLoginResponseOn (c.incoming.length + 1)
                    { c with stream := stream, written := written }

/-- `handshake_and_auth` on the bytes that come behind the relay. -/
def handshakeAndAuthOn (incoming : Bytes) : Except Error (PeerInfo × ClientEnd) :=
  match FramedTransport.recv incoming with
  | (raw, rest) =>
      match env.peerBoxPk (env.waitOf (raw.mapError .transport)) with
      | .error e => .error e
      | .ok pk =>
          match env.keyExchange pk with
          | .error e =>
              .error (e.context "NaCl key exchange with peer's Curve25519 pk failed".toList)
          | .ok keys =>
              match FramedTransport.send
                  (env.encode (.publicKey keys.ephemeralPk keys.sealedKey)) [] with
              | (.error e, _) => .error (env.streamError (.transport e))
              | (.ok (), written) =>
                  match env.sendPublicKey with
                  | .error e => .error e
                  | .ok () => env.authenticateOn ⟨.new keys.sessionKey, rest, written⟩

/-! ## The waits of a stream -/

/-- The wait that ends with an item of the peer. -/
def itemWait (item : Item) : PeerWait := env.waitOf (.ok item.plaintext)

/-- The waits on a stream that carries the items and nothing else. -/
def waits (items : List Item) : List PeerWait := items.map env.itemWait ++ [env.atEnd]

/-- The client has gone from one state to another by reading some of the items, and the rest is
still to come. -/
def HasRead (key : Bytes) (last : UInt64) (items : List Item) (c c' : ClientEnd) : Prop :=
  ∃ read left, items = read ++ left ∧
    c'.stream = { c.stream with recvSeq := c.stream.recvSeq + UInt64.ofNat (messages read) } ∧
    c'.written = c.written ∧ Carries env.box key c'.stream.recvSeq left c'.incoming last

theorem loginRound_atEnd : ∃ e, env.loginRound env.atEnd = some (.error e) := by
  unfold atEnd
  cases env.closed with
  | none => exact ⟨_, rfl⟩
  | some e => exact ⟨_, rfl⟩

theorem recvHash_atEnd : ∃ e, env.recvHash env.atEnd = .error e := by
  unfold atEnd
  cases env.closed with
  | none => exact ⟨_, rfl⟩
  | some e => exact ⟨_, rfl⟩

/-- A wait with nothing left to read. -/
theorem recvWait_nil (c : ClientEnd) (hincoming : c.incoming = []) :
    (env.recvWait c).1 = env.atEnd := by
  have hrecv : c.stream.recv env.box [] = (.error (.transport .unexpectedEof), c.stream, []) := rfl
  unfold recvWait
  rw [hincoming, hrecv]
  rfl

section Carried

variable {env} {key : Bytes} {last : UInt64}

theorem bytes_of_carries_nil {box : SecretBox} {seq : UInt64} {bytes : Bytes}
    (h : Carries box key seq [] bytes last) : bytes = [] := by
  cases h
  rfl

/-- A wait takes the first item, and leaves the others. -/
theorem recvWait_cons (hbox : env.box.Lawful) {c : ClientEnd} (hkey : c.stream.sessionKey = key)
    {item : Item} {items : List Item}
    (h : Carries env.box key c.stream.recvSeq (item :: items) c.incoming last) :
    ∃ c', env.recvWait c = (env.itemWait item, c') ∧
      c'.stream = { c.stream with recvSeq := c.stream.recvSeq + UInt64.ofNat (messages [item]) } ∧
      c'.written = c.written ∧
      Carries env.box key c'.stream.recvSeq items c'.incoming last := by
  subst hkey
  obtain ⟨rest, hrecv, hrest⟩ := h.recv hbox
  refine ⟨⟨_, rest, c.written⟩, ?_, rfl, rfl, hrest⟩
  unfold recvWait
  rw [hrecv]
  rfl

theorem HasRead.nil {items : List Item} {c : ClientEnd}
    (h : Carries env.box key c.stream.recvSeq items c.incoming last) :
    env.HasRead key last items c c :=
  ⟨[], items, rfl, by simp, rfl, h⟩

/-- One item more at the front. -/
theorem HasRead.cons {item : Item} {items : List Item} {c c' c'' : ClientEnd}
    (hstream : c'.stream =
      { c.stream with recvSeq := c.stream.recvSeq + UInt64.ofNat (messages [item]) })
    (hwritten : c'.written = c.written) (h : env.HasRead key last items c' c'') :
    env.HasRead key last (item :: items) c c'' := by
  obtain ⟨read, left, rfl, hstream', hwritten', hleft⟩ := h
  refine ⟨item :: read, left, rfl, ?_, hwritten'.trans hwritten, hleft⟩
  have hmessages : messages (item :: read) = messages [item] + messages read :=
    messages_append [item] read
  rw [hstream', hstream, hmessages, UInt64.ofNat_add, ← add_assoc]

/-- The loop of step 8 on bytes is the loop on the waits, and what it has not read is left
for the session. -/
theorem recvLoginResponseOn_eq (hbox : env.box.Lawful) (items : List Item) :
    ∀ {fuel : Nat} {c : ClientEnd}, c.stream.sessionKey = key →
      Carries env.box key c.stream.recvSeq items c.incoming last → items.length < fuel →
      (env.recvLoginResponseOn fuel c).map Prod.fst = env.recvLoginResponse (env.waits items) ∧
        ∀ info c', env.recvLoginResponseOn fuel c = .ok (info, c') →
          env.HasRead key last items c c' := by
  induction items with
  | nil =>
      intro fuel c hkey hitems hfuel
      obtain ⟨fuel, rfl⟩ : ∃ n, fuel = n + 1 := ⟨fuel - 1, by omega⟩
      have hincoming := bytes_of_carries_nil hitems
      obtain ⟨e, hround⟩ := env.loginRound_atEnd
      have hresult : env.recvLoginResponseOn (fuel + 1) c = .error e := by
        rw [recvLoginResponseOn]
        simp only [env.recvWait_nil c hincoming, hround]
      refine ⟨?_, ?_⟩
      · rw [hresult, waits, List.map_nil, List.nil_append, HandshakeEnv.recvLoginResponse, hround]
        rfl
      · intro info c' hok
        rw [hresult] at hok
        cases hok
  | cons item items ih =>
      intro fuel c hkey hitems hfuel
      obtain ⟨fuel, rfl⟩ : ∃ n, fuel = n + 1 := ⟨fuel - 1, by omega⟩
      rw [List.length_cons] at hfuel
      obtain ⟨c', hwait, hstream, hwritten, hrest⟩ := recvWait_cons hbox hkey hitems
      rw [recvLoginResponseOn, waits, List.map_cons, List.cons_append,
        HandshakeEnv.recvLoginResponse, hwait]
      dsimp only
      cases hround : env.loginRound (env.itemWait item) with
      | none =>
          have hkey' : c'.stream.sessionKey = key := by rw [hstream, hkey]
          obtain ⟨hresult, hread⟩ := ih hkey' hrest (by omega : items.length < fuel)
          exact ⟨hresult, fun info c'' hok => (hread info c'' hok).cons hstream hwritten⟩
      | some result =>
          cases result with
          | error e => exact ⟨rfl, by simp⟩
          | ok info =>
              refine ⟨rfl, ?_⟩
              intro info' c'' hok
              obtain ⟨-, rfl⟩ := Prod.mk.inj (Except.ok.inj hok)
              exact (HasRead.nil hrest).cons hstream hwritten

/-- There are no more items than bytes. -/
theorem length_le_of_carries {box : SecretBox} {seq : UInt64} {items : List Item} {bytes : Bytes}
    (h : Carries box key seq items bytes last) : items.length ≤ bytes.length := by
  induction h with
  | nil seq => exact Nat.le_refl _
  | message _ F _ ih =>
      have hframe := F.length_pos
      rw [List.length_cons, List.length_append]
      omega
  | heartbeat F _ ih =>
      have hframe := F.length_pos
      rw [List.length_cons, List.length_append]
      omega

variable (env) (key) (last)

/-- What the login sends to a peer with this key fits into its frames. -/
structure Fits (pk : Bytes) : Prop where
  publicKey : ∀ keys, env.keyExchange pk = .ok keys →
    (env.encode (.publicKey keys.ephemeralPk keys.sealedKey)).length ≤ recvLimit
  request : ∀ hash, (env.encode (.loginRequest (env.loginRequest hash))).length + 16 ≤ recvLimit

/-- A login is over: the client has read some of the items and the rest is still to come, and it
has written one message. -/
structure LoggedIn (items : List Item) (request : LoginRequest) (c c' : ClientEnd) : Prop where
  sessionKey : c'.stream.sessionKey = key
  read : ∃ read left, items = read ++ left ∧
    c'.stream.recvSeq = c.stream.recvSeq + UInt64.ofNat (messages read) ∧
    Carries env.box key c'.stream.recvSeq left c'.incoming last
  wrote : ∃ bytes, c'.written = c.written ++ bytes ∧
    Carries env.box key c.stream.sendSeq [.message (env.encode (.loginRequest request))] bytes
      c'.stream.sendSeq

variable {env} {key} {last}

/-- Steps 5 to 8 on bytes are steps 5 to 8 on the waits. -/
theorem authenticateOn_eq (hbox : env.box.Lawful) (hseals : env.box.Seals) {pk : Bytes}
    (hfits : env.Fits pk) {items : List Item} {c : ClientEnd} (hkey : c.stream.sessionKey = key)
    (hitems : Carries env.box key c.stream.recvSeq items c.incoming last) :
    (env.authenticateOn c).map Prod.fst = (env.authenticate (env.waits items)).1 ∧
      ∀ info c', env.authenticateOn c = .ok (info, c') →
        ∃ request, env.LoggedIn key last items request c c' := by
  cases items with
  | nil =>
      obtain ⟨e, hhash⟩ := env.recvHash_atEnd
      have hwait := env.recvWait_nil c (bytes_of_carries_nil hitems)
      have hresult : env.authenticateOn c = .error e := by
        rw [authenticateOn]
        simp only [hwait, hhash]
      have hmessages : (env.authenticate (env.waits [])).1 = .error e := by
        simp only [HandshakeEnv.authenticate, waits, List.map_nil, List.nil_append,
          List.head?_cons, Option.getD_some, hhash]
      rw [hresult, hmessages]
      exact ⟨rfl, by simp⟩
  | cons item items =>
      obtain ⟨c₁, hwait, hstream, hwritten, hrest⟩ := recvWait_cons hbox hkey hitems
      have hkey₁ : c₁.stream.sessionKey = key := by rw [hstream, hkey]
      have hfirst : (env.waits (item :: items)).head?.getD .elapsed = env.itemWait item := rfl
      have htail : (env.waits (item :: items)).tail = env.waits items := rfl
      rw [authenticateOn, HandshakeEnv.authenticate, hwait, hfirst, htail]
      dsimp only
      cases env.recvHash (env.itemWait item) with
      | error e => exact ⟨rfl, by simp⟩
      | ok hash =>
          dsimp only
          -- a request that fits is sent
          obtain ⟨sealed, header, -, -, hsend⟩ :=
            EncryptedStream.send_accepted hbox hseals c₁.stream
              (m := env.encode (.loginRequest (env.loginRequest hash)))
              ((hfits.request _).trans (by decide)) c₁.written
          obtain ⟨bytes, -, hwrote, hcarry⟩ :=
            Crypto.Channel.carries_send hbox (hfits.request _) hsend
          rw [hwrote] at hsend
          rw [hsend]
          dsimp only
          cases env.sendLogin with
          | error e => exact ⟨rfl, by simp⟩
          | ok u =>
              dsimp only
              obtain ⟨hresult, hread⟩ := recvLoginResponseOn_eq hbox items
                (c := { c₁ with
                  stream := { c₁.stream with sendSeq := c₁.stream.sendSeq + 1 }
                  written := c₁.written ++ bytes })
                hkey₁ hrest (Nat.lt_succ_of_le (length_le_of_carries hrest))
              refine ⟨hresult, ?_⟩
              intro info c' hok
              obtain ⟨read, left, rfl, hstream', hwritten', hleft⟩ := hread info c' hok
              refine ⟨env.loginRequest hash, ?_, ⟨item :: read, left, rfl, ?_, hleft⟩,
                bytes, ?_, ?_⟩
              · rw [hstream']
                exact hkey₁
              · have hmessages : messages (item :: read) = messages [item] + messages read :=
                  messages_append [item] read
                rw [hstream', hmessages, UInt64.ofNat_add, ← add_assoc, hstream]
              · rw [hwritten', hwritten]
              · rw [hkey₁, hstream] at hcarry
                rw [hstream', hstream]
                exact hcarry

/-- The handshake on bytes is the handshake on the waits. -/
theorem handshakeAndAuthOn_eq (hbox : env.box.Lawful) (hseals : env.box.Seals)
    {frame signed pk : Bytes} (hfits : env.Fits pk) (hframe : IsFrame frame signed)
    (hpk : env.peerBoxPk (env.waitOf (.ok signed)) = .ok pk)
    {items : List Item} {bytes : Bytes}
    (hkey : ∀ keys, env.keyExchange pk = .ok keys → keys.sessionKey = key)
    (hitems : Carries env.box key 0 items bytes last) :
    (env.handshakeAndAuthOn (frame ++ bytes)).map Prod.fst =
        (env.handshakeAndAuth (env.waitOf (.ok signed)) (env.waits items)).1 ∧
      ∀ info c, env.handshakeAndAuthOn (frame ++ bytes) = .ok (info, c) →
        ∃ keys first request, env.keyExchange pk = .ok keys ∧
          IsFrame first (env.encode (.publicKey keys.ephemeralPk keys.sealedKey)) ∧
          env.LoggedIn key last items request ⟨.new key, bytes, first⟩ c := by
  have hrecv : FramedTransport.recv (frame ++ bytes) = (.ok signed, bytes) := by
    simp [FramedTransport.recv, recvWith_frame hframe]
  rw [handshakeAndAuthOn, HandshakeEnv.handshakeAndAuth, hrecv]
  have hwait : env.waitOf ((Except.ok signed : Except CodecError Bytes).mapError .transport) =
      env.waitOf (.ok signed) := rfl
  dsimp only
  rw [hwait, hpk]
  dsimp only
  cases hkeys : env.keyExchange pk with
  | error e => exact ⟨rfl, by simp⟩
  | ok keys =>
      obtain rfl := hkey keys hkeys
      obtain ⟨first, hfirst, hsend⟩ :=
        sendWith_frame FramedTransport.tooLargeText [] (hfits.publicKey keys hkeys)
      dsimp only
      rw [FramedTransport.send, hsend]
      dsimp only
      cases env.sendPublicKey with
      | error e => exact ⟨rfl, by simp⟩
      | ok u =>
          obtain ⟨hresult, hlogin⟩ := authenticateOn_eq hbox hseals hfits
            (c := ⟨.new keys.sessionKey, bytes, [] ++ first⟩) rfl hitems
          refine ⟨hresult, ?_⟩
          intro info c hok
          obtain ⟨request, hlogged⟩ := hlogin info c hok
          exact ⟨keys, first, request, rfl, hfirst, hlogged⟩

end Carried

end LoginEnv

/-! ## The channel behind it -/

/-- The two ends when the client is logged in: the client has read some of the peer's items, and
its request is on its way. -/
def afterLogin (c : ClientEnd) (peer : EncryptedStream) (items read : List Item)
    (request wire : Bytes) : Crypto.Channel where
  ends
    | .client => c.stream
    | .peer => peer
  wire
    | .client => c.incoming
    | .peer => wire
  sent
    | .client => [.message request]
    | .peer => items
  got
    | .client => read.map fun item => .ok item.plaintext
    | .peer => []

/-- Both directions are in order at that moment. -/
theorem linked_afterLogin {env : LoginEnv} {key : Bytes} {last : UInt64}
    {items read left : List Item} {c : ClientEnd} {request wire : Bytes}
    (hsplit : items = read ++ left)
    (hkey : c.stream.sessionKey = key)
    (hrecv : c.stream.recvSeq = UInt64.ofNat (messages read))
    (hleft : Carries env.box key c.stream.recvSeq left c.incoming last)
    (hwire : Carries env.box key 0 [.message request] wire c.stream.sendSeq) :
    Crypto.Channel.Linked env.box key (afterLogin c ⟨key, last, 0⟩ items read request wire) := by
  intro s
  cases s with
  | client => exact ⟨read, left, hkey, hsplit, rfl, hrecv, hleft⟩
  | peer => exact ⟨[], [.message request], rfl, rfl, rfl, rfl, hwire⟩

/-- In order, what a side has been given is what the other side has sent, and what is still to
come is what the next `recv` returns. -/
theorem delivers_of_linked {box : SecretBox} (hbox : box.Lawful) {key : Bytes}
    {ch : Crypto.Channel} (h : Crypto.Channel.Linked box key ch) (s : Side) :
    ch.got s <+: (ch.sent s.other).map (fun item => .ok item.plaintext) ∧
      ∀ item, (ch.sent s.other)[(ch.got s).length]? = some item →
        ∃ next, Crypto.Channel.step box ch (.recv s) = some next ∧
          next.got s = ch.got s ++ [.ok item.plaintext] := by
  obtain ⟨delivered, pending, L⟩ := h s
  constructor
  · rw [L.got, L.sent, List.map_append]
    exact List.prefix_append _ _
  · intro item hitem
    rw [L.got, List.length_map, L.sent, List.getElem?_append_right (Nat.le_refl _),
      Nat.sub_self] at hitem
    cases pending with
    | nil => cases hitem
    | cons next pending =>
        obtain rfl := Option.some.inj hitem
        obtain ⟨rest, hnext, -⟩ := Crypto.Channel.step_recv_of_pending_cons hbox L
        exact ⟨_, hnext, by simp [Crypto.Channel.pulled]⟩

/-- The login hands the stream over in step.  The peer sends its public key in clear, takes the
session key out of the box it is sent, and from then on sends through a stream with that
key; whatever it sends, the login on bytes ends as the handshake on messages does.  When
it succeeds, the client has written its public key and one encrypted request, and from
there on, over every interleaving of further calls of both sides, each side is given what
the other has sent, in order, beginning with what the login has not read. -/
theorem login_starts_channel {env : LoginEnv} {crypto : CryptoBox} (hcrypto : crypto.Lawful)
    (hbox : env.box.Lawful) (hseals : env.box.Seals) {ephemeralSk sessionKey peerSk : Bytes}
    (hfits : env.Fits (crypto.publicKey peerSk))
    (hexchange : env.keyExchange = keyExchangeWithBoxPk crypto ephemeralSk sessionKey)
    {frame signed : Bytes} (hframe : IsFrame frame signed)
    (hsigned : env.peerBoxPk (env.waitOf (.ok signed)) = .ok (crypto.publicKey peerSk))
    {peerKey : Bytes}
    (hopens : ∀ keys, env.keyExchange (crypto.publicKey peerSk) = .ok keys →
      openSealedKey crypto peerSk keys.ephemeralPk keys.sealedKey = some peerKey)
    {items : List Item} {bytes : Bytes} {last : UInt64}
    (hitems : Carries env.box peerKey 0 items bytes last) :
    (env.handshakeAndAuthOn (frame ++ bytes)).map Prod.fst =
        (env.handshakeAndAuth (env.waitOf (.ok signed)) (env.waits items)).1 ∧
      ∀ info c, env.handshakeAndAuthOn (frame ++ bytes) = .ok (info, c) →
        ∃ keys first request wire read,
          env.keyExchange (crypto.publicKey peerSk) = .ok keys ∧
          IsFrame first (env.encode (.publicKey keys.ephemeralPk keys.sealedKey)) ∧
          c.written = first ++ wire ∧ read <+: items ∧
          ∀ calls final, (Crypto.Channel.machine env.box).run
              (afterLogin c ⟨peerKey, last, 0⟩ items read (env.encode (.loginRequest request)) wire)
              calls = some final → (∀ call ∈ calls, Crypto.Channel.WithinLimit call) →
            ∀ s, final.got s <+: (final.sent s.other).map (fun item => .ok item.plaintext) ∧
              ∀ item, (final.sent s.other)[(final.got s).length]? = some item →
                ∃ next, Crypto.Channel.step env.box final (.recv s) = some next ∧
                  next.got s = final.got s ++ [.ok item.plaintext] := by
  -- the key that both sides have
  have hkey : ∀ keys, env.keyExchange (crypto.publicKey peerSk) = .ok keys →
      keys.sessionKey = peerKey := by
    intro keys hkeys
    have hopened := hopens keys hkeys
    rw [hexchange] at hkeys
    rw [openSealedKey_of_exchange hcrypto hkeys] at hopened
    exact Option.some.inj hopened
  obtain ⟨hresult, hlogin⟩ :=
    LoginEnv.handshakeAndAuthOn_eq hbox hseals hfits hframe hsigned hkey hitems
  refine ⟨hresult, ?_⟩
  intro info c hok
  obtain ⟨keys, first, request, hkeys, hfirst, hlogged⟩ := hlogin info c hok
  obtain ⟨read, left, hsplit, hrecv, hleft⟩ := hlogged.read
  obtain ⟨wire, hwritten, hwire⟩ := hlogged.wrote
  refine ⟨keys, first, request, wire, read, hkeys, hfirst, hwritten, ⟨left, hsplit.symm⟩, ?_⟩
  intro calls final hrun hsize s
  have hcounted : c.stream.recvSeq = UInt64.ofNat (messages read) := by
    simp [hrecv, EncryptedStream.new]
  have hstart := linked_afterLogin hsplit hlogged.sessionKey hcounted hleft hwire
  have hfinal := (Crypto.Channel.machine env.box).invariant_of_meets
    (fun _ _ _ hinv hguard hstep => Crypto.Channel.linked_step hbox hinv hguard hstep) hstart
    ((Crypto.Channel.machine env.box).meets_of_forall hsize) hrun
  exact delivers_of_linked hbox hfinal s

/-- A box whose shared key is the two keys xored. -/
def xorBox : CryptoBox where
  publicKey sk := sk
  sharedKey := List.zipWith (· ^^^ ·)
  salsa := tagBox

theorem xorBox_lawful : xorBox.Lawful where
  agrees _ _ := List.zipWith_comm_of_comm UInt8.xor_comm
  salsa := tagBox_lawful

/-- A login on bytes, with one byte for each message of the peer. -/
def sampleLogin : LoginEnv where
  toHandshakeEnv :=
    { sampleHandshake with
      keyExchange := keyExchangeWithBoxPk xorBox (List.replicate 32 2) (List.replicate 32 3) }
  box := tagBox
  decode raw :=
    match raw with
    | [1] => .ok (some (.signedId (List.replicate 64 0 ++ sampleIdPk)))
    | [2] => .ok (some (.hash ⟨[], []⟩))
    | [3] => .ok (some (.loginResponse (some (.peerInfo ⟨"user".toList, "host".toList, []⟩))))
    | _ => .ok none
  encode
    | .publicKey value sealedKey => value ++ sealedKey
    | .loginRequest request => request.password
  streamError _ := .msg "Decryption failed: invalid ciphertext or wrong key".toList
  closed := none

theorem sampleLogin_fits : sampleLogin.Fits samplePeerPk where
  publicKey keys hkeys := by
    obtain rfl := Except.ok.inj hkeys
    decide
  request hash := by
    change (sampleSha256 _).length + 16 ≤ recvLimit
    unfold sampleSha256
    split <;> decide

/-- Messages that fit can be sent on any stream. -/
theorem exists_carries {box : SecretBox} (hbox : box.Lawful) (hseals : box.Seals) (key : Bytes)
    (sent : List Bytes) (hsize : ∀ m ∈ sent, m.length + 16 ≤ recvLimit) :
    ∀ seq, ∃ bytes last, Carries box key seq (sent.map .message) bytes last := by
  induction sent with
  | nil => exact fun seq => ⟨[], seq, .nil seq⟩
  | cons m sent ih =>
      intro seq
      obtain ⟨hm, hsent⟩ := List.forall_mem_cons.mp hsize
      obtain ⟨bytes, last, hcarries⟩ := ih hsent (seq + 1)
      obtain ⟨sealed, hseal⟩ := hseals key (EncryptedStream.makeNonce (seq + 1)) m
      have hlength : sealed.length ≤ recvLimit := by
        rw [hbox.length hseal]
        exact hm
      obtain ⟨frame, hframe, -⟩ := sendWith_frame FramedTransport.tooLargeText [] hlength
      exact ⟨frame ++ bytes, last, .message hseal hframe hcarries⟩

/-- The peer's `Hash`, its answer and a message of the session behind them. -/
theorem login_starts_channel_sample :
    ∃ frame bytes info c, IsFrame frame [1] ∧
      sampleLogin.handshakeAndAuthOn (frame ++ bytes) = .ok (info, c) ∧
        info = ⟨"user".toList, "host".toList, []⟩ ∧ ∃ first wire, c.written = first ++ wire := by
  have hone : ([1] : Bytes).length ≤ recvLimit := by decide
  obtain ⟨frame, hframe, -⟩ := sendWith_frame FramedTransport.tooLargeText [] hone
  obtain ⟨bytes, last, hcarries⟩ := exists_carries tagBox_lawful tagBox_seals
    (List.replicate 32 3) [[2], [3], [4]] (by decide) 0
  have hsigned : sampleLogin.peerBoxPk (sampleLogin.waitOf (.ok [1])) =
      .ok (xorBox.publicKey samplePeerPk) := by decide
  have hopens : ∀ keys, sampleLogin.keyExchange (xorBox.publicKey samplePeerPk) = .ok keys →
      openSealedKey xorBox samplePeerPk keys.ephemeralPk keys.sealedKey =
        some (List.replicate 32 3) := by
    intro keys hkeys
    obtain rfl := Except.ok.inj hkeys
    decide
  have htagBox : sampleLogin.box = tagBox := rfl
  rw [← htagBox] at hcarries
  obtain ⟨hresult, hlogin⟩ := login_starts_channel xorBox_lawful tagBox_lawful tagBox_seals
    sampleLogin_fits rfl hframe hsigned hopens hcarries
  have haccepts : (sampleLogin.handshakeAndAuth (sampleLogin.waitOf (.ok [1]))
      (sampleLogin.waits [.message [2], .message [3], .message [4]])).1 =
        .ok ⟨"user".toList, "host".toList, []⟩ := by decide +kernel
  have hresult := hresult.trans haccepts
  cases hok : sampleLogin.handshakeAndAuthOn (frame ++ bytes) with
  | error e =>
      rw [hok] at hresult
      cases hresult
  | ok login =>
      obtain ⟨info, c⟩ := login
      rw [hok] at hresult
      obtain ⟨_, first, _, wire, _, _, _, hwritten, -⟩ := hlogin info c hok
      exact ⟨frame, bytes, info, c, hframe, hok, Except.ok.inj hresult, first, wire, hwritten⟩

end RustdeskCli.Connection
