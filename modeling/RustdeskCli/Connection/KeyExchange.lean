import RustdeskCli.Crypto.EncryptedStream
import RustdeskCli.Session.Response
set_option autoImplicit false

/-!
# Connection: the key exchange with hbbs (`src/rendezvous.rs`)

hbbs may answer a request over TCP with a `KeyExchange`: its Curve25519 key, signed with
the server key the client was given.  The signature stands in front of the key or behind
it.  A payload of 32 bytes is taken for a key that is not signed, and a payload whose
signature does not hold is used as well, with a warning; which bytes of it are the key is
then decided by its length.

Base64, Ed25519 and the key exchange itself are third-party and come as arguments.
-/

namespace RustdeskCli.Connection

open RustdeskCli.Foundation
open RustdeskCli.Session
open RustdeskCli.Crypto

/-- `STANDARD.decode`, and Ed25519: `VerifyingKey::from_bytes` and `verify` of a message and
a signature of 64 bytes. -/
structure ServerKeys (Key : Type) where
  decodeBase64 : Text → Except Error Bytes
  fromBytes : Bytes → Except Error Key
  verify : Key → Bytes → Bytes → Bool

section Verifying

variable {Key : Type} (keys : ServerKeys Key)

/-- `decode_rendezvous_verifying_key`. -/
def decodeRendezvousVerifyingKey (serverKey : Text) : Except Error Key :=
  match keys.decodeBase64 serverKey with
  | .error e => .error (e.context "base64 decode rendezvous server key".toList)
  | .ok decoded =>
      if decoded.length = 32 then
        match keys.fromBytes decoded with
        | .error e => .error (e.context "invalid rendezvous server Ed25519 key".toList)
        | .ok key => .ok key
      else
        .error (.msg ("rendezvous server key is ".toList ++ (toString decoded.length).toList ++
          " bytes, expected 32".toList))

/-- `extract_verified_rendezvous_key`: the key and the layout it was found in. -/
def extractVerifiedRendezvousKey (key : Option Key) (signedKey : Bytes) : Option (Bytes × Text) :=
  match key with
  | none => none
  | some key =>
      if signedKey.length ≥ 96 ∧ (signedKey.drop 64).length = 32 ∧
          keys.verify key (signedKey.drop 64) (signedKey.take 64) then
        some (signedKey.drop 64, "signature||key".toList)
      else if signedKey.length = 96 ∧
          keys.verify key (signedKey.take 32) ((signedKey.take 96).drop 32) then
        some (signedKey.take 32, "key||signature".toList)
      else none

/-- `verify_rendezvous_server_key`. -/
def verifyRendezvousServerKey (serverKey : Text) (signedKey : Bytes) : Except Error Bytes :=
  if signedKey.length = 32 then .ok signedKey
  else if signedKey.length < 96 then
    .error (.msg ("signed rendezvous TCP key is ".toList ++ (toString signedKey.length).toList ++
      " bytes, expected 32 or at least 96".toList))
  else
    let verificationKey := (decodeRendezvousVerifyingKey keys serverKey).toOption
    match extractVerifiedRendezvousKey keys verificationKey signedKey with
    | some (peerBoxPk, _) => .ok peerBoxPk
    | none =>
        -- not verified: the layout is guessed from the length
        if (signedKey.drop 64).length = 32 then .ok (signedKey.drop 64)
        else .ok (signedKey.take 32)

/-- `KeyExchangeResult`. -/
structure KeyExchangeResult where
  ephemeralPk : Bytes
  sealedKey : Bytes
  sessionKey : Bytes
  deriving DecidableEq, Repr

/-- `complete_tcp_key_exchange`: the keys of the answer, and the stream.  `keyExchange` is
`key_exchange_curve25519`, `send` how the sending of the answer goes. -/
def completeTcpKeyExchange (keyExchange : Bytes → Except Error KeyExchangeResult)
    (send : Except Error Unit) (serverKey : Text) (payloads : List Bytes) :
    Except Error (List Bytes × EncryptedStream) :=
  match payloads.head? with
  | none => .error (.msg "TCP KeyExchange missing server key payload".toList)
  | some signedKey =>
      match verifyRendezvousServerKey keys serverKey signedKey with
      | .error e => .error (e.context "verifying signed rendezvous TCP key".toList)
      | .ok peerBoxPk =>
          match keyExchange peerBoxPk with
          | .error e => .error (e.context "creating TCP rendezvous symmetric key".toList)
          | .ok result =>
              match send with
              | .error e => .error (e.context "sending TCP KeyExchange response".toList)
              | .ok () =>
                  .ok ([result.ephemeralPk, result.sealedKey], .new result.sessionKey)

/-! ## What is trusted -/

/-- The payload is a signature of 64 bytes of a key `k` of 32, in front of it or behind it. -/
def Signed (key : Key) (payload k : Bytes) : Prop :=
  ∃ signature : Bytes, signature.length = 64 ∧ k.length = 32 ∧
    keys.verify key k signature = true ∧ (payload = signature ++ k ∨ payload = k ++ signature)

/-- The payloads the code takes a key from without a signature: the bare key, and where
neither layout holds, the last 32 of 96 bytes and the first 32 of more. -/
inductive Unverified (key : Key) (payload : Bytes) : Bytes → Prop where
  | bare (length : payload.length = 32) : Unverified key payload payload
  | suffix (length : payload.length = 96)
      (front : ¬keys.verify key (payload.drop 64) (payload.take 64) = true)
      (back : ¬keys.verify key (payload.take 32) (payload.drop 32) = true) :
      Unverified key payload (payload.drop 64)
  | longer (length : 96 < payload.length) : Unverified key payload (payload.take 32)

theorem extractVerifiedRendezvousKey_some {key : Key} {payload k : Bytes} {layout : Text}
    (h : extractVerifiedRendezvousKey keys (some key) payload = some (k, layout)) :
    Signed keys key payload k := by
  unfold extractVerifiedRendezvousKey at h
  simp only at h
  split at h
  · rename_i hfront
    obtain ⟨rfl, -⟩ := Prod.mk.inj (Option.some.inj h)
    obtain ⟨hlength, hdrop, hverify⟩ := hfront
    have htake : (payload.take 64).length = 64 := by
      rw [List.length_take]
      omega
    exact ⟨payload.take 64, htake, hdrop, hverify, .inl (List.take_append_drop 64 payload).symm⟩
  · split at h
    · rename_i hback
      obtain ⟨rfl, -⟩ := Prod.mk.inj (Option.some.inj h)
      obtain ⟨hlength, hverify⟩ := hback
      have hall : payload.take 96 = payload := List.take_of_length_le (by omega)
      have hdrop : (payload.drop 32).length = 64 := by
        rw [List.length_drop]
        omega
      have htake : (payload.take 32).length = 32 := by
        rw [List.length_take]
        omega
      rw [hall] at hverify
      exact ⟨payload.drop 32, hdrop, htake, hverify, .inr (List.take_append_drop 32 payload).symm⟩
    · cases h

theorem extractVerifiedRendezvousKey_none {key : Key} {payload : Bytes}
    (hlength : payload.length = 96)
    (h : extractVerifiedRendezvousKey keys (some key) payload = none) :
    ¬keys.verify key (payload.drop 64) (payload.take 64) = true ∧
      ¬keys.verify key (payload.take 32) (payload.drop 32) = true := by
  unfold extractVerifiedRendezvousKey at h
  simp only at h
  have hall : payload.take 96 = payload := List.take_of_length_le (by omega)
  have hdrop : (payload.drop 64).length = 32 := by
    rw [List.length_drop]
    omega
  rw [hall] at h
  split at h
  · cases h
  · rename_i hfront
    split at h
    · cases h
    · rename_i hback
      exact ⟨fun hv => hfront ⟨by omega, hdrop, hv⟩, fun hv => hback ⟨hlength, hv⟩⟩

/-- A key that is accepted is signed by the server, or comes from one of the payloads that
are accepted without a signature. -/
theorem verifyRendezvousServerKey_ok {serverKey : Text} {key : Key} {payload k : Bytes}
    (hkey : decodeRendezvousVerifyingKey keys serverKey = .ok key)
    (h : verifyRendezvousServerKey keys serverKey payload = .ok k) :
    Signed keys key payload k ∨ Unverified keys key payload k := by
  unfold verifyRendezvousServerKey at h
  split at h
  · rename_i hlength
    obtain rfl := Except.ok.inj h
    exact .inr (.bare hlength)
  · split at h
    · cases h
    · rename_i hshort
      simp only [hkey, Except.toOption] at h
      cases hextract : extractVerifiedRendezvousKey keys (some key) payload with
      | some found =>
          simp only [hextract] at h
          obtain rfl := Except.ok.inj h
          exact .inl (extractVerifiedRendezvousKey_some keys hextract)
      | none =>
          simp only [hextract] at h
          split at h
          · rename_i hsuffix
            rw [List.length_drop] at hsuffix
            have hlength : payload.length = 96 := by omega
            obtain ⟨hfront, hback⟩ := extractVerifiedRendezvousKey_none keys hlength hextract
            obtain rfl := Except.ok.inj h
            exact .inr (.suffix hlength hfront hback)
          · rename_i hsuffix
            rw [List.length_drop] at hsuffix
            obtain rfl := Except.ok.inj h
            exact .inr (.longer (by omega))

/-- The stream is to the key that was accepted. -/
theorem completeTcpKeyExchange_ok {keyExchange : Bytes → Except Error KeyExchangeResult}
    {send : Except Error Unit} {serverKey : Text} {payloads answer : List Bytes}
    {stream : EncryptedStream}
    (h : completeTcpKeyExchange keys keyExchange send serverKey payloads = .ok (answer, stream)) :
    ∃ payload k result, payloads.head? = some payload ∧
      verifyRendezvousServerKey keys serverKey payload = .ok k ∧ keyExchange k = .ok result ∧
        answer = [result.ephemeralPk, result.sealedKey] ∧ stream = .new result.sessionKey := by
  unfold completeTcpKeyExchange at h
  split at h
  · cases h
  · rename_i payload hpayload
    split at h
    · cases h
    · rename_i k hk
      split at h
      · cases h
      · rename_i result hresult
        split at h
        · cases h
        · obtain ⟨rfl, rfl⟩ := Prod.mk.inj (Except.ok.inj h)
          exact ⟨payload, k, result, hpayload, hk, hresult, rfl, rfl⟩

end Verifying

/-- The default server key. -/
def defaultServerKey : Text := "OeVuKk5nlHiXp+APNn0Y3pC1Iwpwn44JGqrQCsWqmBw=".toList

/-- The libraries on the default server key, for payloads that nobody signed. -/
def defaultServerKeys : ServerKeys Bytes where
  decodeBase64 text :=
    if text = defaultServerKey then
      .ok [57, 229, 110, 42, 78, 103, 148, 120, 151, 167, 224, 15, 54, 125, 24, 222, 144, 181, 35,
        10, 112, 159, 142, 9, 26, 170, 208, 10, 197, 170, 152, 28]
    else .error (.msg "Invalid input".toList)
  fromBytes bytes := .ok bytes
  verify _ _ _ := false

theorem verifyRendezvousServerKey_ok_zeros :
    ∃ key, decodeRendezvousVerifyingKey defaultServerKeys defaultServerKey = .ok key ∧
      verifyRendezvousServerKey defaultServerKeys defaultServerKey (List.replicate 96 0) =
        .ok (List.replicate 32 0) ∧
      (Signed defaultServerKeys key (List.replicate 96 0) (List.replicate 32 0) ∨
        Unverified defaultServerKeys key (List.replicate 96 0) (List.replicate 32 0)) := by
  have hverify : verifyRendezvousServerKey defaultServerKeys defaultServerKey
      (List.replicate 96 0) = .ok (List.replicate 32 0) := rfl
  refine ⟨_, rfl, hverify, ?_⟩
  exact verifyRendezvousServerKey_ok defaultServerKeys rfl hverify

/-- A key that nobody signed is accepted. -/
theorem verifyRendezvousServerKey_unsigned :
    ∃ key, decodeRendezvousVerifyingKey defaultServerKeys defaultServerKey = .ok key ∧
      verifyRendezvousServerKey defaultServerKeys defaultServerKey (List.replicate 32 0) =
        .ok (List.replicate 32 0) ∧
      ¬Signed defaultServerKeys key (List.replicate 32 0) (List.replicate 32 0) := by
  refine ⟨_, rfl, rfl, ?_⟩
  rintro ⟨signature, hsignature, -, -, hpayload | hpayload⟩
  · have hlength := congrArg List.length hpayload
    simp [hsignature] at hlength
  · have hlength := congrArg List.length hpayload
    simp [hsignature] at hlength

end RustdeskCli.Connection
