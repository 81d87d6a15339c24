import RustdeskCli.Transport.BytesCodec
set_option autoImplicit false

/-!
# Crypto: the encrypted stream (`src/crypto.rs`)

`EncryptedStream` puts XSalsa20-Poly1305 on top of the framing.  The nonce is the
sequence number in its first eight bytes, little-endian, and zero elsewhere.  Both
counters start at zero and are incremented before use; an empty frame is a
heartbeat and touches neither counter nor cipher.

The cipher is third-party code and enters as a parameter, `SecretBox`.  What the
source relies on is stated separately, in `SecretBox.Lawful`.  The field
`last_recv_at` is left out: only `recv_idle_for` reads it.
-/

namespace RustdeskCli.Crypto

open RustdeskCli.Foundation
open RustdeskCli.Transport

/-- XSalsa20-Poly1305 as the stream calls it; `none` is an `aead::Error`. -/
structure SecretBox where
  encrypt : (key nonce plaintext : Bytes) → Option Bytes
  decrypt : (key nonce ciphertext : Bytes) → Option Bytes

/-- Decryption undoes encryption, and a ciphertext carries a 16-byte tag. -/
structure SecretBox.Lawful (box : SecretBox) : Prop where
  opens : ∀ {key nonce plaintext ciphertext},
    box.encrypt key nonce plaintext = some ciphertext →
      box.decrypt key nonce ciphertext = some plaintext
  length : ∀ {key nonce plaintext ciphertext},
    box.encrypt key nonce plaintext = some ciphertext →
      ciphertext.length = plaintext.length + 16

/-- A ciphertext is never empty, so it is never taken for a heartbeat. -/
theorem SecretBox.Lawful.isEmpty_eq_false {box : SecretBox} (hbox : box.Lawful)
    {key nonce plaintext ciphertext : Bytes}
    (h : box.encrypt key nonce plaintext = some ciphertext) : ciphertext.isEmpty = false := by
  have hlen := hbox.length h
  cases ciphertext with
  | nil => simp at hlen
  | cons b bs => rfl

/-- Why a call on the encrypted stream failed. -/
inductive StreamError where
  /-- the framing layer's error, passed on -/
  | transport (e : CodecError)
  /-- an error of the cipher, with its text -/
  | cipher (text : String)
  deriving DecidableEq, Repr

/-- The part of `EncryptedStream` that is not the inner transport. -/
structure EncryptedStream where
  sessionKey : Bytes
  sendSeq : UInt64
  recvSeq : UInt64
  deriving DecidableEq, Repr

namespace EncryptedStream

/-- `EncryptedStream::new`. -/
def new (sessionKey : Bytes) : EncryptedStream := ⟨sessionKey, 0, 0⟩

/-- `make_nonce`: 24 bytes, the sequence number in the first eight. -/
def makeNonce (seq : UInt64) : Bytes := u64ToLeBytes seq ++ List.replicate 16 0

/-- `EncryptedStream::send`.  The counter moves before the cipher and the
transport are tried, so it also moves when they fail; `+` wraps at `2 ^ 64`. -/
def send (box : SecretBox) (st : EncryptedStream) (plaintext written : Bytes) :
    Except StreamError Unit × EncryptedStream × Bytes :=
  let st := { st with sendSeq := st.sendSeq + 1 }
  let nonce := makeNonce st.sendSeq
  match box.encrypt st.sessionKey nonce plaintext with
  | none => (.error (.cipher "Encryption failed: aead::Error"), st, written)
  | some ciphertext =>
      match FramedTransport.send ciphertext written with
      | (.error e, written) => (.error (.transport e), st, written)
      | (.ok (), written) => (.ok (), st, written)

/-- `EncryptedStream::send_heartbeat`. -/
def sendHeartbeat (st : EncryptedStream) (written : Bytes) :
    Except StreamError Unit × EncryptedStream × Bytes :=
  match FramedTransport.send [] written with
  | (.error e, written) => (.error (.transport e), st, written)
  | (.ok (), written) => (.ok (), st, written)

/-- What `recv` does with the frame the transport returned.  There is no await
point in this part. -/
def openFrame (box : SecretBox) (st : EncryptedStream) (ciphertext : Bytes) :
    Except StreamError Bytes × EncryptedStream :=
  if ciphertext.isEmpty then
    (.ok [], st)
  else
    let st := { st with recvSeq := st.recvSeq + 1 }
    let nonce := makeNonce st.recvSeq
    match box.decrypt st.sessionKey nonce ciphertext with
    | some plaintext => (.ok plaintext, st)
    | none => (.error (.cipher "Decryption failed: invalid ciphertext or wrong key"), st)

/-- `EncryptedStream::recv` on the bytes the transport has for it. -/
def recv (box : SecretBox) (st : EncryptedStream) (stream : Bytes) :
    Except StreamError Bytes × EncryptedStream × Bytes :=
  match FramedTransport.recv stream with
  | (.error e, rest) => (.error (.transport e), st, rest)
  | (.ok ciphertext, rest) =>
      match st.openFrame box ciphertext with
      | (result, st) => (result, st, rest)

@[simp] theorem length_makeNonce (seq : UInt64) : (makeNonce seq).length = 24 := by
  simp [makeNonce]

/-- Different sequence numbers have different nonces. -/
theorem makeNonce_injective : Function.Injective makeNonce := by
  intro a b h
  exact u64ToLeBytes_injective (List.append_cancel_right h)

/-- A failed or successful `send` moves the send counter by one and nothing else. -/
theorem send_state (box : SecretBox) (st : EncryptedStream) (plaintext written : Bytes) :
    (st.send box plaintext written).2.1 = { st with sendSeq := st.sendSeq + 1 } := by
  unfold send
  simp only
  split
  · rfl
  · split <;> rfl

/-- What a successful `send` did: one encryption under the next nonce, one frame
on the wire. -/
theorem send_ok {box : SecretBox} {st st' : EncryptedStream}
    {plaintext written written' : Bytes}
    (h : st.send box plaintext written = (.ok (), st', written')) :
    ∃ ciphertext header,
      box.encrypt st.sessionKey (makeNonce (st.sendSeq + 1)) plaintext = some ciphertext ∧
      IsHeader header ciphertext.length ∧
      st' = { st with sendSeq := st.sendSeq + 1 } ∧
      written' = written ++ (header ++ ciphertext) := by
  have hstate := send_state box st plaintext written
  rw [h] at hstate
  unfold send at h
  simp only at h
  split at h
  · simp at h
  · rename_i ciphertext hseal
    rcases sendWith_eq FramedTransport.tooLargeText ciphertext written with
      ⟨_, header, hheader, heq⟩ | ⟨_, heq⟩
    · rw [FramedTransport.send, heq] at h
      simp only [Prod.mk.injEq] at h
      exact ⟨ciphertext, header, hseal, hheader, hstate, h.2.2.symm⟩
    · rw [FramedTransport.send, heq] at h
      simp at h

/-- A heartbeat is the frame of the empty payload and leaves the stream as it is. -/
theorem sendHeartbeat_eq (st : EncryptedStream) (written : Bytes) :
    ∃ header, IsHeader header 0 ∧
      st.sendHeartbeat written = (.ok (), st, written ++ header) := by
  rcases sendWith_eq FramedTransport.tooLargeText [] written with
    ⟨_, header, hheader, heq⟩ | ⟨hlt, _⟩
  · exact ⟨header, hheader, by simp [sendHeartbeat, FramedTransport.send, heq]⟩
  · simp at hlt

/-- The frame of an encryption opens to its plaintext, under the same nonce. -/
theorem openFrame_of_encrypt {box : SecretBox} (hbox : box.Lawful) {st : EncryptedStream}
    {plaintext ciphertext : Bytes}
    (h : box.encrypt st.sessionKey (makeNonce (st.recvSeq + 1)) plaintext = some ciphertext) :
    st.openFrame box ciphertext = (.ok plaintext, { st with recvSeq := st.recvSeq + 1 }) := by
  simp [openFrame, hbox.isEmpty_eq_false h, hbox.opens h]

@[simp] theorem openFrame_nil (box : SecretBox) (st : EncryptedStream) :
    st.openFrame box [] = (.ok [], st) := rfl

/-- `recv` on a stream that starts with a complete frame opens that frame. -/
theorem recv_frame (box : SecretBox) (st : EncryptedStream) {frame payload : Bytes}
    (F : IsFrame frame payload) (rest : Bytes) :
    st.recv box (frame ++ rest) =
      ((st.openFrame box payload).1, (st.openFrame box payload).2, rest) := by
  simp [recv, FramedTransport.recv, recvWith_frame F]

end EncryptedStream

/-! ## A concrete cipher

A stand-in with the interface of the real one: a 16-byte tag that depends on the
key and the nonce, checked on opening.  It is here to run the model. -/

/-- The tag of a key and a nonce. -/
def tagOf (key nonce : Bytes) : Bytes :=
  (List.range 16).map fun i => nonce.getD i 0 ^^^ key.getD i 0

/-- Tag the plaintext, and open only what carries the expected tag. -/
def tagBox : SecretBox where
  encrypt key nonce plaintext := some (tagOf key nonce ++ plaintext)
  decrypt key nonce ciphertext :=
    if ciphertext.take 16 = tagOf key nonce then some (ciphertext.drop 16) else none

@[simp] theorem length_tagOf (key nonce : Bytes) : (tagOf key nonce).length = 16 := by
  simp [tagOf]

theorem tagBox_lawful : tagBox.Lawful where
  opens := by
    intro key nonce plaintext ciphertext h
    simp only [tagBox, Option.some.injEq] at h
    have htake : ciphertext.take 16 = tagOf key nonce := by
      rw [← h]; exact List.take_left' (length_tagOf key nonce)
    have hdrop : ciphertext.drop 16 = plaintext := by
      rw [← h]; exact List.drop_left' (length_tagOf key nonce)
    simp [tagBox, htake, hdrop]
  length := by
    intro key nonce plaintext ciphertext h
    simp only [tagBox, Option.some.injEq] at h
    rw [← h, List.length_append, length_tagOf]
    omega

end RustdeskCli.Crypto
