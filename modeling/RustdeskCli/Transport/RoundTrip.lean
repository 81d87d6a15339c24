import RustdeskCli.Transport.BytesCodec
set_option autoImplicit false

/-!
# Transport: round trip of whole streams

The two hand-copied codecs are interoperable: a stream written by any mix of
`FramedTransport::send` and `bytescodec_send` is read back frame by frame by any
mix of `FramedTransport::recv` and `bytescodec_recv`.
-/

namespace RustdeskCli.Transport

open RustdeskCli.Foundation

/-- The two copies of the codec in the source. -/
inductive Codec where
  /-- `FramedTransport` of `src/transport.rs` -/
  | framedTransport
  /-- `bytescodec_send` / `bytescodec_recv` of `src/rendezvous.rs` -/
  | rendezvous
  deriving DecidableEq, Repr

namespace Codec

/-- The `send` of this copy. -/
def send : Codec → Bytes → Bytes → Except CodecError Unit × Bytes
  | framedTransport => FramedTransport.send
  | rendezvous => bytescodecSend

/-- The `recv` of this copy. -/
def recv : Codec → Bytes → Except CodecError Bytes × Bytes
  | framedTransport => FramedTransport.recv
  | rendezvous => bytescodecRecv

/-- The refusal text of this copy's `send`. -/
def tooLargeText : Codec → Nat → String
  | framedTransport => FramedTransport.tooLargeText
  | rendezvous => bytescodecTooLargeText

/-- The size-limit text of this copy's `recv`. -/
def limitText : Codec → Nat → String
  | framedTransport => FramedTransport.limitText
  | rendezvous => bytescodecLimitText

theorem recv_eq (c : Codec) : c.recv = recvWith c.limitText := by
  cases c <;> rfl

theorem send_eq (c : Codec) : c.send = sendWith c.tooLargeText := by
  cases c <;> rfl

end Codec

/-- Write the messages one after another, stopping at the first refusal. -/
def sendAll : List (Codec × Bytes) → Bytes → Except CodecError Unit × Bytes
  | [], written => (.ok (), written)
  | (c, msg) :: more, written =>
      match c.send msg written with
      | (.error e, written) => (.error e, written)
      | (.ok (), written) => sendAll more written

/-- Receive one frame with each of the given decoders, stopping at the first
error. -/
def recvAll : List Codec → Bytes → Except CodecError (List Bytes) × Bytes
  | [], stream => (.ok [], stream)
  | c :: more, stream =>
      match c.recv stream with
      | (.error e, rest) => (.error e, rest)
      | (.ok payload, rest) =>
          match recvAll more rest with
          | (.error e, rest) => (.error e, rest)
          | (.ok payloads, rest) => (.ok (payload :: payloads), rest)

theorem recvAll_cons_frame (c : Codec) (readers : List Codec) {frame payload : Bytes}
    (F : IsFrame frame payload) (stream : Bytes) :
    recvAll (c :: readers) (frame ++ stream) =
      match recvAll readers stream with
      | (.error e, rest) => (.error e, rest)
      | (.ok payloads, rest) => (.ok (payload :: payloads), rest) := by
  rw [recvAll, Codec.recv_eq, recvWith_frame F]

/-- The stream `sendAll` writes and `recvAll` on it, by induction on the
messages: one frame of the grammar at a time. -/
theorem sendAll_recvAll (writes : List (Codec × Bytes)) :
    ∀ (readers : List Codec) (written : Bytes),
      readers.length = writes.length →
      (∀ w ∈ writes, w.2.length ≤ recvLimit) →
      ∃ stream, sendAll writes written = (.ok (), written ++ stream) ∧
        ∀ r, recvAll readers (stream ++ r) = (.ok (writes.map Prod.snd), r) := by
  induction writes with
  | nil =>
      intro readers written hlen _
      have : readers = [] := List.eq_nil_of_length_eq_zero hlen
      subst this
      exact ⟨[], by simp [sendAll], by simp [recvAll]⟩
  | cons w writes ih =>
      intro readers written hlen hle
      obtain ⟨c, msg⟩ := w
      cases readers with
      | nil => simp at hlen
      | cons d readers =>
          have hmsg : msg.length ≤ recvLimit := hle (c, msg) List.mem_cons_self
          obtain ⟨frame, F, hframe⟩ := sendWith_frame c.tooLargeText written hmsg
          obtain ⟨stream, hstream, hrecv⟩ := ih readers (written ++ frame)
            (by simpa using hlen) (fun w hw => hle w (List.mem_cons_of_mem _ hw))
          refine ⟨frame ++ stream, ?_, ?_⟩
          · simp only [sendAll, c.send_eq, hframe, hstream, List.append_assoc]
          · intro r
            rw [List.append_assoc, recvAll_cons_frame d readers F, hrecv r]
            rfl

/-- Whole-stream round trip of the BytesCodec framing, and the two limits.

The first part is about any mix of the two encoders and the two decoders; the
second says which payloads an encoder accepts and that a refusal writes nothing;
the third is the gap between the limits, where sending works and receiving
reports the size limit. -/
theorem bytescodec_round_trip :
    (∀ (writes : List (Codec × Bytes)) (readers : List Codec) (r : Bytes),
      readers.length = writes.length → (∀ w ∈ writes, w.2.length ≤ recvLimit) →
      ∃ stream, sendAll writes [] = (.ok (), stream) ∧
        recvAll readers (stream ++ r) = (.ok (writes.map Prod.snd), r)) ∧
    (∀ (c : Codec) (msg written : Bytes),
      ((c.send msg written).1 = .ok () ↔ msg.length ≤ maxPayload) ∧
      ((c.send msg written).1 ≠ .ok () → (c.send msg written).2 = written)) ∧
    (∀ (c d : Codec) (msg written r : Bytes),
      recvLimit < msg.length → msg.length ≤ maxPayload →
      ∃ frame, c.send msg written = (.ok (), written ++ frame) ∧
        (d.recv (frame ++ r)).1 = .error (.bail (d.limitText msg.length))) := by
  refine ⟨?_, ?_, ?_⟩
  · intro writes readers r hlen hle
    obtain ⟨stream, hsend, hrecv⟩ := sendAll_recvAll writes readers [] hlen hle
    exact ⟨stream, by simpa using hsend, hrecv r⟩
  · intro c msg written
    rw [c.send_eq]
    refine ⟨sendWith_ok_iff c.tooLargeText msg written, ?_⟩
    intro hrefused
    rcases sendWith_eq c.tooLargeText msg written with ⟨_, _, _, heq⟩ | ⟨_, heq⟩
    · simp [heq] at hrefused
    · simp [heq]
  · intro c d msg written r hlong hle
    rcases sendWith_eq c.tooLargeText msg written with ⟨_, header, hheader, heq⟩ | ⟨hlt, _⟩
    · refine ⟨header ++ msg, by rw [c.send_eq, heq], ?_⟩
      rw [d.recv_eq, List.append_assoc, recvWith_header hheader, if_pos hlong]
    · omega

/-- Two frames of different header widths, written by different encoders and
read by the other decoder each. -/
theorem bytescodec_round_trip_mixed :
    ∃ stream, sendAll [(.framedTransport, [1, 2]), (.rendezvous, List.replicate 100 7)] [] =
        (.ok (), stream) ∧
      recvAll [.rendezvous, .framedTransport] (stream ++ [9]) =
        (.ok [[1, 2], List.replicate 100 7], [9]) :=
  bytescodec_round_trip.1 [(.framedTransport, [1, 2]), (.rendezvous, List.replicate 100 7)]
    [.rendezvous, .framedTransport] [9] rfl (by
      intro w hw
      simp only [List.mem_cons, List.not_mem_nil, or_false] at hw
      rcases hw with rfl | rfl <;> simp [recvLimit])

end RustdeskCli.Transport
