import RustdeskCli.Transport.BytesCodec
set_option autoImplicit false

/-!
# Transport: the future of a pending `recv` (`src/transport.rs`)

`FramedTransport::recv` awaits up to three times.  Between two polls its progress
lives in locals of the future: the first byte, the header bytes, the payload bytes
read so far.  Here the future is a value and one poll reads the bytes that have
arrived, one at a time.

Run to completion, the future computes `recv` (`settle_poll_first`).  What the
future adds is what is lost when it is dropped.
-/

namespace RustdeskCli.Transport

open RustdeskCli.Foundation

/-- The locals of a pending `recv`, by the `read_exact` it waits in. -/
inductive RecvFuture where
  /-- `read_exact(&mut first)`: nothing is consumed yet -/
  | first
  /-- `read_exact(&mut raw[1..header_len])` -/
  | header (headerLen : Nat) (raw : Bytes)
  /-- `read_exact(&mut payload)` -/
  | payload (payloadLen : Nat) (got : Bytes)
  deriving DecidableEq, Repr

/-- What a poll leaves behind. -/
inductive Progress where
  | pending (future : RecvFuture)
  | ready (result : Except CodecError Bytes)
  deriving DecidableEq, Repr

namespace RecvFuture

/-- The code between the header and the last `read_exact`.  Reading into an empty
buffer is ready at once. -/
def afterHeader (tooLong : Nat → String) (raw : Bytes) : Progress :=
  let combined := u32FromLeBytes (raw ++ List.replicate (4 - raw.length) 0)
  let payloadLen := (combined >>> 2).toNat
  if payloadLen > 64 * 1024 * 1024 then
    .ready (.error (.bail (tooLong payloadLen)))
  else if payloadLen = 0 then
    .ready (.ok [])
  else
    .pending (.payload payloadLen [])

/-- One byte moves into the locals of the future. -/
def feed (tooLong : Nat → String) : RecvFuture → UInt8 → Progress
  | .first, b =>
      let tag := b &&& 0x03
      let headerLen := (tag + 1).toNat
      if headerLen > 1 then .pending (.header headerLen [b]) else afterHeader tooLong [b]
  | .header headerLen raw, b =>
      if raw.length + 1 < headerLen then .pending (.header headerLen (raw ++ [b]))
      else afterHeader tooLong (raw ++ [b])
  | .payload payloadLen got, b =>
      if got.length + 1 < payloadLen then .pending (.payload payloadLen (got ++ [b]))
      else .ready (.ok (got ++ [b]))

/-- One poll with the bytes that have arrived, and the bytes it leaves unread. -/
def poll (tooLong : Nat → String) : RecvFuture → Bytes → Progress × Bytes
  | future, [] => (.pending future, [])
  | future, b :: rest =>
      match feed tooLong future b with
      | .pending future' => poll tooLong future' rest
      | .ready result => (.ready result, rest)

/-- Go on polling, unless the result is there already. -/
def resume (tooLong : Nat → String) : Progress → Bytes → Progress × Bytes
  | .pending future, stream => poll tooLong future stream
  | .ready result, stream => (.ready result, stream)

/-- What the caller sees when the stream ends after the bytes polled. -/
def settle : Progress × Bytes → Except CodecError Bytes × Bytes
  | (.pending _, _) => (.error .unexpectedEof, [])
  | (.ready result, rest) => (result, rest)

variable (tooLong : Nat → String)

@[simp] theorem poll_nil (future : RecvFuture) :
    poll tooLong future [] = (.pending future, []) := rfl

theorem poll_cons (future : RecvFuture) (b : UInt8) (rest : Bytes) :
    poll tooLong future (b :: rest) = resume tooLong (feed tooLong future b) rest := by
  rw [poll]
  cases feed tooLong future b <;> rfl

/-- Polling twice is polling once with the bytes in a row. -/
theorem poll_append (future : RecvFuture) (xs ys : Bytes) :
    poll tooLong future (xs ++ ys) =
      match poll tooLong future xs with
      | (.pending future', _) => poll tooLong future' ys
      | (.ready result, rest) => (.ready result, rest ++ ys) := by
  induction xs generalizing future with
  | nil => rfl
  | cons b xs ih =>
      rw [List.cons_append, poll_cons, poll_cons]
      cases feed tooLong future b with
      | pending future' => exact ih future'
      | ready result => rfl

/-- A poll that stays pending has consumed everything that arrived. -/
theorem rest_of_pending {future future' : RecvFuture} {stream rest : Bytes}
    (h : poll tooLong future stream = (.pending future', rest)) : rest = [] := by
  induction stream generalizing future with
  | nil =>
      simp only [poll_nil, Prod.mk.injEq] at h
      exact h.2.symm
  | cons b stream ih =>
      rw [poll_cons] at h
      cases hfeed : feed tooLong future b with
      | pending next => rw [hfeed] at h; exact ih h
      | ready result => simp [hfeed, resume] at h

/-! ## Run to completion, the future is `recv` -/

theorem settle_poll_payload {n : Nat} (stream : Bytes) :
    ∀ {got : Bytes}, got.length < n →
      settle (poll tooLong (.payload n got) stream) =
        if n - got.length ≤ stream.length then
          (.ok (got ++ stream.take (n - got.length)), stream.drop (n - got.length))
        else (.error .unexpectedEof, []) := by
  induction stream with
  | nil =>
      intro got hgot
      rw [if_neg (by simp; omega)]
      rfl
  | cons b stream ih =>
      intro got hgot
      rw [poll_cons, feed]
      by_cases hmore : got.length + 1 < n
      · have hsucc : n - got.length = n - (got.length + 1) + 1 := by omega
        rw [if_pos hmore, resume, ih (by simpa using hmore), hsucc]
        simp
      · have hone : n - got.length = 1 := by omega
        rw [if_neg hmore, hone]
        simp [resume, settle]

/-- After the header there is the limit check and one last read. -/
theorem settle_resume_afterHeader (raw stream : Bytes) :
    settle (resume tooLong (afterHeader tooLong raw) stream) =
      let payloadLen :=
        (u32FromLeBytes (raw ++ List.replicate (4 - raw.length) 0) >>> 2).toNat
      if payloadLen > 64 * 1024 * 1024 then (.error (.bail (tooLong payloadLen)), stream)
      else readExact payloadLen stream := by
  simp only [afterHeader]
  split
  · rfl
  · split
    · rename_i hzero
      simp [resume, settle, readExact, hzero]
    · rename_i hpos
      rw [resume, settle_poll_payload tooLong stream (by simpa using Nat.pos_of_ne_zero hpos)]
      simp [readExact]

theorem settle_poll_header {n : Nat} (stream : Bytes) :
    ∀ {raw : Bytes}, raw.length < n →
      settle (poll tooLong (.header n raw) stream) =
        match readExact (n - raw.length) stream with
        | (.error e, rest) => (.error e, rest)
        | (.ok more, rest) => settle (resume tooLong (afterHeader tooLong (raw ++ more)) rest) := by
  induction stream with
  | nil =>
      intro raw hraw
      rw [readExact_of_length_lt (by simp; omega)]
      rfl
  | cons b stream ih =>
      intro raw hraw
      rw [poll_cons, feed]
      by_cases hmore : raw.length + 1 < n
      · have hsucc : n - raw.length = n - (raw.length + 1) + 1 := by omega
        rw [if_pos hmore, resume, ih (by simpa using hmore), hsucc]
        by_cases hlen : n - (raw.length + 1) ≤ stream.length <;> simp [readExact, hlen]
      · have hone : n - raw.length = 1 := by omega
        rw [if_neg hmore, hone]
        simp [readExact]

/-- A `recv` that is polled until the stream ends computes `recvWith`. -/
theorem settle_poll_first (stream : Bytes) :
    settle (poll tooLong .first stream) = recvWith tooLong stream := by
  cases stream with
  | nil => rfl
  | cons b stream =>
      have hfirst : readExact 1 (b :: stream) = (.ok [b], stream) := by simp [readExact]
      rw [recvWith, hfirst, poll_cons, feed]
      simp only [List.headD_cons, toNat_tag_add_one]
      by_cases htag : b.toNat % 4 + 1 > 1
      · rw [if_pos htag, if_pos htag, resume,
          settle_poll_header tooLong stream (by simpa using htag)]
        rw [List.length_singleton]
        by_cases hlen : b.toNat % 4 + 1 - 1 ≤ stream.length
        · rw [readExact, if_pos hlen]
          have hpad : ([b] ++ stream.take (b.toNat % 4 + 1 - 1)).length = b.toNat % 4 + 1 := by
            simp only [List.length_append, List.length_singleton, List.length_take]
            omega
          simp only [settle_resume_afterHeader, hpad]
        · rw [readExact, if_neg hlen]
      · have hzero : b.toNat % 4 = 0 := by omega
        rw [if_neg htag, if_neg htag, settle_resume_afterHeader]
        simp [hzero]

/-- A frame that has arrived whole makes a fresh `recv` ready with its payload. -/
theorem poll_frame {frame payload : Bytes} (F : IsFrame frame payload) (rest : Bytes) :
    poll tooLong .first (frame ++ rest) = (.ready (.ok payload), rest) := by
  have hsettle := settle_poll_first tooLong (frame ++ rest)
  rw [recvWith_frame F] at hsettle
  rcases hpoll : poll tooLong .first (frame ++ rest) with ⟨future | result, rest'⟩
  · simp [hpoll, settle] at hsettle
  · rw [hpoll, settle, Prod.mk.injEq] at hsettle
    rw [hsettle.1, hsettle.2]

end RecvFuture

end RustdeskCli.Transport
