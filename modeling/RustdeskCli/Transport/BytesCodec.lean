import RustdeskCli.Foundation.Bytes
set_option autoImplicit false

/-!
# Transport: BytesCodec framing (`src/transport.rs`, `src/rendezvous.rs`)

A frame is a little-endian header of one to four bytes followed by the payload.
The low two bits of the first byte are the header length minus one; the header
value shifted right by two is the payload length.  The source carries the codec
twice, as `FramedTransport::{send, recv}` and as the free functions
`bytescodec_send` / `bytescodec_recv`; the two copies differ in their error texts
only, so both are the same definition at their own texts.

The two limits of the codec differ on purpose: the encoder writes any length the
header can carry (`0x3FFFFFFF`), the decoder refuses to allocate more than 64 MiB.
-/

namespace RustdeskCli.Transport

open RustdeskCli.Foundation

/-- Why a codec call failed. -/
inductive CodecError where
  /-- `bail!` with its text -/
  | bail (text : String)
  /-- `read_exact` met the end of the stream -/
  | unexpectedEof
  deriving DecidableEq, Repr

/-- The largest payload length a header can carry. -/
def maxPayload : Nat := 0x3FFFFFFF

/-- The decoder's safety limit, `64 * 1024 * 1024`. -/
def recvLimit : Nat := 64 * 1024 * 1024

/-! ## The encoder -/

/-- The header `send` writes for a payload of `len` bytes, or `none` where it
bails.  The casts `as u8`, `as u16`, `as u32` truncate, as `ofNat` does. -/
def encodeHeader (len : Nat) : Option Bytes :=
  if len ≤ 0x3F then
    some [(UInt8.ofNat len <<< 2) ||| 0b00]
  else if len ≤ 0x3FFF then
    some (u16ToLeBytes ((UInt16.ofNat len <<< 2) ||| 0b01))
  else if len ≤ 0x3FFFFF then
    -- written as a u32 of which only the first three bytes go out
    some ((u32ToLeBytes ((UInt32.ofNat len <<< 2) ||| 0b10)).take 3)
  else if len ≤ 0x3FFFFFFF then
    some (u32ToLeBytes ((UInt32.ofNat len <<< 2) ||| 0b11))
  else
    none

/-- `send`: append the frame of `msg` to what has been `written` so far. -/
def sendWith (tooLarge : Nat → String) (msg written : Bytes) :
    Except CodecError Unit × Bytes :=
  match encodeHeader msg.length with
  | none => (.error (.bail (tooLarge msg.length)), written)
  | some header => (.ok (), written ++ header ++ msg)

/-- The text with which `FramedTransport::send` refuses a payload. -/
def FramedTransport.tooLargeText (len : Nat) : String :=
  s!"payload too large for BytesCodec: {len} bytes"

/-- `FramedTransport::send`. -/
def FramedTransport.send (msg written : Bytes) : Except CodecError Unit × Bytes :=
  sendWith FramedTransport.tooLargeText msg written

/-- The text with which `bytescodec_send` refuses a payload. -/
def bytescodecTooLargeText (len : Nat) : String :=
  s!"bytescodec_send: payload too large: {len} bytes"

/-- `bytescodec_send`. -/
def bytescodecSend (msg written : Bytes) : Except CodecError Unit × Bytes :=
  sendWith bytescodecTooLargeText msg written

/-! ## The decoder -/

/-- `AsyncReadExt::read_exact` of `n` bytes on a stream that ends after `stream`.
At the end of the stream the bytes read so far are gone. -/
def readExact (n : Nat) (stream : Bytes) : Except CodecError Bytes × Bytes :=
  if n ≤ stream.length then (.ok (stream.take n), stream.drop n)
  else (.error .unexpectedEof, [])

/-- `recv`: read one frame off the stream and hand back what is left of it. -/
def recvWith (tooLong : Nat → String) (stream : Bytes) :
    Except CodecError Bytes × Bytes :=
  match readExact 1 stream with
  | (.error e, rest) => (.error e, rest)
  | (.ok first, rest) =>
      let tag := first.headD 0 &&& 0x03
      let headerLen := (tag + 1).toNat
      match (if headerLen > 1 then readExact (headerLen - 1) rest else (.ok [], rest)) with
      | (.error e, rest) => (.error e, rest)
      | (.ok more, rest) =>
          let raw := first ++ more ++ List.replicate (4 - headerLen) 0
          let combined := u32FromLeBytes raw
          let payloadLen := (combined >>> 2).toNat
          if payloadLen > 64 * 1024 * 1024 then
            (.error (.bail (tooLong payloadLen)), rest)
          else
            readExact payloadLen rest

/-- The text of `FramedTransport::recv`'s size-limit error. -/
def FramedTransport.limitText (payloadLen : Nat) : String :=
  s!"payload length {payloadLen} exceeds 64 MiB safety limit"

/-- `FramedTransport::recv`. -/
def FramedTransport.recv (stream : Bytes) : Except CodecError Bytes × Bytes :=
  recvWith FramedTransport.limitText stream

/-- The text of `bytescodec_recv`'s size-limit error. -/
def bytescodecLimitText (payloadLen : Nat) : String :=
  s!"bytescodec_recv: payload {payloadLen} exceeds 64 MiB limit"

/-- `bytescodec_recv`. -/
def bytescodecRecv (stream : Bytes) : Except CodecError Bytes × Bytes :=
  recvWith bytescodecLimitText stream

/-! ## The wire grammar

`IsHeader h n` is the doc comment of `FramedTransport` as a relation: it mentions
neither the encoder nor the decoder. -/

/-- `h` is a header that announces a payload of `n` bytes. -/
structure IsHeader (h : Bytes) (n : Nat) : Prop where
  tag : h.length = (h.headD 0).toNat % 4 + 1
  value : leValue h / 4 = n

/-- A header is one to four bytes long. -/
theorem IsHeader.length_bounds {h : Bytes} {n : Nat} (H : IsHeader h n) :
    1 ≤ h.length ∧ h.length ≤ 4 := by
  have := H.tag
  omega

/-- A header split at its first byte. -/
theorem IsHeader.exists_cons {h : Bytes} {n : Nat} (H : IsHeader h n) :
    ∃ b more, h = b :: more ∧ more.length = b.toNat % 4 := by
  cases h with
  | nil => simpa using H.length_bounds.1
  | cons b more => exact ⟨b, more, rfl, by simpa using H.tag⟩

/-- A frame the decoder accepts: a header and the payload it announces. -/
structure IsFrame (frame payload : Bytes) : Prop where
  split : ∃ h, frame = h ++ payload ∧ IsHeader h payload.length
  limit : payload.length ≤ recvLimit

theorem IsFrame.length_pos {frame payload : Bytes} (F : IsFrame frame payload) :
    1 ≤ frame.length := by
  obtain ⟨h, rfl, H⟩ := F.split
  have := H.length_bounds
  simp only [List.length_append]
  omega

/-! ## The encoder writes headers of the grammar -/

theorem toNat_shl_or_u8 {len : Nat} (h : len ≤ 0x3F) :
    ((UInt8.ofNat len <<< 2) ||| 0b00).toNat = 4 * len := by
  simp only [UInt8.toNat_or, UInt8.toNat_shiftLeft, UInt8.toNat_ofNat', UInt8.reduceToNat]
  rw [Nat.mod_eq_of_lt (by omega : len < 2 ^ 8)]
  norm_num [Nat.shiftLeft_eq]
  omega

theorem toNat_shl_or_u16 {len : Nat} (h : len ≤ 0x3FFF) :
    ((UInt16.ofNat len <<< 2) ||| 0b01).toNat = 4 * len + 1 := by
  simp only [UInt16.toNat_or, UInt16.toNat_shiftLeft, UInt16.toNat_ofNat', UInt16.reduceToNat]
  rw [Nat.mod_eq_of_lt (by omega : len < 2 ^ 16), Nat.mod_eq_of_lt (by
    norm_num [Nat.shiftLeft_eq]; omega)]
  have hor := Nat.shiftLeft_add_eq_or_of_lt (by decide : 1 < 2 ^ 2) len
  norm_num [Nat.shiftLeft_eq] at hor ⊢
  omega

theorem toNat_shl_or_u32 {len tag : Nat} (h : len ≤ 0x3FFFFFFF) (htag : tag < 4) :
    ((UInt32.ofNat len <<< 2) ||| UInt32.ofNat tag).toNat = 4 * len + tag := by
  simp only [UInt32.toNat_or, UInt32.toNat_shiftLeft, UInt32.toNat_ofNat', UInt32.reduceToNat]
  rw [Nat.mod_eq_of_lt (by omega : len < 2 ^ 32), Nat.mod_eq_of_lt (by omega : tag < 2 ^ 32),
    Nat.mod_eq_of_lt (by norm_num [Nat.shiftLeft_eq]; omega)]
  have hor := Nat.shiftLeft_add_eq_or_of_lt (by omega : tag < 2 ^ 2) len
  norm_num [Nat.shiftLeft_eq] at hor ⊢
  omega

/-- Every length up to `maxPayload` gets a header, and that header announces it. -/
theorem encodeHeader_isHeader {len : Nat} (h : len ≤ maxPayload) :
    ∃ header, encodeHeader len = some header ∧ IsHeader header len := by
  unfold maxPayload at h
  unfold encodeHeader
  by_cases h1 : len ≤ 0x3F
  · refine ⟨_, if_pos h1, ?_, ?_⟩
    · simp only [List.length_singleton, List.headD_cons, toNat_shl_or_u8 h1]
      omega
    · simp only [leValue_cons, leValue_nil, toNat_shl_or_u8 h1]
      omega
  rw [if_neg h1]
  by_cases h2 : len ≤ 0x3FFF
  · have hv := toNat_shl_or_u16 h2
    refine ⟨_, if_pos h2, ?_, ?_⟩
    · simp only [length_u16ToLeBytes]
      simp only [u16ToLeBytes, List.headD_cons, UInt16.toNat_toUInt8, hv]
      omega
    · rw [leValue_u16ToLeBytes, hv]
      omega
  rw [if_neg h2]
  by_cases h3 : len ≤ 0x3FFFFF
  · have hv : ((UInt32.ofNat len <<< 2) ||| 0b10).toNat = 4 * len + 2 :=
      toNat_shl_or_u32 h (by decide)
    refine ⟨_, if_pos h3, ?_, ?_⟩
    · simp only [List.length_take, length_u32ToLeBytes]
      simp only [u32ToLeBytes, List.take_succ_cons, List.headD_cons, UInt32.toNat_toUInt8, hv]
      omega
    · rw [leValue_take_three_u32ToLeBytes (by omega), hv]
      omega
  · have hv : ((UInt32.ofNat len <<< 2) ||| 0b11).toNat = 4 * len + 3 :=
      toNat_shl_or_u32 h (by decide)
    rw [if_neg h3]
    refine ⟨_, if_pos h, ?_, ?_⟩
    · simp only [length_u32ToLeBytes]
      simp only [u32ToLeBytes, List.headD_cons, UInt32.toNat_toUInt8, hv]
      omega
    · rw [leValue_u32ToLeBytes, hv]
      omega

theorem encodeHeader_eq_none_iff (len : Nat) : encodeHeader len = none ↔ maxPayload < len := by
  constructor
  · intro h
    by_contra hle
    obtain ⟨header, hsome, _⟩ := encodeHeader_isHeader (Nat.le_of_not_lt hle)
    simp [h] at hsome
  · intro h
    unfold maxPayload at h
    unfold encodeHeader
    rw [if_neg (by omega), if_neg (by omega), if_neg (by omega), if_neg (by omega)]

/-! ## The decoder accepts frames of the grammar -/

theorem readExact_append (xs rest : Bytes) :
    readExact xs.length (xs ++ rest) = (.ok xs, rest) := by
  simp [readExact]

theorem readExact_of_length_lt {n : Nat} {stream : Bytes} (h : stream.length < n) :
    readExact n stream = (.error .unexpectedEof, []) := by
  simp [readExact, Nat.not_le_of_lt h]

/-- The header length the decoder computes from the first byte. -/
theorem toNat_tag_add_one (b : UInt8) : ((b &&& 0x03) + 1).toNat = b.toNat % 4 + 1 := by
  have htag : (b &&& 0x03).toNat = b.toNat % 4 := by
    rw [UInt8.toNat_and]
    exact Nat.and_two_pow_sub_one_eq_mod b.toNat 2
  rw [UInt8.toNat_add, htag]
  simp only [UInt8.reduceToNat]
  omega

/-- The payload length the decoder computes from the bytes of a header. -/
theorem toNat_payloadLen {h : Bytes} {n : Nat} (H : IsHeader h n) :
    (u32FromLeBytes (h ++ List.replicate (4 - h.length) 0) >>> 2).toNat = n := by
  have hlen := H.length_bounds
  rw [UInt32.toNat_shiftRight, toNat_u32FromLeBytes (by simp; omega), leValue_append_zeros]
  simpa [Nat.shiftRight_eq_div_pow] using H.value

/-- After a complete header the decoder is left with the limit check and one
last read. -/
theorem recvWith_header {h : Bytes} {n : Nat} (H : IsHeader h n)
    (tooLong : Nat → String) (rest : Bytes) :
    recvWith tooLong (h ++ rest) =
      if n > recvLimit then (.error (.bail (tooLong n)), rest) else readExact n rest := by
  have hlimit : recvLimit = 64 * 1024 * 1024 := rfl
  have hlen := toNat_payloadLen H
  obtain ⟨b, more, rfl, hmore⟩ := H.exists_cons
  have hread : (if b.toNat % 4 + 1 > 1 then readExact (b.toNat % 4 + 1 - 1) (more ++ rest)
      else (.ok [], more ++ rest)) = (.ok more, rest) := by
    by_cases hb : b.toNat % 4 = 0
    · have : more = [] := List.eq_nil_of_length_eq_zero (by omega)
      simp [hb, this]
    · rw [if_pos (by omega), Nat.add_sub_cancel, ← hmore, readExact_append]
  have hpad : 4 - (b.toNat % 4 + 1) = 4 - (b :: more).length := by simp [hmore]
  have hfirst : readExact 1 (b :: more ++ rest) = (.ok [b], more ++ rest) := by
    simp [readExact]
  rw [recvWith, hfirst]
  simp only [List.headD_cons, toNat_tag_add_one, hread, List.singleton_append, hpad, hlen,
    ← hlimit]

/-- The decoder returns the payload of a frame and leaves exactly the rest. -/
theorem recvWith_frame {frame payload : Bytes} (F : IsFrame frame payload)
    (tooLong : Nat → String) (rest : Bytes) :
    recvWith tooLong (frame ++ rest) = (.ok payload, rest) := by
  obtain ⟨h, rfl, H⟩ := F.split
  rw [List.append_assoc, recvWith_header H, if_neg (Nat.not_lt.mpr F.limit), readExact_append]

/-! ## One send, one receive -/

/-- `send` writes a frame of the grammar, and nothing when it refuses. -/
theorem sendWith_eq (tooLarge : Nat → String) (msg written : Bytes) :
    (msg.length ≤ maxPayload ∧ ∃ header, IsHeader header msg.length ∧
      sendWith tooLarge msg written = (.ok (), written ++ (header ++ msg))) ∨
    (maxPayload < msg.length ∧
      sendWith tooLarge msg written = (.error (.bail (tooLarge msg.length)), written)) := by
  by_cases h : msg.length ≤ maxPayload
  · obtain ⟨header, hsome, hheader⟩ := encodeHeader_isHeader h
    exact .inl ⟨h, header, hheader, by simp [sendWith, hsome]⟩
  · have hnone := (encodeHeader_eq_none_iff msg.length).mpr (Nat.lt_of_not_le h)
    exact .inr ⟨Nat.lt_of_not_le h, by simp [sendWith, hnone]⟩

/-- `send` succeeds exactly on the lengths a header can carry. -/
theorem sendWith_ok_iff (tooLarge : Nat → String) (msg written : Bytes) :
    (sendWith tooLarge msg written).1 = .ok () ↔ msg.length ≤ maxPayload := by
  rcases sendWith_eq tooLarge msg written with ⟨hle, header, _, heq⟩ | ⟨hlt, heq⟩
  · simp [heq, hle]
  · simp [heq, Nat.not_le_of_lt hlt]

/-- A payload within the receive limit goes out as one frame of the grammar. -/
theorem sendWith_frame (tooLarge : Nat → String) {msg : Bytes} (written : Bytes)
    (h : msg.length ≤ recvLimit) :
    ∃ frame, IsFrame frame msg ∧
      sendWith tooLarge msg written = (.ok (), written ++ frame) := by
  rcases sendWith_eq tooLarge msg written with ⟨_, header, hheader, heq⟩ | ⟨hlt, _⟩
  · exact ⟨header ++ msg, ⟨⟨header, rfl, hheader⟩, h⟩, heq⟩
  · have : recvLimit ≤ maxPayload := by decide
    omega

end RustdeskCli.Transport
