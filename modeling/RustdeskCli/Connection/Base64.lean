import RustdeskCli.Capture.Screenshot
import RustdeskCli.Foundation.Sextets
set_option autoImplicit false

/-!
# Connection: base64 (`src/connection.rs`, `src/capture.rs`)

The program decodes base64 in two places.  `capture::base64_decode` takes groups of four
letters and counts the padding of each; `connection::base64_decode` strips the padding
first and takes what is left in chunks of at most four.  Both undo
`capture::base64_encode`, on texts of every length.
-/

namespace RustdeskCli.Connection

open RustdeskCli.Foundation
open RustdeskCli.Session
open RustdeskCli.Exec
open RustdeskCli.Capture

/-! ## The decoder of the server key -/

/-- The inner loop of `base64_decode`: the letters from the `i`-th on, or-ed into `buf`. -/
def chunkBits (i : Nat) (buf : UInt32) : Bytes → Except Error UInt32
  | [] => .ok buf
  | b :: chunk => do
      let bits ← letterValue b
      chunkBits (i + 1) (buf ||| (bits.toUInt32 <<< UInt32.ofNat (18 - 6 * i))) chunk

/-- What one chunk of at most four letters stands for. -/
def decodeChunk (chunk : Bytes) : Except Error Bytes := do
  let buf ← chunkBits 0 0 chunk
  return [(buf >>> 16).toUInt8] ++
    (if chunk.length > 2 then [(buf >>> 8).toUInt8] else []) ++
    (if chunk.length > 3 then [buf.toUInt8] else [])

/-- The outer loop of `base64_decode`, over `chunks(4)`. -/
def decodeChunks : Bytes → Except Error Bytes
  | [] => .ok []
  | a :: b :: c :: d :: rest => do
      let head ← decodeChunk [a, b, c, d]
      let tail ← decodeChunks rest
      return head ++ tail
  | chunk => decodeChunk chunk

/-- `connection::base64_decode`. -/
def base64Decode (input : Text) : Except Error Bytes :=
  decodeChunks (textBytes (input.rdropWhile (· = '=')))

/-! ## Letters -/

/-- The byte of the letter of six bits. -/
def letterByte (bits : UInt8) : UInt8 := UInt8.ofNat (letter bits).toNat

/-- A letter is one byte, which is not the padding and stands for the six bits. -/
structure IsLetter (bits : UInt8) : Prop where
  encoded : String.utf8EncodeChar (letter bits) = [letterByte bits]
  value : letterValue (letterByte bits) = .ok bits
  byte_ne_pad : letterByte bits ≠ 61
  ne_pad : letter bits ≠ '='

theorem isLetter {bits : UInt8} (h : bits.toNat < 64) : IsLetter bits := by
  have hall : ∀ n < 64, String.utf8EncodeChar (letter (UInt8.ofNat n)) =
        [letterByte (UInt8.ofNat n)] ∧
      letterValue (letterByte (UInt8.ofNat n)) = .ok (UInt8.ofNat n) ∧
      letterByte (UInt8.ofNat n) ≠ 61 ∧ letter (UInt8.ofNat n) ≠ '=' := by
    decide +kernel
  obtain ⟨hencoded, hvalue, hbyte, hpad⟩ := hall bits.toNat h
  rw [UInt8.ofNat_toNat] at hencoded hvalue hbyte hpad
  exact ⟨hencoded, hvalue, hbyte, hpad⟩

/-! ## Groups of letters -/

section Groups

variable {c0 c1 c2 c3 : UInt8}

theorem base64Group_four (h0 : IsLetter c0) (h1 : IsLetter c1) (h2 : IsLetter c2)
    (h3 : IsLetter c3) :
    base64Group (letterByte c0) (letterByte c1) (letterByte c2) (letterByte c3) =
      .ok [(sextetWord c0 c1 c2 c3 >>> 16).toUInt8, (sextetWord c0 c1 c2 c3 >>> 8).toUInt8,
        (sextetWord c0 c1 c2 c3).toUInt8] := by
  simp [base64Group, letterOrPad, h0.value, h1.value, h2.value, h3.value, h2.byte_ne_pad,
    h3.byte_ne_pad, and_byte_mask, bind, Except.bind, pure, Except.pure, sextetWord]

theorem base64Group_three (h0 : IsLetter c0) (h1 : IsLetter c1) (h2 : IsLetter c2) :
    base64Group (letterByte c0) (letterByte c1) (letterByte c2) 61 =
      .ok [(sextetWord c0 c1 c2 0 >>> 16).toUInt8, (sextetWord c0 c1 c2 0 >>> 8).toUInt8] := by
  simp [base64Group, letterOrPad, h0.value, h1.value, h2.value, h2.byte_ne_pad,
    and_byte_mask, bind, Except.bind, pure, Except.pure, sextetWord]

theorem base64Group_two (h0 : IsLetter c0) (h1 : IsLetter c1) :
    base64Group (letterByte c0) (letterByte c1) 61 61 =
      .ok [(sextetWord c0 c1 0 0 >>> 16).toUInt8] := by
  simp [base64Group, letterOrPad, h0.value, h1.value, h1.byte_ne_pad, and_byte_mask, bind,
    Except.bind, pure, Except.pure, sextetWord]

theorem decodeChunk_four (h0 : IsLetter c0) (h1 : IsLetter c1) (h2 : IsLetter c2)
    (h3 : IsLetter c3) :
    decodeChunk [letterByte c0, letterByte c1, letterByte c2, letterByte c3] =
      .ok [(sextetWord c0 c1 c2 c3 >>> 16).toUInt8, (sextetWord c0 c1 c2 c3 >>> 8).toUInt8,
        (sextetWord c0 c1 c2 c3).toUInt8] := by
  simp [decodeChunk, chunkBits, h0.value, h1.value, h2.value, h3.value, bind, Except.bind, pure,
    Except.pure, sextetWord]

theorem decodeChunk_three (h0 : IsLetter c0) (h1 : IsLetter c1) (h2 : IsLetter c2) :
    decodeChunk [letterByte c0, letterByte c1, letterByte c2] =
      .ok [(sextetWord c0 c1 c2 0 >>> 16).toUInt8, (sextetWord c0 c1 c2 0 >>> 8).toUInt8] := by
  simp [decodeChunk, chunkBits, h0.value, h1.value, h2.value, bind, Except.bind, pure,
    Except.pure, sextetWord]

theorem decodeChunk_two (h0 : IsLetter c0) (h1 : IsLetter c1) :
    decodeChunk [letterByte c0, letterByte c1] =
      .ok [(sextetWord c0 c1 0 0 >>> 16).toUInt8] := by
  simp [decodeChunk, chunkBits, h0.value, h1.value, bind, Except.bind, pure, Except.pure,
    sextetWord]

end Groups

/-! ## Whole texts -/

/-- The sextets of three bytes have letters. -/
theorem isLetter_sextets (b0 b1 b2 : UInt8) :
    IsLetter (b0 >>> 2) ∧ IsLetter (((b0 &&& 0x03) <<< 4) ||| (b1 >>> 4)) ∧
      IsLetter (((b1 &&& 0x0f) <<< 2) ||| (b2 >>> 6)) ∧ IsLetter (b2 &&& 0x3f) := by
  obtain ⟨h0, h1, h2, h3⟩ := sextets_lt b0 b1 b2
  exact ⟨isLetter h0, isLetter h1, isLetter h2, isLetter h3⟩

/-- Two bytes, as if a zero byte followed. -/
theorem isLetter_two_bytes (b0 b1 : UInt8) :
    IsLetter (b0 >>> 2) ∧ IsLetter (((b0 &&& 0x03) <<< 4) ||| (b1 >>> 4)) ∧
      IsLetter ((b1 &&& 0x0f) <<< 2) := by
  obtain ⟨h0, h1, h2, -⟩ := isLetter_sextets b0 b1 0
  exact ⟨h0, h1, by simpa using h2⟩

/-- One byte, as if two zero bytes followed. -/
theorem isLetter_one_byte (b0 : UInt8) :
    IsLetter (b0 >>> 2) ∧ IsLetter ((b0 &&& 0x03) <<< 4) := by
  obtain ⟨h0, h1, -⟩ := isLetter_sextets b0 0 0
  exact ⟨h0, by simpa using h1⟩

theorem wordBytes_two_bytes (b0 b1 : UInt8) :
    let n := sextetWord (b0 >>> 2) (((b0 &&& 0x03) <<< 4) ||| (b1 >>> 4))
      ((b1 &&& 0x0f) <<< 2) 0
    (n >>> 16).toUInt8 = b0 ∧ (n >>> 8).toUInt8 = b1 := by
  obtain ⟨h0, h1, -⟩ := wordBytes_sextets b0 b1 0
  simp only [UInt8.zero_shiftRight, UInt8.or_zero, UInt8.zero_and] at h0 h1
  exact ⟨h0, h1⟩

theorem wordBytes_one_byte (b0 : UInt8) :
    (sextetWord (b0 >>> 2) ((b0 &&& 0x03) <<< 4) 0 0 >>> 16).toUInt8 = b0 := by
  obtain ⟨h0, -⟩ := wordBytes_sextets b0 0 0
  simpa using h0

theorem textBytes_letter {bits : UInt8} (h : IsLetter bits) (text : Text) :
    textBytes (letter bits :: text) = letterByte bits :: textBytes text := by
  rw [textBytes_cons, h.encoded, List.singleton_append]

theorem textBytes_pad (text : Text) : textBytes ('=' :: text) = 61 :: textBytes text := by
  rw [textBytes_cons]
  rfl

theorem textBytes_nil : textBytes [] = [] := by
  rw [textBytes_eq, List.flatMap_nil]

/-- Groups of four letters give the bytes back. -/
theorem base64Groups_encode (x : Bytes) : base64Groups (textBytes (base64Encode x)) = .ok x := by
  fun_induction base64Encode x with
  | case1 =>
      rw [textBytes_nil]
      rfl
  | case2 b0 =>
      obtain ⟨h0, h1⟩ := isLetter_one_byte b0
      rw [textBytes_letter h0, textBytes_letter h1, textBytes_pad, textBytes_pad, textBytes_nil,
        base64Groups, base64Group_two h0 h1, wordBytes_one_byte]
      rfl
  | case3 b0 b1 =>
      obtain ⟨h0, h1, h2⟩ := isLetter_two_bytes b0 b1
      obtain ⟨hb0, hb1⟩ := wordBytes_two_bytes b0 b1
      rw [textBytes_letter h0, textBytes_letter h1, textBytes_letter h2, textBytes_pad,
        textBytes_nil, base64Groups, base64Group_three h0 h1 h2, hb0, hb1]
      rfl
  | case4 b0 b1 b2 rest ih =>
      obtain ⟨h0, h1, h2, h3⟩ := isLetter_sextets b0 b1 b2
      obtain ⟨hb0, hb1, hb2⟩ := wordBytes_sextets b0 b1 b2
      rw [textBytes_letter h0, textBytes_letter h1, textBytes_letter h2, textBytes_letter h3,
        base64Groups, base64Group_four h0 h1 h2 h3, hb0, hb1, hb2, ih]
      rfl

/-- Four letters for every three bytes, begun or complete. -/
theorem length_base64Encode (x : Bytes) :
    (base64Encode x).length = 4 * ((x.length + 2) / 3) ∧
      (textBytes (base64Encode x)).length = (base64Encode x).length := by
  fun_induction base64Encode x with
  | case1 =>
      rw [textBytes_nil]
      exact ⟨rfl, rfl⟩
  | case2 b0 =>
      obtain ⟨h0, h1⟩ := isLetter_one_byte b0
      rw [textBytes_letter h0, textBytes_letter h1, textBytes_pad, textBytes_pad, textBytes_nil]
      simp
  | case3 b0 b1 =>
      obtain ⟨h0, h1, h2⟩ := isLetter_two_bytes b0 b1
      rw [textBytes_letter h0, textBytes_letter h1, textBytes_letter h2, textBytes_pad,
        textBytes_nil]
      simp
  | case4 b0 b1 b2 rest ih =>
      obtain ⟨h0, h1, h2, h3⟩ := isLetter_sextets b0 b1 b2
      rw [textBytes_letter h0, textBytes_letter h1, textBytes_letter h2, textBytes_letter h3]
      simp only [List.length_cons, ih.2, and_true]
      rw [ih.1]
      omega

/-! ## Without the padding -/

/-- The text of `base64_encode` without its padding. -/
def letters : Bytes → Text
  | [] => []
  | [b0] => [letter (b0 >>> 2), letter ((b0 &&& 0x03) <<< 4)]
  | [b0, b1] =>
      [letter (b0 >>> 2), letter (((b0 &&& 0x03) <<< 4) ||| (b1 >>> 4)),
        letter ((b1 &&& 0x0f) <<< 2)]
  | b0 :: b1 :: b2 :: rest =>
      letter (b0 >>> 2) :: letter (((b0 &&& 0x03) <<< 4) ||| (b1 >>> 4)) ::
        letter (((b1 &&& 0x0f) <<< 2) ||| (b2 >>> 6)) :: letter (b2 &&& 0x3f) :: letters rest

theorem base64Encode_eq_letters (x : Bytes) :
    ∃ pad, base64Encode x = letters x ++ List.replicate pad '=' := by
  fun_induction letters x with
  | case1 => exact ⟨0, rfl⟩
  | case2 b0 => exact ⟨2, rfl⟩
  | case3 b0 b1 => exact ⟨1, rfl⟩
  | case4 b0 b1 b2 rest ih =>
      obtain ⟨pad, ih⟩ := ih
      exact ⟨pad, by rw [base64Encode, ih]; rfl⟩

theorem pad_not_mem_letters (x : Bytes) : '=' ∉ letters x := by
  fun_induction letters x with
  | case1 => exact List.not_mem_nil
  | case2 b0 =>
      obtain ⟨h0, h1⟩ := isLetter_one_byte b0
      simp [h0.ne_pad.symm, h1.ne_pad.symm]
  | case3 b0 b1 =>
      obtain ⟨h0, h1, h2⟩ := isLetter_two_bytes b0 b1
      simp [h0.ne_pad.symm, h1.ne_pad.symm, h2.ne_pad.symm]
  | case4 b0 b1 b2 rest ih =>
      obtain ⟨h0, h1, h2, h3⟩ := isLetter_sextets b0 b1 b2
      simp [h0.ne_pad.symm, h1.ne_pad.symm, h2.ne_pad.symm, h3.ne_pad.symm, ih]

/-- `trim_end_matches('=')` takes the padding away and no letter. -/
theorem trim_base64Encode (x : Bytes) : (base64Encode x).rdropWhile (· = '=') = letters x := by
  obtain ⟨pad, hpad⟩ := base64Encode_eq_letters x
  rw [hpad, Text.rdropWhile_append_of_forall (by simp), List.rdropWhile_eq_self_iff]
  intro hne hlast
  apply pad_not_mem_letters x
  rw [← of_decide_eq_true hlast]
  exact List.getLast_mem hne

/-- Chunks of at most four letters give the bytes back. -/
theorem decodeChunks_letters (x : Bytes) : decodeChunks (textBytes (letters x)) = .ok x := by
  fun_induction letters x with
  | case1 => rw [textBytes_nil, decodeChunks]
  | case2 b0 =>
      obtain ⟨h0, h1⟩ := isLetter_one_byte b0
      rw [textBytes_letter h0, textBytes_letter h1, textBytes_nil]
      exact (decodeChunk_two h0 h1).trans (by rw [wordBytes_one_byte])
  | case3 b0 b1 =>
      obtain ⟨h0, h1, h2⟩ := isLetter_two_bytes b0 b1
      obtain ⟨hb0, hb1⟩ := wordBytes_two_bytes b0 b1
      rw [textBytes_letter h0, textBytes_letter h1, textBytes_letter h2, textBytes_nil]
      exact (decodeChunk_three h0 h1 h2).trans (by rw [hb0, hb1])
  | case4 b0 b1 b2 rest ih =>
      obtain ⟨h0, h1, h2, h3⟩ := isLetter_sextets b0 b1 b2
      obtain ⟨hb0, hb1, hb2⟩ := wordBytes_sextets b0 b1 b2
      rw [textBytes_letter h0, textBytes_letter h1, textBytes_letter h2, textBytes_letter h3,
        decodeChunks, decodeChunk_four h0 h1 h2 h3, hb0, hb1, hb2, ih]
      rfl

/-- Base64 of every byte string has four letters for every three bytes, and both decoders of
the program give the byte string back. -/
theorem base64_round_trip (x : Bytes) :
    (base64Encode x).length = 4 * ((x.length + 2) / 3) ∧
      (textBytes (base64Encode x)).length = 4 * ((x.length + 2) / 3) ∧
      Capture.base64Decode (base64Encode x) = .ok x ∧
      Connection.base64Decode (base64Encode x) = .ok x := by
  obtain ⟨hlength, hbytes⟩ := length_base64Encode x
  refine ⟨hlength, hbytes.trans hlength, ?_, ?_⟩
  · have hfour : ¬(textBytes (base64Encode x)).length % 4 ≠ 0 := by
      rw [hbytes, hlength]
      omega
    simp only [Capture.base64Decode]
    rw [if_neg hfour, base64Groups_encode]
  · rw [Connection.base64Decode, trim_base64Encode, decodeChunks_letters]

end RustdeskCli.Connection
