import RustdeskCli.Connection.Base64
import RustdeskCli.Foundation.ByteOffsets
set_option autoImplicit false

/-!
# Capture: which texts the base64 decoder takes (`src/capture.rs`)

`base64_decode` looks at each group of four letters by itself.  Two letters have to come
first; in the third and the fourth place it takes padding for zero bits, wherever the
group stands and whatever is padded, and it does not look at the bits that the padding
leaves over.  What `base64_encode` writes has padding at the end of the last group only,
and zero bits under it.
-/

namespace RustdeskCli.Capture

open RustdeskCli.Foundation
open RustdeskCli.Session
open RustdeskCli.Exec
open RustdeskCli.Connection

/-! ## Two readings of a text -/

/-- The byte is a letter of the alphabet. -/
def isLetterByte (c : UInt8) : Bool :=
  match letterValue c with
  | .ok _ => true
  | .error _ => false

/-- The six bits of a letter. -/
def bitsOf (c : UInt8) : Nat :=
  match letterValue c with
  | .ok bits => bits.toNat
  | .error _ => 0

/-- Groups of four, each of two letters and two more that may be padding. -/
def wellLettered : Bytes → Bool
  | [] => true
  | [_] => false
  | [_, _] => false
  | [_, _, _] => false
  | a :: b :: c :: d :: rest =>
      isLetterByte a && isLetterByte b && (isLetterByte c || c = 61) && (isLetterByte d || d = 61) &&
        wellLettered rest

/-- One letter or two are missing at the end of the group, and the letter before them has no
bits below what it completes. -/
def paddedGroup (a b c d : UInt8) : Bool :=
  isLetterByte a && isLetterByte b && d = 61 &&
    (isLetterByte c && bitsOf c % 4 = 0 || c = 61 && bitsOf b % 16 = 0)

/-- Groups of four letters; only the last one may be padded. -/
def canonical : Bytes → Bool
  | [] => true
  | [_] => false
  | [_, _] => false
  | [_, _, _] => false
  | a :: b :: c :: d :: rest =>
      (isLetterByte a && isLetterByte b && isLetterByte c && isLetterByte d && canonical rest) ||
        (rest.isEmpty && paddedGroup a b c d)

/-! ## Letters -/

theorem letterValue_eq_ok {a bits : UInt8} (h : letterValue a = .ok bits) :
    bits.toNat < 64 ∧ letterByte bits = a := by
  have hall : ∀ n < 256, ((letterValue (UInt8.ofNat n)).toOption.all fun bits =>
      decide (bits.toNat < 64 ∧ letterByte bits = UInt8.ofNat n)) = true := by
    decide +kernel
  have ha := hall a.toNat a.toNat_lt
  rw [UInt8.ofNat_toNat, h] at ha
  exact of_decide_eq_true ha

/-- A letter of the alphabet is the letter of its bits. -/
theorem exists_letter {a : UInt8} (h : isLetterByte a = true) :
    ∃ bits, a = letterByte bits ∧ IsLetter bits ∧ bits.toNat < 64 ∧ bitsOf a = bits.toNat := by
  unfold isLetterByte at h
  split at h
  · rename_i bits hbits
    obtain ⟨hlt, hbyte⟩ := letterValue_eq_ok hbits
    exact ⟨bits, hbyte.symm, isLetter hlt, hlt, by simp only [bitsOf, hbits]⟩
  · cases h

theorem isLetterByte_letterByte {bits : UInt8} (h : IsLetter bits) :
    isLetterByte (letterByte bits) = true := by
  simp only [isLetterByte, h.value]

theorem bitsOf_letterByte {bits : UInt8} (h : IsLetter bits) :
    bitsOf (letterByte bits) = bits.toNat := by
  simp only [bitsOf, h.value]

/-! ## What the decoder takes -/

theorem letterOrPad_isOk (c : UInt8) :
    (∃ bits, letterOrPad c = .ok bits) ↔ (isLetterByte c || c = 61) = true := by
  unfold letterOrPad isLetterByte
  by_cases hpad : c = 61
  · simp [hpad]
  · cases letterValue c with
    | ok bits => simp [hpad]
    | error e => simp [hpad]

theorem letterValue_isOk (c : UInt8) :
    (∃ bits, letterValue c = .ok bits) ↔ isLetterByte c = true := by
  unfold isLetterByte
  cases letterValue c with
  | ok bits => simp
  | error e => simp

/-- A bind is successful when both of its parts are. -/
theorem exists_bind_eq_ok {α β : Type} {e : Except Error α} {f : α → Except Error β} :
    (∃ y, (e >>= f) = .ok y) ↔ ∃ x, e = .ok x ∧ ∃ y, f x = .ok y := by
  cases e with
  | error e =>
      constructor
      · rintro ⟨y, hy⟩
        cases hy
      · rintro ⟨x, hx, -⟩
        cases hx
  | ok x =>
      constructor
      · rintro ⟨y, hy⟩
        exact ⟨x, rfl, y, hy⟩
      · rintro ⟨x', hx, y, hy⟩
        obtain rfl := Except.ok.inj hx
        exact ⟨y, hy⟩

theorem base64Group_isOk (a b c d : UInt8) :
    (∃ x, base64Group a b c d = .ok x) ↔
      isLetterByte a = true ∧ isLetterByte b = true ∧ (isLetterByte c || c = 61) = true ∧
        (isLetterByte d || d = 61) = true := by
  unfold base64Group
  rw [← letterValue_isOk a, ← letterValue_isOk b, ← letterOrPad_isOk c, ← letterOrPad_isOk d,
    exists_bind_eq_ok]
  constructor
  · rintro ⟨c0, h0, hrest⟩
    obtain ⟨c1, h1, hrest⟩ := exists_bind_eq_ok.mp hrest
    obtain ⟨c2, h2, hrest⟩ := exists_bind_eq_ok.mp hrest
    obtain ⟨c3, h3, -⟩ := exists_bind_eq_ok.mp hrest
    exact ⟨⟨c0, h0⟩, ⟨c1, h1⟩, ⟨c2, h2⟩, ⟨c3, h3⟩⟩
  · rintro ⟨⟨c0, h0⟩, ⟨c1, h1⟩, ⟨c2, h2⟩, ⟨c3, h3⟩⟩
    refine ⟨c0, h0, exists_bind_eq_ok.mpr ⟨c1, h1, ?_⟩⟩
    refine exists_bind_eq_ok.mpr ⟨c2, h2, exists_bind_eq_ok.mpr ⟨c3, h3, ?_⟩⟩
    exact ⟨_, rfl⟩

theorem length_of_wellLettered {bytes : Bytes} (h : wellLettered bytes = true) :
    bytes.length % 4 = 0 := by
  fun_induction wellLettered bytes with
  | case1 => rfl
  | case2 | case3 | case4 => cases h
  | case5 a b c d rest ih =>
      simp only [Bool.and_eq_true] at h
      have hrest := ih h.2
      simp only [List.length_cons]
      omega

theorem base64Groups_isOk {bytes : Bytes} (hlen : bytes.length % 4 = 0) :
    (∃ x, base64Groups bytes = .ok x) ↔ wellLettered bytes = true := by
  fun_induction wellLettered bytes with
  | case1 => exact ⟨fun _ => rfl, fun _ => ⟨[], rfl⟩⟩
  -- one, two or three bytes are left over
  | case2 | case3 | case4 => simp at hlen
  | case5 a b c d rest ih =>
      have hrest : rest.length % 4 = 0 := by
        simp only [List.length_cons] at hlen
        omega
      rw [base64Groups, exists_bind_eq_ok]
      simp only [Bool.and_eq_true]
      rw [and_assoc, and_assoc, and_assoc, ← ih hrest]
      constructor
      · rintro ⟨head, hhead, hrest⟩
        obtain ⟨tail, htail, -⟩ := exists_bind_eq_ok.mp hrest
        obtain ⟨ha, hb, hc, hd⟩ := (base64Group_isOk a b c d).mp ⟨head, hhead⟩
        exact ⟨ha, hb, hc, hd, tail, htail⟩
      · rintro ⟨ha, hb, hc, hd, tail, htail⟩
        obtain ⟨head, hhead⟩ := (base64Group_isOk a b c d).mpr ⟨ha, hb, hc, hd⟩
        exact ⟨head, hhead, exists_bind_eq_ok.mpr ⟨tail, htail, _, rfl⟩⟩

theorem base64Decode_isOk (s : Text) :
    (∃ x, base64Decode s = .ok x) ↔ wellLettered (textBytes s) = true := by
  unfold base64Decode
  by_cases hlen : (textBytes s).length % 4 = 0
  · simp only [hlen, ne_eq, not_true_eq_false, if_false]
    exact base64Groups_isOk hlen
  · simp only [hlen, ne_eq, not_false_eq_true, if_true]
    constructor
    · rintro ⟨x, hx⟩
      cases hx
    · intro hwell
      exact absurd (length_of_wellLettered hwell) hlen

/-! ## Canonical texts -/

/-- Four letters are written back as they were. -/
theorem group_of_letters {a b c d : UInt8} (ha : isLetterByte a = true)
    (hb : isLetterByte b = true) (hc : isLetterByte c = true) (hd : isLetterByte d = true) :
    ∃ y0 y1 y2, base64Group a b c d = .ok [y0, y1, y2] ∧
      ∀ x, textBytes (base64Encode (y0 :: y1 :: y2 :: x)) =
        a :: b :: c :: d :: textBytes (base64Encode x) := by
  obtain ⟨c0, rfl, h0, hlt0, -⟩ := exists_letter ha
  obtain ⟨c1, rfl, h1, hlt1, -⟩ := exists_letter hb
  obtain ⟨c2, rfl, h2, hlt2, -⟩ := exists_letter hc
  obtain ⟨c3, rfl, h3, hlt3, -⟩ := exists_letter hd
  obtain ⟨hfirst, hsecond, hthird, hfourth⟩ := sextets_wordBytes hlt0 hlt1 hlt2 hlt3
  refine ⟨_, _, _, base64Group_four h0 h1 h2 h3, ?_⟩
  intro x
  rw [base64Encode, hfirst, hsecond, hthird, hfourth, textBytes_letter h0, textBytes_letter h1,
    textBytes_letter h2, textBytes_letter h3]

/-- So are three, if the bits below the second byte are zero. -/
theorem group_of_three {a b c : UInt8} (ha : isLetterByte a = true) (hb : isLetterByte b = true)
    (hc : isLetterByte c = true) (hlow : bitsOf c % 4 = 0) :
    ∃ x, base64Group a b c 61 = .ok x ∧ textBytes (base64Encode x) = [a, b, c, 61] := by
  obtain ⟨c0, rfl, h0, hlt0, -⟩ := exists_letter ha
  obtain ⟨c1, rfl, h1, hlt1, -⟩ := exists_letter hb
  obtain ⟨c2, rfl, h2, hlt2, hbits⟩ := exists_letter hc
  rw [hbits] at hlow
  have hzero : (0 : UInt8).toNat < 64 := by decide
  obtain ⟨hfirst, hsecond, hthird, -⟩ := sextets_wordBytes hlt0 hlt1 hlt2 hzero
  rw [wordBytes_three_sextets hlt0 hlt1 hlt2 hlow, UInt8.zero_shiftRight, UInt8.or_zero] at hthird
  refine ⟨_, base64Group_three h0 h1 h2, ?_⟩
  rw [base64Encode, hfirst, hsecond, hthird, textBytes_letter h0, textBytes_letter h1,
    textBytes_letter h2, textBytes_pad, textBytes_nil]

/-- So are two, if the bits below the first byte are zero. -/
theorem group_of_two {a b : UInt8} (ha : isLetterByte a = true) (hb : isLetterByte b = true)
    (hlow : bitsOf b % 16 = 0) :
    ∃ x, base64Group a b 61 61 = .ok x ∧ textBytes (base64Encode x) = [a, b, 61, 61] := by
  obtain ⟨c0, rfl, h0, hlt0, -⟩ := exists_letter ha
  obtain ⟨c1, rfl, h1, hlt1, hbits⟩ := exists_letter hb
  rw [hbits] at hlow
  have hzero : (0 : UInt8).toNat < 64 := by decide
  obtain ⟨hfirst, hsecond, -, -⟩ := sextets_wordBytes hlt0 hlt1 hzero hzero
  rw [wordBytes_two_sextets hlt0 hlt1 hlow, UInt8.zero_shiftRight, UInt8.or_zero] at hsecond
  refine ⟨_, base64Group_two h0 h1, ?_⟩
  rw [base64Encode, hfirst, hsecond, textBytes_letter h0, textBytes_letter h1, textBytes_pad,
    textBytes_pad, textBytes_nil]

theorem group_of_padded {a b c d : UInt8} (h : paddedGroup a b c d = true) :
    ∃ x, base64Group a b c d = .ok x ∧ textBytes (base64Encode x) = [a, b, c, d] := by
  simp only [paddedGroup, Bool.and_eq_true, Bool.or_eq_true, decide_eq_true_eq] at h
  obtain ⟨⟨⟨ha, hb⟩, rfl⟩, ⟨hc, hlow⟩ | ⟨rfl, hlow⟩⟩ := h
  · exact group_of_three ha hb hc hlow
  · exact group_of_two ha hb hlow

/-- A canonical text is what `base64_encode` writes for the bytes it stands for. -/
theorem groups_canonical {bytes : Bytes} (h : canonical bytes = true) :
    ∃ x, base64Groups bytes = .ok x ∧ textBytes (base64Encode x) = bytes := by
  fun_induction canonical bytes with
  | case1 => exact ⟨[], rfl, textBytes_nil⟩
  | case2 | case3 | case4 => cases h
  | case5 a b c d rest ih =>
      simp only [Bool.or_eq_true, Bool.and_eq_true, List.isEmpty_iff] at h
      rcases h with ⟨⟨⟨⟨ha, hb⟩, hc⟩, hd⟩, hrest⟩ | ⟨rfl, hpadded⟩
      · obtain ⟨y0, y1, y2, hgroup, hencode⟩ := group_of_letters ha hb hc hd
        obtain ⟨x, hgroups, hx⟩ := ih hrest
        refine ⟨y0 :: y1 :: y2 :: x, ?_, by rw [hencode, hx]⟩
        rw [base64Groups, hgroup, hgroups]
        rfl
      · obtain ⟨x, hgroup, hx⟩ := group_of_padded hpadded
        refine ⟨x, ?_, hx⟩
        rw [base64Groups, hgroup]
        exact congrArg Except.ok (List.append_nil x)

/-- What `base64_encode` writes is canonical. -/
theorem canonical_encode (x : Bytes) : canonical (textBytes (base64Encode x)) = true := by
  fun_induction base64Encode x with
  | case1 =>
      rw [textBytes_nil]
      rfl
  | case2 b0 =>
      obtain ⟨h0, h1⟩ := isLetter_one_byte b0
      have hlow : ((b0 &&& 0x03) <<< 4).toNat % 16 = 0 := by
        have hsecond := toNat_sextet_second b0 0
        rw [UInt8.zero_shiftRight, UInt8.or_zero] at hsecond
        rw [hsecond, UInt8.toNat_zero]
        omega
      have hpadded : paddedGroup (letterByte (b0 >>> 2)) (letterByte ((b0 &&& 0x03) <<< 4)) 61 61 =
          true := by
        rw [paddedGroup, isLetterByte_letterByte h0, isLetterByte_letterByte h1,
          bitsOf_letterByte h1, hlow]
        rfl
      rw [textBytes_letter h0, textBytes_letter h1, textBytes_pad, textBytes_pad, textBytes_nil]
      exact Bool.or_eq_true_iff.mpr (.inr hpadded)
  | case3 b0 b1 =>
      obtain ⟨h0, h1, h2⟩ := isLetter_two_bytes b0 b1
      have hlow : ((b1 &&& 0x0f) <<< 2).toNat % 4 = 0 := by
        have hthird := toNat_sextet_third b1 0
        rw [UInt8.zero_shiftRight, UInt8.or_zero] at hthird
        rw [hthird, UInt8.toNat_zero]
        omega
      have hpadded : paddedGroup (letterByte (b0 >>> 2))
          (letterByte (((b0 &&& 0x03) <<< 4) ||| (b1 >>> 4))) (letterByte ((b1 &&& 0x0f) <<< 2))
          61 = true := by
        rw [paddedGroup, isLetterByte_letterByte h0, isLetterByte_letterByte h1,
          isLetterByte_letterByte h2, bitsOf_letterByte h2, hlow]
        rfl
      rw [textBytes_letter h0, textBytes_letter h1, textBytes_letter h2, textBytes_pad,
        textBytes_nil]
      exact Bool.or_eq_true_iff.mpr (.inr hpadded)
  | case4 b0 b1 b2 rest ih =>
      obtain ⟨h0, h1, h2, h3⟩ := isLetter_sextets b0 b1 b2
      rw [textBytes_letter h0, textBytes_letter h1, textBytes_letter h2, textBytes_letter h3]
      simp [canonical, isLetterByte_letterByte h0, isLetterByte_letterByte h1,
        isLetterByte_letterByte h2, isLetterByte_letterByte h3, ih]

/-! ## The decoder is strict where it matters -/

theorem textBytes_injective {s t : Text} (h : textBytes s = textBytes t) : s = t := by
  rw [textBytes_eq, textBytes_eq] at h
  exact Text.utf8_injective h

/-- A text that is decoded is the encoding of what it is decoded to exactly when, with two
letters and two letters or paddings in every group, it has its padding at the end of the
last group only and zero bits under it. -/
theorem base64_decode_strict_iff (s : Text) :
    (∀ x, base64Decode s = .ok x → s = base64Encode x) ↔
      (wellLettered (textBytes s) = true → canonical (textBytes s) = true) := by
  constructor
  · intro hstrict hwell
    obtain ⟨x, hx⟩ := (base64Decode_isOk s).mpr hwell
    rw [hstrict x hx]
    exact canonical_encode x
  · intro hcanonical x hx
    have hwell := (base64Decode_isOk s).mp ⟨x, hx⟩
    obtain ⟨y, hgroups, hy⟩ := groups_canonical (hcanonical hwell)
    have hlen : ¬(textBytes s).length % 4 ≠ 0 := not_not.mpr (length_of_wellLettered hwell)
    have hdecode : base64Decode s = .ok y := by
      simp only [base64Decode]
      rw [if_neg hlen, hgroups]
    obtain rfl := Except.ok.inj (hdecode.symm.trans hx)
    exact textBytes_injective hy.symm

/-- Padding before a letter, padding in the middle and bits under the padding are all taken. -/
theorem base64_decode_takes_malformed :
    (∃ x, base64Decode "QQ=A".toList = .ok x ∧ "QQ=A".toList ≠ base64Encode x) ∧
      (∃ x, base64Decode "QQ==QQ==".toList = .ok x ∧ "QQ==QQ==".toList ≠ base64Encode x) ∧
      ∃ x, base64Decode "QR==".toList = .ok x ∧ "QR==".toList ≠ base64Encode x := by
  refine ⟨⟨[65, 0, 0], ?_, ?_⟩, ⟨[65, 65], ?_, ?_⟩, ⟨[65], ?_, ?_⟩⟩ <;> decide +kernel

end RustdeskCli.Capture
