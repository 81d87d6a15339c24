import RustdeskCli.Foundation.Bytes
import RustdeskCli.Foundation.Text
set_option autoImplicit false

/-!
# Foundation: `String::from_utf8_lossy`

The decoder replaces each maximal part of an ill-formed sequence by U+FFFD.  It is
written here as a machine that reads one byte at a time and emits characters as
soon as they are known, so that what a prefix of the bytes decodes to is visible:
the characters emitted so far, and one U+FFFD for a sequence that is cut.
-/

namespace RustdeskCli.Foundation

/-- U+FFFD, the replacement character. -/
def replacement : Char := '\uFFFD'

/-- Where the decoder stands inside a sequence. -/
inductive Utf8State where
  /-- between two sequences -/
  | start
  /-- the next byte has to be in `lo..=hi`, and `need` continuation bytes follow it -/
  | more (need : Nat) (lo hi : UInt8) (acc : Nat)
  deriving DecidableEq, Repr

namespace Utf8State

/-- The first byte of a sequence. -/
def lead (b : UInt8) : Utf8State × Text :=
  if b < 0x80 then (.start, [Char.ofNat b.toNat])
  else if 0xC2 ≤ b ∧ b ≤ 0xDF then (.more 0 0x80 0xBF (b.toNat % 32), [])
  else if b = 0xE0 then (.more 1 0xA0 0xBF (b.toNat % 16), [])
  else if b = 0xED then (.more 1 0x80 0x9F (b.toNat % 16), [])
  else if 0xE1 ≤ b ∧ b ≤ 0xEF then (.more 1 0x80 0xBF (b.toNat % 16), [])
  else if b = 0xF0 then (.more 2 0x90 0xBF (b.toNat % 8), [])
  else if 0xF1 ≤ b ∧ b ≤ 0xF3 then (.more 2 0x80 0xBF (b.toNat % 8), [])
  else if b = 0xF4 then (.more 2 0x80 0x8F (b.toNat % 8), [])
  else (.start, [replacement])

/-- One byte.  A byte that does not continue the sequence ends it with one U+FFFD,
and is then the first byte of the next. -/
def step : Utf8State → UInt8 → Utf8State × Text
  | .start, b => lead b
  | .more need lo hi acc, b =>
      if lo ≤ b ∧ b ≤ hi then
        let acc := 64 * acc + b.toNat % 64
        match need with
        | 0 => (.start, [Char.ofNat acc])
        | need + 1 => (.more need 0x80 0xBF acc, [])
      else
        match lead b with
        | (st, text) => (st, replacement :: text)

/-- The characters emitted while reading the bytes, and the state after them. -/
def decode : Utf8State → Bytes → Utf8State × Text
  | st, [] => (st, [])
  | st, b :: bytes =>
      match step st b with
      | (st, text) =>
          match decode st bytes with
          | (st, rest) => (st, text ++ rest)

/-- What the end of the bytes emits: a cut sequence is one U+FFFD. -/
def flush : Utf8State → Text
  | .start => []
  | .more .. => [replacement]

end Utf8State

/-- `String::from_utf8_lossy`. -/
def fromUtf8Lossy (bytes : Bytes) : Text :=
  match Utf8State.decode .start bytes with
  | (st, text) => text ++ st.flush

namespace Utf8State

theorem decode_cons (st : Utf8State) (b : UInt8) (bytes : Bytes) :
    decode st (b :: bytes) =
      ((decode (step st b).1 bytes).1, (step st b).2 ++ (decode (step st b).1 bytes).2) := rfl

/-- Reading goes on where it stopped. -/
theorem decode_append (st : Utf8State) (xs ys : Bytes) :
    decode st (xs ++ ys) =
      ((decode (decode st xs).1 ys).1, (decode st xs).2 ++ (decode (decode st xs).1 ys).2) := by
  induction xs generalizing st with
  | nil => rfl
  | cons b xs ih => rw [List.cons_append, decode_cons, ih, decode_cons, List.append_assoc]

/-- A first byte emits at most one character; one that is not U+FFFD leaves the
decoder between two sequences. -/
theorem lead_emits (b : UInt8) :
    (lead b).2 = [] ∨ (lead b).2 = [replacement] ∨
      ∃ c, lead b = (.start, [c]) := by
  unfold lead
  split
  · exact .inr (.inr ⟨_, rfl⟩)
  · repeat' split
    all_goals first | exact .inl rfl | exact .inr (.inl rfl)

/-- What one byte emits: replacements, then at most one character that leaves the
decoder between two sequences. -/
theorem step_emits (st : Utf8State) (b : UInt8) :
    (∀ c ∈ (step st b).2, c = replacement) ∨
      ∃ before c, step st b = (.start, before ++ [c]) ∧ ∀ d ∈ before, d = replacement := by
  cases st with
  | start =>
      rcases lead_emits b with h | h | ⟨c, h⟩
      · exact .inl (by simp [step, h])
      · exact .inl (by simp [step, h])
      · exact .inr ⟨[], c, by simp [step, h], by simp⟩
  | more need lo hi acc =>
      rw [step]
      split
      · cases need with
        | zero => exact .inr ⟨[], _, rfl, by simp⟩
        | succ need => exact .inl (by simp)
      · rcases lead_emits b with h | h | ⟨c, h⟩
        · exact .inl (by simp [h])
        · exact .inl (by simp [h])
        · exact .inr ⟨[replacement], c, by simp [h], by simp⟩

/-- A character other than U+FFFD is emitted by a byte that leaves the decoder
between two sequences. -/
theorem decode_cut {c : Char} (hc : c ≠ replacement) :
    ∀ {bytes : Bytes} {st : Utf8State} {xs ys : Text},
      (decode st bytes).2 = xs ++ c :: ys →
      ∃ front back, bytes = front ++ back ∧ decode st front = (.start, xs ++ [c]) := by
  intro bytes
  induction bytes with
  | nil => intro st xs ys h; simp [decode] at h
  | cons b bytes ih =>
      intro st xs ys h
      rw [decode_cons] at h
      rcases List.append_eq_append_iff.mp h with ⟨mid, hxs, hrest⟩ | ⟨mid, hout, hrest⟩
      · -- the character is emitted by a later byte
        obtain ⟨front, back, rfl, hfront⟩ := ih hrest
        refine ⟨b :: front, back, rfl, ?_⟩
        rw [decode_cons, hfront, hxs, List.append_assoc]
      · cases mid with
        | nil =>
            obtain ⟨front, back, rfl, hfront⟩ := @ih _ [] ys (by simpa using hrest.symm)
            refine ⟨b :: front, back, rfl, ?_⟩
            rw [List.append_nil] at hout
            rw [decode_cons, hfront, hout, List.nil_append]
        | cons d mid =>
            obtain ⟨rfl, _⟩ := List.cons.inj hrest
            refine ⟨[b], bytes, rfl, ?_⟩
            rcases step_emits st b with hall | ⟨before, d, hstep, hall⟩
            · exact absurd (hall c (by rw [hout]; simp)) hc
            · -- the last character the byte emits is the only one that can be `c`
              rw [hstep] at hout
              cases mid using List.reverseRecOn with
              | nil =>
                  have hlast : before = xs ∧ [d] = [c] := List.append_inj' hout rfl
                  rw [decode_cons, hstep, hlast.1, hlast.2]
                  simp [decode]
              | append_singleton mid e =>
                  have hsplit : before ++ [d] = (xs ++ c :: mid) ++ [e] := by
                    simpa using hout
                  have := List.append_inj' hsplit rfl
                  exact absurd (hall c (by rw [this.1]; simp)) hc

end Utf8State

/-- What a prefix of the bytes decodes to: a prefix of the text, and perhaps one
U+FFFD for the sequence that is cut. -/
theorem fromUtf8Lossy_front (front back : Bytes) :
    ∃ text, text <+: fromUtf8Lossy (front ++ back) ∧
      (fromUtf8Lossy front = text ∨ fromUtf8Lossy front = text ++ [replacement]) := by
  refine ⟨(Utf8State.decode .start front).2, ?_, ?_⟩
  · simp only [fromUtf8Lossy, Utf8State.decode_append, List.append_assoc]
    exact List.prefix_append _ _
  · simp only [fromUtf8Lossy]
    cases (Utf8State.decode .start front).1 with
    | start => exact .inl (List.append_nil _)
    | more need lo hi acc => exact .inr rfl

/-- Every character of the text other than U+FFFD is the last one of what some prefix
of the bytes decodes to. -/
theorem fromUtf8Lossy_cut {bytes : Bytes} {xs ys : Text} {c : Char} (hc : c ≠ replacement)
    (h : fromUtf8Lossy bytes = xs ++ c :: ys) :
    ∃ front back, bytes = front ++ back ∧ fromUtf8Lossy front = xs ++ [c] := by
  have hbody : ∃ ys', (Utf8State.decode .start bytes).2 = xs ++ c :: ys' := by
    simp only [fromUtf8Lossy] at h
    cases hst : (Utf8State.decode .start bytes).1 with
    | start => exact ⟨ys, by simpa [hst, Utf8State.flush] using h⟩
    | more need lo hi acc =>
        rw [hst, Utf8State.flush] at h
        cases ys using List.reverseRecOn with
        | nil =>
            have hlast : [replacement] = [c] := (List.append_inj' h rfl).2
            exact absurd hlast (by simpa using hc.symm)
        | append_singleton ys e =>
            refine ⟨ys, ?_⟩
            have hsplit : (Utf8State.decode .start bytes).2 ++ [replacement] =
                (xs ++ c :: ys) ++ [e] := by simpa using h
            exact (List.append_inj' hsplit rfl).1
  obtain ⟨ys', hys⟩ := hbody
  obtain ⟨front, back, hsplit, hfront⟩ := Utf8State.decode_cut hc hys
  exact ⟨front, back, hsplit, by simp [fromUtf8Lossy, hfront, Utf8State.flush]⟩

/-! ## Encoding -/

namespace Utf8State

theorem lead_one {b : UInt8} (h : b.toNat ≤ 0x7F) : lead b = (.start, [Char.ofNat b.toNat]) := by
  unfold lead
  rw [if_pos (UInt8.lt_iff_toNat_lt.mpr (Nat.lt_succ_of_le h))]

theorem lead_two {b : UInt8} (hlo : 0xC2 ≤ b.toNat) (hhi : b.toNat ≤ 0xDF) :
    lead b = (.more 0 0x80 0xBF (b.toNat % 32), []) := by
  unfold lead
  simp only [UInt8.lt_iff_toNat_lt, UInt8.le_iff_toNat_le, ← UInt8.toNat_inj, UInt8.reduceToNat]
  rw [if_neg (by omega), if_pos ⟨hlo, hhi⟩]

/-- After the first byte of three, some second bytes would be an overlong form or a
surrogate. -/
theorem lead_three {b : UInt8} (hlo : 0xE0 ≤ b.toNat) (hhi : b.toNat ≤ 0xEF) :
    ∃ lo hi, lead b = (.more 1 lo hi (b.toNat % 16), []) ∧
      lo.toNat = (if b.toNat = 0xE0 then 0xA0 else 0x80) ∧
      hi.toNat = if b.toNat = 0xED then 0x9F else 0xBF := by
  unfold lead
  simp only [UInt8.lt_iff_toNat_lt, UInt8.le_iff_toNat_le, ← UInt8.toNat_inj, UInt8.reduceToNat]
  rw [if_neg (by omega), if_neg (by omega)]
  split
  · exact ⟨_, _, rfl, by simp [*], by simp [*]⟩
  · split
    · exact ⟨_, _, rfl, by simp [*], by simp [*]⟩
    · rw [if_pos ⟨by omega, by omega⟩]
      exact ⟨_, _, rfl, by simp [*], by simp [*]⟩

/-- After the first byte of four, some second bytes would be an overlong form or beyond
the last code point. -/
theorem lead_four {b : UInt8} (hlo : 0xF0 ≤ b.toNat) (hhi : b.toNat ≤ 0xF4) :
    ∃ lo hi, lead b = (.more 2 lo hi (b.toNat % 8), []) ∧
      lo.toNat = (if b.toNat = 0xF0 then 0x90 else 0x80) ∧
      hi.toNat = if b.toNat = 0xF4 then 0x8F else 0xBF := by
  unfold lead
  simp only [UInt8.lt_iff_toNat_lt, UInt8.le_iff_toNat_le, ← UInt8.toNat_inj, UInt8.reduceToNat]
  rw [if_neg (by omega), if_neg (by omega), if_neg (by omega), if_neg (by omega),
    if_neg (by omega)]
  split
  · exact ⟨_, _, rfl, by simp [*], by simp [*]⟩
  · split
    · exact ⟨_, _, rfl, by simp [*], by simp; omega⟩
    · rw [if_pos (by omega)]
      exact ⟨_, _, rfl, by simp [*], by simp; omega⟩

/-- The last byte of a sequence. -/
theorem step_last {lo hi b : UInt8} {acc : Nat} (hlo : lo.toNat ≤ b.toNat)
    (hhi : b.toNat ≤ hi.toNat) :
    step (.more 0 lo hi acc) b = (.start, [Char.ofNat (64 * acc + b.toNat % 64)]) := by
  rw [step, if_pos ⟨UInt8.le_iff_toNat_le.mpr hlo, UInt8.le_iff_toNat_le.mpr hhi⟩]

/-- A byte that goes on with a sequence. -/
theorem step_more {need : Nat} {lo hi b : UInt8} {acc : Nat} (hlo : lo.toNat ≤ b.toNat)
    (hhi : b.toNat ≤ hi.toNat) :
    step (.more (need + 1) lo hi acc) b =
      (.more need 0x80 0xBF (64 * acc + b.toNat % 64), []) := by
  rw [step, if_pos ⟨UInt8.le_iff_toNat_le.mpr hlo, UInt8.le_iff_toNat_le.mpr hhi⟩]

/-- The bytes of a character decode to it. -/
theorem decode_encodeChar (c : Char) : decode .start (String.utf8EncodeChar c) = (.start, [c]) := by
  have hback : Char.ofNat c.val.toNat = c := Char.ofNat_toNat c
  have hvalid : c.val.toNat < 0xD800 ∨ 0xDFFF < c.val.toNat ∧ c.val.toNat < 0x110000 := c.valid
  have hbyte : ∀ n < 256, (UInt8.ofNat n).toNat = n := fun n hn => UInt8.toNat_ofNat_of_lt' hn
  have hlow : (0x80 : UInt8).toNat = 0x80 := rfl
  have hhigh : (0xBF : UInt8).toNat = 0xBF := rfl
  unfold String.utf8EncodeChar
  simp only
  generalize c.val.toNat = v at hback hvalid
  have hlast := hbyte (v % 64 + 128) (by omega)
  split
  · -- one byte
    have hb := hbyte v (by omega)
    rw [decode_cons, step, lead_one (by omega), hb, hback]
    rfl
  split
  · have hb := hbyte (v / 64 % 32 + 192) (by omega)
    have hv : 64 * ((v / 64 % 32 + 192) % 32) + (v % 64 + 128) % 64 = v := by omega
    rw [decode_cons, step, lead_two (by omega) (by omega), decode_cons,
      step_last (by omega) (by omega), hb, hlast, hv, hback]
    rfl
  have hmid := hbyte (v / 64 % 64 + 128) (by omega)
  split
  · have hb := hbyte (v / 4096 % 16 + 224) (by omega)
    obtain ⟨lo, hi, hlead, hlo, hhi⟩ := lead_three
      (b := UInt8.ofNat (v / 4096 % 16 + 224)) (by omega) (by omega)
    have hlo' : lo.toNat ≤ v / 64 % 64 + 128 := by rw [hlo, hb]; split <;> omega
    have hhi' : v / 64 % 64 + 128 ≤ hi.toNat := by rw [hhi, hb]; split <;> omega
    have hv : 64 * (64 * ((v / 4096 % 16 + 224) % 16) + (v / 64 % 64 + 128) % 64) +
        (v % 64 + 128) % 64 = v := by omega
    rw [decode_cons, step, hlead, decode_cons, step_more (by omega) (by omega), decode_cons,
      step_last (by omega) (by omega), hb, hmid, hlast, hv, hback]
    rfl
  · have hb := hbyte (v / 262144 % 8 + 240) (by omega)
    have hsecond := hbyte (v / 4096 % 64 + 128) (by omega)
    obtain ⟨lo, hi, hlead, hlo, hhi⟩ := lead_four
      (b := UInt8.ofNat (v / 262144 % 8 + 240)) (by omega) (by omega)
    have hlo' : lo.toNat ≤ v / 4096 % 64 + 128 := by rw [hlo, hb]; split <;> omega
    have hhi' : v / 4096 % 64 + 128 ≤ hi.toNat := by rw [hhi, hb]; split <;> omega
    have hv : 64 * (64 * (64 * ((v / 262144 % 8 + 240) % 8) + (v / 4096 % 64 + 128) % 64) +
        (v / 64 % 64 + 128) % 64) + (v % 64 + 128) % 64 = v := by omega
    rw [decode_cons, step, hlead, decode_cons, step_more (by omega) (by omega), decode_cons,
      step_more (by omega) (by omega), decode_cons, step_last (by omega) (by omega), hb, hsecond,
      hmid, hlast, hv, hback]
    rfl

end Utf8State

/-- The bytes of a text decode to the text. -/
theorem fromUtf8Lossy_encode (text : Text) :
    fromUtf8Lossy (text.flatMap String.utf8EncodeChar) = text := by
  have hdecode : Utf8State.decode .start (text.flatMap String.utf8EncodeChar) = (.start, text) := by
    induction text with
    | nil => rfl
    | cons c text ih =>
        rw [List.flatMap_cons, Utf8State.decode_append, Utf8State.decode_encodeChar, ih]
        rfl
  rw [fromUtf8Lossy, hdecode]
  exact List.append_nil text

/-- `String::from_utf8`, which fails on bytes that are not the encoding of a text. -/
def fromUtf8 (bytes : Bytes) : Option Text := (String.fromUTF8? bytes.toByteArray).map String.toList

theorem fromUtf8_eq_some_iff {bytes : Bytes} {text : Text} :
    fromUtf8 bytes = some text ↔ text.flatMap String.utf8EncodeChar = bytes := by
  rw [fromUtf8, String.fromUTF8?]
  split
  · rename_i hvalid
    have hencode : (String.fromUTF8 bytes.toByteArray hvalid).toList.flatMap
        String.utf8EncodeChar = bytes :=
      List.toByteArray_inj.mp (String.utf8Encode_toList (b := String.fromUTF8 _ hvalid))
    rw [Option.map_some, Option.some_inj]
    constructor
    · rintro rfl
      exact hencode
    · intro h
      have hback := congrArg fromUtf8Lossy (hencode.trans h.symm)
      rwa [fromUtf8Lossy_encode, fromUtf8Lossy_encode] at hback
  · rename_i hinvalid
    constructor
    · intro h
      cases h
    · rintro rfl
      exact absurd ByteArray.isValidUTF8_utf8Encode hinvalid

/-- The loop of `ByteArray.toList`. -/
theorem toList_loop (bytes : ByteArray) (i : Nat) (read : List UInt8) :
    ByteArray.toList.loop bytes i read = read.reverse ++ bytes.data.toList.drop i := by
  fun_induction ByteArray.toList.loop bytes i read with
  | case1 i read hlt ih =>
      have hlt' : i < bytes.data.toList.length := by simpa using hlt
      have hget : bytes.get! i = bytes.data.toList[i] := by
        simp [ByteArray.get!, getElem!_pos, hlt]
      rw [ih, List.drop_eq_getElem_cons hlt', hget]
      simp
  | case2 i read hge =>
      have hge' : bytes.data.toList.length ≤ i := by simpa using hge
      rw [List.drop_eq_nil_of_le hge', List.append_nil]

/-! ## Decoding in chunks -/

namespace Utf8State

/-- Inside a sequence only bytes that cannot start one are waited for. -/
def Inside : Utf8State → Prop
  | .start => True
  | .more _ lo hi _ => 0x80 ≤ lo ∧ hi ≤ 0xBF

/-- The next byte goes on with the sequence the decoder is inside of. -/
def Continues : Utf8State → Bytes → Prop
  | .more _ lo hi _, b :: _ => lo ≤ b ∧ b ≤ hi
  | _, _ => False

instance decidableContinues : (st : Utf8State) → (bytes : Bytes) → Decidable (Continues st bytes)
  | .start, _ => inferInstanceAs (Decidable False)
  | .more .., [] => inferInstanceAs (Decidable False)
  | .more _ lo hi _, b :: _ => inferInstanceAs (Decidable (lo ≤ b ∧ b ≤ hi))

theorem lead_inside (b : UInt8) : (lead b).1.Inside := by
  unfold lead
  repeat' split
  all_goals simp [Inside]

theorem step_inside (st : Utf8State) (b : UInt8) : (step st b).1.Inside := by
  cases st with
  | start => exact lead_inside b
  | more need lo hi acc =>
      rw [step]
      split
      · cases need with
        | zero => trivial
        | succ need => simp [Inside]
      · exact lead_inside b

theorem decode_inside (st : Utf8State) (hst : st.Inside) (bytes : Bytes) :
    (decode st bytes).1.Inside := by
  induction bytes generalizing st with
  | nil => exact hst
  | cons b bytes ih => exact ih _ (step_inside st b)

/-- A byte that continues a sequence is ill-formed at the start of one. -/
theorem lead_of_continuation {b : UInt8} (hlo : 0x80 ≤ b) (hhi : b ≤ 0xBF) :
    lead b = (.start, [replacement]) := by
  have hlo' : 0x80 ≤ b.toNat := hlo
  have hhi' : b.toNat ≤ 0xBF := hhi
  unfold lead
  simp only [UInt8.lt_iff_toNat_lt, UInt8.le_iff_toNat_le, ← UInt8.toNat_inj, UInt8.reduceToNat]
  repeat' split
  all_goals first | rfl | omega

/-- All that is decoded from here: the characters of the bytes and the cut sequence. -/
def out (st : Utf8State) (bytes : Bytes) : Text := (decode st bytes).2 ++ (decode st bytes).1.flush

theorem out_cons (st : Utf8State) (b : UInt8) (bytes : Bytes) :
    out st (b :: bytes) = (step st b).2 ++ out (step st b).1 bytes := by
  rw [out, decode_cons, out, List.append_assoc]

theorem out_append (st : Utf8State) (xs ys : Bytes) :
    out st (xs ++ ys) = (decode st xs).2 ++ out (decode st xs).1 ys := by
  rw [out, decode_append, out, List.append_assoc]

/-- Where the next byte does not go on with the sequence, the decoder starts afresh. -/
theorem out_of_not_continues {st : Utf8State} {bytes : Bytes} (h : ¬ st.Continues bytes) :
    out st bytes = st.flush ++ out .start bytes := by
  cases st with
  | start => rfl
  | more need lo hi acc =>
      cases bytes with
      | nil => rfl
      | cons b bytes =>
          have hstep : step (.more need lo hi acc) b =
              ((lead b).1, replacement :: (lead b).2) := by
            rw [step, if_neg (show ¬ (lo ≤ b ∧ b ≤ hi) from h)]
          rw [out_cons, hstep, out_cons]
          rfl

/-- Starting afresh never decodes to fewer characters, and to more where the next byte
would have gone on with the sequence. -/
theorem out_length {st : Utf8State} (hst : st.Inside) (bytes : Bytes) :
    (out st bytes).length ≤ (st.flush ++ out .start bytes).length ∧
      (st.Continues bytes → (out st bytes).length < (st.flush ++ out .start bytes).length) := by
  induction bytes generalizing st with
  | nil => cases st <;> simp [out, decode, flush, Continues]
  | cons b bytes ih =>
      by_cases hcont : st.Continues (b :: bytes)
      · cases st with
        | start => exact absurd hcont id
        | more need lo hi acc =>
            -- afresh: one replacement for the cut sequence and one for this byte
            have hlead : lead b = (.start, [replacement]) :=
              lead_of_continuation (UInt8.le_trans hst.1 hcont.1) (UInt8.le_trans hcont.2 hst.2)
            have hafresh : out .start (b :: bytes) = replacement :: out .start bytes := by
              rw [out_cons, step, hlead]
              rfl
            have hlt : (out (.more need lo hi acc) (b :: bytes)).length <
                (out .start bytes).length + 2 := by
              rw [out_cons, step, if_pos (show lo ≤ b ∧ b ≤ hi from hcont)]
              cases need with
              | zero => simp
              | succ need =>
                  have hnext := (@ih (.more need 0x80 0xBF (64 * acc + b.toNat % 64))
                    ⟨UInt8.le_refl _, UInt8.le_refl _⟩).1
                  simp only [flush, List.length_append, List.length_singleton] at hnext
                  simp only [List.nil_append]
                  omega
            rw [hafresh]
            simp only [flush, List.length_append, List.length_cons, List.length_nil]
            omega
      · rw [out_of_not_continues hcont]
        exact ⟨le_refl _, fun h => absurd h hcont⟩

end Utf8State

/-- No chunk ends inside a sequence that the bytes after it go on with. -/
def CutsClean : List Bytes → Prop
  | [] => True
  | chunk :: chunks =>
      ¬ (Utf8State.decode .start chunk).1.Continues chunks.flatten ∧ CutsClean chunks

instance decidableCutsClean : (chunks : List Bytes) → Decidable (CutsClean chunks)
  | [] => inferInstanceAs (Decidable True)
  | _ :: chunks =>
      have := decidableCutsClean chunks
      inferInstanceAs (Decidable (¬ _ ∧ CutsClean chunks))

/-- The first chunk and the rest, decoded as a whole and one by one: what comes before the
cut is the same. -/
theorem fromUtf8Lossy_parts (chunk rest : Bytes) :
    fromUtf8Lossy (chunk ++ rest) =
        (Utf8State.decode .start chunk).2 ++
          Utf8State.out (Utf8State.decode .start chunk).1 rest ∧
      fromUtf8Lossy chunk ++ fromUtf8Lossy rest =
        (Utf8State.decode .start chunk).2 ++
          ((Utf8State.decode .start chunk).1.flush ++ Utf8State.out .start rest) :=
  ⟨Utf8State.out_append _ _ _, List.append_assoc _ _ _⟩

/-- Chunks decoded one by one give at least as many characters as the whole. -/
theorem fromUtf8Lossy_chunks_length (chunks : List Bytes) :
    (fromUtf8Lossy chunks.flatten).length ≤ (chunks.map fromUtf8Lossy).flatten.length := by
  induction chunks with
  | nil => simp [fromUtf8Lossy, Utf8State.decode, Utf8State.flush]
  | cons chunk chunks ih =>
      have hcut := (Utf8State.out_length (Utf8State.decode_inside .start trivial chunk)
        chunks.flatten).1
      obtain ⟨hwhole, hparts⟩ := fromUtf8Lossy_parts chunk chunks.flatten
      have hlength := congrArg List.length hparts
      rw [List.flatten_cons, hwhole, List.map_cons, List.flatten_cons]
      simp only [List.length_append] at hcut hlength ⊢
      omega

/-- Chunks decoded one by one give the text of the whole exactly when every cut is
clean. -/
theorem fromUtf8Lossy_chunks_iff (chunks : List Bytes) :
    (chunks.map fromUtf8Lossy).flatten = fromUtf8Lossy chunks.flatten ↔ CutsClean chunks := by
  induction chunks with
  | nil => simp [fromUtf8Lossy, Utf8State.decode, Utf8State.flush, CutsClean]
  | cons chunk chunks ih =>
      obtain ⟨hwhole, hparts⟩ := fromUtf8Lossy_parts chunk chunks.flatten
      rw [List.flatten_cons, List.map_cons, List.flatten_cons, CutsClean]
      by_cases hcont : (Utf8State.decode .start chunk).1.Continues chunks.flatten
      · -- the whole is shorter
        have hlt := (Utf8State.out_length
          (Utf8State.decode_inside .start trivial chunk) chunks.flatten).2 hcont
        have hle := fromUtf8Lossy_chunks_length chunks
        have hlength := congrArg List.length hparts
        constructor
        · intro heq
          have hsame := congrArg List.length (heq.trans hwhole)
          simp only [List.length_append] at hlt hlength hsame
          omega
        · intro h
          exact absurd hcont h.1
      · rw [hwhole, Utf8State.out_of_not_continues hcont, ← hparts, List.append_right_inj, ih]
        exact (and_iff_right hcont).symm

end RustdeskCli.Foundation
