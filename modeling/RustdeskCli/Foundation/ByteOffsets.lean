import RustdeskCli.Foundation.Utf8
set_option autoImplicit false

/-!
# Foundation: texts at byte positions

Strings are indexed by bytes.  A position is one of the text when it is the length of
some of its first characters; a slice at any other position stops the program.  The
bytes of an ASCII pattern stand in the bytes of a text only at positions of the text.
-/

namespace RustdeskCli.Foundation.Text

/-- The bytes of a text. -/
def utf8 (text : Text) : Bytes := text.flatMap String.utf8EncodeChar

/-- `str::len`. -/
def byteLength (text : Text) : Nat := (utf8 text).length

@[simp] theorem utf8_nil : utf8 [] = [] := rfl

@[simp] theorem utf8_cons (c : Char) (text : Text) :
    utf8 (c :: text) = String.utf8EncodeChar c ++ utf8 text := List.flatMap_cons

@[simp] theorem utf8_append (xs ys : Text) : utf8 (xs ++ ys) = utf8 xs ++ utf8 ys :=
  List.flatMap_append

theorem utf8_injective {s t : Text} (h : utf8 s = utf8 t) : s = t := by
  have hback := congrArg fromUtf8Lossy h
  rwa [utf8, utf8, fromUtf8Lossy_encode, fromUtf8Lossy_encode] at hback

@[simp] theorem byteLength_nil : byteLength [] = 0 := rfl

theorem byteLength_cons (c : Char) (text : Text) :
    byteLength (c :: text) = c.utf8Size + byteLength text := by
  rw [byteLength, utf8_cons, List.length_append, String.length_utf8EncodeChar, byteLength]

theorem byteLength_append (xs ys : Text) : byteLength (xs ++ ys) = byteLength xs + byteLength ys := by
  rw [byteLength, utf8_append, List.length_append, byteLength, byteLength]

/-- `&text[i..]`; a position inside a character or behind the text is a panic. -/
def sliceFrom : Text → Nat → Option Text
  | text, 0 => some text
  | [], _ + 1 => none
  | c :: text, i + 1 =>
      if c.utf8Size ≤ i + 1 then sliceFrom text (i + 1 - c.utf8Size) else none

/-- A slice behind the first characters is the rest of the text. -/
theorem sliceFrom_byteLength (front back : Text) :
    sliceFrom (front ++ back) (byteLength front) = some back := by
  induction front with
  | nil => cases back <;> rfl
  | cons c front ih =>
      have hpos := Char.utf8Size_pos c
      obtain ⟨i, hi⟩ : ∃ i, byteLength (c :: front) = i + 1 := by
        rw [byteLength_cons]
        exact ⟨c.utf8Size + byteLength front - 1, by omega⟩
      have hrest : i + 1 - c.utf8Size = byteLength front := by
        rw [← hi, byteLength_cons]
        omega
      have hfits : c.utf8Size ≤ i + 1 := by
        rw [← hi, byteLength_cons]
        omega
      rw [hi, List.cons_append, sliceFrom, if_pos hfits, hrest, ih]

/-- More characters have more bytes. -/
theorem byteLength_take_lt {text : Text} {i j : Nat} (hlt : i < j) (hj : j ≤ text.length) :
    byteLength (text.take i) < byteLength (text.take j) := by
  have hsplit : text.take j = text.take i ++ (text.take j).drop i := by
    conv_lhs => rw [← List.take_append_drop i (text.take j)]
    rw [List.take_take, Nat.min_eq_left (Nat.le_of_lt hlt)]
  have hpos : 0 < byteLength ((text.take j).drop i) := by
    cases hmore : (text.take j).drop i with
    | nil =>
        have hlen := congrArg List.length hmore
        rw [List.length_drop, List.length_take, List.length_nil] at hlen
        omega
    | cons c rest =>
        have hc := Char.utf8Size_pos c
        rw [byteLength_cons]
        omega
  rw [hsplit, byteLength_append]
  omega

theorem utf8_drop_byteLength (text : Text) (i : Nat) :
    (utf8 text).drop (byteLength (text.take i)) = utf8 (text.drop i) := by
  have hsplit : utf8 text = utf8 (text.take i) ++ utf8 (text.drop i) := by
    rw [← utf8_append, List.take_append_drop]
  rw [hsplit]
  exact List.drop_left

/-! ## ASCII -/

/-- A byte below 128 stands for itself, and is in the encoding of no other character. -/
theorem toNat_of_mem_encodeChar {c : Char} {b : UInt8} (hb : b.toNat < 128)
    (h : b ∈ String.utf8EncodeChar c) : c.toNat = b.toNat := by
  have hbyte : ∀ n < 256, b = UInt8.ofNat n → n = b.toNat := by
    intro n hn heq
    have hval := congrArg UInt8.toNat heq
    rw [UInt8.toNat_ofNat_of_lt' hn] at hval
    exact hval.symm
  unfold String.utf8EncodeChar at h
  simp only at h
  split at h
  · have hval : c.val.toNat = b.toNat := hbyte _ (by omega) (List.mem_singleton.mp h)
    exact hval
  -- the other encodings have no byte below 128
  split at h
  · simp only [List.mem_cons, List.not_mem_nil, or_false] at h
    rcases h with h | h <;> have := hbyte _ (by omega) h <;> omega
  split at h
  · simp only [List.mem_cons, List.not_mem_nil, or_false] at h
    rcases h with h | h | h <;> have := hbyte _ (by omega) h <;> omega
  · simp only [List.mem_cons, List.not_mem_nil, or_false] at h
    rcases h with h | h | h | h <;> have := hbyte _ (by omega) h <;> omega

theorem encodeChar_of_ascii {c : Char} (h : c.toNat < 128) :
    String.utf8EncodeChar c = [UInt8.ofNat c.toNat] := by
  have hval : c.val.toNat ≤ 127 := Nat.le_of_lt_succ h
  unfold String.utf8EncodeChar
  simp only
  rw [if_pos hval]
  rfl

/-- A text of ASCII characters. -/
def IsAscii (text : Text) : Prop := ∀ c ∈ text, c.toNat < 128

theorem utf8_cons_of_ascii {c : Char} (h : c.toNat < 128) (text : Text) :
    utf8 (c :: text) = UInt8.ofNat c.toNat :: utf8 text := by
  rw [utf8_cons, encodeChar_of_ascii h, List.singleton_append]

/-- The byte of an ASCII character in the encoding of a character: they are the same. -/
theorem eq_of_mem_encodeChar {c d : Char} (hc : c.toNat < 128)
    (h : UInt8.ofNat c.toNat ∈ String.utf8EncodeChar d) : d = c := by
  have hbyte : (UInt8.ofNat c.toNat).toNat = c.toNat :=
    UInt8.toNat_ofNat_of_lt' (Nat.lt_trans hc (by decide))
  have hval := toNat_of_mem_encodeChar (by omega) h
  rw [hbyte] at hval
  rw [← Char.ofNat_toNat d, hval, Char.ofNat_toNat]

/-- A text begins with an ASCII pattern exactly when its bytes do. -/
theorem utf8_prefix_iff {pat : Text} (hpat : IsAscii pat) (text : Text) :
    utf8 pat <+: utf8 text ↔ pat <+: text := by
  induction pat generalizing text with
  | nil => simp
  | cons c pat ih =>
      have hc := hpat c List.mem_cons_self
      have hrest : IsAscii pat := fun d hd => hpat d (List.mem_cons_of_mem _ hd)
      rw [utf8_cons_of_ascii hc]
      cases text with
      | nil => simp
      | cons d text =>
          constructor
          · intro h
            have hmem : UInt8.ofNat c.toNat ∈ String.utf8EncodeChar d := by
              rw [utf8_cons] at h
              cases hd : String.utf8EncodeChar d with
              | nil => exact absurd hd String.utf8EncodeChar_ne_nil
              | cons b bytes =>
                  rw [hd, List.cons_append, List.cons_prefix_cons] at h
                  rw [h.1]
                  exact List.mem_cons_self
            obtain rfl := eq_of_mem_encodeChar hc hmem
            rw [utf8_cons_of_ascii hc, List.cons_prefix_cons] at h
            exact List.cons_prefix_cons.mpr ⟨rfl, (ih hrest text).mp h.2⟩
          · intro h
            obtain ⟨rfl, htail⟩ := List.cons_prefix_cons.mp h
            rw [utf8_cons_of_ascii hc]
            exact List.cons_prefix_cons.mpr ⟨rfl, (ih hrest text).mpr htail⟩

/-- The bytes of an ASCII pattern stand in the bytes of a text where the pattern stands in the
text, and nowhere else. -/
theorem utf8_prefix_drop_iff {pat : Text} (hne : pat ≠ []) (hpat : IsAscii pat) (text : Text)
    (p : Nat) :
    utf8 pat <+: (utf8 text).drop p ↔
      ∃ i ≤ text.length, p = byteLength (text.take i) ∧ pat <+: text.drop i := by
  constructor
  · intro h
    induction text generalizing p with
    | nil =>
        obtain ⟨c, pat, rfl⟩ := List.exists_cons_of_ne_nil hne
        rw [utf8_cons_of_ascii (hpat c List.mem_cons_self), utf8_nil, List.drop_nil] at h
        exact absurd (List.prefix_nil.mp h) (List.cons_ne_nil _ _)
    | cons d text ih =>
        by_cases hzero : p = 0
        · subst hzero
          exact ⟨0, Nat.zero_le _, rfl, (utf8_prefix_iff hpat _).mp h⟩
        by_cases hinside : p < d.utf8Size
        · -- a byte of the pattern would be one of the later bytes of a character
          obtain ⟨c, pat, rfl⟩ := List.exists_cons_of_ne_nil hne
          have hc := hpat c List.mem_cons_self
          have hlen : p < (String.utf8EncodeChar d).length := by
            rwa [String.length_utf8EncodeChar]
          rw [utf8_cons_of_ascii hc, utf8_cons, List.drop_append_of_le_length (by omega),
            List.drop_eq_getElem_cons hlen, List.cons_append, List.cons_prefix_cons] at h
          have hmem : UInt8.ofNat c.toNat ∈ String.utf8EncodeChar d := by
            rw [h.1]
            exact List.getElem_mem hlen
          obtain rfl := eq_of_mem_encodeChar hc hmem
          rw [encodeChar_of_ascii hc] at hlen
          simp only [List.length_singleton] at hlen
          omega
        · have hlen : (String.utf8EncodeChar d).length ≤ p := by
            rw [String.length_utf8EncodeChar]
            omega
          rw [utf8_cons, List.drop_append, List.drop_eq_nil_of_le hlen, List.nil_append,
            String.length_utf8EncodeChar] at h
          obtain ⟨i, hi, hp, hprefix⟩ := ih _ h
          refine ⟨i + 1, Nat.succ_le_succ hi, ?_, hprefix⟩
          rw [List.take_succ_cons, byteLength_cons, ← hp]
          omega
  · rintro ⟨i, -, rfl, hprefix⟩
    rw [utf8_drop_byteLength]
    exact (utf8_prefix_iff hpat _).mpr hprefix

end RustdeskCli.Foundation.Text
