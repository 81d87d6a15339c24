import Mathlib.Algebra.Group.Int.Defs
import Mathlib.Algebra.Group.Nat.Defs
import Mathlib.Data.List.DropRight
import Mathlib.Data.List.Infix
set_option autoImplicit false

/-!
# Foundation: searching in texts

A Rust `&str` is the list of its characters.  Offsets count characters where the
source counts bytes: every offset of the source comes from a search, so it is a
character boundary, and offsets are only added and compared.

`find` and `rfind` are stated over an arbitrary type.  What a search finds in a
text, in a longer text, and on each side of a separator is all that the parsers
above need.
-/

namespace RustdeskCli.Foundation

/-- A `str`, as the list of its characters. -/
abbrev Text := List Char

namespace Text

section Search

variable {α : Type}

/-- Standing at an offset survives a longer text. -/
theorem prefix_drop_mono {pat text more : List α} {i : Nat} (hpre : text <+: more)
    (h : pat <+: text.drop i) : pat <+: more.drop i := by
  obtain ⟨rest, rfl⟩ := hpre
  exact h.trans (by rw [List.drop_append]; exact List.prefix_append _ _)

/-- Standing at an offset survives a shorter text that still has room for the
pattern. -/
theorem prefix_drop_of_length {pat text more : List α} {i : Nat} (hpre : text <+: more)
    (h : pat <+: more.drop i) (hlen : i + pat.length ≤ text.length) : pat <+: text.drop i := by
  obtain ⟨rest, rfl⟩ := hpre
  rw [List.drop_append_of_le_length (by omega)] at h
  exact List.prefix_of_prefix_length_le h (List.prefix_append _ _) (by simp; omega)

/-- A pattern without the separator stands on one side of it. -/
theorem prefix_append_cons_of_not_mem {pat xs ys : List α} {sep : α} (hsep : sep ∉ pat)
    (h : pat <+: xs ++ sep :: ys) : pat <+: xs := by
  induction pat generalizing xs with
  | nil => exact List.nil_prefix
  | cons p pat ih =>
      cases xs with
      | nil =>
          have : p = sep := (List.cons_prefix_cons.mp h).1
          exact absurd (this ▸ List.mem_cons_self) hsep
      | cons x xs =>
          obtain ⟨rfl, hrest⟩ := List.cons_prefix_cons.mp h
          exact List.cons_prefix_cons.mpr
            ⟨rfl, ih (fun hmem => hsep (List.mem_cons_of_mem _ hmem)) hrest⟩

/-- A prefix of two texts in a row ends in the first or in the second. -/
theorem prefix_append_cases {pre xs ys : List α} (h : pre <+: xs ++ ys) :
    pre <+: xs ∨ ∃ tail, tail <+: ys ∧ pre = xs ++ tail := by
  rcases List.prefix_or_prefix_of_prefix h (List.prefix_append xs ys) with h' | ⟨tail, rfl⟩
  · exact .inl h'
  · exact .inr ⟨tail, (List.prefix_append_right_inj xs).mp h, rfl⟩

/-- A prefix that ends with a character the second text does not have ends in the
first. -/
theorem concat_isPrefix_left {pre xs ys : List α} {c : α} (hc : c ∉ ys)
    (h : pre ++ [c] <+: xs ++ ys) : pre ++ [c] <+: xs := by
  rcases prefix_append_cases h with h' | ⟨tail, htail, heq⟩
  · exact h'
  · cases tail using List.reverseRecOn with
    | nil => rw [heq, List.append_nil]
    | append_singleton tail d =>
        rw [← List.append_assoc] at heq
        have : c = d := by simpa using (List.append_inj_right' heq rfl)
        exact absurd (htail.subset (by simp [this])) hc

/-- Taking characters stops at the same place in a longer text, or later. -/
theorem takeWhile_prefix_takeWhile (p : α → Bool) {short long : List α} (h : short <+: long) :
    short.takeWhile p <+: long.takeWhile p := by
  obtain ⟨rest, rfl⟩ := h
  rw [List.takeWhile_append]
  split
  · exact (List.takeWhile_prefix p).trans (List.prefix_append _ _)
  · exact List.prefix_rfl

/-- Taking characters stops at a last one that is not to be taken. -/
theorem takeWhile_append_of_neg {p : α → Bool} {xs : List α} {c : α} (hc : p c = false) :
    (xs ++ [c]).takeWhile p = xs.takeWhile p := by
  rw [List.takeWhile_append]
  split
  · rename_i hlen
    rw [List.IsPrefix.eq_of_length (List.takeWhile_prefix p) hlen]
    simp [hc]
  · rfl

/-- A pattern that does not stand across the seam stands on one side of it. -/
theorem infix_append_iff_of_seam {pat xs ys : List α}
    (hseam : ∀ a b, pat = a ++ b → a ≠ [] → b ≠ [] → a <:+ xs → ¬b <+: ys) :
    pat <:+: xs ++ ys ↔ pat <:+: xs ∨ pat <:+: ys := by
  constructor
  · rintro ⟨before, after, heq⟩
    rw [List.append_assoc] at heq
    rcases List.append_eq_append_iff.mp heq with ⟨mid, rfl, hmid⟩ | ⟨mid, rfl, hmid⟩
    · rcases List.append_eq_append_iff.mp hmid with ⟨mid', rfl, -⟩ | ⟨mid', rfl, hys⟩
      · exact .inl ⟨before, mid', by rw [List.append_assoc]⟩
      · by_cases hleft : mid = []
        · subst hleft
          exact .inr ⟨[], after, by rw [hys]; rfl⟩
        · by_cases hright : mid' = []
          · subst hright
            exact .inl ⟨before, [], by simp⟩
          · have hnot := hseam mid mid' rfl hleft hright (List.suffix_append before mid)
            exact absurd ⟨after, hys.symm⟩ hnot
    · exact .inr ⟨mid, after, by rw [hmid, List.append_assoc]⟩
  · rintro (h | h)
    · exact List.infix_append_of_infix_left h
    · exact List.infix_append_of_infix_right h

/-- No piece of a split contains the separator. -/
theorem not_mem_of_mem_splitOn [BEq α] [LawfulBEq α] {sep : α} {text piece : List α}
    (h : piece ∈ text.splitOn sep) : sep ∉ piece := by
  induction text generalizing piece with
  | nil =>
      rw [List.splitOn_nil, List.mem_singleton] at h
      simp [h]
  | cons c text ih =>
      rw [List.splitOn_cons_eq_if_modifyHead] at h
      obtain ⟨first, rest, heq⟩ := List.exists_cons_of_ne_nil (List.splitOn_ne_nil sep text)
      rw [heq] at h ih
      split at h
      · rw [List.mem_cons] at h
        cases h with
        | inl h => simp [h]
        | inr h => exact ih h
      · rename_i hc
        rw [List.modifyHead_cons, List.mem_cons] at h
        cases h with
        | inl h =>
            rw [h, List.mem_cons, not_or]
            exact ⟨fun heq => hc (by simp [← heq]), ih List.mem_cons_self⟩
        | inr h => exact ih (List.mem_cons_of_mem _ h)

/-- What has no separator goes into the first piece. -/
theorem splitOn_append_of_not_mem [BEq α] [LawfulBEq α] {sep : α} {xs : List α} (h : sep ∉ xs)
    (ys : List α) : (xs ++ ys).splitOn sep = (ys.splitOn sep).modifyHead (xs ++ ·) := by
  obtain ⟨first, rest, heq⟩ := List.exists_cons_of_ne_nil (List.splitOn_ne_nil sep ys)
  rw [heq, List.modifyHead_cons]
  induction xs with
  | nil => rw [List.nil_append, List.nil_append, heq]
  | cons x xs ih =>
      have hx : (x == sep) = false := by
        rw [beq_eq_false_iff_ne]
        intro hsep
        exact h (hsep ▸ List.mem_cons_self)
      rw [List.cons_append, List.splitOn_cons_eq_if_modifyHead, hx,
        ih fun hmem => h (List.mem_cons_of_mem _ hmem)]
      rfl

variable [DecidableEq α]

/-- `str::find`: the offset of the first occurrence of a pattern. -/
def find (pat : List α) : List α → Option Nat
  | [] => if pat.isEmpty then some 0 else none
  | c :: text =>
      if pat.isPrefixOf (c :: text) then some 0 else (find pat text).map (· + 1)

/-- `str::rfind` of one character: the offset of its last occurrence. -/
def rfind (c : α) : List α → Option Nat
  | [] => none
  | d :: text =>
      match rfind c text with
      | some i => some (i + 1)
      | none => if d = c then some 0 else none

/-- `str::contains`. -/
def contains (text pat : List α) : Bool := (find pat text).isSome

/-- A search finds the first place where the pattern stands. -/
theorem find_eq_some {pat : List α} :
    ∀ {text : List α} {i : Nat}, find pat text = some i →
      pat <+: text.drop i ∧ ∀ j < i, ¬ pat <+: text.drop j := by
  intro text
  induction text with
  | nil =>
      intro i h
      rw [find] at h
      split at h
      · rename_i hempty
        simp only [Option.some.injEq] at h
        subst h
        rw [List.isEmpty_iff.mp hempty]
        exact ⟨List.nil_prefix, by omega⟩
      · cases h
  | cons c text ih =>
      intro i h
      rw [find] at h
      split at h
      · rename_i hpre
        simp only [Option.some.injEq] at h
        subst h
        exact ⟨List.isPrefixOf_iff_prefix.mp hpre, by omega⟩
      · rename_i hpre
        obtain ⟨k, hk, rfl⟩ := Option.map_eq_some_iff.mp h
        obtain ⟨hat, hbefore⟩ := ih hk
        refine ⟨by simpa using hat, ?_⟩
        intro j hj
        cases j with
        | zero => simpa [List.isPrefixOf_iff_prefix] using hpre
        | succ j => simpa using hbefore j (by omega)

/-- The first place where a nonempty pattern stands is what a search finds. -/
theorem find_of_first {pat : List α} (hpat : pat ≠ []) :
    ∀ {text : List α} {i : Nat}, pat <+: text.drop i →
      (∀ j < i, ¬ pat <+: text.drop j) → find pat text = some i := by
  intro text
  induction text with
  | nil =>
      intro i hat _
      rw [List.drop_nil, List.prefix_nil] at hat
      exact absurd hat hpat
  | cons c text ih =>
      intro i hat hbefore
      rw [find]
      cases i with
      | zero => rw [if_pos (List.isPrefixOf_iff_prefix.mpr (by simpa using hat))]
      | succ i =>
          have hhead := hbefore 0 (by omega)
          rw [List.drop_zero, ← List.isPrefixOf_iff_prefix] at hhead
          rw [if_neg hhead, ih (by simpa using hat)
            fun j hj => by simpa using hbefore (j + 1) (by omega)]
          rfl

/-- Nothing is found exactly when the pattern does not stand anywhere. -/
theorem find_eq_none_iff {pat : List α} :
    ∀ {text : List α}, find pat text = none ↔ ¬ pat <:+: text := by
  intro text
  induction text with
  | nil => simp [find]
  | cons c text ih =>
      rw [find, List.infix_cons_iff, not_or, ← ih, ← List.isPrefixOf_iff_prefix]
      split
      · simp_all
      · simp_all

/-- Containing a pattern is having it as an infix. -/
theorem contains_iff_infix {pat text : List α} : contains text pat = true ↔ pat <:+: text := by
  rw [contains, Option.isSome_iff_ne_none, ne_eq, find_eq_none_iff, not_not]

/-- The pattern that was found fits into the text. -/
theorem find_length {pat text : List α} {i : Nat} (hpat : pat ≠ [])
    (h : find pat text = some i) : i + pat.length ≤ text.length := by
  have hlen := (find_eq_some h).1.length_le
  have hpos := List.length_pos_of_ne_nil hpat
  rw [List.length_drop] at hlen
  omega

/-- What a search finds, it finds in every longer text. -/
theorem find_mono {pat text more : List α} {i : Nat} (hpat : pat ≠ [])
    (hpre : text <+: more) (h : find pat text = some i) : find pat more = some i := by
  have hfit := find_length hpat h
  obtain ⟨hat, hbefore⟩ := find_eq_some h
  refine find_of_first hpat (prefix_drop_mono hpre hat) fun j hj hmore => hbefore j hj ?_
  exact prefix_drop_of_length hpre hmore (by omega)

/-- What a search finds in the longer text, it finds in a shorter one that has room
for it. -/
theorem find_of_length {pat text more : List α} {i : Nat} (hpat : pat ≠ [])
    (hpre : text <+: more) (h : find pat more = some i) (hlen : i + pat.length ≤ text.length) :
    find pat text = some i := by
  obtain ⟨hat, hbefore⟩ := find_eq_some h
  refine find_of_first hpat (prefix_drop_of_length hpre hat hlen) fun j hj htext => ?_
  exact hbefore j hj (prefix_drop_mono hpre htext)

/-- A search for a pattern without the separator looks on the left of it first,
then on the right. -/
theorem find_append_cons {pat xs ys : List α} {sep : α} (hpat : pat ≠ []) (hsep : sep ∉ pat) :
    find pat (xs ++ sep :: ys) =
      match find pat xs with
      | some i => some i
      | none => (find pat ys).map (· + (xs.length + 1)) := by
  induction xs with
  | nil =>
      have hhead : ¬ pat.isPrefixOf (sep :: ys) = true := by
        rw [List.isPrefixOf_iff_prefix]
        intro h
        have hnil : pat <+: [] := prefix_append_cons_of_not_mem hsep h
        exact hpat (List.prefix_nil.mp hnil)
      have hnil : find pat [] = none := by simp [find, hpat]
      rw [List.nil_append, hnil, find, if_neg hhead]
      rfl
  | cons x xs ih =>
      have hiff : pat.isPrefixOf (x :: xs ++ sep :: ys) = pat.isPrefixOf (x :: xs) := by
        rw [Bool.eq_iff_iff, List.isPrefixOf_iff_prefix, List.isPrefixOf_iff_prefix]
        exact ⟨prefix_append_cons_of_not_mem hsep, fun h => h.trans (List.prefix_append _ _)⟩
      rw [List.cons_append, find, ← List.cons_append, hiff, ih, find]
      split
      · rfl
      · cases find pat xs with
        | some i => rfl
        | none =>
            simp only [Option.map_none, Option.map_map, List.length_cons]
            rfl

/-- A pattern without the separator stands on one side of it. -/
theorem infix_append_cons_iff {pat xs ys : List α} {sep : α} (hpat : pat ≠ []) (hsep : sep ∉ pat) :
    pat <:+: xs ++ sep :: ys ↔ pat <:+: xs ∨ pat <:+: ys := by
  rw [← contains_iff_infix, ← contains_iff_infix, ← contains_iff_infix, contains, contains,
    contains, find_append_cons hpat hsep]
  cases find pat xs with
  | some i => simp
  | none => simp

/-- A nonempty pattern that stands right here is found right here. -/
theorem find_append_self {pat : List α} (hpat : pat ≠ []) (ys : List α) :
    find pat (pat ++ ys) = some 0 :=
  find_of_first hpat (List.prefix_append _ _) (by omega)

/-- A character is found where it stands first. -/
theorem find_singleton {c : α} {xs : List α} (h : c ∉ xs) (ys : List α) :
    find [c] (xs ++ c :: ys) = some xs.length := by
  refine find_of_first (List.cons_ne_nil _ _) (by simp) fun j hj hpre => h ?_
  rw [List.drop_append_of_le_length (by omega), List.drop_eq_getElem_cons hj] at hpre
  rw [(List.cons_prefix_cons.mp hpre).1]
  exact List.getElem_mem hj

theorem rfind_eq_none_iff {c : α} {text : List α} : rfind c text = none ↔ c ∉ text := by
  induction text with
  | nil => simp [rfind]
  | cons d text ih =>
      rw [rfind, List.mem_cons, not_or, ← ih]
      cases rfind c text with
      | some i => simp
      | none => simp [eq_comm]

/-- The last occurrence is the one with none after it. -/
theorem rfind_append_cons {c : α} {xs ys : List α} (h : c ∉ ys) :
    rfind c (xs ++ c :: ys) = some xs.length := by
  induction xs with
  | nil => simp [rfind, rfind_eq_none_iff.mpr h]
  | cons x xs ih => simp [rfind, ih]

/-- A text is split by the last occurrence of a character. -/
theorem rfind_eq_some {c : α} {text : List α} {i : Nat} (h : rfind c text = some i) :
    ∃ xs ys, text = xs ++ c :: ys ∧ xs.length = i ∧ c ∉ ys := by
  induction text generalizing i with
  | nil => cases h
  | cons d text ih =>
      rw [rfind] at h
      cases hr : rfind c text with
      | some k =>
          rw [hr, Option.some.injEq] at h
          obtain ⟨xs, ys, rfl, hlen, hys⟩ := ih hr
          exact ⟨d :: xs, ys, rfl, by simp [hlen, h], hys⟩
      | none =>
          rw [hr] at h
          by_cases hd : d = c
          · simp only [hd, if_true, Option.some.injEq] at h
            exact ⟨[], text, by rw [hd]; rfl, h, rfind_eq_none_iff.mp hr⟩
          · simp [hd] at h

end Search

/-! ## Trimming, lines and numbers -/

/-- `char::is_whitespace`: the Unicode property White_Space. -/
def isWhitespace (c : Char) : Bool :=
  let n := c.toNat
  (9 ≤ n && n ≤ 13) || n = 0x20 || n = 0x85 || n = 0xA0 || n = 0x1680 ||
    (0x2000 ≤ n && n ≤ 0x200A) || n = 0x2028 || n = 0x2029 || n = 0x202F || n = 0x205F ||
    n = 0x3000

/-- `str::trim`. -/
def trim (text : Text) : Text := (text.dropWhile isWhitespace).rdropWhile isWhitespace

/-- The carriage return or the line feed. -/
def isLineEnd (c : Char) : Bool := c = '\r' || c = '\n'

/-- `trim_end_matches(['\r', '\n'])`. -/
def trimEndLines (text : Text) : Text := text.rdropWhile isLineEnd

/-- Trimming does not look beyond the last character that stays. -/
theorem rdropWhile_append_of_exists {α : Type} {p : α → Bool} {xs ys : List α}
    (h : ∃ y ∈ ys, p y = false) : (xs ++ ys).rdropWhile p = xs ++ ys.rdropWhile p := by
  induction ys using List.reverseRecOn with
  | nil => simp at h
  | append_singleton ys y ih =>
      rw [← List.append_assoc]
      by_cases hy : p y = true
      · rw [List.rdropWhile_concat_pos _ _ _ hy, List.rdropWhile_concat_pos _ _ _ hy]
        refine ih ?_
        obtain ⟨z, hz, hpz⟩ := h
        rcases List.mem_append.mp hz with hz | hz
        · exact ⟨z, hz, hpz⟩
        · rw [List.mem_singleton.mp hz, hy] at hpz
          cases hpz
      · rw [List.rdropWhile_concat_neg _ _ _ hy, List.rdropWhile_concat_neg _ _ _ hy,
          List.append_assoc]

/-- Trimming takes away a tail that is all to be trimmed. -/
theorem rdropWhile_append_of_forall {α : Type} {p : α → Bool} {xs ys : List α}
    (h : ∀ y ∈ ys, p y = true) : (xs ++ ys).rdropWhile p = xs.rdropWhile p := by
  induction ys using List.reverseRecOn with
  | nil => rw [List.append_nil]
  | append_singleton ys y ih =>
      rw [← List.append_assoc, List.rdropWhile_concat_pos _ _ _ (h y (by simp))]
      exact ih fun z hz => h z (List.mem_append_left _ hz)

theorem length_trimEndLines_le (text : Text) : (trimEndLines text).length ≤ text.length :=
  (List.rdropWhile_prefix isLineEnd text).length_le

/-- A tail with a character that stays makes the trimmed text longer than what is
before it. -/
theorem length_lt_trimEndLines (xs : Text) {ys : Text} (h : ∃ c ∈ ys, isLineEnd c = false) :
    xs.length < (trimEndLines (xs ++ ys)).length := by
  have hne : ys.rdropWhile isLineEnd ≠ [] := by
    intro hnil
    obtain ⟨c, hc, hkept⟩ := h
    rw [List.rdropWhile_eq_nil_iff.mp hnil c hc] at hkept
    cases hkept
  have hpos := List.length_pos_of_ne_nil hne
  rw [trimEndLines, rdropWhile_append_of_exists h, List.length_append]
  omega

/-- A line without the carriage return before its line feed. -/
def stripCr (line : Text) : Text := if line.getLast? = some '\r' then line.dropLast else line

/-- `str::lines`, where `line` is the line begun so far.  An empty last line is not
a line, and a last line without a line feed keeps its carriage return. -/
def linesFrom (line : Text) : Text → List Text
  | [] => if line.isEmpty then [] else [line]
  | c :: text =>
      if c = '\n' then stripCr line :: linesFrom [] text else linesFrom (line ++ [c]) text

/-- `str::lines`. -/
def lines (text : Text) : List Text := linesFrom [] text

/-- `[_].join("\n")`. -/
def joinLines (lines : List Text) : Text := ['\n'].intercalate lines

/-- The value of a text of ASCII digits. -/
def digitsValue (digits : Text) : Nat :=
  digits.foldl (fun n c => 10 * n + (c.toNat - '0'.toNat)) 0

/-- `str::parse::<i32>` of a text of ASCII digits, the only kind the source parses:
it fails on the empty text and on overflow. -/
def parseI32 (digits : Text) : Option Int :=
  if digits.isEmpty then none
  else if digitsValue digits ≤ 2147483647 then some (digitsValue digits) else none

theorem digitsValue_concat (digits : Text) (c : Char) :
    digitsValue (digits ++ [c]) = 10 * digitsValue digits + (c.toNat - '0'.toNat) := by
  rw [digitsValue, List.foldl_append, digitsValue]
  rfl

/-- A text of zeros is zero. -/
theorem digitsValue_of_zeros {digits : Text} (h : ∀ c ∈ digits, c = '0') :
    digitsValue digits = 0 := by
  induction digits using List.reverseRecOn with
  | nil => rfl
  | append_singleton digits c ih =>
      have hc : c = '0' := h c (by simp)
      rw [digitsValue_concat, ih fun d hd => h d (by simp [hd]), hc, Nat.sub_self]

/-- A small nonempty number parses. -/
theorem parseI32_of_le {digits : Text} (hne : digits ≠ [])
    (h : digitsValue digits ≤ 2147483647) : parseI32 digits = some (digitsValue digits : Int) := by
  rw [parseI32, if_neg (by simpa using hne), if_pos h]

/-- The digits read the same however early they are cut: there is one, or all are
zeros. -/
def StableDigits (digits : Text) : Prop := digits.length ≤ 1 ∨ ∀ c ∈ digits, c = '0'

instance (digits : Text) : Decidable (StableDigits digits) :=
  inferInstanceAs (Decidable (_ ∨ _))

/-- Every nonempty prefix of stable digits parses to the same number. -/
theorem parseI32_of_stable {digits pre : Text} (h : StableDigits digits) (hpre : pre <+: digits)
    (hne : pre ≠ []) : parseI32 pre = parseI32 digits := by
  rcases h with hlen | hzero
  · have hpos := List.length_pos_of_ne_nil hne
    have := hpre.length_le
    rw [hpre.eq_of_length (by omega)]
  · have hne' : digits ≠ [] := by
      rintro rfl
      exact hne (List.prefix_nil.mp hpre)
    have hpre0 := digitsValue_of_zeros fun c hc => hzero c (hpre.subset hc)
    have hdig0 := digitsValue_of_zeros hzero
    rw [parseI32_of_le hne (by omega), parseI32_of_le hne' (by omega), hpre0, hdig0]

/-- Digits whose nonempty prefixes all parse to one number are stable. -/
theorem stable_of_parseI32 (default value : Int) {digits : Text}
    (hdigit : ∀ c ∈ digits, c.isDigit = true)
    (h : ∀ pre, pre ≠ [] → pre <+: digits → (parseI32 pre).getD default = value) :
    StableDigits digits := by
  induction digits using List.reverseRecOn with
  | nil => exact .inl (by simp)
  | append_singleton digits c ih =>
      have hc := Char.isDigit_iff_toNat.mp (hdigit c (by simp))
      have hnine : '9'.toNat = 57 := rfl
      have hzero : '0'.toNat = 48 := rfl
      have hchar : c.toNat = 48 → c = '0' := fun heq => Char.toNat_inj.mp heq
      have hlast := h (digits ++ [c]) (by simp) List.prefix_rfl
      have hprev := h digits
      rcases ih (fun d hd => hdigit d (by simp [hd]))
          (fun pre hne hpre => h pre hne (hpre.trans (List.prefix_append _ _))) with hlen | hzeros
      · match digits, hlen with
        | [], _ => exact .inl (by simp)
        | [d], _ =>
            -- two digits: the number they make is the first one only if both are zero
            have hd := Char.isDigit_iff_toNat.mp (hdigit d (by simp))
            have hprev := hprev (by simp) (List.prefix_append _ _)
            have hone : digitsValue [d] = d.toNat - 48 := by simp [digitsValue, hzero]
            have htwo := digitsValue_concat [d] c
            rw [parseI32_of_le (by simp) (by omega), Option.getD_some] at hprev
            rw [parseI32_of_le (by simp) (by omega), Option.getD_some] at hlast
            refine .inr fun e he => ?_
            have hd0 : d = '0' := Char.toNat_inj.mp (by omega)
            have hc0 : c = '0' := hchar (by omega)
            simp only [List.cons_append, List.nil_append, List.mem_cons, List.not_mem_nil,
              or_false] at he
            rcases he with rfl | rfl
            · exact hd0
            · exact hc0
      · by_cases hnil : digits = []
        · exact .inl (by simp [hnil])
        · have hprev := hprev hnil (List.prefix_append _ _)
          have hval := digitsValue_of_zeros hzeros
          have hconcat := digitsValue_concat digits c
          rw [parseI32_of_le hnil (by omega), Option.getD_some] at hprev
          rw [parseI32_of_le (by simp) (by omega), Option.getD_some] at hlast
          refine .inr fun e he => ?_
          rcases List.mem_append.mp he with he | he
          · exact hzeros e he
          · rw [List.mem_singleton.mp he]
            exact hchar (by omega)

end Text

end RustdeskCli.Foundation
