import RustdeskCli.Exec.Sentinel
import RustdeskCli.Foundation.ByteOffsets
import RustdeskCli.Foundation.Overlaps
set_option autoImplicit false

/-!
# Exec: what the search for the sentinel finds (`src/daemon.rs`, `src/main.rs`)

`find_sentinel_output` works on byte positions and slices the text at them.  It always
returns, and every slice is at a position of the text.

A sentinel begins and ends with underscores, so the end of one occurrence can be the
begin of the next.  The search goes on behind each occurrence it refuses and never sees
one that begins inside of it.
-/

namespace RustdeskCli.Exec

open RustdeskCli.Foundation

/-! ## The search at byte positions -/

/-- `str::find`: the byte position of the first occurrence. -/
def findBytes (pat text : Text) : Option Nat :=
  (Text.find pat text).map fun i => Text.byteLength (text.take i)

/-- How a call of `find_sentinel_output` ends; `running` is a loop that has not ended in the
turns it was given. -/
inductive SearchEnd where
  | returned (found : Option Nat)
  | panicked
  | running
  deriving DecidableEq, Repr

/-- The `while let` loop of `find_sentinel_output` on byte positions, for some turns. -/
def searchLoop (raw sentinel : Text) : Nat → Nat → SearchEnd
  | 0, _ => .running
  | fuel + 1, searchFrom =>
      match Text.sliceFrom raw searchFrom with
      | none => .panicked
      | some rest =>
          match findBytes sentinel rest with
          | none => .returned none
          | some pos =>
              let absPos := searchFrom + pos
              match Text.sliceFrom raw (absPos + Text.byteLength sentinel) with
              | none => .panicked
              | some after =>
                  if startsWithDigit after then .returned (some absPos)
                  else searchLoop raw sentinel fuel (absPos + Text.byteLength sentinel)

/-- `find_sentinel_output` on byte positions. -/
def findSentinelOutputBytes (raw sentinel : Text) : SearchEnd :=
  searchLoop raw sentinel (raw.length + 1) 0

section Bytes

variable {raw sentinel : Text}

theorem sliceFrom_take (raw : Text) (k : Nat) :
    Text.sliceFrom raw (Text.byteLength (raw.take k)) = some (raw.drop k) := by
  have hslice := Text.sliceFrom_byteLength (raw.take k) (raw.drop k)
  rwa [List.take_append_drop] at hslice

theorem byteLength_take_add (raw : Text) (k n : Nat) :
    Text.byteLength (raw.take (k + n)) =
      Text.byteLength (raw.take k) + Text.byteLength ((raw.drop k).take n) := by
  rw [List.take_add, Text.byteLength_append]

/-- The byte position behind an occurrence. -/
theorem byteLength_take_behind {k : Nat} (h : sentinel <+: raw.drop k) :
    Text.byteLength (raw.take (k + sentinel.length)) =
      Text.byteLength (raw.take k) + Text.byteLength sentinel := by
  rw [byteLength_take_add, ← List.prefix_iff_eq_take.mp h]

/-- The loop is at the positions of the characters: it never panics, and with a turn for every
character that is left it returns. -/
theorem searchLoop_eq (hne : sentinel ≠ []) :
    ∀ (fuel k : Nat), (raw.drop k).length < fuel →
      searchLoop raw sentinel fuel (Text.byteLength (raw.take k)) =
        .returned ((findSentinelOutput.loop raw sentinel fuel k).map fun i =>
          Text.byteLength (raw.take i)) := by
  intro fuel
  induction fuel with
  | zero =>
      intro k hlt
      omega
  | succ fuel ih =>
      intro k hlt
      rw [searchLoop, sliceFrom_take, findSentinelOutput.loop]
      simp only [findBytes]
      cases hfind : Text.find sentinel (raw.drop k) with
      | none => rfl
      | some pos =>
          have hoccurs := (Text.find_eq_some hfind).1
          rw [List.drop_drop] at hoccurs
          have hfit := Text.find_length hne hfind
          have hpos := List.length_pos_of_ne_nil hne
          simp only [Option.map_some]
          rw [← byteLength_take_add, ← byteLength_take_behind hoccurs, sliceFrom_take]
          simp only
          split
          · rfl
          · apply ih
            rw [List.length_drop] at hfit hlt ⊢
            omega

/-- The search always returns, with the byte position of what the search at characters
finds. -/
theorem findSentinelOutputBytes_eq (hne : sentinel ≠ []) (raw : Text) :
    findSentinelOutputBytes raw sentinel =
      .returned ((findSentinelOutput raw sentinel).map fun i => Text.byteLength (raw.take i)) := by
  exact searchLoop_eq hne (raw.length + 1) 0 (by rw [List.drop_zero]; omega)

end Bytes

/-! ## What is looked for -/

/-- The bytes of the sentinel and of a digit stand at a byte position of the text. -/
def DigitFollows (raw sentinel : Text) (p : Nat) : Prop :=
  ∃ d : Char, d.isDigit = true ∧ Text.utf8 (sentinel ++ [d]) <+: (Text.utf8 raw).drop p

/-- The first such position. -/
def FirstDigitFollows (raw sentinel : Text) (p : Nat) : Prop :=
  DigitFollows raw sentinel p ∧ ∀ q < p, ¬DigitFollows raw sentinel q

/-- The sentinel and a digit stand behind the first `i` characters of the text. -/
def Marked (raw sentinel : Text) (i : Nat) : Prop :=
  Text.OccursAt sentinel raw i ∧ startsWithDigit (raw.drop (i + sentinel.length)) = true

instance (raw sentinel : Text) (i : Nat) : Decidable (Marked raw sentinel i) :=
  inferInstanceAs (Decidable (_ ∧ _))

/-- They do so for the first time. -/
def FirstMarked (raw sentinel : Text) (i : Nat) : Prop :=
  Marked raw sentinel i ∧ ∀ j < i, ¬Marked raw sentinel j

section Marked

variable {raw sentinel : Text}

theorem marked_iff {i : Nat} :
    Marked raw sentinel i ↔ ∃ d : Char, d.isDigit = true ∧ sentinel ++ [d] <+: raw.drop i := by
  unfold Marked Text.OccursAt
  constructor
  · rintro ⟨⟨after, hafter⟩, hdigit⟩
    have hrest : raw.drop (i + sentinel.length) = after := by
      rw [← List.drop_drop, ← hafter]
      exact List.drop_left
    rw [hrest] at hdigit
    cases after with
    | nil => cases hdigit
    | cons d after => exact ⟨d, hdigit, after, by rw [← hafter, List.append_assoc]; rfl⟩
  · rintro ⟨d, hdigit, after, hafter⟩
    rw [List.append_assoc] at hafter
    refine ⟨⟨[d] ++ after, hafter⟩, ?_⟩
    rw [← List.drop_drop, ← hafter, List.drop_left]
    exact hdigit

theorem Marked.lt_length {i : Nat} (h : Marked raw sentinel i) : i < raw.length := by
  have hlt := lt_length_of_startsWithDigit h.2
  omega

/-- Digits are ASCII. -/
theorem toNat_lt_of_isDigit {d : Char} (h : d.isDigit = true) : d.toNat < 128 := by
  simp only [Char.isDigit, Bool.and_eq_true, decide_eq_true_eq, UInt32.le_iff_toNat_le] at h
  have hnine : '9'.val.toNat = 57 := rfl
  have hval : d.toNat = d.val.toNat := rfl
  omega

/-- The bytes stand where the characters do. -/
theorem digitFollows_iff (hascii : Text.IsAscii sentinel) {p : Nat} :
    DigitFollows raw sentinel p ↔
      ∃ i, p = Text.byteLength (raw.take i) ∧ Marked raw sentinel i := by
  have hpat : ∀ d : Char, d.isDigit = true → Text.IsAscii (sentinel ++ [d]) := by
    intro d hd c hc
    rcases List.mem_append.mp hc with hc | hc
    · exact hascii c hc
    · rw [List.mem_singleton.mp hc]
      exact toNat_lt_of_isDigit hd
  have hne : ∀ d : Char, sentinel ++ [d] ≠ [] := fun d => List.concat_ne_nil d sentinel
  constructor
  · rintro ⟨d, hd, hbytes⟩
    obtain ⟨i, -, hp, hprefix⟩ := (Text.utf8_prefix_drop_iff (hne d) (hpat d hd) raw p).mp hbytes
    exact ⟨i, hp, marked_iff.mpr ⟨d, hd, hprefix⟩⟩
  · rintro ⟨i, hp, hmarked⟩
    have hlt := hmarked.lt_length
    obtain ⟨d, hd, hprefix⟩ := marked_iff.mp hmarked
    refine ⟨d, hd, (Text.utf8_prefix_drop_iff (hne d) (hpat d hd) raw p).mpr ?_⟩
    exact ⟨i, Nat.le_of_lt hlt, hp, hprefix⟩

theorem byteLength_take_lt_iff {i j : Nat} (hi : i ≤ raw.length) (hj : j ≤ raw.length) :
    Text.byteLength (raw.take i) < Text.byteLength (raw.take j) ↔ i < j := by
  constructor
  · intro hbytes
    by_contra hge
    rcases Nat.lt_or_eq_of_le (Nat.le_of_not_lt hge) with hlt | heq
    · have hback := Text.byteLength_take_lt hlt hi
      omega
    · rw [heq] at hbytes
      omega
  · intro hlt
    exact Text.byteLength_take_lt hlt hj

theorem byteLength_take_inj {i j : Nat} (hi : i ≤ raw.length) (hj : j ≤ raw.length)
    (h : Text.byteLength (raw.take i) = Text.byteLength (raw.take j)) : i = j := by
  have hlt := (byteLength_take_lt_iff hi hj).not
  have hgt := (byteLength_take_lt_iff hj hi).not
  have hle := hlt.mp (by omega)
  have hge := hgt.mp (by omega)
  omega

theorem firstDigitFollows_of_firstMarked (hascii : Text.IsAscii sentinel) {i : Nat}
    (h : FirstMarked raw sentinel i) :
    FirstDigitFollows raw sentinel (Text.byteLength (raw.take i)) := by
  refine ⟨(digitFollows_iff hascii).mpr ⟨i, rfl, h.1⟩, ?_⟩
  intro q hq hfollows
  obtain ⟨j, rfl, hmarked⟩ := (digitFollows_iff hascii).mp hfollows
  have hi := Nat.le_of_lt h.1.lt_length
  have hj := Nat.le_of_lt hmarked.lt_length
  exact h.2 j ((byteLength_take_lt_iff hj hi).mp hq) hmarked

/-- Something marked has a first one. -/
theorem exists_firstMarked {i : Nat} (h : Marked raw sentinel i) :
    ∃ j, FirstMarked raw sentinel j := by
  classical
  have hex : ∃ i, Marked raw sentinel i := ⟨i, h⟩
  exact ⟨Nat.find hex, Nat.find_spec hex, fun j hj => Nat.find_min hex hj⟩

end Marked

/-! ## The sentinel overlaps itself -/

theorem length_sentinelOf (id : BitVec 128) : (sentinelOf id).length = 42 := by
  have hopen : "__RDCLI_".toList.length = 8 := rfl
  have hclose : "__".toList.length = 2 := rfl
  unfold sentinelOf
  simp only [List.length_append, List.length_map, List.length_range, hopen, hclose]

theorem isAscii_sentinelOf (id : BitVec 128) : Text.IsAscii (sentinelOf id) := by
  intro c hc
  rcases List.mem_append.mp hc with hc | hc
  · rcases List.mem_append.mp hc with hc | hc
    · have hmark : ∀ c ∈ "__RDCLI_".toList, c.toNat < 128 := by simp
      exact hmark c hc
    · have hdigit : ∀ k < 16, (Nat.digitChar k).toNat < 128 := by decide
      obtain ⟨i, _, rfl⟩ := List.mem_map.mp hc
      exact hdigit _ (Nat.mod_lt _ (by omega))
  · have hmark : ∀ c ∈ "__".toList, c.toNat < 128 := by simp
    exact hmark c hc

/-- Behind its third character a sentinel has no `R`. -/
theorem R_not_mem_drop_sentinelOf (id : BitVec 128) : 'R' ∉ (sentinelOf id).drop 3 := by
  have hdrop : (sentinelOf id).drop 3 =
      "DCLI_".toList ++ (List.range 32).map (hexDigit id) ++ "__".toList := rfl
  rw [hdrop]
  intro hmem
  rcases List.mem_append.mp hmem with hmem | hmem
  · rcases List.mem_append.mp hmem with hmem | hmem
    · simp at hmem
    · have hdigit : ∀ k < 16, Nat.digitChar k ≠ 'R' := by decide
      obtain ⟨i, _, hi⟩ := List.mem_map.mp hmem
      exact hdigit _ (Nat.mod_lt _ (by omega)) hi
  · simp at hmem

/-- An occurrence of a sentinel reaches into the next by two characters at most: the third one
of a sentinel stands nowhere else in it. -/
theorem shortBorders_sentinelOf (id : BitVec 128) : Text.ShortBorders (sentinelOf id) := by
  intro d hpos hlt hborder
  have hlen := length_sentinelOf id
  by_contra hshort
  have hthird : (sentinelOf id)[2]? = some 'R' := rfl
  have hshift : ((sentinelOf id).drop d)[2]? = some 'R' := by
    have hin : 2 < ((sentinelOf id).drop d).length := by
      rw [List.length_drop]
      omega
    obtain ⟨rest, hrest⟩ := hborder
    have hwhole : (((sentinelOf id).drop d) ++ rest)[2]? = some 'R' := by
      rw [hrest]
      exact hthird
    exact (List.getElem?_append_left hin).symm.trans hwhole
  apply R_not_mem_drop_sentinelOf id
  rw [List.getElem?_drop] at hshift
  have hmem : ((sentinelOf id).drop 3)[d - 1]? = some 'R' := by
    rw [List.getElem?_drop, ← hshift]
    congr 1
    omega
  exact List.mem_of_getElem? hmem

/-! ## What is found -/

section Found

variable {sentinel : Text}

/-- The places in the rest of a text are those of the text behind the cut. -/
theorem marked_drop {raw : Text} {n j : Nat} :
    Marked (raw.drop n) sentinel j ↔ Marked raw sentinel (n + j) := by
  unfold Marked
  rw [Text.occursAt_drop, List.drop_drop, ← Nat.add_assoc]

theorem FirstMarked.drop {raw : Text} {n k : Nat} (h : FirstMarked raw sentinel (n + k)) :
    FirstMarked (raw.drop n) sentinel k := by
  refine ⟨marked_drop.mpr h.1, ?_⟩
  intro j hj hmarked
  exact h.2 (n + j) (by omega) (marked_drop.mp hmarked)

/-- The first place with a digit is found exactly when an even number of occurrences, each
overlapping the next, leads up to it. -/
theorem findSentinelOutput_first_iff (hne : sentinel ≠ []) (hshort : Text.ShortBorders sentinel)
    {raw : Text} {i : Nat} (h : FirstMarked raw sentinel i) :
    findSentinelOutput raw sentinel = some i ↔ Even (Text.chain sentinel raw i) := by
  induction hn : raw.length using Nat.strong_induction_on generalizing raw i with
  | _ n ih =>
      have hlen := List.length_pos_of_ne_nil hne
      rw [findSentinelOutput_eq hne]
      cases hfind : Text.find sentinel raw with
      | none =>
          have hinfix : sentinel <:+: raw := h.1.1.isInfix.trans (List.drop_suffix i raw).isInfix
          exact absurd hinfix (Text.find_eq_none_iff.mp hfind)
      | some pos =>
          obtain ⟨hpos, hfirst⟩ := Text.find_eq_some hfind
          have hle : pos ≤ i := by
            by_contra hlt
            exact hfirst i (by omega) h.1.1
          simp only
          split
          · -- a digit follows the first occurrence, which is the place
            rename_i hdigit
            have hge : i ≤ pos := by
              by_contra hlt
              exact h.2 pos (by omega) ⟨hpos, hdigit⟩
            obtain rfl := Nat.le_antisymm hle hge
            rw [Text.chain_of_first hfirst]
            exact iff_of_true rfl ⟨0, rfl⟩
          · rename_i hdigit
            have hlt : pos < i := by
              apply Nat.lt_of_le_of_ne hle
              rintro rfl
              exact hdigit h.1.2
            by_cases hover : i < pos + sentinel.length
            · -- the place begins inside of the first occurrence
              have hsecond := Text.overlapping_eq_some hshort h.1.1 hpos hlt hover
              rw [Text.chain_of_some hsecond, Text.chain_of_first hfirst]
              refine iff_of_false ?_ (by simp)
              intro hfound
              obtain ⟨k, -, hk⟩ := Option.map_eq_some_iff.mp hfound
              omega
            · -- it begins behind, where the search goes on
              obtain ⟨k, rfl⟩ : ∃ k, i = pos + sentinel.length + k :=
                ⟨i - (pos + sentinel.length), by omega⟩
              have hfit := Text.find_length hne hfind
              have hshorter : (raw.drop (pos + sentinel.length)).length < n := by
                rw [List.length_drop]
                omega
              rw [Text.even_chain_drop hshort hpos hfirst k h.1.1, ← ih _ hshorter h.drop rfl,
                Option.map_eq_some_iff]
              constructor
              · rintro ⟨j, hj, heq⟩
                rw [hj]
                exact congrArg some (by omega)
              · intro hfound
                exact ⟨k, hfound, by omega⟩

end Found

/-- The search returns the smallest byte position at which the sentinel stands with a digit
behind it, and nothing when there is none, exactly when an even number of occurrences, each
overlapping the next, leads up to the first such place. -/
theorem find_sentinel_output_exact_iff (raw : Text) (id : BitVec 128) :
    (∃ found, findSentinelOutputBytes raw (sentinelOf id) = .returned found ∧
        (∀ p, found = some p ↔ FirstDigitFollows raw (sentinelOf id) p) ∧
        (found = none ↔ ∀ p, ¬DigitFollows raw (sentinelOf id) p)) ↔
      ∀ i, FirstMarked raw (sentinelOf id) i → Even (Text.chain (sentinelOf id) raw i) := by
  have hne := (sentinelOf_isMarker id).ne_nil
  have hascii := isAscii_sentinelOf id
  have hshort := shortBorders_sentinelOf id
  have hreturns := findSentinelOutputBytes_eq hne raw
  constructor
  · rintro ⟨found, hfound, hsome, -⟩ i hfirst
    obtain rfl := SearchEnd.returned.inj (hreturns.symm.trans hfound)
    have hposition := (hsome _).mpr (firstDigitFollows_of_firstMarked hascii hfirst)
    obtain ⟨j, hj, hbytes⟩ := Option.map_eq_some_iff.mp hposition
    have hmarked : Marked raw (sentinelOf id) j := findSentinelOutput_spec hne hj
    obtain rfl := byteLength_take_inj (Nat.le_of_lt hmarked.lt_length)
      (Nat.le_of_lt hfirst.1.lt_length) hbytes
    exact (findSentinelOutput_first_iff hne hshort hfirst).mp hj
  · intro heven
    refine ⟨_, hreturns, ?_⟩
    by_cases hany : ∃ i, Marked raw (sentinelOf id) i
    · obtain ⟨i, hi⟩ := hany
      obtain ⟨j, hfirst⟩ := exists_firstMarked hi
      have hposition := firstDigitFollows_of_firstMarked hascii hfirst
      rw [(findSentinelOutput_first_iff hne hshort hfirst).mpr (heven j hfirst)]
      constructor
      · intro p
        rw [Option.map_some, Option.some_inj]
        constructor
        · rintro rfl
          exact hposition
        · intro hp
          rcases Nat.lt_trichotomy (Text.byteLength (raw.take j)) p with hlt | heq | hgt
          · exact absurd hposition.1 (hp.2 _ hlt)
          · exact heq
          · exact absurd hp.1 (hposition.2 _ hgt)
      · exact iff_of_false (by simp) fun hnone => hnone _ hposition.1
    · have hnothing : ∀ p, ¬DigitFollows raw (sentinelOf id) p := by
        intro p hp
        obtain ⟨i, -, hi⟩ := (digitFollows_iff hascii).mp hp
        exact hany ⟨i, hi⟩
      have hnone : findSentinelOutput raw (sentinelOf id) = none := by
        cases hfound : findSentinelOutput raw (sentinelOf id) with
        | none => rfl
        | some i => exact absurd ⟨i, findSentinelOutput_spec hne hfound⟩ hany
      rw [hnone]
      constructor
      · intro p
        exact iff_of_false (by simp) fun hp => hnothing p hp.1
      · exact iff_of_true rfl hnothing

/-- A sentinel whose last two characters are the first two of another with a digit behind it:
nothing is found, and the digit follows at byte 40. -/
theorem find_sentinel_output_misses_overlap :
    ∃ raw : Text, raw = (sentinelOf 0).take 40 ++ sentinelOf 0 ++ "0".toList ∧
      findSentinelOutputBytes raw (sentinelOf 0) = .returned none ∧
      DigitFollows raw (sentinelOf 0) 40 := by
  refine ⟨_, rfl, by decide +kernel, '0', rfl, ?_⟩
  exact ⟨[], by decide +kernel⟩

end RustdeskCli.Exec
