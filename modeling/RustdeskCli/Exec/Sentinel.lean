import RustdeskCli.Foundation.Text
set_option autoImplicit false

/-!
# Exec: the sentinel and the search for its output (`src/daemon.rs`, `src/main.rs`)

`exec` types the command and then `echo '<sentinel>'$?`.  The terminal shows the
sentinel twice: in the echoed input, followed by a quote, and in the output,
followed by the exit code.  `find_sentinel_output` scans for the first occurrence
followed by a digit; the source carries two copies of it, which are the same text.

The scan jumps over each occurrence it refuses, so it is not a search for a
pattern.  `findSentinelOutput_eq` is its recursion on the remaining text; what it
finds in a prefix of a text is what it finds in the text, if there is room.
-/

namespace RustdeskCli.Exec

open RustdeskCli.Foundation

/-- The `i`-th of the 32 hexadecimal digits of a `u128`. -/
def hexDigit (id : BitVec 128) (i : Nat) : Char := Nat.digitChar (id.toNat / 16 ^ (31 - i) % 16)

/-- `format!("__RDCLI_{sentinel_id:032x}__")`. -/
def sentinelOf (id : BitVec 128) : Text :=
  "__RDCLI_".toList ++ (List.range 32).map (hexDigit id) ++ "__".toList

/-- What the parsers rely on in a sentinel: it does not break a line or end a
quotation, and is no part of `echo`. -/
structure IsMarker (sentinel : Text) : Prop where
  underscore : '_' ∈ sentinel
  no_lf : '\n' ∉ sentinel
  no_cr : '\r' ∉ sentinel
  no_quote : '\x27' ∉ sentinel
  no_replacement : '\uFFFD' ∉ sentinel

/-- No character of a sentinel breaks a line, ends a quotation or replaces bytes. -/
theorem ne_of_mem_sentinelOf {id : BitVec 128} {c : Char} (hc : c ∈ sentinelOf id) :
    c ≠ '\n' ∧ c ≠ '\r' ∧ c ≠ '\x27' ∧ c ≠ '\uFFFD' := by
  rcases List.mem_append.mp hc with hc | hc
  · rcases List.mem_append.mp hc with hc | hc
    · have hmark : ∀ c ∈ "__RDCLI_".toList,
          c ≠ '\n' ∧ c ≠ '\r' ∧ c ≠ '\x27' ∧ c ≠ '\uFFFD' := by simp
      exact hmark c hc
    · have hdigit : ∀ k < 16,
          Nat.digitChar k ≠ '\n' ∧ Nat.digitChar k ≠ '\r' ∧ Nat.digitChar k ≠ '\x27' ∧
            Nat.digitChar k ≠ '\uFFFD' := by
        decide
      obtain ⟨i, _, rfl⟩ := List.mem_map.mp hc
      exact hdigit _ (Nat.mod_lt _ (by decide))
  · have hmark : ∀ c ∈ "__".toList,
        c ≠ '\n' ∧ c ≠ '\r' ∧ c ≠ '\x27' ∧ c ≠ '\uFFFD' := by simp
    exact hmark c hc

theorem sentinelOf_isMarker (id : BitVec 128) : IsMarker (sentinelOf id) where
  underscore := List.mem_append_right _ (by decide)
  no_lf := fun h => (ne_of_mem_sentinelOf h).1 rfl
  no_cr := fun h => (ne_of_mem_sentinelOf h).2.1 rfl
  no_quote := fun h => (ne_of_mem_sentinelOf h).2.2.1 rfl
  no_replacement := fun h => (ne_of_mem_sentinelOf h).2.2.2 rfl

theorem IsMarker.ne_nil {sentinel : Text} (h : IsMarker sentinel) : sentinel ≠ [] :=
  List.ne_nil_of_mem h.underscore

/-- `after.starts_with(|c: char| c.is_ascii_digit())`. -/
def startsWithDigit (after : Text) : Bool := after.head?.any Char.isDigit

/-- The `while let` loop of `find_sentinel_output`.  The fuel bounds the number of
turns; a turn moves `search_from` past a whole sentinel. -/
def findSentinelOutput.loop (raw sentinel : Text) : Nat → Nat → Option Nat
  | 0, _ => none
  | fuel + 1, searchFrom =>
      match Text.find sentinel (raw.drop searchFrom) with
      | none => none
      | some pos =>
          let absPos := searchFrom + pos
          let after := raw.drop (absPos + sentinel.length)
          if startsWithDigit after then some absPos
          else findSentinelOutput.loop raw sentinel fuel (absPos + sentinel.length)

/-- `find_sentinel_output`. -/
def findSentinelOutput (raw sentinel : Text) : Option Nat :=
  findSentinelOutput.loop raw sentinel (raw.length + 1) 0

/-! ## The scan as a recursion on the remaining text -/

variable {sentinel : Text}

/-- With enough fuel the loop depends on the remaining text only, up to the offset
it starts at. -/
theorem loop_agree (hne : sentinel ≠ []) :
    ∀ (fuel fuel' : Nat) {raw raw' : Text} {from' from'' : Nat},
      raw.drop from' = raw'.drop from'' →
      (raw.drop from').length < fuel → (raw.drop from').length < fuel' →
      ∃ found : Option Nat,
        findSentinelOutput.loop raw sentinel fuel from' = found.map (· + from') ∧
        findSentinelOutput.loop raw' sentinel fuel' from'' = found.map (· + from'') := by
  intro fuel
  induction fuel with
  | zero => intro fuel' raw raw' from' from'' _ hlt; omega
  | succ fuel ih =>
      intro fuel' raw raw' from' from'' heq hlt hlt'
      obtain ⟨fuel', rfl⟩ : ∃ n, fuel' = n + 1 := ⟨fuel' - 1, by omega⟩
      rw [findSentinelOutput.loop, findSentinelOutput.loop, ← heq]
      cases hfind : Text.find sentinel (raw.drop from') with
      | none => exact ⟨none, rfl, rfl⟩
      | some pos =>
          have hfit := Text.find_length hne hfind
          have hpos := List.length_pos_of_ne_nil hne
          -- both loops look at the same text after the occurrence
          have hafter : raw.drop (from' + pos + sentinel.length) =
              raw'.drop (from'' + pos + sentinel.length) := by
            rw [Nat.add_assoc, Nat.add_assoc, ← List.drop_drop, heq, List.drop_drop]
          have hshort : (raw.drop (from' + pos + sentinel.length)).length + 1 ≤
              (raw.drop from').length := by
            simp only [List.length_drop] at hfit ⊢
            omega
          simp only [← hafter]
          split
          · exact ⟨some pos, by simp [Nat.add_comm], by simp [Nat.add_comm]⟩
          · obtain ⟨found, h, h'⟩ := ih fuel' hafter (by omega) (by omega)
            refine ⟨found.map (· + (pos + sentinel.length)), ?_, ?_⟩
            · rw [h, Option.map_map]
              congr 1
              funext n
              simp only [Function.comp_apply]
              omega
            · rw [h', Option.map_map]
              congr 1
              funext n
              simp only [Function.comp_apply]
              omega

/-- The scan: stop at the first occurrence if a digit follows, else go on after it. -/
theorem findSentinelOutput_eq (hne : sentinel ≠ []) (raw : Text) :
    findSentinelOutput raw sentinel =
      match Text.find sentinel raw with
      | none => none
      | some pos =>
          let after := raw.drop (pos + sentinel.length)
          if startsWithDigit after then some pos
          else (findSentinelOutput after sentinel).map (· + (pos + sentinel.length)) := by
  rw [findSentinelOutput, findSentinelOutput.loop, List.drop_zero]
  cases hfind : Text.find sentinel raw with
  | none => rfl
  | some pos =>
      have hfit := Text.find_length hne hfind
      have hpos := List.length_pos_of_ne_nil hne
      simp only [Nat.zero_add]
      split
      · rfl
      · have hshort : (raw.drop (pos + sentinel.length)).length < raw.length := by
          rw [List.length_drop]
          omega
        obtain ⟨found, h, h'⟩ := loop_agree hne raw.length
          ((raw.drop (pos + sentinel.length)).length + 1)
          List.drop_zero.symm hshort (by omega)
        rw [h, findSentinelOutput, h']
        simp

/-- The scan stops at a first occurrence with a digit after it. -/
theorem findSentinelOutput_stop (hne : sentinel ≠ []) {before after : Text}
    (hfind : Text.find sentinel (before ++ (sentinel ++ after)) = some before.length)
    (hdigit : startsWithDigit after = true) :
    findSentinelOutput (before ++ (sentinel ++ after)) sentinel = some before.length := by
  have hdrop : (before ++ (sentinel ++ after)).drop (before.length + sentinel.length) = after := by
    rw [← List.append_assoc]
    exact List.drop_left' (by simp)
  rw [findSentinelOutput_eq hne, hfind]
  simp only [hdrop, hdigit, if_true]

/-- The scan jumps over a first occurrence with no digit after it. -/
theorem findSentinelOutput_skip (hne : sentinel ≠ []) {before after : Text}
    (hfind : Text.find sentinel (before ++ (sentinel ++ after)) = some before.length)
    (hdigit : startsWithDigit after = false) :
    findSentinelOutput (before ++ (sentinel ++ after)) sentinel =
      (findSentinelOutput after sentinel).map (· + (before.length + sentinel.length)) := by
  have hdrop : (before ++ (sentinel ++ after)).drop (before.length + sentinel.length) = after := by
    rw [← List.append_assoc]
    exact List.drop_left' (by simp)
  rw [findSentinelOutput_eq hne, hfind]
  simp only [hdrop, hdigit, Bool.false_eq_true, if_false]

/-- Where the scan stops, the sentinel stands and a digit follows. -/
theorem findSentinelOutput_spec (hne : sentinel ≠ []) {raw : Text} {p : Nat}
    (h : findSentinelOutput raw sentinel = some p) :
    sentinel <+: raw.drop p ∧ startsWithDigit (raw.drop (p + sentinel.length)) = true := by
  induction hn : raw.length using Nat.strong_induction_on generalizing raw p with
  | _ n ih =>
      rw [findSentinelOutput_eq hne] at h
      cases hfind : Text.find sentinel raw with
      | none => simp [hfind] at h
      | some pos =>
          have hfit := Text.find_length hne hfind
          have hpos := List.length_pos_of_ne_nil hne
          simp only [hfind] at h
          split at h
          · rename_i hdigit
            simp only [Option.some.injEq] at h
            subst h
            exact ⟨(Text.find_eq_some hfind).1, hdigit⟩
          · obtain ⟨q, hq, rfl⟩ := Option.map_eq_some_iff.mp h
            have hrec := ih _ (by rw [List.length_drop]; omega) hq rfl
            rw [List.drop_drop, List.drop_drop] at hrec
            refine ⟨by rw [Nat.add_comm]; exact hrec.1, ?_⟩
            rw [show q + (pos + sentinel.length) + sentinel.length =
              pos + sentinel.length + (q + sentinel.length) by omega]
            exact hrec.2

theorem lt_length_of_startsWithDigit {raw : Text} {k : Nat}
    (h : startsWithDigit (raw.drop k) = true) : k < raw.length := by
  by_contra hle
  rw [List.drop_eq_nil_of_le (by omega)] at h
  simp [startsWithDigit] at h

theorem startsWithDigit_mono {short long : Text} (hpre : short <+: long)
    (hne : short ≠ []) : startsWithDigit long = startsWithDigit short := by
  obtain ⟨rest, rfl⟩ := hpre
  cases short with
  | nil => exact absurd rfl hne
  | cons c short => rfl

theorem findSentinelOutput_nil (hne : sentinel ≠ []) : findSentinelOutput [] sentinel = none := by
  rw [findSentinelOutput_eq hne]
  simp [Text.find, hne]

/-- What the scan finds in a text, it finds in every longer text. -/
theorem findSentinelOutput_mono (hne : sentinel ≠ []) {short long : Text}
    (hpre : short <+: long) {p : Nat} (h : findSentinelOutput short sentinel = some p) :
    findSentinelOutput long sentinel = some p := by
  induction hn : short.length using Nat.strong_induction_on generalizing short long p with
  | _ n ih =>
      rw [findSentinelOutput_eq hne] at h ⊢
      cases hfind : Text.find sentinel short with
      | none => simp [hfind] at h
      | some pos =>
          have hfit := Text.find_length hne hfind
          have hpos := List.length_pos_of_ne_nil hne
          have hrest : short.drop (pos + sentinel.length) <+: long.drop (pos + sentinel.length) :=
            hpre.drop _
          simp only [hfind] at h
          simp only [Text.find_mono hne hpre hfind]
          by_cases hnil : short.drop (pos + sentinel.length) = []
          · simp [hnil, startsWithDigit, findSentinelOutput_nil hne] at h
          · rw [startsWithDigit_mono hrest hnil]
            split at h
            · rename_i hdigit
              rw [if_pos hdigit]
              exact h
            · obtain ⟨q, hq, rfl⟩ := Option.map_eq_some_iff.mp h
              rw [if_neg (by assumption), ih _ (by rw [List.length_drop]; omega) hrest hq rfl]
              rfl

/-- What the scan finds in a text, it finds in every prefix with room for the
sentinel and a digit. -/
theorem findSentinelOutput_of_length (hne : sentinel ≠ []) {short long : Text}
    (hpre : short <+: long) {p : Nat} (h : findSentinelOutput long sentinel = some p)
    (hlen : p + sentinel.length < short.length) :
    findSentinelOutput short sentinel = some p := by
  induction hn : long.length using Nat.strong_induction_on generalizing short long p with
  | _ n ih =>
      rw [findSentinelOutput_eq hne] at h ⊢
      cases hfind : Text.find sentinel long with
      | none => simp [hfind] at h
      | some pos =>
          have hfit := Text.find_length hne hfind
          have hpos := List.length_pos_of_ne_nil hne
          have hrest : short.drop (pos + sentinel.length) <+: long.drop (pos + sentinel.length) :=
            hpre.drop _
          simp only [hfind] at h
          have hroom : pos + sentinel.length < short.length := by
            split at h
            · simp only [Option.some.injEq] at h
              omega
            · obtain ⟨q, _, rfl⟩ := Option.map_eq_some_iff.mp h
              omega
          have hnil : short.drop (pos + sentinel.length) ≠ [] := by
            rw [Ne, List.drop_eq_nil_iff]
            omega
          simp only [Text.find_of_length hne hpre hfind (by omega)]
          rw [← startsWithDigit_mono hrest hnil]
          split at h
          · rename_i hdigit
            rw [if_pos hdigit]
            exact h
          · obtain ⟨q, hq, rfl⟩ := Option.map_eq_some_iff.mp h
            rw [if_neg (by assumption), ih _ (by rw [List.length_drop]; omega) hrest hq
              (by rw [List.length_drop]; omega) rfl]
            rfl

end RustdeskCli.Exec
