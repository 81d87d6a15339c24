import Mathlib.Algebra.Group.Nat.Even
import RustdeskCli.Foundation.Text
set_option autoImplicit false

/-!
# Foundation: occurrences that overlap

A pattern can overlap itself at its borders, the prefixes that are also suffixes of it.
When all borders are shorter than half of the pattern, an occurrence overlaps at most
one that begins before it.  The occurrences then form chains, and a search that goes on
behind each occurrence meets every other one of a chain: the first, the third and so on.
-/

namespace RustdeskCli.Foundation.Text

variable {α : Type}

/-- The pattern stands at a position of the text. -/
def OccursAt (pat text : List α) (i : Nat) : Prop := pat <+: text.drop i

instance [DecidableEq α] (pat text : List α) (i : Nat) : Decidable (OccursAt pat text i) :=
  inferInstanceAs (Decidable (pat <+: text.drop i))

/-- The pattern overlaps itself by no more than half of its length. -/
def ShortBorders (pat : List α) : Prop :=
  ∀ d, 0 < d → d < pat.length → pat.drop d <+: pat → pat.length ≤ 2 * d

/-- Two occurrences that overlap make a border of the pattern. -/
theorem OccursAt.border {pat text : List α} {i j : Nat} (hj : OccursAt pat text j)
    (hi : OccursAt pat text i) (hlt : j < i) : pat.drop (i - j) <+: pat := by
  have hshift : pat.drop (i - j) <+: text.drop i := by
    have hdrop := List.IsPrefix.drop hj (i - j)
    rwa [List.drop_drop, Nat.add_sub_cancel' (Nat.le_of_lt hlt)] at hdrop
  exact List.prefix_of_prefix_length_le hshift hi (by rw [List.length_drop]; omega)

/-- The occurrences in the rest of a text are those of the text behind the cut. -/
theorem occursAt_drop {pat text : List α} {n k : Nat} :
    OccursAt pat (text.drop n) k ↔ OccursAt pat text (n + k) := by
  rw [OccursAt, OccursAt, List.drop_drop]

variable [DecidableEq α]

/-- The first occurrence that begins before a position and ends behind it. -/
def overlapping (pat text : List α) (i : Nat) : Option Nat :=
  (List.range i).find? fun j => decide (i < j + pat.length ∧ OccursAt pat text j)

theorem lt_of_overlapping {pat text : List α} {i j : Nat} (h : overlapping pat text i = some j) :
    j < i :=
  List.mem_range.mp (List.mem_of_find?_eq_some h)

/-- The number of occurrences, each overlapping the next, that lead up to a position. -/
def chain (pat text : List α) (i : Nat) : Nat :=
  match h : overlapping pat text i with
  | none => 0
  | some j => chain pat text j + 1
termination_by i
decreasing_by exact lt_of_overlapping h

section Chain

variable {pat text : List α} {i j : Nat}

theorem chain_of_none (h : overlapping pat text i = none) : chain pat text i = 0 := by
  rw [chain]
  split
  · rfl
  · rename_i hsome
    rw [h] at hsome
    cases hsome

theorem chain_of_some (h : overlapping pat text i = some j) :
    chain pat text i = chain pat text j + 1 := by
  rw [chain]
  split
  · rename_i hnone
    rw [h] at hnone
    cases hnone
  · rename_i hsome
    obtain rfl := Option.some.inj (h.symm.trans hsome)
    rfl

theorem overlapping_eq_none_iff :
    overlapping pat text i = none ↔ ∀ k < i, i < k + pat.length → ¬OccursAt pat text k := by
  rw [overlapping, List.find?_eq_none]
  constructor
  · intro hnone k hk hreach hoccurs
    exact hnone k (List.mem_range.mpr hk) (decide_eq_true ⟨hreach, hoccurs⟩)
  · intro hnone k hk htrue
    obtain ⟨hreach, hoccurs⟩ := of_decide_eq_true htrue
    exact hnone k (List.mem_range.mp hk) hreach hoccurs

/-- Nothing leads up to a place before which the pattern does not stand. -/
theorem chain_of_first (hfirst : ∀ k < i, ¬OccursAt pat text k) : chain pat text i = 0 := by
  apply chain_of_none
  rw [overlapping_eq_none_iff]
  intro k hk _
  exact hfirst k hk

/-- At most one occurrence that begins before another overlaps it. -/
theorem overlapping_eq_some (hpat : ShortBorders pat) (hi : OccursAt pat text i)
    (hj : OccursAt pat text j) (hlt : j < i) (hreach : i < j + pat.length) :
    overlapping pat text i = some j := by
  cases hfound : overlapping pat text i with
  | none => exact absurd hj (overlapping_eq_none_iff.mp hfound j hlt hreach)
  | some k =>
      have hk := List.find?_some hfound
      obtain ⟨hkreach, hkoccurs⟩ := of_decide_eq_true hk
      have hklt := lt_of_overlapping hfound
      have hapart : ∀ {a b : Nat}, OccursAt pat text a → OccursAt pat text b → a < b →
          b < a + pat.length → pat.length ≤ 2 * (b - a) := by
        intro a b ha hb hab hreach
        exact hpat (b - a) (by omega) (by omega) (ha.border hb hab)
      rcases Nat.lt_trichotomy j k with hjk | rfl | hkj
      · have hfar := hapart hj hkoccurs hjk (by omega)
        have hnear := hapart hkoccurs hi hklt hkreach
        omega
      · rfl
      · have hfar := hapart hkoccurs hj hkj (by omega)
        have hnear := hapart hj hi hlt hreach
        omega

end Chain

/-- The text behind a first occurrence: the chains in it have as many members as in the whole
text, or two fewer when they go on in front of it. -/
theorem even_chain_drop {pat text : List α} {pos : Nat} (hpat : ShortBorders pat)
    (hpos : OccursAt pat text pos) (hfirst : ∀ k < pos, ¬OccursAt pat text k) (i : Nat)
    (hi : OccursAt pat text (pos + pat.length + i)) :
    Even (chain pat text (pos + pat.length + i)) ↔
      Even (chain pat (text.drop (pos + pat.length)) i) := by
  induction i using Nat.strong_induction_on with
  | _ i ih =>
      cases hrest : overlapping pat (text.drop (pos + pat.length)) i with
      | some k =>
          -- the same occurrence overlaps it in the whole text
          have hk := List.find?_some hrest
          obtain ⟨hreach, hoccurs⟩ := of_decide_eq_true hk
          have hlt := lt_of_overlapping hrest
          have hwhole := occursAt_drop.mp hoccurs
          have hover := overlapping_eq_some hpat hi hwhole (by omega) (by omega)
          rw [chain_of_some hrest, chain_of_some hover, Nat.even_add_one, Nat.even_add_one]
          exact not_congr (ih k hlt hwhole)
      | none =>
          have hnone := overlapping_eq_none_iff.mp hrest
          rw [chain_of_none hrest]
          cases hover : overlapping pat text (pos + pat.length + i) with
          | none => rw [chain_of_none hover]
          | some j =>
              have hj := List.find?_some hover
              obtain ⟨hreach, hoccurs⟩ := of_decide_eq_true hj
              have hlt := lt_of_overlapping hover
              -- it begins in front of the rest, and so overlaps the first occurrence
              have hfront : j < pos + pat.length := by
                by_contra hge
                have hsplit : j = pos + pat.length + (j - (pos + pat.length)) := by omega
                rw [hsplit] at hoccurs
                exact hnone _ (by omega) (by omega) (occursAt_drop.mpr hoccurs)
              have hsecond := overlapping_eq_some hpat hoccurs hpos (by omega) hfront
              rw [chain_of_some hover, chain_of_some hsecond, chain_of_first hfirst]
              exact iff_of_true ⟨1, rfl⟩ ⟨0, rfl⟩

end RustdeskCli.Foundation.Text
