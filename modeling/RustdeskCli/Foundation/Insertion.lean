import Mathlib.Data.List.Basic
set_option autoImplicit false

/-!
# Foundation: inserted elements

A sequence with elements of some kind inserted at any places, two sequences merged into
one, and the loops that read such a sequence.  A loop that takes an element of that kind
without changing its state ends as it would have without it; a loop that such an element
ends is exactly as sensitive to it as the place it stands at.
-/

namespace RustdeskCli.Foundation

variable {α β : Type}

/-- `l'` is `l` with elements of the kind `P` inserted. -/
inductive Inserted (P : α → Prop) : List α → List α → Prop where
  | nil : Inserted P [] []
  | keep (x : α) {l l' : List α} (rest : Inserted P l l') : Inserted P (x :: l) (x :: l')
  | insert {x : α} {l l' : List α} (kind : P x) (rest : Inserted P l l') : Inserted P l (x :: l')

namespace Inserted

variable {P : α → Prop} {l l' m m' : List α}

theorem refl (P : α → Prop) (l : List α) : Inserted P l l := by
  induction l with
  | nil => exact .nil
  | cons x l ih => exact .keep x ih

theorem append (h : Inserted P l l') (h' : Inserted P m m') : Inserted P (l ++ m) (l' ++ m') := by
  induction h with
  | nil => exact h'
  | keep x _ ih => exact .keep x ih
  | insert kind _ ih => exact .insert kind ih

/-- Taking out by a test on the elements. -/
theorem filter (p : α → Bool) (h : Inserted P l l') :
    Inserted P (l.filter p) (l'.filter p) := by
  induction h with
  | nil => exact .nil
  | keep x _ ih =>
      rw [List.filter_cons, List.filter_cons]
      split
      · exact .keep x ih
      · exact ih
  | @insert x _ _ kind _ ih =>
      rw [List.filter_cons]
      split
      · exact .insert kind ih
      · exact ih

/-- What is made of the elements when nothing is made of the inserted ones. -/
theorem filterMap_eq {f : α → Option β} (hP : ∀ x, P x → f x = none) (h : Inserted P l l') :
    l'.filterMap f = l.filterMap f := by
  induction h with
  | nil => rfl
  | keep x _ ih => rw [List.filterMap_cons, List.filterMap_cons, ih]
  | insert kind _ ih => rw [List.filterMap_cons_none (hP _ kind), ih]

/-- The first element that passes a test which the inserted ones pass. -/
theorem find?_eq_or {p : α → Bool} (h : Inserted P l l') :
    l'.find? p = l.find? p ∨ ∃ x, P x ∧ l'.find? p = some x := by
  induction h with
  | nil => exact .inl rfl
  | keep x _ ih =>
      rw [List.find?_cons, List.find?_cons]
      split
      · exact .inl rfl
      · exact ih
  | @insert x _ _ kind _ ih =>
      rw [List.find?_cons]
      split
      · exact .inr ⟨x, kind, rfl⟩
      · exact ih

/-- The first element, and what comes after it. -/
theorem head?_eq_or (h : Inserted P l l') :
    (l'.head? = l.head? ∧ Inserted P l.tail l'.tail) ∨ ∃ x, P x ∧ l'.head? = some x := by
  cases h with
  | nil => exact .inl ⟨rfl, .nil⟩
  | keep x rest => exact .inl ⟨rfl, rest⟩
  | @insert x _ _ kind _ => exact .inr ⟨x, kind, rfl⟩

end Inserted

/-! ## Sequences that know which elements were inserted -/

namespace Mix

/-- What the sequence was before the insertion. -/
def plain (mix : List (α ⊕ α)) : List α := mix.filterMap Sum.getLeft?

/-- What was inserted. -/
def extra (mix : List (α ⊕ α)) : List α := mix.filterMap Sum.getRight?

/-- What the sequence is. -/
def whole (mix : List (α ⊕ α)) : List α := mix.map (Sum.elim id id)

variable (x : α) (mix mix' : List (α ⊕ α))

@[simp] theorem plain_nil : plain ([] : List (α ⊕ α)) = [] := rfl

@[simp] theorem plain_inl : plain (.inl x :: mix) = x :: plain mix := rfl

@[simp] theorem plain_inr : plain (.inr x :: mix) = plain mix := rfl

@[simp] theorem extra_nil : extra ([] : List (α ⊕ α)) = [] := rfl

@[simp] theorem extra_inl : extra (.inl x :: mix) = extra mix := rfl

@[simp] theorem extra_inr : extra (.inr x :: mix) = x :: extra mix := rfl

@[simp] theorem whole_nil : whole ([] : List (α ⊕ α)) = [] := rfl

@[simp] theorem whole_inl : whole (.inl x :: mix) = x :: whole mix := rfl

@[simp] theorem whole_inr : whole (.inr x :: mix) = x :: whole mix := rfl

@[simp] theorem plain_append : plain (mix ++ mix') = plain mix ++ plain mix' :=
  List.filterMap_append

@[simp] theorem extra_append : extra (mix ++ mix') = extra mix ++ extra mix' :=
  List.filterMap_append

@[simp] theorem whole_append : whole (mix ++ mix') = whole mix ++ whole mix' :=
  List.map_append

/-- Forgetting which elements were inserted. -/
theorem inserted {P : α → Prop} {mix : List (α ⊕ α)} (h : ∀ x ∈ extra mix, P x) :
    Inserted P (plain mix) (whole mix) := by
  induction mix with
  | nil => exact .nil
  | cons x mix ih =>
      rcases x with x | x
      · exact .keep x (ih h)
      · exact .insert (h x List.mem_cons_self) (ih fun y hy => h y (List.mem_cons_of_mem x hy))

end Mix

/-- `l'` consists of `l` and `extra`, each in its order. -/
def Merged (l extra l' : List α) : Prop :=
  ∃ mix, Mix.plain mix = l ∧ Mix.extra mix = extra ∧ Mix.whole mix = l'

namespace Merged

variable {l l' m m' extra more : List α}

theorem append (h : Merged l extra l') (h' : Merged m more m') :
    Merged (l ++ m) (extra ++ more) (l' ++ m') := by
  obtain ⟨mix, rfl, rfl, rfl⟩ := h
  obtain ⟨mix', rfl, rfl, rfl⟩ := h'
  exact ⟨mix ++ mix', by simp, by simp, by simp⟩

/-- The same element behind both. -/
theorem concat (h : Merged l extra l') (x : α) : Merged (l ++ [x]) extra (l' ++ [x]) := by
  simpa using h.append ⟨[.inl x], rfl, rfl, rfl⟩

/-- One more inserted element. -/
theorem insert (h : Merged l extra l') (x : α) : Merged l (extra ++ [x]) (l' ++ [x]) := by
  simpa using h.append ⟨[.inr x], rfl, rfl, rfl⟩

theorem refl (l : List α) : Merged l [] l := by
  refine ⟨l.map .inl, ?_, ?_, ?_⟩ <;> induction l with
  | nil => rfl
  | cons x l ih => simpa using ih

/-- Nothing is lost and nothing is added. -/
theorem length_eq (h : Merged l extra l') : l'.length = l.length + extra.length := by
  obtain ⟨mix, rfl, rfl, rfl⟩ := h
  induction mix with
  | nil => rfl
  | cons x mix ih =>
      rcases x with x | x <;> simp only [Mix.plain_inl, Mix.plain_inr, Mix.extra_inl, Mix.extra_inr,
        Mix.whole_inl, Mix.whole_inr, List.length_cons, ih] <;> omega

end Merged

/-! ## Loops that read -/

section Reading

variable {σ ρ : Type} (ends : α → Bool) (next : σ → α → σ) (stop : σ → α → ρ) (dry : σ → ρ)

/-- A loop that reads until an element ends it, or until there is nothing left. -/
def reading : List α → σ → ρ
  | [], st => dry st
  | x :: l, st => if ends x then stop st x else reading l (next st x)

/-- Where no element ends the loop, it runs dry. -/
theorem reading_of_find?_none {ends : α → Bool} {l : List α} (h : l.find? ends = none) (st : σ) :
    ∃ st', reading ends next stop dry l st = dry st' := by
  induction l generalizing st with
  | nil => exact ⟨st, rfl⟩
  | cons x l ih =>
      rw [List.find?_cons] at h
      rw [reading]
      split at h
      · cases h
      · rename_i hends
        rw [hends]
        exact ih h _

/-- Otherwise the first element that ends it does. -/
theorem reading_of_find?_some {ends : α → Bool} {l : List α} {x : α}
    (h : l.find? ends = some x) (st : σ) :
    ∃ st', reading ends next stop dry l st = stop st' x := by
  induction l generalizing st with
  | nil => cases h
  | cons y l ih =>
      rw [List.find?_cons] at h
      rw [reading]
      split at h
      · rename_i hends
        rw [hends, ← Option.some.inj h]
        exact ⟨st, rfl⟩
      · rename_i hends
        rw [hends]
        exact ih h _

/-- An element that ends the loop with `r`, as nothing else does, changes the result
exactly when it comes to be the first element that ends the loop. -/
theorem Inserted.reading_eq_iff {beat : α} {r : ρ} {l l' : List α}
    (hends : ends beat = true) (hbeat : ∀ st, stop st beat = r)
    (hother : ∀ st x, ends x = true → x ≠ beat → stop st x ≠ r) (hdry : ∀ st, dry st ≠ r)
    (h : Inserted (· = beat) l l') (st : σ) :
    reading ends next stop dry l' st = reading ends next stop dry l st ↔
      l'.find? ends = l.find? ends := by
  constructor
  · intro heq
    rcases h.find?_eq_or with hfind | ⟨x, rfl, hfind⟩
    · exact hfind
    · obtain ⟨st', hr⟩ := reading_of_find?_some next stop dry hfind st
      rw [hr, hbeat] at heq
      rw [hfind]
      rcases hl : l.find? ends with _ | y
      · obtain ⟨st', hr⟩ := reading_of_find?_none next stop dry hl st
        exact absurd (heq.trans hr).symm (hdry st')
      · obtain ⟨st', hr⟩ := reading_of_find?_some next stop dry hl st
        by_cases hy : y = x
        · rw [hy]
        · exact absurd (heq.trans hr).symm (hother st' y (List.find?_some hl) hy)
  · intro hfind
    induction h generalizing st with
    | nil => rfl
    | keep x _ ih =>
        rw [reading, reading]
        rw [List.find?_cons, List.find?_cons] at hfind
        split at hfind
        · rename_i hx
          rw [hx]
          rfl
        · rename_i hx
          rw [hx]
          exact ih _ hfind
    | @insert x l l' kind rest ih =>
        subst kind
        rw [List.find?_cons, hends] at hfind
        obtain ⟨st', hr⟩ := reading_of_find?_some next stop dry hfind.symm st
        rw [hr, reading, if_pos hends, hbeat, hbeat]

end Reading

/-! ## Loops that hand on what they have not read -/

section Leaving

variable {σ ρ τ : Type} (run : List α → σ → τ) (leave : ρ → List α → τ)

/-- A loop that takes one element at a time and either goes on or returns, with what it has
not read. -/
structure Leaves : Prop where
  nil : ∀ st, ∃ r, run [] st = leave r []
  cons : ∀ x st, (∃ r, ∀ l, run (x :: l) st = leave r l) ∨
    ∃ st', ∀ l, run (x :: l) st = run l st'

variable {run leave}

/-- Elements that such a loop passes over do not change its result. -/
theorem Inserted.leave_eq {P : α → Prop} {l l' : List α} (hrun : Leaves run leave)
    (hskip : ∀ x st l, P x → run (x :: l) st = run l st) (h : Inserted P l l') (st : σ) :
    ∃ r left left', run l st = leave r left ∧ run l' st = leave r left' ∧
      Inserted P left left' := by
  induction h generalizing st with
  | nil =>
      obtain ⟨r, hr⟩ := hrun.nil st
      exact ⟨r, [], [], hr, hr, .nil⟩
  | keep x rest ih =>
      rcases hrun.cons x st with ⟨r, hr⟩ | ⟨st', hr⟩
      · exact ⟨r, _, _, hr _, hr _, rest⟩
      · obtain ⟨r, left, left', hl, hl', hleft⟩ := ih st'
        exact ⟨r, left, left', (hr _).trans hl, (hr _).trans hl', hleft⟩
  | insert kind _ ih =>
      obtain ⟨r, left, left', hl, hl', hleft⟩ := ih st
      exact ⟨r, left, left', hl, (hskip _ st _ kind).trans hl', hleft⟩

end Leaving

end RustdeskCli.Foundation
