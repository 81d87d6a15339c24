import RustdeskCli.Foundation.Insertion
import RustdeskCli.Foundation.Machine
set_option autoImplicit false

/-!
# Foundation: loops in rounds

A loop that takes one element of its input in each round and goes on with a state or
returns.  Such a loop is left after finitely many elements, the last of which ended it.
The rule at the end says when that was an element that may end it: exactly when none of
the elements it took was of a kind that should not end it but does.
-/

namespace RustdeskCli.Foundation

variable {α σ ρ τ : Type} {run : List α → σ → τ} {leave : ρ → List α → τ}

/-- The loop gets from one state to another by taking these elements, whatever comes behind
them. -/
def GoesThrough (run : List α → σ → τ) (l : List α) (st st' : σ) : Prop :=
  ∀ rest, run (l ++ rest) st = run rest st'

/-- The loop returns when it has taken these elements, whatever comes behind them. -/
def LeavesAfter (run : List α → σ → τ) (leave : ρ → List α → τ) (l : List α) (st : σ) (r : ρ) :
    Prop :=
  ∀ rest, run (l ++ rest) st = leave r rest

/-- A loop that takes one element in each round, and in which some element ends every
wait. -/
structure Rounds (run : List α → σ → τ) (leave : ρ → List α → τ) (round : σ → α → ρ ⊕ σ) :
    Prop where
  cons : ∀ x l st, run (x :: l) st = (round st x).elim (leave · l) (run l)
  leave_injective : ∀ r r' l l', leave r l = leave r' l' → r = r' ∧ l = l'
  ends : ∃ x, ∀ st, ∃ r, round st x = .inl r

/-- Such a loop hands on what it has not read, if it does so when it runs dry. -/
theorem Rounds.leaves {round : σ → α → ρ ⊕ σ} (h : Rounds run leave round)
    (hnil : ∀ st, ∃ r, run [] st = leave r []) : Leaves run leave where
  nil := hnil
  cons x st := by
    rcases hround : round st x with r | st'
    · exact .inl ⟨r, fun l => by rw [h.cons, hround]; rfl⟩
    · exact .inr ⟨st', fun l => by rw [h.cons, hround]; rfl⟩

/-- The last element such a loop takes ends it, and no other does. -/
theorem Rounds.last {round : σ → α → ρ ⊕ σ} (h : Rounds run leave round) {l : List α} {st : σ}
    {r : ρ} (hleaves : LeavesAfter run leave l st r) :
    ∃ before x st', l = before ++ [x] ∧ GoesThrough run before st st' ∧ round st' x = .inl r ∧
      ∀ y ∈ before, ∃ st₁ st₂, round st₁ y = .inr st₂ := by
  induction l generalizing st with
  | nil =>
      -- without an element it cannot have returned: the one that ends every wait is still there
      obtain ⟨x, hx⟩ := h.ends
      obtain ⟨r', hr'⟩ := hx st
      have hrun := hleaves [x]
      rw [List.nil_append, h.cons, hr'] at hrun
      cases (h.leave_injective _ _ _ _ hrun).2
  | cons x l ih =>
      rcases hround : round st x with r' | st₁
      · have hrun := hleaves []
        rw [List.append_nil, h.cons, hround] at hrun
        obtain ⟨rfl, rfl⟩ := h.leave_injective _ _ _ _ hrun
        exact ⟨[], x, st, rfl, fun _ => rfl, hround, fun _ hy => absurd hy List.not_mem_nil⟩
      · have hrest : LeavesAfter run leave l st₁ r := by
          intro rest
          have hrun := hleaves rest
          rwa [List.cons_append, h.cons, hround] at hrun
        obtain ⟨before, y, st', rfl, hgoes, hlast, hbefore⟩ := ih hrest
        refine ⟨x :: before, y, st', rfl, fun rest => ?_, hlast, ?_⟩
        · rw [List.cons_append, h.cons, hround]
          exact hgoes rest
        · rintro z (_ | ⟨_, hz⟩)
          · exact ⟨st, st₁, hround⟩
          · exact hbefore z hz

/-- The last element the loop takes is one that may end it, in the state it is taken in. -/
def EndsBy (run : List α → σ → τ) (Ends : σ → α → Prop) (l : List α) (st : σ) : Prop :=
  ∃ before x st', l = before ++ [x] ∧ GoesThrough run before st st' ∧ Ends st' x

/-- Where everything that ends a round may end it, apart from elements of the kind `Bad`, and
those end every round they are taken in, a run ends properly exactly when it takes no such
element. -/
theorem Rounds.endsBy_iff {round : σ → α → ρ ⊕ σ} (h : Rounds run leave round)
    {Ends : σ → α → Prop} {Good Bad : α → Prop}
    (hends : ∀ st x r, Good x → round st x = .inl r → Ends st x ∨ Bad x)
    (hbad : ∀ st st' x, Bad x → round st x ≠ .inr st') (hnot : ∀ st x, Bad x → ¬ Ends st x)
    {l : List α} {st : σ} {r : ρ} (hgood : ∀ x ∈ l, Good x)
    (hleaves : LeavesAfter run leave l st r) :
    EndsBy run Ends l st ↔ ∀ x ∈ l, ¬ Bad x := by
  obtain ⟨before, x, st', rfl, hgoes, hlast, hbefore⟩ := h.last hleaves
  constructor
  · rintro ⟨before', x', st'', heq, -, hx'⟩ y hy hy'
    obtain ⟨rfl, hsingle⟩ := List.append_inj' heq rfl
    obtain rfl := List.head_eq_of_cons_eq hsingle
    rcases List.mem_append.mp hy with hy | hy
    · obtain ⟨st₁, st₂, hround⟩ := hbefore y hy
      exact hbad st₁ st₂ y hy' hround
    · obtain rfl := List.mem_singleton.mp hy
      exact hnot st'' y hy' hx'
  · intro hnone
    have hx : x ∈ before ++ [x] := List.mem_append_right before (List.mem_singleton_self x)
    exact ⟨before, x, st', rfl, hgoes,
      (hends st' x r (hgood x hx) hlast).resolve_right (hnone x hx)⟩

theorem not_endsBy_singleton {Ends : σ → α → Prop} {x : α} {st : σ}
    (h : ∀ st', ¬ Ends st' x) : ¬ EndsBy run Ends [x] st := by
  rintro ⟨_ | ⟨y, before⟩, x', st', heq, -, hends⟩
  · obtain rfl := List.head_eq_of_cons_eq heq
    exact h st' hends
  · exact List.append_ne_nil_of_right_ne_nil before (List.cons_ne_nil x' [])
      (List.tail_eq_of_cons_eq heq).symm

/-! ### The rounds as a machine -/

/-- The rounds that go on, as the steps of a machine. -/
def roundMachine (round : σ → α → ρ ⊕ σ) : Machine σ α where
  step st x := (round st x).getRight?

theorem roundMachine_step {round : σ → α → ρ ⊕ σ} {st st' : σ} {x : α} :
    (roundMachine round).step st x = some st' ↔ round st x = .inr st' := by
  unfold roundMachine
  dsimp only
  cases round st x with
  | inl r => simp
  | inr st₁ => simp

/-- A run of the loop goes through some rounds, and then a round ends it or there is nothing
left to take. -/
theorem Rounds.splits {round : σ → α → ρ ⊕ σ} (h : Rounds run leave round) {l left : List α}
    {st : σ} {r : ρ} (hrun : run l st = leave r left) :
    (∃ before x st', l = before ++ x :: left ∧ (roundMachine round).run st before = some st' ∧
        round st' x = .inl r) ∨
      ∃ st', (roundMachine round).run st l = some st' ∧ run [] st' = leave r left := by
  induction l generalizing st with
  | nil => exact .inr ⟨st, rfl, hrun⟩
  | cons x l ih =>
      rcases hround : round st x with r' | st₁
      · rw [h.cons, hround] at hrun
        obtain ⟨rfl, rfl⟩ := h.leave_injective _ _ _ _ hrun
        exact .inl ⟨[], x, st, rfl, rfl, hround⟩
      · have hstep := roundMachine_step.mpr hround
        rw [h.cons, hround] at hrun
        rcases ih hrun with ⟨before, y, st', rfl, hbefore, hlast⟩ | ⟨st', hall, hdry⟩
        · refine .inl ⟨x :: before, y, st', rfl, ?_, hlast⟩
          rw [Machine.run_cons_of_step _ hstep]
          exact hbefore
        · refine .inr ⟨st', ?_, hdry⟩
          rw [Machine.run_cons_of_step _ hstep]
          exact hall

/-- A record to which every round that goes on adds what `f` says. -/
theorem roundMachine_log {round : σ → α → ρ ⊕ σ} {β : Type} {log : σ → List β} {f : α → List β}
    (hround : ∀ st x st', round st x = .inr st' → log st' = log st ++ f x) {l : List α}
    {st st' : σ} (hrun : (roundMachine round).run st l = some st') :
    log st' = log st ++ l.flatMap f := by
  induction l generalizing st with
  | nil =>
      rw [← Option.some.inj hrun]
      simp
  | cons x l ih =>
      obtain ⟨st₁, hstep, hrest⟩ := Machine.run_cons_eq_some _ hrun
      rw [ih hrest, hround st x st₁ (roundMachine_step.mp hstep), List.append_assoc,
        List.flatMap_cons]

end RustdeskCli.Foundation
