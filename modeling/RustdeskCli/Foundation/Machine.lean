import Mathlib.Data.List.Basic
set_option autoImplicit false

/-!
# Foundation: labelled machines and their runs

A machine is a partial step function on a state, labelled by actions.  A run is
a list of actions taken one after another; it exists only when every step is
enabled.  Every statement of this development about "every interleaving" or
"every reachable state" is a statement about all runs of some machine, and is
proved from one step lemma through the two rules at the end of this file.
-/

namespace RustdeskCli.Foundation

/-- A partial, deterministic, action-labelled step function. -/
structure Machine (σ α : Type) where
  step : σ → α → Option σ

namespace Machine

variable {σ α : Type} (M : Machine σ α)

/-- Take the actions one after another; `none` when one of them is disabled. -/
def run : σ → List α → Option σ
  | s, [] => some s
  | s, a :: acts =>
      match M.step s a with
      | none => none
      | some s' => run s' acts

/-- Every action of the run meets `G` in the state it is taken in. -/
def Meets (G : σ → α → Prop) : σ → List α → Prop
  | _, [] => True
  | s, a :: acts =>
      G s a ∧
        match M.step s a with
        | none => True
        | some s' => Meets G s' acts

instance decidableMeets (G : σ → α → Prop) [∀ s a, Decidable (G s a)] :
    ∀ (s : σ) (acts : List α), Decidable (M.Meets G s acts)
  | _, [] => inferInstanceAs (Decidable True)
  | s, a :: acts =>
      match h : M.step s a with
      | none => decidable_of_iff (G s a) (by simp [Meets, h])
      | some s' =>
          have : Decidable (M.Meets G s' acts) := decidableMeets G s' acts
          decidable_of_iff (G s a ∧ M.Meets G s' acts) (by simp [Meets, h])

@[simp] theorem run_nil (s : σ) : M.run s [] = some s := rfl

theorem run_cons_of_step {s s' : σ} {a : α} (h : M.step s a = some s')
    (acts : List α) : M.run s (a :: acts) = M.run s' acts := by
  simp [run, h]

/-- A nonempty run splits into its first step and the rest. -/
theorem run_cons_eq_some {s final : σ} {a : α} {acts : List α}
    (h : M.run s (a :: acts) = some final) :
    ∃ s', M.step s a = some s' ∧ M.run s' acts = some final := by
  cases hs : M.step s a with
  | none => simp [run, hs] at h
  | some s' => exact ⟨s', rfl, by simpa [run, hs] using h⟩

/-- Two runs one after the other. -/
theorem run_append (s : σ) (acts acts' : List α) :
    M.run s (acts ++ acts') = (M.run s acts).bind fun mid => M.run mid acts' := by
  induction acts generalizing s with
  | nil => rfl
  | cons a acts ih =>
      cases hs : M.step s a with
      | none => simp [run, hs]
      | some s' => simp [run, hs, ih]

/-- The guarded invariant rule: a property preserved by every step that meets
`G` holds at the end of every run all of whose steps meet `G`. -/
theorem invariant_of_meets {G : σ → α → Prop} {Inv : σ → Prop}
    (hstep : ∀ s a s', Inv s → G s a → M.step s a = some s' → Inv s') :
    ∀ {acts : List α} {s final : σ},
      Inv s → M.Meets G s acts → M.run s acts = some final → Inv final := by
  intro acts
  induction acts with
  | nil =>
      intro s final hs _ hrun
      simp only [run_nil, Option.some.injEq] at hrun
      exact hrun ▸ hs
  | cons a acts ih =>
      intro s final hs hmeets hrun
      obtain ⟨s', hs', hrest⟩ := M.run_cons_eq_some hrun
      obtain ⟨hG, hmeets⟩ := hmeets
      rw [hs'] at hmeets
      exact ih (hstep s a s' hs hG hs') hmeets hrest

/-- A run that meets two guards meets both at once. -/
theorem Meets.and {M : Machine σ α} {G H : σ → α → Prop} :
    ∀ {acts : List α} {s : σ}, M.Meets G s acts → M.Meets H s acts →
      M.Meets (fun s a => G s a ∧ H s a) s acts := by
  intro acts
  induction acts with
  | nil => intro s _ _; trivial
  | cons a acts ih =>
      rintro s ⟨hG, hrest⟩ ⟨hH, hrest'⟩
      refine ⟨⟨hG, hH⟩, ?_⟩
      cases hs : M.step s a with
      | none => trivial
      | some s' =>
          rw [hs] at hrest hrest'
          exact ih hrest hrest'

/-- A guard on the actions alone is met when every action satisfies it. -/
theorem meets_of_forall {P : α → Prop} :
    ∀ {acts : List α} {s : σ}, (∀ a ∈ acts, P a) → M.Meets (fun _ a => P a) s acts := by
  intro acts
  induction acts with
  | nil => intro s _; trivial
  | cons a acts ih =>
      intro s h
      refine ⟨h a List.mem_cons_self, ?_⟩
      cases M.step s a with
      | none => trivial
      | some s' => exact ih fun b hb => h b (List.mem_cons_of_mem a hb)

/-- The plain invariant rule: a property preserved by every step holds at the
end of every run. -/
theorem invariant {Inv : σ → Prop}
    (hstep : ∀ s a s', Inv s → M.step s a = some s' → Inv s')
    {acts : List α} {s final : σ} (hs : Inv s)
    (hrun : M.run s acts = some final) : Inv final := by
  have hmeets : M.Meets (fun _ _ => True) s acts := M.meets_of_forall fun _ _ => trivial
  exact M.invariant_of_meets (fun s a s' hinv _ => hstep s a s' hinv) hs hmeets hrun

/-! ### Runs without some of their actions -/

/-- Along a run with the actions `acts'` from `s`, the actions `acts` are the same, as `Same`
says, without some that are silent in the state they are taken in. -/
inductive Erases (Silent : σ → α → Prop) (Same : α → α → Prop) :
    σ → List α → List α → Prop where
  | nil (s : σ) : Erases Silent Same s [] []
  | silent {s s' : σ} {a : α} {acts acts' : List α} (silent : Silent s a)
      (step : M.step s a = some s') (rest : Erases Silent Same s' acts acts') :
      Erases Silent Same s acts (a :: acts')
  | keep {s s' : σ} {a a' : α} {acts acts' : List α} (same : Same a a')
      (step : M.step s a' = some s') (rest : Erases Silent Same s' acts acts') :
      Erases Silent Same s (a :: acts) (a' :: acts')

/-- The simulation rule: where every step is silent and keeps the states related, or has a
step of the same kind beside it, every run has a run without silent actions beside it. -/
theorem run_erased {Silent : σ → α → Prop} {Same : α → α → Prop} {R : σ → σ → Prop}
    (hstep : ∀ s s' a' t', R s s' → M.step s' a' = some t' →
      (Silent s' a' ∧ R s t') ∨ ∃ a t, Same a a' ∧ M.step s a = some t ∧ R t t') :
    ∀ {acts' : List α} {s s' final' : σ}, R s s' → M.run s' acts' = some final' →
      ∃ acts final, M.Erases Silent Same s' acts acts' ∧ M.run s acts = some final ∧
        R final final' := by
  intro acts'
  induction acts' with
  | nil =>
      intro s s' final' hR hrun
      simp only [run_nil, Option.some.injEq] at hrun
      exact ⟨[], s, .nil s', rfl, hrun ▸ hR⟩
  | cons a' acts' ih =>
      intro s s' final' hR hrun
      obtain ⟨t', ht', hrest⟩ := M.run_cons_eq_some hrun
      rcases hstep s s' a' t' hR ht' with ⟨hsilent, hR'⟩ | ⟨a, t, hsame, ht, hR'⟩
      · obtain ⟨acts, final, herased, hfinal, hend⟩ := ih hR' hrest
        exact ⟨acts, final, .silent hsilent ht' herased, hfinal, hend⟩
      · obtain ⟨acts, final, herased, hfinal, hend⟩ := ih hR' hrest
        refine ⟨a :: acts, final, .keep hsame ht' herased, ?_, hend⟩
        rw [M.run_cons_of_step ht]
        exact hfinal

end Machine

end RustdeskCli.Foundation
