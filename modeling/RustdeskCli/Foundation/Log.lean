import Mathlib.Data.List.Basic
set_option autoImplicit false

/-!
# Foundation: append-only records

A record of what has been done only grows.  `Grows P old new` says that everything
added to it has the property `P`; it composes along a computation, and weakens.
-/

namespace RustdeskCli.Foundation

variable {α β : Type}

/-- `new` is `old` with entries added that all satisfy `P`. -/
def Grows (P : α → Prop) (old new : List α) : Prop :=
  ∃ added, new = old ++ added ∧ ∀ a ∈ added, P a

namespace Grows

variable {P Q : α → Prop} {old mid new : List α}

theorem refl (P : α → Prop) (old : List α) : Grows P old old := ⟨[], by simp, by simp⟩

theorem concat {a : α} (ha : P a) (old : List α) : Grows P old (old ++ [a]) :=
  ⟨[a], rfl, by simpa using ha⟩

theorem append {added : List α} (hadded : ∀ a ∈ added, P a) (old : List α) :
    Grows P old (old ++ added) :=
  ⟨added, rfl, hadded⟩

theorem trans (h : Grows P old mid) (h' : Grows P mid new) : Grows P old new := by
  obtain ⟨added, rfl, hadded⟩ := h
  obtain ⟨added', rfl, hadded'⟩ := h'
  refine ⟨added ++ added', List.append_assoc .., ?_⟩
  intro a ha
  rcases List.mem_append.mp ha with ha | ha
  · exact hadded a ha
  · exact hadded' a ha

theorem mono (hPQ : ∀ a, P a → Q a) (h : Grows P old new) : Grows Q old new := by
  obtain ⟨added, rfl, hadded⟩ := h
  exact ⟨added, rfl, fun a ha => hPQ a (hadded a ha)⟩

/-- A property of all entries is kept when every added entry has it. -/
theorem forall_mem (h : Grows P old new) (hold : ∀ a ∈ old, P a) : ∀ a ∈ new, P a := by
  obtain ⟨added, rfl, hadded⟩ := h
  intro a ha
  rcases List.mem_append.mp ha with ha | ha
  · exact hold a ha
  · exact hadded a ha

/-- Recording the added entries under another name. -/
theorem map {old' : List β} (f : α → β) {R : β → Prop} (hR : ∀ a, P a → R (f a))
    (h : Grows P [] new) : Grows R old' (old' ++ new.map f) := by
  obtain ⟨added, rfl, hadded⟩ := h
  refine append ?_ old'
  intro b hb
  obtain ⟨a, ha, rfl⟩ := List.mem_map.mp hb
  exact hR a (hadded a ha)

end Grows

end RustdeskCli.Foundation
