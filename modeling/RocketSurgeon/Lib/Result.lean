import Mathlib

/-!
# Reasoning about fallible code

The rules for `Except` computations that the models use: a sequence succeeds
exactly when its parts do, and what it returns is what the last part returns.
-/

namespace RocketSurgeon.Lib

variable {ε α β : Type}

lemma bind_eq_ok {f : α → Except ε β} (h : x >>= f = .ok b) :
    ∃ a, x = .ok a ∧ f a = .ok b := by
  cases x with
  | error e => cases h
  | ok a => exact ⟨a, rfl, h⟩

lemma exists_ok_of_isOk {res : Except ε α} (hok : res.isOk = true) :
    ∃ value, res = .ok value := by
  cases res with
  | error failure => cases hok
  | ok value => exact ⟨value, rfl⟩

lemma isOk_map (res : Except ε α) (f : α → β) : (res.map f).isOk = res.isOk := by
  cases res with
  | error failure | ok value => rfl

lemma mapM_eq_ok_iff {f : α → Except ε β} {p : α → Prop} (hf : ∀ a b, f a = .ok b ↔ p a ∧ b = g a)
    (items : List α) (results : List β) :
    items.mapM f = .ok results ↔ (∀ a ∈ items, p a) ∧ results = items.map g := by
  induction items generalizing results with
  | nil =>
    show Except.ok [] = Except.ok results ↔ _
    simp [eq_comm]
  | cons item items ih =>
    rw [List.mapM_cons]
    constructor
    · intro hok
      obtain ⟨first, hfirst, hok⟩ := bind_eq_ok hok
      obtain ⟨rest, hrest, hok⟩ := bind_eq_ok hok
      obtain ⟨hp, rfl⟩ := (hf item first).mp hfirst
      obtain ⟨hall, rfl⟩ := (ih rest).mp hrest
      cases hok
      exact ⟨List.forall_mem_cons.mpr ⟨hp, hall⟩, rfl⟩
    · rintro ⟨hall, rfl⟩
      obtain ⟨hp, hall⟩ := List.forall_mem_cons.mp hall
      rw [(hf item _).mpr ⟨hp, rfl⟩, (ih _).mpr ⟨hall, rfl⟩]
      rfl

end RocketSurgeon.Lib
