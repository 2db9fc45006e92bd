import Mathlib.Data.List.Forall2

/-!
# Results of computations that can fail
-/

namespace KotlinBackend

variable {ε α β : Type}

theorem bind_eq_ok {x : Except ε α} {f : α → Except ε β} {b : β} (h : (x >>= f) = .ok b) :
    ∃ a, x = .ok a ∧ f a = .ok b := by
  cases x with
  | error e => cases h
  | ok a => exact ⟨a, rfl, h⟩

theorem map_eq_ok {x : Except ε α} {f : α → β} {a : α} {b : β} (h : x = .ok a) (hf : f a = b) :
    f <$> x = .ok b := by
  rw [h, ← hf]
  rfl

theorem of_map_eq_ok {x : Except ε α} {f : α → β} {b : β} (h : x.map f = .ok b) :
    ∃ a, x = .ok a ∧ f a = b := by
  cases x with
  | error e => cases h
  | ok a => exact ⟨a, rfl, Except.ok.inj h⟩

theorem of_map_eq_error {x : Except ε α} {f : α → β} {e : ε} (h : x.map f = .error e) :
    x = .error e := by
  cases x with
  | error e => exact congrArg Except.error (Except.error.inj h)
  | ok a => cases h

theorem mapM_eq_ok {f : α → Except ε β} {as : List α} {bs : List β}
    (h : List.Forall₂ (fun a b => f a = .ok b) as bs) : as.mapM f = .ok bs := by
  induction h with
  | nil => rfl
  | cons hFirst _ ih =>
    rw [List.mapM_cons, hFirst, ih]
    rfl

section State

variable {σ : Type} {x : EStateM ε σ α} {f : α → EStateM ε σ β} {s t : σ}

theorem run_get_bind {f : σ → EStateM ε σ β} : (get >>= f).run s = (f s).run s := rfl

theorem run_bind_of_ok {a : α} (h : x.run s = .ok a t) : (x >>= f).run s = (f a).run t := by
  simp only [EStateM.run] at h ⊢
  simp only [bind, EStateM.bind, h]

theorem run_bind_of_error {e : ε} (h : x.run s = .error e t) :
    (x >>= f).run s = .error e t := by
  simp only [EStateM.run] at h ⊢
  simp only [bind, EStateM.bind, h]

theorem run_map_of_ok {f : α → β} {a : α} (h : x.run s = .ok a t) :
    (f <$> x).run s = .ok (f a) t := by
  simp only [EStateM.run] at h ⊢
  simp only [Functor.map, EStateM.map, h]

theorem run_map_of_error {f : α → β} {e : ε} (h : x.run s = .error e t) :
    (f <$> x).run s = .error e t := by
  simp only [EStateM.run] at h ⊢
  simp only [Functor.map, EStateM.map, h]

end State

end KotlinBackend
