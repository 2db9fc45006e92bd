/-!
# Results with a count

A `Tally` is a value together with how often something was done to get it. Counts add up along
`bind`, so a traversal in this monad is a plain recursion that also counts.
-/

namespace KotlinBackend

/-- The sum of some counts. -/
def total : List Nat → Nat
  | [] => 0
  | n :: rest => n + total rest

theorem total_eq_zero {counts : List Nat} (h : total counts = 0) : ∀ n ∈ counts, n = 0 := by
  induction counts with
  | nil => exact List.forall_mem_nil _
  | cons n rest ih =>
    rw [total, Nat.add_eq_zero_iff] at h
    exact List.forall_mem_cons.mpr ⟨h.1, ih h.2⟩

structure Tally (α : Type) where
  value : α
  count : Nat
  deriving DecidableEq, Repr

namespace Tally

instance : Monad Tally where
  pure a := ⟨a, 0⟩
  bind x f := ⟨(f x.value).value, x.count + (f x.value).count⟩

/-- A value that took one step. -/
def once (a : α) : Tally α := ⟨a, 1⟩

/-- A function applied along a list, the counts added up. -/
def each (f : α → Tally β) : List α → Tally (List β)
  | [] => pure []
  | a :: rest => do
    let b ← f a
    let bs ← each f rest
    pure (b :: bs)

variable {α β : Type}

@[simp] theorem value_pure (a : α) : (pure a : Tally α).value = a := rfl

@[simp] theorem count_pure (a : α) : (pure a : Tally α).count = 0 := rfl

@[simp] theorem value_bind (x : Tally α) (f : α → Tally β) :
    (x >>= f).value = (f x.value).value := rfl

@[simp] theorem count_bind (x : Tally α) (f : α → Tally β) :
    (x >>= f).count = x.count + (f x.value).count := rfl

@[simp] theorem value_map (g : α → β) (x : Tally α) : (g <$> x).value = g x.value := rfl

@[simp] theorem count_map (g : α → β) (x : Tally α) : (g <$> x).count = x.count := rfl

@[simp] theorem value_once (a : α) : (once a).value = a := rfl

@[simp] theorem count_once (a : α) : (once a).count = 1 := rfl

theorem value_each (f : α → Tally β) (items : List α) :
    (each f items).value = items.map fun a => (f a).value := by
  induction items with
  | nil => rfl
  | cons a rest ih => simp [each, ih]

theorem count_each (f : α → Tally β) (items : List α) :
    (each f items).count = total (items.map fun a => (f a).count) := by
  induction items with
  | nil => rfl
  | cons a rest ih => simp [each, total, ih]

end Tally

end KotlinBackend
