/-!
# Lists without repetitions

The elements of a list at their first occurrences.
-/

namespace KotlinBackend

/-- The elements of a list in the order of their first occurrences, each once. -/
def distinct [BEq α] : List α → List α
  | [] => []
  | a :: rest => a :: (distinct rest).filter (fun b => !(b == a))

theorem mem_distinct [BEq α] [LawfulBEq α] {a : α} {items : List α} :
    a ∈ distinct items ↔ a ∈ items := by
  induction items with
  | nil => simp [distinct]
  | cons b rest ih =>
    by_cases h : a = b
    · simp [distinct, h]
    · simp [distinct, h, ih]

theorem nodup_distinct [BEq α] [LawfulBEq α] (items : List α) : (distinct items).Nodup := by
  induction items with
  | nil => simp [distinct]
  | cons b rest ih =>
    simp only [distinct, List.nodup_cons, List.mem_filter]
    exact ⟨by simp, ih.filter _⟩

theorem distinct_append_singleton [BEq α] [LawfulBEq α] [DecidableEq α] (items : List α) (a : α) :
    distinct (items ++ [a]) = if a ∈ items then distinct items else distinct items ++ [a] := by
  induction items with
  | nil => rfl
  | cons b rest ih =>
    rw [List.cons_append, distinct, ih, distinct]
    by_cases hRest : a ∈ rest
    · simp [hRest]
    · rw [if_neg hRest, List.filter_append]
      by_cases hFirst : a = b <;> simp [hRest, hFirst]

end KotlinBackend
