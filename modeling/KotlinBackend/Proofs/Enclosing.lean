import KotlinBackend.Name.Qualified
import Mathlib.Logic.Relation

/-!
# Enclosing packages

The packages around a package are reached by leaving out the last part of the name again and again.
The bounded recursion that lists them finds all of them: every step makes the text shorter.
-/

namespace KotlinBackend.QualifiedName

/-- A package is another one or somewhere inside of it. -/
def Within (p outer : QualifiedName) : Prop :=
  Relation.ReflTransGen (fun inner around => inner.parent? = some around) p outer

variable {p q : QualifiedName}

theorem isRoot_iff : p.isRoot = true ↔ p.text.length = 0 := by
  simp [isRoot]

theorem length_parent (h : p.parent? = some q) : q.text.length < p.text.length := by
  unfold parent? at h
  split at h
  · cases h
  · rename_i hRoot
    have hLength : p.text.length ≠ 0 := fun hZero => hRoot (isRoot_iff.mpr hZero)
    split at h
    · rename_i before after hCut
      cases h
      obtain ⟨⟨first, last⟩, hSplit, hParts⟩ := Option.map_eq_some_iff.mp hCut
      obtain ⟨rfl, rfl⟩ := Prod.mk.inj hParts
      have hText := congrArg List.length (Text.eq_append_of_splitLast hSplit).1
      simp only [String.length_toList, List.length_append, List.length_cons] at hText
      simp only [String.length_ofList]
      omega
    · cases h
      exact Nat.pos_of_ne_zero hLength

theorem parent?_of_not_isRoot (h : ¬ p.isRoot = true) : ∃ outer, p.parent? = some outer := by
  rw [parent?, if_neg h]
  split
  · exact ⟨_, rfl⟩
  · exact ⟨_, rfl⟩

theorem within_iff :
    p.Within q ↔ p = q ∨ ∃ outer, p.parent? = some outer ∧ outer.Within q :=
  Relation.ReflTransGen.cases_head_iff

/-- The root package lies in no other one. -/
theorem eq_of_within (h : p.isRoot = true) (hWithin : p.Within q) : p = q := by
  rcases within_iff.mp hWithin with hEq | ⟨outer, hOuter, _⟩
  · exact hEq
  · rw [parent?, if_pos h] at hOuter
    cases hOuter

theorem mem_ancestorsWithin {steps : Nat} (h : p.text.length ≤ steps) :
    q ∈ p.ancestorsWithin steps ↔ p.Within q ∧ ¬ q.isRoot = true := by
  have hAtRoot {p : QualifiedName} (hRoot : p.isRoot = true) :
      q ∈ ([] : List QualifiedName) ↔ p.Within q ∧ ¬ q.isRoot = true :=
    iff_of_false List.not_mem_nil fun ⟨hWithin, hNot⟩ => hNot (eq_of_within hRoot hWithin ▸ hRoot)
  induction steps generalizing p with
  | zero => exact hAtRoot (isRoot_iff.mpr (Nat.le_zero.mp h))
  | succ steps ih =>
    rw [ancestorsWithin]
    split
    · rename_i hRoot
      exact hAtRoot hRoot
    · rename_i hRoot
      obtain ⟨outer, hOuter⟩ := parent?_of_not_isRoot hRoot
      have hShorter := length_parent hOuter
      have hRest : outer.text.length ≤ steps := by omega
      rw [within_iff]
      simp only [hOuter, List.mem_cons, ih hRest]
      constructor
      · rintro (rfl | ⟨hWithin, hNot⟩)
        · exact ⟨.inl rfl, hRoot⟩
        · exact ⟨.inr ⟨outer, rfl, hWithin⟩, hNot⟩
      · rintro ⟨rfl | ⟨around, hAround, hWithin⟩, hNot⟩
        · exact .inl rfl
        · cases hAround
          exact .inr ⟨hWithin, hNot⟩

theorem mem_ancestors : q ∈ p.ancestors ↔ p.Within q ∧ ¬ q.isRoot = true :=
  mem_ancestorsWithin (Nat.le_refl _)

end KotlinBackend.QualifiedName
