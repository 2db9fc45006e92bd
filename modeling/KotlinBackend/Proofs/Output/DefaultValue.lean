import KotlinBackend.Output.TypeName

/-!
# The empty array of an array type

The name of an array type ends in pairs of brackets, one for each dimension. Its default value is
the name with the length zero in the first pair that occurs in it. That is an empty array of the
type if the name before the pairs at the end has no bracket; a bracket there, of an array that is a
type argument or of an array that may be null, gets the length instead.
-/

namespace KotlinBackend.Output

/-- A name is a base, which does not end in a pair of brackets, and a pair for each dimension. -/
structure IsArrayName (name base : String) (dimensions : Nat) : Prop where
  name_eq : name = base ++ Text.replicate dimensions "[]"
  base_ends : Text.endsWith "[]" base = false

def brackets (dimensions : Nat) : List Char := (List.replicate dimensions ['[', ']']).flatten

theorem toList_replicate_brackets (dimensions : Nat) :
    (Text.replicate dimensions "[]").toList = brackets dimensions := by
  rw [Text.replicate, String.toList_ofList]
  rfl

theorem brackets_succ (dimensions : Nat) :
    brackets (dimensions + 1) = '[' :: ']' :: brackets dimensions := by
  rw [brackets, List.replicate_succ, List.flatten_cons]
  rfl

theorem brackets_append_pair (dimensions : Nat) :
    brackets dimensions ++ ['[', ']'] = brackets (dimensions + 1) := by
  rw [brackets, brackets, List.replicate_succ', List.flatten_concat]

theorem IsArrayName.toList_eq {name base : String} {dimensions : Nat}
    (h : IsArrayName name base dimensions) : name.toList = base.toList ++ brackets dimensions := by
  rw [h.name_eq, String.toList_append, toList_replicate_brackets]

theorem IsArrayName.endsWith {name base : String} {dimensions : Nat}
    (h : IsArrayName name base (dimensions + 1)) : Text.endsWith "[]" name = true := by
  apply Text.endsWith_iff.mpr
  refine ⟨base.toList ++ brackets dimensions, ?_⟩
  rw [h.toList_eq, ← brackets_append_pair, List.append_assoc]
  rfl

theorem exists_isArrayName {name : String} (h : Text.endsWith "[]" name = true) :
    ∃ base dimensions, IsArrayName name base (dimensions + 1) := by
  -- Pairs are taken from the end as long as there are any.
  induction hLength : name.length using Nat.strongRecOn generalizing name with
  | ind length ih =>
    obtain ⟨before, hBefore⟩ := Text.endsWith_iff.mp h
    have hName : name = String.ofList before ++ "[]" := by
      apply String.toList_injective
      rw [String.toList_append, String.toList_ofList, hBefore]
    cases hEnds : Text.endsWith "[]" (String.ofList before) with
    | false => exact ⟨String.ofList before, 0, hName, hEnds⟩
    | true =>
      have hShorter : (String.ofList before).length < length := by
        rw [← hLength, hName, String.length_append]
        exact Nat.lt_add_of_pos_right (by decide)
      obtain ⟨base, dimensions, hBase, hBaseEnds⟩ := ih _ hShorter hEnds rfl
      refine ⟨base, dimensions + 1, ?_, hBaseEnds⟩
      apply String.toList_injective
      rw [hName, hBase, String.toList_append, String.toList_append, String.toList_append,
        toList_replicate_brackets, toList_replicate_brackets,
        ← brackets_append_pair (dimensions + 1), List.append_assoc]
      rfl

/-- The name of an array gets the length zero in its first pair of brackets. -/
theorem defaultValue_of_endsWith {name : String} (h : Text.endsWith "[]" name = true)
    (type : SourceType) :
    defaultValue name type = "new " ++ String.ofList (cutBracket name.toList).1 ++ "[0]" ++
      String.ofList (cutBracket name.toList).2 := by
  have hOther (other : String) (hEnds : Text.endsWith "[]" other = false) :
      ¬ (name == other) = true := by
    intro hEq
    rw [beq_iff_eq.mp hEq, hEnds] at h
    cases h
  have hNumber : ¬ ["sbyte", "byte", "short", "ushort", "int", "uint", "long", "ulong", "float",
      "double"].contains name = true := by
    intro hMem
    have hEnds : ∀ number ∈ ["sbyte", "byte", "short", "ushort", "int", "uint", "long", "ulong",
        "float", "double"], Text.endsWith "[]" number = false := by decide
    rw [hEnds name (List.contains_iff_mem.mp hMem)] at h
    cases h
  unfold defaultValue
  rw [if_neg (hOther _ (by decide)), if_neg (hOther _ (by decide)), if_neg (hOther _ (by decide)),
    if_neg hNumber, if_pos h]

theorem cutBracket_append {before : List Char} (h : '[' ∉ before) (after : List Char) :
    cutBracket (before ++ '[' :: after) = (before, after.drop 1) := by
  have hBefore : ∀ c ∈ before, (c != '[') = true := by
    intro c hc
    rw [bne_iff_ne]
    rintro rfl
    exact h hc
  rw [cutBracket, List.takeWhile_append_of_pos hBefore, List.dropWhile_append_of_pos hBefore,
    List.takeWhile_cons_of_neg (by decide), List.dropWhile_cons_of_neg (by decide),
    List.append_nil, List.drop_succ_cons]

/-- The length in a bracket of the base is not the length in the first pair after it. -/
theorem misplaced_length (rest : List Char) (dimensions : Nat) :
    '0' :: ']' :: (rest ++ brackets (dimensions + 1)).drop 1 ≠
      rest ++ '[' :: '0' :: ']' :: brackets dimensions := by
  intro h
  cases rest with
  | nil => exact absurd (List.cons.inj h).1 (by decide)
  | cons c rest =>
    obtain ⟨-, hRest⟩ := List.cons.inj h
    -- the rests differ in the number of zeros
    have hCount := congrArg (List.count '0') hRest
    simp [brackets_succ] at hCount

theorem defaultValue_eq_iff {name base : String} {dimensions : Nat}
    (h : IsArrayName name base (dimensions + 1)) (type : SourceType) :
    defaultValue name type = "new " ++ base ++ "[0]" ++ Text.replicate dimensions "[]" ↔
      '[' ∉ base.toList := by
  rw [defaultValue_of_endsWith h.endsWith, h.toList_eq, ← String.toList_inj]
  simp only [String.toList_append, String.toList_ofList, toList_replicate_brackets]
  constructor
  · intro hValue hBracket
    obtain ⟨before, after, hBase, hBefore⟩ := List.eq_append_cons_of_mem hBracket
    have hCut := cutBracket_append hBefore (after ++ brackets (dimensions + 1))
    rw [← List.cons_append, ← List.append_assoc] at hCut
    rw [hBase, hCut] at hValue
    simp only [List.append_assoc, List.append_cancel_left_eq] at hValue
    exact misplaced_length after dimensions (List.cons.inj hValue).2
  · intro hBracket
    rw [brackets_succ, cutBracket_append hBracket]
    rfl

theorem typeName_arrayOf (element : SourceType) :
    typeName (.arrayOf element) = nullableName element ++ "[]" := by
  simp [SourceType.arrayOf, SourceType.generic, typeName, argumentNames, argumentName,
    nullableName]

/-- The name of an array type is a base with pairs of brackets behind it. The default value is the
empty array of the type if and only if the base has no bracket. -/
theorem defaultValue_arrayOf_iff (element : SourceType) :
    let type := SourceType.arrayOf element
    (∃ base dimensions, IsArrayName (typeName type) base (dimensions + 1)) ∧
      ∀ base dimensions, IsArrayName (typeName type) base (dimensions + 1) →
        (defaultValue (typeName type) type =
            "new " ++ base ++ "[0]" ++ Text.replicate dimensions "[]" ↔
          '[' ∉ base.toList) := by
  intro type
  have hEnds : Text.endsWith "[]" (typeName type) = true := by
    rw [typeName_arrayOf, Text.endsWith_iff, String.toList_append]
    exact List.suffix_append _ _
  exact ⟨exists_isArrayName hEnds, fun _ _ h => defaultValue_eq_iff h type⟩

example : defaultValue (typeName (.arrayOf (.arrayOf .int))) (.arrayOf (.arrayOf .int)) =
    "new int[0][]" := by
  decide +kernel

def listOfArrays : SourceType := .generic WellKnown.list [.arrayOf .int]

/-- The type argument of a list is made an array of length zero, and the array of lists has no
length. -/
theorem listOfArrays_default_misplaced :
    let type := SourceType.arrayOf listOfArrays
    IsArrayName (typeName type) "System.Collections.Generic.IReadOnlyList<int[]>" 1 ∧
      defaultValue (typeName type) type =
        "new System.Collections.Generic.IReadOnlyList<int[0]>[]" ∧
      defaultValue (typeName type) type ≠
        "new System.Collections.Generic.IReadOnlyList<int[]>[0]" :=
  ⟨⟨by decide +kernel, by decide +kernel⟩, by decide +kernel, by decide +kernel⟩

end KotlinBackend.Output
