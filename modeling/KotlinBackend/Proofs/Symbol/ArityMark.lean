import KotlinBackend.Proofs.TemplateNumber
import KotlinBackend.Symbol.Synthesis

/-!
# Marks for the number of type parameters

A foreign name can end in a backquote and the number of type parameters of its type. Two functions
read this mark. The one that removes it asks for digits only, and the one that compares it with the
type parameters asks for a number of 64 bits. They agree on a mark that is such a number. A mark
without digits, or with a larger number, is removed and never compared.
-/

namespace KotlinBackend

open Decimal (AllDigits)
open Metadata (TypeDef GenericParameter stripArity declaredArity? parseWord?)

/-- The number that digits write. -/
def numeral (digits : List Char) : Nat := Nat.ofDigitChars 10 digits 0

/-- There are digits, and they write a number of 64 bits. -/
def WritesWord (digits : List Char) : Prop := digits ≠ [] ∧ numeral digits < UInt64.size

namespace Metadata.TypeDef

/-- The name of a type loses a backquote and the given digits. -/
structure Marked (t : TypeDef) (digits : List Char) : Prop where
  name_eq : t.name = t.simpleName ++ "\x60" ++ String.ofList digits
  isDigit : AllDigits digits

/-- The name of a type loses a backquote and the number of its type parameters. -/
def StatesArity (t : TypeDef) : Prop :=
  ∃ digits, t.Marked digits ∧ digits ≠ [] ∧ numeral digits = t.typeParameters.length

/-- The type with other type parameters. -/
def withParameters (t : TypeDef) (parameters : List GenericParameter) : TypeDef :=
  { t with typeParameters := parameters }

end Metadata.TypeDef

section Readers

variable {digits : List Char}

theorem cutLast_mark (base : String) (h : AllDigits digits) :
    Text.cutLast '\x60' (base ++ "\x60" ++ String.ofList digits) =
      some (base, String.ofList digits) := by
  refine Text.cutLast_eq_some_iff.mpr ⟨rfl, ?_⟩
  rw [String.toList_ofList]
  exact h.not_mem (by decide)

/-- What is removed from a name is a backquote and digits. -/
theorem stripArity_cases (name : String) :
    stripArity name = name ∨ ∃ digits : List Char, AllDigits digits ∧
      name = stripArity name ++ "\x60" ++ String.ofList digits := by
  unfold stripArity
  cases hCut : Text.cutLast '\x60' name with
  | none => exact .inl rfl
  | some parts =>
    obtain ⟨base, arity⟩ := parts
    by_cases hDigits : arity.toList.all Char.isDigit = true
    · refine .inr ⟨arity.toList, List.all_eq_true.mp hDigits, ?_⟩
      simp only [if_pos hDigits, String.ofList_toList]
      exact (Text.cutLast_eq_some_iff.mp hCut).1
    · exact .inl (if_neg hDigits)

theorem parseWord?_eq_some_iff (h : AllDigits digits) {n : Nat} :
    parseWord? (String.ofList digits) = some n ↔ WritesWord digits ∧ numeral digits = n := by
  have hSign : Text.dropStart? ['+'] digits = none := by
    refine Option.eq_none_iff_forall_ne_some.mpr fun rest hRest => ?_
    rw [Text.dropStart?_eq_some_iff.mp hRest] at h
    exact absurd List.mem_cons_self (h.not_mem (by decide))
  have hAll : digits.all Char.isDigit = true := List.all_eq_true.mpr h
  rw [parseWord?, String.toList_ofList, hSign, Option.getD_none, hAll]
  by_cases hNil : digits = []
  · subst hNil
    constructor
    · intro hNone
      cases hNone
    · rintro ⟨⟨hDigits, -⟩, -⟩
      exact absurd rfl hDigits
  · have hEmpty : digits.isEmpty = false := by simpa using hNil
    rw [hEmpty]
    change (if numeral digits < UInt64.size then some (numeral digits) else none) = some n ↔ _
    by_cases hFits : numeral digits < UInt64.size
    · rw [if_pos hFits, Option.some.injEq, and_iff_right ⟨hNil, hFits⟩]
    · rw [if_neg hFits]
      constructor
      · intro hNone
        cases hNone
      · rintro ⟨⟨-, hWord⟩, -⟩
        exact absurd hWord hFits

theorem declaredArity?_mark (base : String) (h : AllDigits digits) :
    declaredArity? (base ++ "\x60" ++ String.ofList digits) =
      parseWord? (String.ofList digits) := by
  rw [declaredArity?, cutLast_mark base h]
  rfl

end Readers

namespace Metadata.TypeDef

variable {t : TypeDef} {digits : List Char}

theorem defect?_eq_none_iff :
    t.defect? = none ↔ t.isVoid = false ∧ t.isPublic = true ∧ t.name ≠ "" ∧
      ∀ declared, t.arity? = some declared → declared = t.typeParameters.length := by
  unfold defect?
  by_cases hVoid : t.isVoid = true
  · simp [hVoid]
  by_cases hPublic : t.isPublic = true
  · by_cases hName : t.name = ""
    · simp [hVoid, hPublic, hName]
    · cases hArity : t.arity? with
      | none => simp [hVoid, hPublic, hName]
      | some declared =>
        by_cases hCount : declared = t.typeParameters.length <;>
          simp [hVoid, hPublic, hName, hCount]
  · simp [hVoid, hPublic]

theorem exists_marked (h : t.simpleName ≠ t.name) : ∃ digits, t.Marked digits := by
  obtain hSame | ⟨digits, hDigits, hName⟩ := stripArity_cases t.name
  · exact absurd hSame h
  · exact ⟨digits, hName, hDigits⟩

namespace Marked

theorem eq_of_marked {others : List Char} (h : t.Marked digits) (hOthers : t.Marked others) :
    others = digits := by
  have hTexts := congrArg String.toList (hOthers.name_eq.symm.trans h.name_eq)
  simpa using hTexts

theorem name_ne_empty (h : t.Marked digits) : t.name ≠ "" := by
  rw [h.name_eq]
  simp

theorem arity?_eq_some_iff (h : t.Marked digits) {n : Nat} :
    t.arity? = some n ↔ WritesWord digits ∧ numeral digits = n := by
  rw [arity?, h.name_eq, declaredArity?_mark _ h.isDigit, parseWord?_eq_some_iff h.isDigit]

theorem statesArity_iff (h : t.Marked digits) :
    t.StatesArity ↔ digits ≠ [] ∧ numeral digits = t.typeParameters.length := by
  constructor
  · rintro ⟨others, hOthers, hStates⟩
    rwa [h.eq_of_marked hOthers] at hStates
  · intro hStates
    exact ⟨digits, h, hStates⟩

theorem withParameters (h : t.Marked digits) (parameters : List GenericParameter) :
    (t.withParameters parameters).Marked digits :=
  ⟨h.name_eq, h.isDigit⟩

/-- A mark is compared with the type parameters exactly if it writes a number of 64 bits. -/
theorem defect?_eq_none_iff (h : t.Marked digits) :
    t.defect? = none ↔ t.isVoid = false ∧ t.isPublic = true ∧
      (WritesWord digits → numeral digits = t.typeParameters.length) := by
  rw [TypeDef.defect?_eq_none_iff]
  constructor
  · rintro ⟨hVoid, hPublic, -, hArity⟩
    exact ⟨hVoid, hPublic, fun hWord => hArity _ (h.arity?_eq_some_iff.mpr ⟨hWord, rfl⟩)⟩
  · rintro ⟨hVoid, hPublic, hCount⟩
    refine ⟨hVoid, hPublic, h.name_ne_empty, fun declared hDeclared => ?_⟩
    obtain ⟨hWord, rfl⟩ := h.arity?_eq_some_iff.mp hDeclared
    exact hCount hWord

end Marked

end Metadata.TypeDef

/-- An accepted type whose name is shortened loses a backquote and digits. If the digits write a
number of 64 bits, it is the number of type parameters. Otherwise a type of this name is accepted
with any type parameters, and what it loses is not their number. -/
theorem shortened_name_states_arity (t : TypeDef) (hAccepted : t.defect? = none)
    (hShortened : t.simpleName ≠ t.name) :
    ∃ digits, t.Marked digits ∧ (WritesWord digits → t.StatesArity) ∧
      (¬WritesWord digits → ∀ parameters : List GenericParameter,
        parameters.length < UInt64.size →
        (t.withParameters parameters).defect? = none ∧
          ¬(t.withParameters parameters).StatesArity) := by
  obtain ⟨digits, hMarked⟩ := TypeDef.exists_marked hShortened
  obtain ⟨hVoid, hPublic, hCount⟩ := hMarked.defect?_eq_none_iff.mp hAccepted
  refine ⟨digits, hMarked, ?_, ?_⟩
  · intro hWord
    exact hMarked.statesArity_iff.mpr ⟨hWord.1, hCount hWord⟩
  · intro hWord parameters hLength
    have hOther := hMarked.withParameters parameters
    refine ⟨hOther.defect?_eq_none_iff.mpr ⟨hVoid, hPublic, fun h => absurd h hWord⟩, ?_⟩
    -- A stated number is not empty and, as the length of a list, has 64 bits.
    intro hStates
    obtain ⟨hDigits, hNumeral⟩ := hOther.statesArity_iff.mp hStates
    exact hWord ⟨hDigits, Nat.lt_of_le_of_lt (Nat.le_of_eq hNumeral) hLength⟩

/-- A public class with a mark and a number of type parameters. -/
def markedBox (mark : String) (count : Nat) : TypeDef :=
  { name := "Box\x60" ++ mark, nameSpace := "Lib", flags := { isPublic := true },
    typeParameters := List.replicate count { name := "T" } }

theorem shortened_name_states_arity_pair :
    (markedBox "02" 2).defect? = none ∧ (markedBox "02" 2).simpleName ≠ (markedBox "02" 2).name ∧
      (markedBox "02" 2).StatesArity := by
  have hAccepted : (markedBox "02" 2).defect? = none := by decide +kernel
  have hShortened : (markedBox "02" 2).simpleName ≠ (markedBox "02" 2).name := by decide +kernel
  have hPair : (markedBox "02" 2).Marked ['0', '2'] :=
    ⟨by decide +kernel, List.all_eq_true.mp (by decide)⟩
  have hWord : WritesWord ['0', '2'] := ⟨List.cons_ne_nil _ _, by decide⟩
  obtain ⟨digits, hMarked, hStates, -⟩ :=
    shortened_name_states_arity (markedBox "02" 2) hAccepted hShortened
  rw [hPair.eq_of_marked hMarked] at hStates
  exact ⟨hAccepted, hShortened, hStates hWord⟩

/-- A mark without digits and a mark with too large a number are removed from accepted types. -/
theorem marks_removed_without_comparison :
    ((markedBox "" 1).defect? = none ∧ (markedBox "" 1).simpleName = "Box" ∧
        ¬(markedBox "" 1).StatesArity) ∧
      (markedBox "18446744073709551616" 1).defect? = none ∧
        (markedBox "18446744073709551616" 1).simpleName = "Box" ∧
        ¬(markedBox "18446744073709551616" 1).StatesArity := by
  have hEmpty : (markedBox "" 1).Marked [] := ⟨by decide +kernel, List.forall_mem_nil _⟩
  have hLarge : (markedBox "18446744073709551616" 1).Marked "18446744073709551616".toList :=
    ⟨by decide +kernel, List.all_eq_true.mp (by decide +kernel)⟩
  refine ⟨⟨by decide +kernel, by decide +kernel, ?_⟩, by decide +kernel, by decide +kernel, ?_⟩
  · rw [hEmpty.statesArity_iff]
    exact fun hStates => hStates.1 rfl
  · rw [hLarge.statesArity_iff]
    exact fun hStates => absurd hStates.2 (by decide +kernel)

end KotlinBackend
