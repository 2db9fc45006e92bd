import KotlinBackend.Proofs.Symbol.Referable
import Mathlib.Data.List.Forall2

/-!
# Types of variadic parameters

A variadic parameter is declared with an array and stands for any number of its elements, so that
its symbol should carry the type of the elements. That type is taken from the arguments of the
resolved array. An array with a class of its own has none, and the parameter then accepts every
value.
-/

namespace KotlinBackend

open Metadata (Parameter TypeRef)

namespace SourceType

/-- The array of these elements is a class without arguments. -/
def HasOwnArray (element : SourceType) : Prop :=
  element.isNullable = false ∧
    ∃ id array, element.class? = some id ∧ primitiveArrays.lookup id = some array

theorem not_hasOwnArray_top : ¬ top.HasOwnArray := by
  rintro ⟨hNullable, _⟩
  cases hNullable

theorem sizeOf_argument? {t argument : SourceType} {index : Nat}
    (h : t.argument? index = some argument) : sizeOf argument < sizeOf t := by
  obtain ⟨entry, hEntry, hType⟩ := Option.bind_eq_some_iff.mp h
  have hMem := List.mem_of_getElem? hEntry
  cases entry with
  | star => cases hType
  | projected variance type =>
    cases hType
    cases t with
    | parameter name nullable => cases hMem
    | applied id arguments nullable =>
      have hSmall := List.sizeOf_lt_of_mem hMem
      simp only [SourceType.arguments, TypeArgument.projected.sizeOf_spec] at hSmall
      rw [SourceType.applied.sizeOf_spec]
      omega

/-- No type is its own argument. -/
theorem argument?_getD_top_eq_self_iff {t : SourceType} {index : Nat} :
    (t.argument? index).getD top = t ↔ t = top := by
  constructor
  · intro hSelf
    cases hArgument : t.argument? index with
    | none => rw [← hSelf, hArgument, Option.getD_none]
    | some argument =>
      rw [hArgument, Option.getD_some] at hSelf
      have hSmall := sizeOf_argument? hArgument
      rw [hSelf] at hSmall
      exact absurd hSmall (Nat.lt_irrefl _)
  · rintro rfl
    rfl

theorem argument?_arrayOf (element : SourceType) : (arrayOf element).argument? 0 = some element :=
  rfl

end SourceType

theorem argument?_foreignArray_of_hasOwnArray {element : SourceType} (h : element.HasOwnArray) :
    (foreignArray element).argument? 0 = none := by
  obtain ⟨hNullable, id, array, hClass, hArray⟩ := h
  have hNonNull : ¬ element.isNullable = true := ne_true_of_eq_false hNullable
  rw [foreignArray, if_neg hNonNull, hClass, Option.bind_some, hArray]
  rfl

theorem argument?_foreignArray {element : SourceType} (h : ¬ element.HasOwnArray) :
    (foreignArray element).argument? 0 = some element := by
  have hGeneric : foreignArray element = .arrayOf element := by
    unfold foreignArray
    split
    · rfl
    · rename_i hNonNull
      split
      · rename_i array hFound
        obtain ⟨id, hClass, hArray⟩ := Option.bind_eq_some_iff.mp hFound
        exact absurd ⟨eq_false_of_ne_true hNonNull, id, array, hClass, hArray⟩ h
      · rfl
  rw [hGeneric, SourceType.argument?_arrayOf]

theorem Metadata.TypeRef.resolve_array (known : ClassId → Bool) {r element : TypeRef}
    (hKind : r.kind = .array) (hElement : r.arguments.head? = some element) :
    r.resolve known = foreignArray (element.resolve known) := by
  obtain ⟨nameSpace, name, kind, parameter, arguments⟩ := r
  obtain rfl : kind = .array := hKind
  have hHead : (TypeRef.resolveList known arguments).head? = some (element.resolve known) := by
    rw [TypeRef.resolveList_eq_map, List.head?_map, hElement, Option.map_some]
  rw [TypeRef.resolve, hHead]
  rfl

namespace Metadata.Parameter

/-- The elements of the array that a variadic parameter is declared with. -/
def element? (p : Parameter) : Option TypeRef :=
  if p.isVariadic ∧ p.type.kind = .array then p.type.arguments.head? else none

/-- The type of one argument. -/
def declaredType (known : ClassId → Bool) (p : Parameter) : SourceType :=
  (p.element?.getD p.type).resolve known

/-- The symbol of a parameter does not show its declared type. -/
inductive Mistyped (known : ClassId → Bool) (p : Parameter) : Prop
  | ownArray (element : TypeRef) (hElement : p.element? = some element)
      (hOwn : (element.resolve known).HasOwnArray)
  | notArray (hVariadic : p.isVariadic = true) (hElement : p.element? = none)
      (hType : p.type.resolve known ≠ .top)

/-- The type that the symbol of a parameter is given. -/
def symbolType (known : ClassId → Bool) (p : Parameter) : SourceType :=
  if p.isVariadic then ((p.type.resolve known).argument? 0).getD .top else p.type.resolve known

variable (known : ClassId → Bool) {p : Parameter} {element : TypeRef}

theorem isVariadic_of_element? (h : p.element? = some element) : p.isVariadic = true := by
  by_contra hNot
  rw [element?, if_neg fun hBoth => hNot hBoth.1] at h
  cases h

theorem resolve_type_of_element? (h : p.element? = some element) :
    p.type.resolve known = foreignArray (element.resolve known) := by
  unfold element? at h
  split at h
  · rename_i hArray
    exact TypeRef.resolve_array known hArray.2 h
  · cases h

theorem symbolType_of_element? (h : p.element? = some element) :
    p.symbolType known = ((foreignArray (element.resolve known)).argument? 0).getD .top := by
  rw [symbolType, if_pos (isVariadic_of_element? h), resolve_type_of_element? known h]

theorem symbolType_of_hasOwnArray (h : p.element? = some element)
    (hOwn : (element.resolve known).HasOwnArray) : p.symbolType known = .top := by
  rw [symbolType_of_element? known h, argument?_foreignArray_of_hasOwnArray hOwn, Option.getD_none]

theorem symbolType_eq_declaredType_iff (p : Parameter) :
    p.symbolType known = p.declaredType known ↔ ¬ p.Mistyped known := by
  cases hElement : p.element? with
  | some element =>
    rw [declaredType, hElement, Option.getD_some]
    by_cases hOwn : (element.resolve known).HasOwnArray
    · have hLost : p.Mistyped known := .ownArray element hElement hOwn
      have hType : element.resolve known ≠ .top := by
        intro hTop
        rw [hTop] at hOwn
        exact SourceType.not_hasOwnArray_top hOwn
      rw [symbolType_of_hasOwnArray known hElement hOwn]
      exact ⟨fun hTop => absurd hTop.symm hType, fun hKept => absurd hLost hKept⟩
    · have hKept : ¬ p.Mistyped known := by
        rintro (⟨other, hOther, hOwn'⟩ | ⟨_, hNone, _⟩)
        · cases hElement.symm.trans hOther
          exact hOwn hOwn'
        · cases hElement.symm.trans hNone
      rw [symbolType_of_element? known hElement, argument?_foreignArray hOwn, Option.getD_some]
      exact iff_of_true rfl hKept
  | none =>
    rw [declaredType, hElement, Option.getD_none]
    have hOnly : p.Mistyped known ↔ p.isVariadic = true ∧ p.type.resolve known ≠ .top := by
      constructor
      · rintro (⟨element, hSome, _⟩ | ⟨hVariadic, _, hType⟩)
        · cases hElement.symm.trans hSome
        · exact ⟨hVariadic, hType⟩
      · rintro ⟨hVariadic, hType⟩
        exact .notArray hVariadic hElement hType
    rw [hOnly, symbolType]
    split
    · rename_i hVariadic
      rw [SourceType.argument?_getD_top_eq_self_iff]
      simp [hVariadic]
    · rename_i hPlain
      exact iff_of_true rfl fun hBoth => hPlain hBoth.1

/-- What the symbol of a parameter shows of it. -/
structure Shown (p : Parameter) (s : ParameterSymbol) : Prop where
  vararg : s.isVararg = p.isVariadic
  type_iff : s.type = p.declaredType known ↔ ¬ p.Mistyped known
  lost : p.element? ≠ none → p.Mistyped known → s.type = .top

theorem shown_of_symbolType {s : ParameterSymbol} (hVararg : s.isVararg = p.isVariadic)
    (hType : s.type = p.symbolType known) : p.Shown known s := by
  refine ⟨hVararg, ?_, ?_⟩
  · rw [hType]
    exact symbolType_eq_declaredType_iff known p
  · rintro hSome (⟨element, hElement, hOwn⟩ | ⟨_, hNone, _⟩)
    · rw [hType]
      exact symbolType_of_hasOwnArray known hElement hOwn
    · exact absurd hNone hSome

end Metadata.Parameter

/-- The symbols of parameters stand in their order, one for each of them, with a variadic parameter
marked as such, and show the declared types but for the elements of arrays with a class of their
own and for variadic parameters that are no arrays. -/
theorem parameterSymbols_shown (known : ClassId → Bool) (position : Nat) (ps : List Parameter) :
    List.Forall₂ (Parameter.Shown known) ps (Metadata.parameterSymbols known position ps) := by
  induction ps generalizing position with
  | nil => exact .nil
  | cons p rest ih => exact .cons (Parameter.shown_of_symbolType known rfl rfl) (ih (position + 1))

/-- Any number of elements of a runtime type. -/
def variadicOf (nameSpace name : String) : Parameter :=
  { name := some "values"
    type :=
      { name := "Array", kind := .array, arguments := [{ nameSpace := some nameSpace, name }] }
    isVariadic := true }

example :
    (Metadata.parameterSymbols (fun _ => false) 0 [variadicOf "System" "String"]).map
      (·.type.text) = ["kotlin.String"] := by
  decide +kernel

/-- Any number of integers accepts every value. -/
theorem variadic_integers_accept_all :
    (variadicOf "System" "Int32").declaredType (fun _ => false) = .int ∧
      (Metadata.parameterSymbols (fun _ => false) 0 [variadicOf "System" "Int32"]).map (·.type) =
        [.top] ∧
      SourceType.int ≠ .top := by
  refine ⟨rfl, rfl, ?_⟩
  intro hSame
  cases congrArg SourceType.isNullable hSame

end KotlinBackend
