import KotlinBackend.Proofs.Moving.Repointed
import KotlinBackend.Proofs.Resolution.FilePasses
import Mathlib.Data.List.Forall2

/-!
# Which calls become calls of intrinsics

A call qualifies for an intrinsic by what it was before anything in it was replaced. The rules
`WithIntrinsics` say what becomes of a program, form by form: a call that qualifies is replaced,
with its operands in their order, and every other form stays with its parts replaced. The revision
works from the inside out and so decides on a call whose operands were replaced already; it follows
the rules because a replaced operand keeps its type.
-/

namespace KotlinBackend

/-- An operand is given and its type can be coerced to that of the parameter. -/
inductive Fits : Option Expression → SourceType → Prop
  | given {e : Expression} {parameter : SourceType} :
    e.type.isCoercible parameter = true → Fits (some e) parameter

structure Call.Qualifies (c : Call) (i : Intrinsic) : Prop where
  callee : (c.callee, i) ∈ intrinsics
  extensionReceiver : c.extensionReceiver = none
  typeArguments : c.typeArguments = []
  operands : List.Forall₂ Fits c.operands i.parameters

/-- The call of an intrinsic with some operands. -/
def Intrinsic.call (i : Intrinsic) (operands : List (Option Expression)) (type : SourceType) :
    Call :=
  { callee := i.callee
    dispatchReceiver := none
    extensionReceiver := none
    arguments := operands
    typeArguments := []
    type := type }

section Step

variable {c : Call} {i : Intrinsic}

theorem lookup_of_mem {α β : Type} [BEq α] [LawfulBEq α] {entries : List (α × β)} {key : α}
    {value : β} (hNodup : (entries.map Prod.fst).Nodup) (hMem : (key, value) ∈ entries) :
    entries.lookup key = some value := by
  obtain ⟨before, after, rfl⟩ := List.append_of_mem hMem
  refine List.lookup_eq_some_iff.mpr ⟨before, after, rfl, fun entry hEntry => ?_⟩
  rw [List.map_append, List.nodup_append] at hNodup
  have hNe := hNodup.2.2 _ (List.mem_map_of_mem hEntry) key List.mem_cons_self
  exact bne_iff_ne.mpr (Ne.symm hNe)

theorem intrinsicFor?_eq_some_iff {callee : CallableId} :
    intrinsicFor? callee = some i ↔ (callee, i) ∈ intrinsics := by
  constructor
  · intro h
    obtain ⟨before, after, hTable, _⟩ := List.lookup_eq_some_iff.mp h
    rw [hTable]
    exact List.mem_append_right _ List.mem_cons_self
  · exact lookup_of_mem (by decide)

theorem fittingOperands?_eq_some_iff {operands : List (Option Expression)}
    {parameters : List SourceType} {es : List Expression} :
    fittingOperands? operands parameters = some es ↔
      operands = es.map some ∧ List.Forall₂ Fits operands parameters := by
  fun_induction fittingOperands? operands parameters generalizing es with
  | case1 =>
    constructor
    · rintro ⟨⟩
      exact ⟨rfl, .nil⟩
    · rintro ⟨h, _⟩
      rw [List.map_eq_nil_iff.mp h.symm]
  | case2 operand operands parameter parameters hFits ih =>
    rw [Option.map_eq_some_iff]
    constructor
    · rintro ⟨rest, hRest, rfl⟩
      obtain ⟨rfl, hForall⟩ := ih.mp hRest
      exact ⟨rfl, .cons (.given hFits) hForall⟩
    · rintro ⟨hMap, hForall⟩
      cases es with
      | nil => cases hMap
      | cons e rest =>
        obtain ⟨hHead, hRest⟩ := List.cons.inj hMap
        obtain rfl := Option.some.inj hHead
        exact ⟨rest, ih.mpr ⟨hRest, (List.forall₂_cons.mp hForall).2⟩, rfl⟩
  | case3 operand operands parameter parameters hFits =>
    constructor
    · intro h
      cases h
    · rintro ⟨_, hForall⟩
      cases (List.forall₂_cons.mp hForall).1 with
      | given hGiven => exact absurd hGiven hFits
  | case4 operands parameters hNil hCons =>
    constructor
    · intro h
      cases h
    · rintro ⟨_, hForall⟩
      cases hForall with
      | nil => exact absurd rfl (hNil rfl)
      | cons hHead _ =>
        cases hHead with
        | given => exact absurd rfl (hCons _ _ _ _ rfl)

theorem exists_map_some_of_fits {operands : List (Option Expression)}
    {parameters : List SourceType} (h : List.Forall₂ Fits operands parameters) :
    ∃ es : List Expression, operands = es.map some := by
  induction h with
  | nil => exact ⟨[], rfl⟩
  | cons hHead _ ih =>
    obtain ⟨es, rfl⟩ := ih
    cases hHead with
    | given => exact ⟨_ :: es, rfl⟩

theorem Call.withIntrinsic?_eq_some_iff {c' : Call} :
    c.withIntrinsic? i = some c' ↔
      c.extensionReceiver = none ∧ c.typeArguments = [] ∧
        List.Forall₂ Fits c.operands i.parameters ∧ c' = i.call c.operands c.type := by
  unfold Call.withIntrinsic?
  split
  case isTrue hOther =>
    constructor
    · intro h
      cases h
    · rintro ⟨hExtension, hTypes, _⟩
      rcases hOther with hSome | hTypes'
      · rw [hExtension] at hSome
        cases hSome
      · exact absurd hTypes hTypes'
  case isFalse hNeither =>
    obtain ⟨hExtension, hTypes⟩ := not_or.mp hNeither
    rw [Option.map_eq_some_iff]
    constructor
    · rintro ⟨es, hFits, rfl⟩
      obtain ⟨hOperands, hForall⟩ := fittingOperands?_eq_some_iff.mp hFits
      refine ⟨by simpa using hExtension, not_not.mp hTypes, hForall, ?_⟩
      rw [hOperands]
      rfl
    · rintro ⟨_, _, hForall, rfl⟩
      obtain ⟨es, hOperands⟩ := exists_map_some_of_fits hForall
      refine ⟨es, fittingOperands?_eq_some_iff.mpr ⟨hOperands, hForall⟩, ?_⟩
      rw [hOperands]
      rfl

theorem intrinsicStep_eq_some_iff {e : Expression} :
    intrinsicStep (.call c) = some e ↔
      ∃ i, c.Qualifies i ∧ e = .call (i.call c.operands c.type) := by
  constructor
  · intro h
    obtain ⟨i, hFor, hSome⟩ := Option.bind_eq_some_iff.mp h
    obtain ⟨c', hCall, rfl⟩ := Option.map_eq_some_iff.mp hSome
    obtain ⟨hExtension, hTypes, hForall, rfl⟩ := Call.withIntrinsic?_eq_some_iff.mp hCall
    exact ⟨i, ⟨intrinsicFor?_eq_some_iff.mp hFor, hExtension, hTypes, hForall⟩, rfl⟩
  · rintro ⟨i, ⟨hCallee, hExtension, hTypes, hForall⟩, rfl⟩
    refine Option.bind_eq_some_iff.mpr ⟨i, intrinsicFor?_eq_some_iff.mpr hCallee, ?_⟩
    refine Option.map_eq_some_iff.mpr ⟨i.call c.operands c.type, ?_, rfl⟩
    exact Call.withIntrinsic?_eq_some_iff.mpr ⟨hExtension, hTypes, hForall, rfl⟩

theorem isSome_intrinsicStep_iff :
    (intrinsicStep (.call c)).isSome = true ↔ ∃ i, c.Qualifies i := by
  rw [Option.isSome_iff_exists]
  constructor
  · rintro ⟨e, h⟩
    obtain ⟨i, hQualifies, _⟩ := intrinsicStep_eq_some_iff.mp h
    exact ⟨i, hQualifies⟩
  · rintro ⟨i, hQualifies⟩
    exact ⟨_, intrinsicStep_eq_some_iff.mpr ⟨i, hQualifies, rfl⟩⟩

instance (c : Call) : Decidable (∃ i, c.Qualifies i) :=
  decidable_of_iff _ isSome_intrinsicStep_iff

end Step

mutual

inductive Expression.WithIntrinsics : Expression → Expression → Prop
  | constant (value : Constant) : Expression.WithIntrinsics (.constant value) (.constant value)
  | readValue (name : String) (type : SourceType) :
    Expression.WithIntrinsics (.readValue name type) (.readValue name type)
  | self (type : SourceType) : Expression.WithIntrinsics (.self type) (.self type)
  | readField {receiver receiver'} (field : String) (type : SourceType) :
    Option.Rel Expression.WithIntrinsics receiver receiver' →
    Expression.WithIntrinsics (.readField receiver field type) (.readField receiver' field type)
  | object (id : ClassId) : Expression.WithIntrinsics (.object id) (.object id)
  /-- A call that qualifies as it was written. -/
  | replaced {c operands} {i : Intrinsic} : Call.Qualifies c i →
    List.Forall₂ (Option.Rel Expression.WithIntrinsics) (Call.operands c) operands →
    Expression.WithIntrinsics (.call c) (.call (i.call operands (Call.type c)))
  | kept {callee dispatch dispatch' extension extension' arguments arguments' typeArguments type} :
    (∀ i, ¬ Call.Qualifies ⟨callee, dispatch, extension, arguments, typeArguments, type⟩ i) →
    Option.Rel Expression.WithIntrinsics dispatch dispatch' →
    Option.Rel Expression.WithIntrinsics extension extension' →
    List.Forall₂ (Option.Rel Expression.WithIntrinsics) arguments arguments' →
    Expression.WithIntrinsics
      (.call ⟨callee, dispatch, extension, arguments, typeArguments, type⟩)
      (.call ⟨callee, dispatch', extension', arguments', typeArguments, type⟩)
  | construct (id : ClassId) (typeArguments : List SourceType) {arguments arguments'} :
    List.Forall₂ (Option.Rel Expression.WithIntrinsics) arguments arguments' →
    Expression.WithIntrinsics (.construct id typeArguments arguments)
      (.construct id typeArguments arguments')
  | concatenation {parts parts'} : List.Forall₂ Expression.WithIntrinsics parts parts' →
    Expression.WithIntrinsics (.concatenation parts) (.concatenation parts')
  | typeOperation (operator : TypeOperator) {operand operand'} (type : SourceType) :
    Expression.WithIntrinsics operand operand' →
    Expression.WithIntrinsics (.typeOperation operator operand type)
      (.typeOperation operator operand' type)
  | «when» {branches branches'} (type : SourceType) :
    List.Forall₂ Branch.WithIntrinsics branches branches' →
    Expression.WithIntrinsics (.when branches type) (.when branches' type)
  | block {statements statements'} (type : SourceType) :
    List.Forall₂ Statement.WithIntrinsics statements statements' →
    Expression.WithIntrinsics (.block statements type) (.block statements' type)
  | unsupported (kind : String) :
    Expression.WithIntrinsics (.unsupported kind) (.unsupported kind)

inductive Branch.WithIntrinsics : Branch → Branch → Prop
  | intro {condition condition' result result'} :
    Expression.WithIntrinsics condition condition' → Expression.WithIntrinsics result result' →
    Branch.WithIntrinsics ⟨condition, result⟩ ⟨condition', result'⟩

inductive Statement.WithIntrinsics : Statement → Statement → Prop
  | evaluate {e e'} : Expression.WithIntrinsics e e' →
    Statement.WithIntrinsics (.evaluate e) (.evaluate e')
  | declare (name : String) (type : SourceType) {value value'} (isVariable : Bool) :
    Option.Rel Expression.WithIntrinsics value value' →
    Statement.WithIntrinsics (.declare name type value isVariable)
      (.declare name type value' isVariable)
  | assign (name : String) {value value'} : Expression.WithIntrinsics value value' →
    Statement.WithIntrinsics (.assign name value) (.assign name value')
  | assignField {receiver receiver'} (field : String) {value value'} :
    Option.Rel Expression.WithIntrinsics receiver receiver' →
    Expression.WithIntrinsics value value' →
    Statement.WithIntrinsics (.assignField receiver field value)
      (.assignField receiver' field value')
  | returns {value value'} : Option.Rel Expression.WithIntrinsics value value' →
    Statement.WithIntrinsics (.returns value) (.returns value')
  | conditional {condition condition' yes yes' no no'} :
    Expression.WithIntrinsics condition condition' →
    List.Forall₂ Statement.WithIntrinsics yes yes' →
    List.Forall₂ Statement.WithIntrinsics no no' →
    Statement.WithIntrinsics (.conditional condition yes no) (.conditional condition' yes' no')
  | loop {condition condition' body body'} : Expression.WithIntrinsics condition condition' →
    List.Forall₂ Statement.WithIntrinsics body body' →
    Statement.WithIntrinsics (.loop condition body) (.loop condition' body')
  | throws {value value'} : Expression.WithIntrinsics value value' →
    Statement.WithIntrinsics (.throws value) (.throws value')

end

/-- A body, if there is one. -/
def bodyWithIntrinsics : Option (List Statement) → Option (List Statement) → Prop :=
  Option.Rel (List.Forall₂ Statement.WithIntrinsics)

structure ValueParameter.WithIntrinsics (p p' : ValueParameter) : Prop where
  defaultValue : Option.Rel Expression.WithIntrinsics p.defaultValue p'.defaultValue
  unchanged : p' = { p with defaultValue := p'.defaultValue }

structure FunctionDecl.WithIntrinsics (d d' : FunctionDecl) : Prop where
  extensionReceiver :
    Option.Rel ValueParameter.WithIntrinsics d.extensionReceiver d'.extensionReceiver
  valueParameters :
    List.Forall₂ ValueParameter.WithIntrinsics d.valueParameters d'.valueParameters
  body : bodyWithIntrinsics d.body d'.body
  unchanged : d' =
    { d with
      extensionReceiver := d'.extensionReceiver
      valueParameters := d'.valueParameters
      body := d'.body }

structure Delegation.WithIntrinsics (d d' : Delegation) : Prop where
  arguments : List.Forall₂ (Option.Rel Expression.WithIntrinsics) d.arguments d'.arguments
  unchanged : d' = { d with arguments := d'.arguments }

structure ConstructorDecl.WithIntrinsics (d d' : ConstructorDecl) : Prop where
  valueParameters :
    List.Forall₂ ValueParameter.WithIntrinsics d.valueParameters d'.valueParameters
  delegation : Option.Rel Delegation.WithIntrinsics d.delegation d'.delegation
  body : bodyWithIntrinsics d.body d'.body
  unchanged : d' =
    { d with
      valueParameters := d'.valueParameters
      delegation := d'.delegation
      body := d'.body }

structure PropertyDecl.WithIntrinsics (d d' : PropertyDecl) : Prop where
  getter : bodyWithIntrinsics d.getter d'.getter
  setter : bodyWithIntrinsics d.setter d'.setter
  initializer : Option.Rel Expression.WithIntrinsics d.initializer d'.initializer
  unchanged : d' =
    { d with getter := d'.getter, setter := d'.setter, initializer := d'.initializer }

structure FieldDecl.WithIntrinsics (d d' : FieldDecl) : Prop where
  initializer : Option.Rel Expression.WithIntrinsics d.initializer d'.initializer
  unchanged : d' = { d with initializer := d'.initializer }

mutual

inductive ClassDecl.WithIntrinsics : ClassDecl → ClassDecl → Prop
  | intro {c : ClassDecl} {declarations : List Declaration} :
    List.Forall₂ Declaration.WithIntrinsics c.declarations declarations →
    ClassDecl.WithIntrinsics c { c with declarations }

inductive Declaration.WithIntrinsics : Declaration → Declaration → Prop
  | ofClass {c c'} : ClassDecl.WithIntrinsics c c' →
    Declaration.WithIntrinsics (.ofClass c) (.ofClass c')
  | function {d d'} : FunctionDecl.WithIntrinsics d d' →
    Declaration.WithIntrinsics (.function d) (.function d')
  | constructor {d d'} : ConstructorDecl.WithIntrinsics d d' →
    Declaration.WithIntrinsics (.constructor d) (.constructor d')
  | property {d d'} : PropertyDecl.WithIntrinsics d d' →
    Declaration.WithIntrinsics (.property d) (.property d')
  | field {d d'} : FieldDecl.WithIntrinsics d d' →
    Declaration.WithIntrinsics (.field d) (.field d')

end

structure SourceFile.WithIntrinsics (f f' : SourceFile) : Prop where
  declarations : List.Forall₂ Declaration.WithIntrinsics f.declarations f'.declarations
  unchanged : f' = { f with declarations := f'.declarations }

section Operands

variable {c c' : Call} {i : Intrinsic}

theorem Expression.WithIntrinsics.type_eq {e e' : Expression} (h : e.WithIntrinsics e') :
    e'.type = e.type := by
  cases h <;> rfl

theorem eq_none_iff_of_rel {α : Type} {R : α → α → Prop} {a a' : Option α}
    (h : Option.Rel R a a') : a' = none ↔ a = none := by
  cases h with
  | none => exact Iff.rfl
  | some _ => exact iff_of_false (fun h => nomatch h) (fun h => nomatch h)

theorem forall₂_operands {R : Expression → Expression → Prop}
    (hDispatch : Option.Rel R c.dispatchReceiver c'.dispatchReceiver)
    (hExtension : Option.Rel R c.extensionReceiver c'.extensionReceiver)
    (hArguments : List.Forall₂ (Option.Rel R) c.arguments c'.arguments) :
    List.Forall₂ (Option.Rel R) c.operands c'.operands := by
  have hGiven {a a' : Option Expression} (h : Option.Rel R a a') :
      List.Forall₂ (Option.Rel R) (a.toList.map some) (a'.toList.map some) := by
    cases h with
    | none => exact .nil
    | some h => exact .cons (.some h) .nil
  rw [Call.operands, Call.operands, List.map_append, List.map_append]
  exact List.rel_append (List.rel_append (hGiven hDispatch) (hGiven hExtension)) hArguments

theorem fits_iff {a a' : Option Expression} (h : Option.Rel Expression.WithIntrinsics a a')
    {parameter : SourceType} : Fits a' parameter ↔ Fits a parameter := by
  cases h with
  | none => exact Iff.rfl
  | some h =>
    constructor
    · rintro ⟨hFits⟩
      rw [h.type_eq] at hFits
      exact .given hFits
    · rintro ⟨hFits⟩
      rw [← h.type_eq] at hFits
      exact .given hFits

theorem forall₂_fits_iff {operands operands' : List (Option Expression)}
    (h : List.Forall₂ (Option.Rel Expression.WithIntrinsics) operands operands')
    {parameters : List SourceType} :
    List.Forall₂ Fits operands' parameters ↔ List.Forall₂ Fits operands parameters := by
  induction h generalizing parameters with
  | nil => exact Iff.rfl
  | cons hHead _ ih =>
    cases parameters with
    | nil => exact iff_of_false (fun h => nomatch h) (fun h => nomatch h)
    | cons parameter rest => rw [List.forall₂_cons, List.forall₂_cons, fits_iff hHead, ih]

theorem Call.qualifies_iff (hCallee : c'.callee = c.callee)
    (hTypes : c'.typeArguments = c.typeArguments)
    (hDispatch : Option.Rel Expression.WithIntrinsics c.dispatchReceiver c'.dispatchReceiver)
    (hExtension : Option.Rel Expression.WithIntrinsics c.extensionReceiver c'.extensionReceiver)
    (hArguments :
      List.Forall₂ (Option.Rel Expression.WithIntrinsics) c.arguments c'.arguments) :
    c'.Qualifies i ↔ c.Qualifies i := by
  have hFits : List.Forall₂ Fits c'.operands i.parameters ↔
      List.Forall₂ Fits c.operands i.parameters :=
    forall₂_fits_iff (forall₂_operands hDispatch hExtension hArguments)
  constructor
  · rintro ⟨h₁, h₂, h₃, h₄⟩
    exact ⟨hCallee ▸ h₁, (eq_none_iff_of_rel hExtension).mp h₂, hTypes ▸ h₃, hFits.mp h₄⟩
  · rintro ⟨h₁, h₂, h₃, h₄⟩
    exact ⟨hCallee ▸ h₁, (eq_none_iff_of_rel hExtension).mpr h₂, hTypes ▸ h₃, hFits.mpr h₄⟩

end Operands

mutual

theorem Expression.withIntrinsics_revise (e : Expression) :
    e.WithIntrinsics (e.revise intrinsicStep).value := by
  cases e with
  | constant value => exact .constant value
  | readValue name type => exact .readValue name type
  | self type => exact .self type
  | readField receiver field type =>
    exact .readField field type (Expression.withIntrinsics_reviseOption receiver)
  | object id => exact .object id
  | call c => exact Call.withIntrinsics_revise c
  | construct id typeArguments arguments =>
    exact .construct id typeArguments (Expression.withIntrinsics_reviseArguments arguments)
  | concatenation parts => exact .concatenation (Expression.withIntrinsics_reviseList parts)
  | typeOperation operator operand type =>
    exact .typeOperation operator type (Expression.withIntrinsics_revise operand)
  | «when» branches type => exact .when type (Branch.withIntrinsics_reviseList branches)
  | block statements type => exact .block type (Statement.withIntrinsics_reviseList statements)
  | unsupported kind => exact .unsupported kind

-- The step is asked about the call with its operands revised. It answers as for the call that was
-- written, since both have operands of the same types.
theorem Call.withIntrinsics_revise (c : Call) :
    Expression.WithIntrinsics (.call c) ((Expression.call c).revise intrinsicStep).value := by
  obtain ⟨callee, dispatchReceiver, extensionReceiver, arguments, typeArguments, type⟩ := c
  have hDispatch := Expression.withIntrinsics_reviseOption dispatchReceiver
  have hExtension := Expression.withIntrinsics_reviseOption extensionReceiver
  have hArguments := Expression.withIntrinsics_reviseArguments arguments
  rw [Expression.revise, Call.revise]
  simp only [Tally.value_bind, Tally.value_pure]
  generalize (Expression.reviseOption intrinsicStep dispatchReceiver).value = dispatch' at *
  generalize (Expression.reviseOption intrinsicStep extensionReceiver).value = extension' at *
  generalize (Expression.reviseArguments intrinsicStep arguments).value = arguments' at *
  have hSame (i : Intrinsic) :
      Call.Qualifies ⟨callee, dispatch', extension', arguments', typeArguments, type⟩ i ↔
        Call.Qualifies
          ⟨callee, dispatchReceiver, extensionReceiver, arguments, typeArguments, type⟩ i :=
    Call.qualifies_iff rfl rfl hDispatch hExtension hArguments
  rw [Expression.replace]
  cases hStep : intrinsicStep
      (.call ⟨callee, dispatch', extension', arguments', typeArguments, type⟩) with
  | some e =>
    obtain ⟨i, hQualifies, rfl⟩ := intrinsicStep_eq_some_iff.mp hStep
    exact .replaced ((hSame i).mp hQualifies) (forall₂_operands hDispatch hExtension hArguments)
  | none =>
    refine .kept (fun i hQualifies => ?_) hDispatch hExtension hArguments
    have hSome := isSome_intrinsicStep_iff.mpr ⟨i, (hSame i).mpr hQualifies⟩
    rw [hStep] at hSome
    cases hSome

theorem Branch.withIntrinsics_revise (b : Branch) :
    b.WithIntrinsics (b.revise intrinsicStep).value := by
  obtain ⟨condition, result⟩ := b
  exact .intro (Expression.withIntrinsics_revise condition)
    (Expression.withIntrinsics_revise result)

theorem Statement.withIntrinsics_revise (s : Statement) :
    s.WithIntrinsics (s.revise intrinsicStep).value := by
  cases s with
  | evaluate e => exact .evaluate (Expression.withIntrinsics_revise e)
  | declare name type value isVariable =>
    exact .declare name type isVariable (Expression.withIntrinsics_reviseOption value)
  | assign name value => exact .assign name (Expression.withIntrinsics_revise value)
  | assignField receiver field value =>
    exact .assignField field (Expression.withIntrinsics_reviseOption receiver)
      (Expression.withIntrinsics_revise value)
  | returns value => exact .returns (Expression.withIntrinsics_reviseOption value)
  | conditional condition yes no =>
    exact .conditional (Expression.withIntrinsics_revise condition)
      (Statement.withIntrinsics_reviseList yes) (Statement.withIntrinsics_reviseList no)
  | loop condition body =>
    exact .loop (Expression.withIntrinsics_revise condition)
      (Statement.withIntrinsics_reviseList body)
  | throws value => exact .throws (Expression.withIntrinsics_revise value)

theorem Expression.withIntrinsics_reviseOption (e : Option Expression) :
    Option.Rel Expression.WithIntrinsics e (Expression.reviseOption intrinsicStep e).value := by
  cases e with
  | none => exact .none
  | some e => exact .some (Expression.withIntrinsics_revise e)

theorem Expression.withIntrinsics_reviseList (es : List Expression) :
    List.Forall₂ Expression.WithIntrinsics es (Expression.reviseList intrinsicStep es).value := by
  cases es with
  | nil => exact .nil
  | cons e rest =>
    exact .cons (Expression.withIntrinsics_revise e) (Expression.withIntrinsics_reviseList rest)

theorem Expression.withIntrinsics_reviseArguments (es : List (Option Expression)) :
    List.Forall₂ (Option.Rel Expression.WithIntrinsics) es
      (Expression.reviseArguments intrinsicStep es).value := by
  cases es with
  | nil => exact .nil
  | cons e rest =>
    exact .cons (Expression.withIntrinsics_reviseOption e)
      (Expression.withIntrinsics_reviseArguments rest)

theorem Branch.withIntrinsics_reviseList (bs : List Branch) :
    List.Forall₂ Branch.WithIntrinsics bs (Branch.reviseList intrinsicStep bs).value := by
  cases bs with
  | nil => exact .nil
  | cons b rest =>
    exact .cons (Branch.withIntrinsics_revise b) (Branch.withIntrinsics_reviseList rest)

theorem Statement.withIntrinsics_reviseList (ss : List Statement) :
    List.Forall₂ Statement.WithIntrinsics ss (Statement.reviseList intrinsicStep ss).value := by
  cases ss with
  | nil => exact .nil
  | cons s rest =>
    exact .cons (Statement.withIntrinsics_revise s) (Statement.withIntrinsics_reviseList rest)

end

theorem Call.qualifies_revise (c : Call) (i : Intrinsic) :
    (c.revise intrinsicStep).value.Qualifies i ↔ c.Qualifies i := by
  obtain ⟨callee, dispatchReceiver, extensionReceiver, arguments, typeArguments, type⟩ := c
  exact Call.qualifies_iff rfl rfl (Expression.withIntrinsics_reviseOption dispatchReceiver)
    (Expression.withIntrinsics_reviseOption extensionReceiver)
    (Expression.withIntrinsics_reviseArguments arguments)

theorem bodyWithIntrinsics_reviseBody (body : Option (List Statement)) :
    bodyWithIntrinsics body (reviseBody intrinsicStep body).value := by
  cases body with
  | none => exact .none
  | some statements => exact .some (Statement.withIntrinsics_reviseList statements)

theorem ValueParameter.withIntrinsics_revise (p : ValueParameter) :
    p.WithIntrinsics (p.revise intrinsicStep).value :=
  ⟨Expression.withIntrinsics_reviseOption p.defaultValue, rfl⟩

theorem FunctionDecl.withIntrinsics_revise (d : FunctionDecl) :
    d.WithIntrinsics (d.revise intrinsicStep).value where
  extensionReceiver := rel_each_head? ValueParameter.withIntrinsics_revise d.extensionReceiver
  valueParameters := forall₂_each ValueParameter.withIntrinsics_revise d.valueParameters
  body := bodyWithIntrinsics_reviseBody d.body
  unchanged := rfl

theorem Delegation.withIntrinsics_revise (d : Delegation) :
    d.WithIntrinsics (d.revise intrinsicStep).value :=
  ⟨Expression.withIntrinsics_reviseArguments d.arguments, rfl⟩

theorem ConstructorDecl.withIntrinsics_revise (d : ConstructorDecl) :
    d.WithIntrinsics (d.revise intrinsicStep).value where
  valueParameters := forall₂_each ValueParameter.withIntrinsics_revise d.valueParameters
  delegation := rel_each_head? Delegation.withIntrinsics_revise d.delegation
  body := bodyWithIntrinsics_reviseBody d.body
  unchanged := rfl

theorem PropertyDecl.withIntrinsics_revise (d : PropertyDecl) :
    d.WithIntrinsics (d.revise intrinsicStep).value where
  getter := bodyWithIntrinsics_reviseBody d.getter
  setter := bodyWithIntrinsics_reviseBody d.setter
  initializer := Expression.withIntrinsics_reviseOption d.initializer
  unchanged := rfl

theorem FieldDecl.withIntrinsics_revise (d : FieldDecl) :
    d.WithIntrinsics (d.revise intrinsicStep).value :=
  ⟨Expression.withIntrinsics_reviseOption d.initializer, rfl⟩

mutual

theorem ClassDecl.withIntrinsics_revise (c : ClassDecl) :
    c.WithIntrinsics (c.revise intrinsicStep).value := by
  obtain ⟨id, kind, modality, visibility, isLocal, isValue, isExpect, isExternal, isCompanion,
    typeParameters, supertypes, annotations, enumEntries, declarations, origin⟩ := c
  exact .intro (Declaration.withIntrinsics_reviseList declarations)

theorem Declaration.withIntrinsics_revise (d : Declaration) :
    d.WithIntrinsics (d.revise intrinsicStep).value := by
  cases d with
  | ofClass decl => exact .ofClass (ClassDecl.withIntrinsics_revise decl)
  | function decl => exact .function decl.withIntrinsics_revise
  | constructor decl => exact .constructor decl.withIntrinsics_revise
  | property decl => exact .property decl.withIntrinsics_revise
  | field decl => exact .field decl.withIntrinsics_revise

theorem Declaration.withIntrinsics_reviseList (ds : List Declaration) :
    List.Forall₂ Declaration.WithIntrinsics ds
      (Declaration.reviseList intrinsicStep ds).value := by
  cases ds with
  | nil => exact .nil
  | cons d rest =>
    exact .cons (Declaration.withIntrinsics_revise d) (Declaration.withIntrinsics_reviseList rest)

end

theorem SourceFile.withIntrinsics_useIntrinsics (f : SourceFile) :
    f.WithIntrinsics f.useIntrinsics.value :=
  ⟨Declaration.withIntrinsics_reviseList f.declarations, rfl⟩

end KotlinBackend
