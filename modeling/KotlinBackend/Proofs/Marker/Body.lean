import KotlinBackend.Proofs.Marker.Start

/-!
# Markers in the code of bodies

The code of expressions and statements has at most as many markers as were counted while it was
generated. Code is put together from the code of parts, each used at most once, and from texts that
do not start like a marker.
-/

namespace KotlinBackend.Output

/-- A text that starts as markers do. -/
def isMarker (s : String) : Bool := Text.startsWith "/* UNSUPPORTED: " s

mutual

/-- The number of texts in an output tree that start as markers do. -/
def Code.markers : Code → Nat
  | .nothing => 0
  | .list items _ => Code.listMarkers items
  | .text content => (isMarker content).toNat
  | .multiline texts => texts.countP isMarker
  | .interpolation parts => Part.listMarkers parts
  | .block header body => header.markers + Code.listMarkers body
  | .conditional condition thenBranch elseBranch =>
    condition.markers + thenBranch.markers + Code.optionMarkers elseBranch

def Part.markers : Part → Nat
  | .text content => (isMarker content).toNat
  | .hole code => code.markers

def Code.listMarkers : List Code → Nat
  | [] => 0
  | code :: rest => code.markers + Code.listMarkers rest

def Part.listMarkers : List Part → Nat
  | [] => 0
  | part :: rest => part.markers + Part.listMarkers rest

def Code.optionMarkers : Option Code → Nat
  | none => 0
  | some code => code.markers

end

theorem isMarker_of_clean {s : String} (h : Clean s) : isMarker s = false := by
  rw [Bool.eq_false_iff]
  intro hMarker
  have hOpening : commentOpening <+: "/* UNSUPPORTED: ".toList := by decide
  exact h (hOpening.trans (Text.startsWith_iff.mp hMarker))

theorem markers_text {s : String} (h : Clean s) : (Code.text s).markers = 0 := by
  rw [Code.markers, isMarker_of_clean h]
  rfl

section Shapes

variable (code header condition thenBranch : Code) (items codes body : List Code)

@[simp] theorem markers_list (join : Join) :
    (Code.list items join).markers = Code.listMarkers items := by
  rw [Code.markers]

@[simp] theorem markers_glue : (Code.glue items).markers = Code.listMarkers items :=
  markers_list items _

@[simp] theorem markers_inline (separator : String) :
    (Code.inline items separator).markers = Code.listMarkers items :=
  markers_list items _

@[simp] theorem markers_inLines : (Code.inLines items).markers = Code.listMarkers items :=
  markers_list items _

@[simp] theorem markers_paragraphs : (Code.paragraphs items).markers = Code.listMarkers items :=
  markers_list items _

@[simp] theorem markers_block :
    (Code.block header body).markers = header.markers + Code.listMarkers body := by
  rw [Code.markers]

@[simp] theorem markers_conditional (elseBranch : Option Code) :
    (Code.conditional condition thenBranch elseBranch).markers =
      condition.markers + thenBranch.markers + Code.optionMarkers elseBranch := by
  rw [Code.markers]

@[simp] theorem listMarkers_nil : Code.listMarkers [] = 0 := by rw [Code.listMarkers]

@[simp] theorem listMarkers_cons :
    Code.listMarkers (code :: codes) = code.markers + Code.listMarkers codes := by
  rw [Code.listMarkers]

@[simp] theorem optionMarkers_none : Code.optionMarkers none = 0 := by rw [Code.optionMarkers]

@[simp] theorem optionMarkers_some : Code.optionMarkers (some code) = code.markers := by
  rw [Code.optionMarkers]

@[simp] theorem markers_statement : code.statement.markers = code.markers := by
  simp (disch := decide) [Code.statement, markers_text]

end Shapes

theorem listMarkers_append (codes codes' : List Code) :
    Code.listMarkers (codes ++ codes') = Code.listMarkers codes + Code.listMarkers codes' := by
  induction codes with
  | nil => simp
  | cons code rest ih => simp only [List.cons_append, listMarkers_cons, ih, Nat.add_assoc]

end KotlinBackend.Output

namespace KotlinBackend

/-- The measure of a result exceeds what was counted by no more than `debt`. -/
def Tally.Within {α : Type} (measure : α → Nat) (debt : Nat) (x : Tally α) : Prop :=
  measure x.value ≤ debt + x.count

namespace Tally.Within

variable {α β : Type} {measure : α → Nat} {measure' : β → Nat} {debt : Nat}

theorem pure {a : α} (h : measure a ≤ debt) : Within measure debt (Pure.pure a : Tally α) := h

theorem bind {x : Tally α} {f : α → Tally β} (hx : x.Within measure 0)
    (hf : ∀ a, (f a).Within measure' (debt + measure a)) : (x >>= f).Within measure' debt := by
  -- what the first step leaves in its value is a debt of the second
  have hValue := hf x.value
  unfold Within at hx hValue ⊢
  rw [Tally.value_bind, Tally.count_bind]
  omega

theorem map {x : Tally α} {f : α → β} (hx : x.Within measure debt)
    (hf : ∀ a, measure' (f a) ≤ measure a) : (f <$> x).Within measure' debt :=
  Nat.le_trans (hf x.value) hx

theorem mono {x : Tally α} {debt' : Nat} (hx : x.Within measure debt) (h : debt ≤ debt') :
    x.Within measure debt' :=
  Nat.le_trans hx (Nat.add_le_add_right h _)

end Tally.Within

end KotlinBackend

namespace KotlinBackend.Output

open Code (glue)

/-- Code with at most as many markers as were counted. -/
def Counted (x : Tally Code) : Prop := x.Within Code.markers 0

theorem counted_mark (shape : String) : Counted (Code.mark shape) := by
  have hOne : ∀ b : Bool, b.toNat ≤ 1 := by decide
  exact hOne _

/-- The parts of a call are counted. -/
structure CallParts.Counted (parts : CallParts) : Prop where
  receiver : ∀ code ∈ parts.receiver, Output.Counted code
  extension : ∀ code ∈ parts.extension, Output.Counted code
  arguments : ∀ argument ∈ parts.arguments, ∀ code ∈ argument, Output.Counted code

theorem within_argumentCodes {arguments : List (Option (Tally Code))}
    (h : ∀ argument ∈ arguments, ∀ code ∈ argument, Counted code) :
    (argumentCodes arguments).Within Code.listMarkers 0 := by
  induction arguments with
  | nil => exact .pure (Nat.le_refl _)
  | cons argument rest ih =>
    obtain ⟨hFirst, hRest⟩ := List.forall_mem_cons.mp h
    cases argument with
    | some code =>
      refine .bind (hFirst code rfl) fun first => ?_
      refine .bind (ih hRest) fun others => ?_
      exact .pure (by simp)
    | none =>
      rw [argumentCodes]
      split
      · refine .bind (counted_mark _) fun first => ?_
        refine .bind (ih hRest) fun others => ?_
        exact .pure (by simp)
      · exact .pure (Nat.le_refl _)

theorem counted_argumentList {arguments : List (Option (Tally Code))}
    (h : ∀ argument ∈ arguments, ∀ code ∈ argument, Counted code) :
    Counted (argumentList arguments) := by
  refine .bind (within_argumentCodes h) fun codes => ?_
  exact .pure (by simp (disch := decide) [markers_text])

theorem counted_operatorCode {c : Call} {parts : CallParts} {code : Tally Code}
    (hParts : parts.Counted) (h : operatorCode? c parts = some code) : Counted code := by
  obtain ⟨owner, -, h⟩ := Option.bind_eq_some_iff.mp h
  split at h
  · cases h
  · obtain ⟨receiver, hReceiver, h⟩ := Option.bind_eq_some_iff.mp h
    have hCounted := hParts.receiver receiver hReceiver
    split at h
    · obtain ⟨⟨before, after⟩, hAffixes, h⟩ := Option.bind_eq_some_iff.mp h
      obtain rfl := Option.some.inj h
      obtain ⟨hBefore, hAfter⟩ := clean_unaryAffixes hAffixes
      refine .bind hCounted fun operand => ?_
      exact .pure (by simp [markers_text hBefore, markers_text hAfter])
    · rename_i argument hArguments
      obtain ⟨⟨before, between⟩, hAffixes, h⟩ := Option.bind_eq_some_iff.mp h
      obtain rfl := Option.some.inj h
      obtain ⟨hBefore, hBetween⟩ := clean_binaryAffixes hAffixes
      have hArgument := hParts.arguments (some argument) (hArguments ▸ List.mem_cons_self)
      refine .bind hCounted fun left => ?_
      refine .bind (hArgument argument rfl) fun right => ?_
      refine .pure ?_
      simp (disch := decide) [markers_text hBefore, markers_text hBetween, markers_text]
    · cases h

end KotlinBackend.Output

namespace KotlinBackend

open Output

/-- No class that carries functions of packages is written like a marker. -/
def SymbolSource.HoldersUnmarked (symbols : SymbolSource) : Prop :=
  ∀ package name, ∀ callable ∈ symbols.callables package name,
    ∀ holder ∈ callable.staticHolder, isMarker (className holder) = false

end KotlinBackend

namespace KotlinBackend.Output

open Code (glue)

section Qualifiers

variable {g : Context}

theorem clean_staticQualifier (g : Context) {id : ClassId} (h : AllPlain id.strings) :
    Clean (g.staticQualifier id) := by
  have hOuter : AllPlain (id.outer?.getD id).strings := by
    unfold ClassId.outer?
    split
    · exact h.mono (List.cons_subset_cons _ (List.dropLast_subset _))
    · exact h
  unfold Context.staticQualifier
  split
  · exact clean_className hOuter
  · exact ((clean_className h).settled (by decide)).append.clean
  · exact clean_className h
  · exact clean_className h

theorem markers_packageQualifier (hg : g.symbols.HoldersUnmarked) {callee : CallableId}
    (h : Plain callee.package.text) : ∀ code ∈ g.packageQualifier? callee, code.markers = 0 := by
  intro code hCode
  unfold Context.packageQualifier? at hCode
  split at hCode
  · rename_i holder hHolder
    obtain rfl := Option.some.inj hCode
    obtain ⟨callable, hCallable, hFound⟩ := List.exists_of_findSome?_eq_some hHolder
    rw [Code.markers, hg _ _ callable hCallable holder hFound]
    rfl
  · split at hCode
    · cases hCode
    · obtain rfl := Option.some.inj hCode
      exact markers_text h.clean

theorem markers_implicitQualifier (hg : g.symbols.HoldersUnmarked) (scope : Scope)
    {callee : CallableId} (h : AllPlain callee.strings) :
    ∀ code ∈ g.implicitQualifier? scope callee, code.markers = 0 := by
  obtain ⟨owner, name⟩ := callee
  have hOwner := (allPlain_cons.mp h).2
  cases owner with
  | inPackage package =>
    exact markers_packageQualifier hg (hOwner package.text List.mem_cons_self)
  | inClass owner =>
    intro code hCode
    unfold Context.implicitQualifier? at hCode
    simp only [CallableId.class?, Owner.class?] at hCode
    split at hCode
    · cases hCode
    · split at hCode
      · obtain rfl := Option.some.inj hCode
        exact markers_text (clean_staticQualifier g hOwner)
      · obtain rfl := Option.some.inj hCode
        exact markers_text (clean_staticQualifier g hOwner)
      · obtain rfl := Option.some.inj hCode
        exact markers_text (clean_staticQualifier g hOwner)
      · split at hCode
        · obtain rfl := Option.some.inj hCode
          exact markers_text (clean_className hOwner)
        · cases hCode

theorem within_qualifier (hg : g.symbols.HoldersUnmarked) (scope : Scope) {c : Call}
    {parts : CallParts} (hParts : parts.Counted) (h : AllPlain c.callee.strings) :
    (g.qualifier scope c parts).Within Code.optionMarkers 0 := by
  unfold Context.qualifier
  split
  · rename_i code _ hReceiver
    split
    · exact .pure (by simp)
    · exact (hParts.receiver _ hReceiver).map fun code => by simp
  · refine .pure ?_
    cases hQualifier : g.implicitQualifier? scope c.callee with
    | none => simp
    | some code => simp [markers_implicitQualifier hg scope h code hQualifier]

theorem markers_qualified (qualifier : Option Code) {member : String} (h : Clean member) :
    (qualified qualifier member).markers ≤ Code.optionMarkers qualifier := by
  have hDot : Clean ("." ++ member) := (settled_of_opens rfl).append.clean
  cases qualifier with
  | none => simp [qualified, markers_text h]
  | some code => simp [qualified, markers_text hDot]

theorem counted_setterValue {arguments : List (Option (Tally Code))}
    (h : ∀ argument ∈ arguments, ∀ code ∈ argument, Counted code) :
    Counted (setterValue arguments) := by
  unfold setterValue
  split
  · exact h _ List.mem_cons_self _ rfl
  · exact counted_mark _

theorem counted_memberCallCode (hg : g.symbols.HoldersUnmarked) (scope : Scope) {c : Call}
    {parts : CallParts} (hParts : parts.Counted) (h : AllPlain c.callee.strings) :
    Counted (memberCallCode g scope c parts) := by
  have hName : Plain c.callee.name := h _ List.mem_cons_self
  have hArguments : ∀ argument ∈ parts.extension.toList.map some ++ parts.arguments,
      ∀ code ∈ argument, Counted code := by
    refine List.forall_mem_append.mpr ⟨?_, hParts.arguments⟩
    intro argument hMem code hCode
    obtain ⟨extension, hExtension, rfl⟩ := List.mem_map.mp hMem
    obtain rfl := Option.some.inj hCode
    exact hParts.extension _ (Option.mem_toList.mp hExtension)
  have hTargets : ∀ entry ∈ platformFunctions, Clean entry.2 := by decide
  refine .bind (within_qualifier hg scope hParts h) fun qualifier => ?_
  split
  · rename_i property hProperty
    refine .pure ?_
    have := markers_qualified qualifier (clean_accessorProperty hName hProperty)
    omega
  · rename_i property _ hProperty
    have hQualified := markers_qualified qualifier (clean_accessorProperty hName hProperty)
    refine .bind (counted_setterValue hParts.arguments) fun value => ?_
    refine .pure ?_
    simp (disch := decide) [markers_text]
    omega
  · refine .bind (counted_argumentList hArguments) fun arguments => ?_
    split
    · rename_i target hTarget
      refine .pure ?_
      simp [markers_text (hTargets _ (mem_of_lookup hTarget))]
    · refine .pure ?_
      have hQualified := markers_qualified qualifier (clean_calleeName hName)
      simp
      omega

theorem counted_callCode (hg : g.symbols.HoldersUnmarked) (scope : Scope) {c : Call}
    {parts : CallParts} (hParts : parts.Counted) (h : AllPlain c.callee.strings) :
    Counted (callCode g scope c parts) := by
  unfold callCode
  split
  · rename_i code hOperator
    exact counted_operatorCode hParts hOperator
  · exact counted_memberCallCode hg scope hParts h

end Qualifiers

theorem counted_fieldOf (field : String) {receiver : Tally Code} (h : Counted receiver) :
    Counted (receiver >>= fun code => pure (glue [code, .text ("." ++ field)])) := by
  have hDot : Clean ("." ++ field) := (settled_of_opens rfl).append.clean
  refine .bind h fun code => ?_
  exact .pure (by simp [markers_text hDot])

theorem markers_typeOperationCode (type : SourceType) (operand : Code)
    (operator : TypeOperator) :
    (typeOperationCode type operand operator).markers = operand.markers := by
  have hIs : Clean (" is " ++ typeName type ++ ")") :=
    (settled_of_opens rfl).append.append.clean
  have hCast : Clean ("((" ++ nullableName type ++ ")") :=
    (settled_of_opens rfl).append.append.clean
  have hAs : Clean (" as " ++ nullableName type.nullable ++ ")") :=
    (settled_of_opens rfl).append.append.clean
  cases operator <;>
    simp (disch := decide) [typeOperationCode, markers_text hIs, markers_text hCast,
      markers_text hAs, markers_text]

/-- The code of a case is counted. -/
structure BranchParts.Counted (branch : BranchParts) : Prop where
  condition : Output.Counted branch.condition
  result : Output.Counted branch.result

theorem within_branchChain {finish : Code → Code}
    (hFinish : ∀ code, (finish code).markers = code.markers)
    {branches : List BranchParts} (h : ∀ branch ∈ branches, branch.Counted) :
    (branchChain finish branches).Within Code.optionMarkers 0 := by
  induction branches with
  | nil => exact .pure (by simp)
  | cons branch rest ih =>
    obtain ⟨hBranch, hRest⟩ := List.forall_mem_cons.mp h
    refine .bind (ih hRest) fun chain => ?_
    refine .bind (hBranch.result.map fun code => Nat.le_of_eq (hFinish code)) fun result => ?_
    split
    · exact .pure (by simp)
    · refine .bind hBranch.condition fun condition => ?_
      refine .pure ?_
      simp only [optionMarkers_some, markers_conditional]
      omega

theorem counted_whenExpressionCode {branches : List BranchParts}
    (h : ∀ branch ∈ branches, branch.Counted) : Counted (whenExpressionCode branches) := by
  refine .bind (within_branchChain (fun _ => rfl) h) fun chain => ?_
  split
  · exact .pure (by simp)
  · exact (counted_mark _).mono (Nat.zero_le _)

theorem counted_whenStatementCode {branches : List BranchParts}
    (h : ∀ branch ∈ branches, branch.Counted) : Counted (whenStatementCode branches) := by
  refine .bind (within_branchChain markers_statement h) fun chain => ?_
  refine .pure ?_
  cases chain with
  | none => simp [Code.markers]
  | some code => simp

theorem within_templatePart {e : Expression} {code : Tally Code} (h : AllPlain e.strings)
    (hCode : Counted code) : (templatePart e code).Within Part.markers 0 := by
  unfold templatePart
  split
  · rename_i value
    refine .pure ?_
    rw [Part.markers, isMarker_of_clean (clean_templateText value h)]
    exact Nat.le_refl _
  · refine hCode.map fun code => Nat.le_of_eq ?_
    rw [Part.markers]

section Bodies

variable {g : Context} (scope : Scope)

mutual

theorem counted_expressionCode (hg : g.symbols.HoldersUnmarked) (e : Expression)
    (h : AllPlain e.strings) : Counted (expressionCode g scope e) := by
  cases e with
  | constant value => exact .pure (by simp [markers_text (clean_literal value)])
  | readValue name type =>
    exact .pure (by simp [markers_text (h name List.mem_cons_self).clean])
  | self type => exact .pure (by simp (disch := decide) [markers_text])
  | readField receiver field type =>
    obtain ⟨hField, hRest⟩ := allPlain_cons.mp h
    cases receiver with
    | none => exact .pure (by simp [markers_text (clean_implicitField scope hField)])
    | some receiver =>
      exact counted_fieldOf field
        (counted_expressionCode hg receiver (allPlain_append.mp hRest).1)
  | object id => exact .pure (by simp [markers_text (clean_staticQualifier g h)])
  | call c => exact counted_callExpressionCode hg c h
  | construct id typeArguments arguments =>
    have hNew : Clean ("new " ++ typeName (.generic id typeArguments)) :=
      (settled_of_opens rfl).append.clean
    have hArguments := counted_argumentParts hg arguments (allPlain_append.mp h).2
    refine .bind (counted_argumentList hArguments) fun code => ?_
    exact .pure (by simp [markers_text hNew])
  | concatenation parts =>
    refine .bind (within_templateParts hg parts h) fun parts => ?_
    exact .pure (by simp [Code.markers])
  | typeOperation operator operand type =>
    refine .bind (counted_expressionCode hg operand (allPlain_append.mp h).1) fun code => ?_
    exact .pure (by simp [markers_typeOperationCode])
  | «when» branches type =>
    exact counted_whenExpressionCode (counted_branchParts hg branches (allPlain_append.mp h).1)
  | block statements type => exact counted_mark _
  | unsupported kind => exact counted_mark _

theorem counted_callExpressionCode (hg : g.symbols.HoldersUnmarked) (c : Call)
    (h : AllPlain c.strings) : Counted (callExpressionCode g scope c) := by
  obtain ⟨callee, dispatchReceiver, extensionReceiver, arguments, typeArguments, type⟩ := c
  simp only [Call.strings, allPlain_append] at h
  obtain ⟨⟨⟨⟨⟨hCallee, hDispatch⟩, hExtension⟩, hArguments⟩, -⟩, -⟩ := h
  refine counted_callCode hg scope ⟨?_, ?_, ?_⟩ hCallee
  · exact counted_optionCode hg dispatchReceiver hDispatch
  · exact counted_optionCode hg extensionReceiver hExtension
  · exact counted_argumentParts hg arguments hArguments

theorem counted_optionCode (hg : g.symbols.HoldersUnmarked) (e : Option Expression)
    (h : AllPlain (Expression.optionStrings e)) :
    ∀ code ∈ optionCode g scope e, Counted code := by
  intro code hCode
  cases e with
  | none => cases hCode
  | some e =>
    obtain rfl := Option.some.inj hCode
    exact counted_expressionCode hg e h

theorem counted_argumentParts (hg : g.symbols.HoldersUnmarked) (es : List (Option Expression))
    (h : AllPlain (Expression.argumentStrings es)) :
    ∀ argument ∈ argumentParts g scope es, ∀ code ∈ argument, Counted code := by
  cases es with
  | nil => exact List.forall_mem_nil _
  | cons e rest =>
    obtain ⟨hFirst, hRest⟩ := allPlain_append.mp h
    exact List.forall_mem_cons.mpr
      ⟨counted_optionCode hg e hFirst, counted_argumentParts hg rest hRest⟩

theorem within_templateParts (hg : g.symbols.HoldersUnmarked) (es : List Expression)
    (h : AllPlain (Expression.listStrings es)) :
    (templateParts g scope es).Within Part.listMarkers 0 := by
  cases es with
  | nil => exact .pure (by simp [Part.listMarkers])
  | cons e rest =>
    obtain ⟨hFirst, hRest⟩ := allPlain_append.mp h
    refine .bind (within_templatePart hFirst (counted_expressionCode hg e hFirst)) fun part => ?_
    refine .bind (within_templateParts hg rest hRest) fun parts => ?_
    exact .pure (by simp [Part.listMarkers])

theorem counted_branchParts (hg : g.symbols.HoldersUnmarked) (bs : List Branch)
    (h : AllPlain (Branch.listStrings bs)) :
    ∀ branch ∈ branchParts g scope bs, branch.Counted := by
  cases bs with
  | nil => exact List.forall_mem_nil _
  | cons b rest =>
    obtain ⟨condition, result⟩ := b
    obtain ⟨hFirst, hRest⟩ := allPlain_append.mp h
    obtain ⟨hCondition, hResult⟩ := allPlain_append.mp hFirst
    refine List.forall_mem_cons.mpr ⟨?_, counted_branchParts hg rest hRest⟩
    exact ⟨counted_expressionCode hg condition hCondition, counted_expressionCode hg result hResult⟩

end

theorem counted_fieldTarget (hg : g.symbols.HoldersUnmarked) {receiver : Option Expression}
    {field : String} (hField : Plain field) (h : AllPlain (Expression.optionStrings receiver)) :
    Counted (fieldTarget g scope receiver field) := by
  cases receiver with
  | none => exact .pure (by simp [markers_text (clean_implicitField scope hField)])
  | some receiver => exact counted_fieldOf field (counted_expressionCode scope hg receiver h)

theorem counted_returnCode (value : Expression) {code : Tally Code} (h : Counted code) :
    Counted (returnCode value code) := by
  have hReturn : Counted ((fun c => Code.statement (glue [.text "return ", c])) <$> code) :=
    h.map fun c => by simp (disch := decide) [markers_text]
  unfold returnCode
  split
  · split
    · exact .pure (by simp (disch := decide) [markers_text])
    · exact hReturn
  · exact hReturn

theorem optionMarkers_elseCode (statements : List Statement) (codes : List Code) :
    Code.optionMarkers (elseCode? statements codes) ≤ Code.listMarkers codes := by
  unfold elseCode?
  split <;> simp

mutual

theorem counted_statementCode (hg : g.symbols.HoldersUnmarked) (statement : Statement)
    (h : AllPlain statement.strings) : Counted (statementCode g scope statement) := by
  cases statement with
  | evaluate e =>
    cases e with
    | block statements type =>
      have hStatements := within_statementCodes hg statements (allPlain_append.mp h).1
      refine .bind hStatements fun codes => ?_
      exact .pure (by simp)
    | «when» branches type =>
      exact counted_whenStatementCode
        (counted_branchParts scope hg branches (allPlain_append.mp h).1)
    | _ => exact (counted_expressionCode scope hg _ h).map fun code => by simp
  | declare name type initializer isVariable =>
    obtain ⟨-, hRest⟩ := allPlain_cons.mp h
    obtain ⟨hType, hInitializer⟩ := allPlain_append.mp hRest
    have hHead : Clean (nullableName type ++ " " ++ name) :=
      ((clean_nullableName hType).settled (by decide)).append.clean
    cases initializer with
    | none => exact .pure (by simp [markers_text hHead])
    | some initializer =>
      refine .bind (counted_expressionCode scope hg initializer hInitializer) fun value => ?_
      exact .pure (by simp (disch := decide) [markers_text hHead, markers_text])
  | assign name value =>
    obtain ⟨hName, hValue⟩ := allPlain_cons.mp h
    have hTarget : Clean (name ++ " = ") := (hName.clean.settled (by decide)).clean
    refine .bind (counted_expressionCode scope hg value hValue) fun value => ?_
    exact .pure (by simp [markers_text hTarget])
  | assignField receiver field value =>
    obtain ⟨hField, hRest⟩ := allPlain_cons.mp h
    obtain ⟨hReceiver, hValue⟩ := allPlain_append.mp hRest
    refine .bind (counted_fieldTarget scope hg hField hReceiver) fun target => ?_
    refine .bind (counted_expressionCode scope hg value hValue) fun value => ?_
    exact .pure (by simp (disch := decide) [markers_text])
  | returns value =>
    cases value with
    | none => exact .pure (by simp (disch := decide) [markers_text])
    | some value => exact counted_returnCode value (counted_expressionCode scope hg value h)
  | conditional condition thenBranch elseBranch =>
    obtain ⟨hFront, hElse⟩ := allPlain_append.mp h
    obtain ⟨hCondition, hThen⟩ := allPlain_append.mp hFront
    refine .bind (counted_expressionCode scope hg condition hCondition) fun condition => ?_
    refine .bind (within_statementCodes hg thenBranch hThen) fun thenCodes => ?_
    refine .bind (within_statementCodes hg elseBranch hElse) fun elseCodes => ?_
    refine .pure ?_
    have hElseCode := optionMarkers_elseCode elseBranch elseCodes
    simp only [markers_conditional, markers_inLines]
    omega
  | loop condition body =>
    obtain ⟨hCondition, hBody⟩ := allPlain_append.mp h
    refine .bind (counted_expressionCode scope hg condition hCondition) fun condition => ?_
    refine .bind (within_statementCodes hg body hBody) fun codes => ?_
    exact .pure (by simp (disch := decide) [markers_text])
  | throws value =>
    refine .bind (counted_expressionCode scope hg value h) fun value => ?_
    exact .pure (by simp (disch := decide) [markers_text])

theorem within_statementCodes (hg : g.symbols.HoldersUnmarked) (statements : List Statement)
    (h : AllPlain (Statement.listStrings statements)) :
    (statementCodes g scope statements).Within Code.listMarkers 0 := by
  cases statements with
  | nil => exact .pure (by simp)
  | cons statement rest =>
    obtain ⟨hFirst, hRest⟩ := allPlain_append.mp h
    refine .bind (counted_statementCode hg statement hFirst) fun code => ?_
    refine .bind (within_statementCodes hg rest hRest) fun codes => ?_
    exact .pure (by simp)

end

end Bodies

end KotlinBackend.Output
