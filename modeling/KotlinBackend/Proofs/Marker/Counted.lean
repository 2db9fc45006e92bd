import KotlinBackend.Compilation
import KotlinBackend.Proofs.Marker.Body

/-!
# Every marker is counted

The code of a module has at most as many markers as were counted for it. Therefore a compilation
that gives no warning writes no marker.
-/

namespace KotlinBackend

theorem Tally.Within.each {α β : Type} {measure : β → Nat} {f : α → Tally β} {items : List α}
    (h : ∀ a ∈ items, (f a).Within measure 0) :
    (Tally.each f items).Within (fun bs => total (bs.map measure)) 0 := by
  induction items with
  | nil => exact .pure (Nat.le_refl _)
  | cons a rest ih =>
    obtain ⟨hFirst, hRest⟩ := List.forall_mem_cons.mp h
    refine .bind hFirst fun b => ?_
    refine .bind (ih hRest) fun bs => ?_
    refine .pure (Nat.le_of_eq ?_)
    rw [List.map_cons, total, Nat.zero_add]

end KotlinBackend

namespace KotlinBackend.Output

open Code (glue)

theorem listMarkers_eq_total (codes : List Code) :
    Code.listMarkers codes = total (codes.map Code.markers) := by
  induction codes with
  | nil => rw [Code.listMarkers, List.map_nil, total]
  | cons code rest ih => rw [Code.listMarkers, List.map_cons, total, ih]

theorem listMarkers_flatten (codes : List (List Code)) :
    Code.listMarkers codes.flatten = total (codes.map Code.listMarkers) := by
  induction codes with
  | nil => rw [List.flatten_nil, listMarkers_nil, List.map_nil, total]
  | cons first rest ih => rw [List.flatten_cons, listMarkers_append, List.map_cons, total, ih]

theorem markers_words {words : List String} (h : ∀ word ∈ words, Clean word) :
    (Code.words words).markers = 0 := by
  rw [Code.words, markers_inline]
  induction words with
  | nil => simp
  | cons word rest ih =>
    obtain ⟨hWord, hRest⟩ := List.forall_mem_cons.mp h
    rw [List.filter_cons]
    split
    · rw [List.map_cons, listMarkers_cons, markers_text hWord, ih hRest]
    · exact ih hRest

theorem clean_memberVisibility (v : Visibility) : Clean (memberVisibility v) := by
  cases v <;> decide

theorem clean_memberWords (owner : ClassDecl) (visibility : Visibility) (modality : Modality)
    (isStatic : Bool) : ∀ word ∈ memberWords owner visibility modality isStatic, Clean word := by
  have hModality : Clean (if isStatic then "static" else memberModality modality) := by
    cases isStatic <;> cases modality <;> decide
  unfold memberWords
  split
  · cases isStatic <;> decide
  · simpa using ⟨clean_memberVisibility visibility, hModality⟩

theorem clean_classWords (c : ClassDecl) : ∀ word ∈ classWords c, Clean word := by
  unfold classWords
  split
  · decide
  · cases c.kind <;> cases c.modality <;> decide

theorem typeParameterList_divides (withVariance : Bool) (parameters : List TypeParameter) :
    typeParameterList withVariance parameters = "" ∨
      divides (typeParameterList withVariance parameters) = true := by
  unfold typeParameterList
  split
  · exact .inl rfl
  · exact .inr (divides_append (divides_append (by decide)))

theorem constraints_divides (parameters : List TypeParameter) :
    constraints parameters = "" ∨ divides (constraints parameters) = true := by
  induction parameters with
  | nil => exact .inl rfl
  | cons p rest ih =>
    rw [constraints, List.map_cons, String.join_cons, ← constraints, constraintText]
    split
    · rwa [String.empty_append]
    · refine .inr (divides_append ?_)
      exact divides_append (divides_append (divides_append (by decide)))

theorem markers_classHeader (nested : Bool) {c : ClassDecl} (h : AllPlain c.id.strings) :
    (classHeader nested c).markers = 0 := by
  have hName : Clean c.name := by
    rw [ClassDecl.name, ClassId.shortName]
    cases hLast : c.id.names.getLast? with
    | none => decide
    | some name => exact (h name (List.mem_cons_of_mem _ (List.mem_of_getLast? hLast))).clean
  have hVisibility : Clean (classVisibility nested c.visibility) := by
    unfold classVisibility
    split
    · decide
    · exact clean_memberVisibility _
  refine markers_words (List.forall_mem_cons.mpr ⟨hVisibility, ?_⟩)
  refine List.forall_mem_append.mpr ⟨clean_classWords c, List.forall_mem_singleton.mpr ?_⟩
  -- each text behind the name is empty or divides it from what follows
  refine ((hName.append (typeParameterList_divides _ _)).append ?_).append (constraints_divides _)
  split
  · exact .inl rfl
  · exact .inr (divides_append (by decide))

section Members

variable {g : Context} (hg : g.symbols.HoldersUnmarked) (owner : ClassDecl)

theorem markers_functionHeader (isStatic : Bool) {d : FunctionDecl}
    (h : AllPlain d.returnType.strings) : (functionHeader owner isStatic d).markers = 0 := by
  refine markers_words (List.forall_mem_append.mpr ⟨clean_memberWords _ _ _ _, ?_⟩)
  have hReturn : Settled (returnName d.returnType ++ " ") :=
    (clean_returnName h).settled (by decide)
  exact List.forall_mem_singleton.mpr hReturn.append.append.append.append.append.append.clean

include hg

theorem counted_functionCode (inCompanion : Bool) {d : FunctionDecl} (h : AllPlain d.strings) :
    Counted (functionCode g owner inCompanion d) := by
  simp only [FunctionDecl.strings, allPlain_append] at h
  obtain ⟨⟨⟨-, hReturn⟩, -⟩, hBody⟩ := h
  have hHeader := fun isStatic => markers_functionHeader owner isStatic hReturn
  have hDefault : Clean ("return " ++ defaultValue (returnName d.returnType) d.returnType) :=
    (settled_of_opens rfl).append.clean
  simp only [functionCode]
  split
  · rename_i body hSome
    rw [hSome] at hBody
    refine .bind (within_statementCodes _ hg body hBody) fun statements => ?_
    exact .pure (by simp [hHeader])
  · split
    · exact .pure (by simp [hHeader])
    · refine .pure ?_
      rw [markers_block, hHeader, defaultBody]
      split <;> simp [markers_text hDefault]

theorem counted_constructorLikeCode (parameters : List ValueParameter) (visibility : Visibility)
    (delegation : List Code) {body : Option (List Statement)} (h : AllPlain (bodyStrings body)) :
    (constructorLikeCode g owner parameters visibility delegation body).Within Code.markers
      (Code.listMarkers delegation) := by
  refine .bind (within_statementCodes _ hg _ h) fun statements => ?_
  refine .pure (Nat.le_of_eq ?_)
  have hVisibility : Settled (memberVisibility visibility ++ " ") :=
    (clean_memberVisibility visibility).settled (by decide)
  rw [markers_block, markers_glue, listMarkers_cons,
    markers_text hVisibility.append.append.append.append.clean, Nat.zero_add]

theorem within_delegationCode {d : Delegation}
    (h : AllPlain (Expression.argumentStrings d.arguments)) :
    (delegationCode g owner d).Within Code.listMarkers 0 := by
  have hWord : Clean (" : " ++ delegationWord d.target) := (settled_of_opens rfl).append.clean
  refine .bind (counted_argumentList (counted_argumentParts _ hg _ h)) fun arguments => ?_
  exact .pure (by simp [markers_text hWord])

theorem counted_constructorCode {d : ConstructorDecl} (h : AllPlain d.strings) :
    Counted (constructorCode g owner d) := by
  simp only [ConstructorDecl.strings, allPlain_append, allPlain_flatMap] at h
  obtain ⟨⟨-, hDelegation⟩, hBody⟩ := h
  have hCodes := Tally.Within.each fun a ha => within_delegationCode hg owner (hDelegation a ha)
  refine .bind hCodes fun codes => ?_
  refine (counted_constructorLikeCode hg owner _ _ _ hBody).mono (Nat.le_of_eq ?_)
  rw [Nat.zero_add, listMarkers_flatten]

theorem counted_constPropertyCode (scope : Scope) {d : PropertyDecl}
    (h : AllPlain (Expression.optionStrings d.initializer)) :
    Counted (constPropertyCode g scope d) := by
  have hVisibility : Settled (memberVisibility d.visibility ++ " const ") :=
    (clean_memberVisibility d.visibility).settled (by decide)
  have hHead : Clean (memberVisibility d.visibility ++ " const " ++ nullableName d.type ++ " " ++
      d.id.name ++ " = ") := hVisibility.append.append.append.append.clean
  have hValue : Counted ((optionCode g scope d.initializer).getD
      (pure (.text (defaultValue (nullableName d.type) d.type)))) := by
    cases hCode : optionCode g scope d.initializer with
    | none => exact .pure (by simp [markers_text (clean_defaultValue _ _)])
    | some code => exact counted_optionCode scope hg _ h code hCode
  refine .bind hValue fun value => ?_
  refine .pure ?_
  simp (disch := decide) [markers_text hHead, markers_text]

theorem counted_accessorCode (scope : Scope) {name : String} (hName : Clean name)
    {body : List Statement} (h : AllPlain (Statement.listStrings body)) :
    Counted (accessorCode g scope name body) := by
  refine .bind (within_statementCodes scope hg body h) fun statements => ?_
  exact .pure (by simp [markers_text hName])

theorem within_storedSetter (scope : Scope) {d : PropertyDecl}
    (h : AllPlain (bodyStrings d.setter)) :
    (storedSetter g scope d).Within Code.listMarkers 0 := by
  unfold storedSetter
  split
  · rename_i body hSome
    rw [hSome] at h
    refine .bind (counted_accessorCode hg scope (by decide) h) fun code => ?_
    exact .pure (by simp)
  · refine .pure ?_
    split <;> simp (disch := decide) [markers_text]

theorem within_initializerCode (scope : Scope) {initializer : Option Expression}
    (h : AllPlain (Expression.optionStrings initializer)) :
    (initializerCode g scope initializer).Within Code.listMarkers 0 := by
  cases initializer with
  | none => exact .pure (by simp)
  | some e =>
    refine .bind (counted_expressionCode scope hg e h) fun value => ?_
    exact .pure (by simp (disch := decide) [markers_text])

theorem counted_propertyCode (inCompanion : Bool) {d : PropertyDecl} (h : AllPlain d.strings) :
    Counted (propertyCode g owner inCompanion d) := by
  simp only [PropertyDecl.strings, allPlain_append] at h
  obtain ⟨⟨⟨⟨hId, hType⟩, hGetter⟩, hSetter⟩, hInitializer⟩ := h
  have hHeader : ∀ isStatic, (Code.words (memberWords owner d.visibility d.modality isStatic ++
      [nullableName d.type, d.id.name])).markers = 0 := by
    intro isStatic
    refine markers_words (List.forall_mem_append.mpr ⟨clean_memberWords _ _ _ _, ?_⟩)
    simpa using ⟨clean_nullableName hType, (hId d.id.name List.mem_cons_self).clean⟩
  simp only [propertyCode]
  split
  · exact counted_constPropertyCode hg _ hInitializer
  · split
    · refine .bind (within_storedSetter hg _ hSetter) fun setter => ?_
      refine .bind (within_initializerCode hg _ hInitializer) fun initializer => ?_
      exact .pure (by simp (disch := decide) [hHeader, markers_text])
    · rename_i getter hSome
      rw [hSome] at hGetter
      refine .bind (counted_accessorCode hg _ (by decide) hGetter) fun get => ?_
      cases hBody : d.setter with
      | none =>
        simp only
        split <;> exact .pure (by simp [hHeader])
      | some body =>
        rw [hBody] at hSetter
        refine .bind (counted_accessorCode hg _ (by decide) hSetter) fun set => ?_
        exact .pure (by simp [hHeader])

theorem counted_fieldCode (inCompanion : Bool) {d : FieldDecl} (h : AllPlain d.strings) :
    Counted (fieldCode g owner inCompanion d) := by
  simp only [FieldDecl.strings, allPlain_cons, allPlain_append] at h
  obtain ⟨hName, hType, hInitializer⟩ := h
  have hWords : ∀ isStatic : Bool, (Code.words ([memberVisibility d.visibility] ++
      (if isStatic then ["static"] else []) ++ (if d.isFinal then ["readonly"] else []) ++
      [nullableName d.type, d.name])).markers = 0 := by
    intro isStatic
    have hStatic : ∀ word ∈ (if isStatic then ["static"] else []), Clean word := by
      cases isStatic <;> decide
    have hFinal : ∀ word ∈ (if d.isFinal then ["readonly"] else []), Clean word := by
      cases d.isFinal <;> decide
    refine markers_words ?_
    rw [List.forall_mem_append, List.forall_mem_append, List.forall_mem_append]
    refine ⟨⟨⟨List.forall_mem_singleton.mpr (clean_memberVisibility _), hStatic⟩, hFinal⟩, ?_⟩
    simpa using ⟨clean_nullableName hType, hName.clean⟩
  simp only [fieldCode]
  split
  · refine .pure ?_
    rw [markers_glue, listMarkers_cons, hWords]
    simp (disch := decide) [markers_text]
  · rename_i e hSome
    rw [hSome] at hInitializer
    refine .bind (counted_expressionCode _ hg e hInitializer) fun value => ?_
    refine .pure ?_
    rw [markers_glue, listMarkers_cons, hWords]
    simp (disch := decide) [markers_text]

end Members

theorem listMarkers_instanceCodes (c : ClassDecl) : Code.listMarkers (instanceCodes c) = 0 := by
  unfold instanceCodes
  split
  · have hField : Settled "public static readonly " := settled_of_opens rfl
    simp [markers_text hField.append.append.append.append.append.append.clean]
  · exact listMarkers_nil

theorem within_enumCodes {c : ClassDecl} (h : AllPlain c.enumEntries) :
    (enumCodes c).Within Code.listMarkers 0 := by
  have hJoined : Clean (String.intercalate ", " c.enumEntries) := clean_intercalate (by decide) h
  have hEntries : Code.listMarkers (if c.enumEntries.isEmpty then []
      else [Code.text (String.intercalate ", " c.enumEntries)]) = 0 := by
    split
    · exact listMarkers_nil
    · simp [markers_text hJoined]
  refine .bind (Tally.Within.each fun _ _ => counted_mark "ENUM_MEMBER") fun marks => ?_
  refine .pure (Nat.le_of_eq ?_)
  rw [listMarkers_append, hEntries, listMarkers_eq_total]

theorem counted_classBlock (nested : Bool) {c : ClassDecl} (h : AllPlain c.id.strings)
    {members : Tally (List Code)} (hMembers : members.Within Code.listMarkers 0) :
    Counted (members >>= fun codes =>
      pure (.block (classHeader nested c) [.paragraphs (instanceCodes c ++ codes)])) := by
  refine .bind hMembers fun codes => ?_
  refine .pure ?_
  rw [markers_block, markers_classHeader nested h]
  simp [listMarkers_append, listMarkers_instanceCodes]

section Classes

variable {g : Context}

mutual

theorem counted_classCode (hg : g.symbols.HoldersUnmarked) (nested : Bool) (c : ClassDecl)
    (h : AllPlain c.strings) : Counted (classCode g nested c) := by
  obtain ⟨id, kind, modality, visibility, isLocal, isValue, isExpect, isExternal, isCompanion,
    typeParameters, supertypes, annotations, enumEntries, declarations, origin⟩ := c
  simp only [ClassDecl.strings, allPlain_append] at h
  obtain ⟨⟨⟨⟨⟨hId, -⟩, -⟩, -⟩, hEntries⟩, hDeclarations⟩ := h
  rw [classCode]
  split
  · exact counted_classBlock nested hId (within_enumCodes hEntries)
  · exact counted_classBlock nested hId
      (within_memberCodes hg _ false declarations hDeclarations)

theorem within_companionCodes (hg : g.symbols.HoldersUnmarked) (c : ClassDecl)
    (h : AllPlain c.strings) : (companionCodes g c).Within Code.listMarkers 0 := by
  obtain ⟨id, kind, modality, visibility, isLocal, isValue, isExpect, isExternal, isCompanion,
    typeParameters, supertypes, annotations, enumEntries, declarations, origin⟩ := c
  rw [companionCodes]
  exact within_memberCodes hg _ true declarations (allPlain_append.mp h).2

theorem within_declarationCodes (hg : g.symbols.HoldersUnmarked) (owner : ClassDecl)
    (inCompanion : Bool) (d : Declaration) (h : AllPlain d.strings) :
    (declarationCodes g owner inCompanion d).Within Code.listMarkers 0 := by
  have hOne : ∀ code : Tally Code, Counted code →
      (code >>= fun code => pure [code]).Within Code.listMarkers 0 := by
    intro code hCode
    refine .bind hCode fun code => ?_
    exact .pure (by simp)
  cases d with
  | ofClass decl =>
    rw [declarationCodes]
    split
    · exact within_companionCodes hg decl h
    · exact hOne _ (counted_classCode hg true decl h)
  | function decl =>
    rw [declarationCodes]
    split
    · exact hOne _ (counted_constructorLikeCode hg owner _ _ [] (allPlain_append.mp h).2)
    · exact hOne _ (counted_functionCode hg owner inCompanion h)
  | constructor decl =>
    rw [declarationCodes]
    split
    · exact .pure (by simp)
    · exact hOne _ (counted_constructorCode hg owner h)
  | property decl => exact hOne _ (counted_propertyCode hg owner inCompanion h)
  | field decl => exact hOne _ (counted_fieldCode hg owner inCompanion h)

theorem within_memberCodes (hg : g.symbols.HoldersUnmarked) (owner : ClassDecl) (inCompanion : Bool)
    (ds : List Declaration) (h : AllPlain (Declaration.listStrings ds)) :
    (memberCodes g owner inCompanion ds).Within Code.listMarkers 0 := by
  cases ds with
  | nil => exact .pure (by simp)
  | cons d rest =>
    obtain ⟨hFirst, hRest⟩ := allPlain_append.mp h
    have hOthers := within_memberCodes hg owner inCompanion rest hRest
    rw [memberCodes]
    split
    · refine .bind (within_declarationCodes hg owner inCompanion d hFirst) fun codes => ?_
      refine .bind hOthers fun others => ?_
      exact .pure (by simp [listMarkers_append])
    · refine .bind (.pure (Nat.le_of_eq listMarkers_nil)) fun codes => ?_
      refine .bind hOthers fun others => ?_
      exact .pure (by simp [listMarkers_append])

end

variable (hg : g.symbols.HoldersUnmarked)

include hg

theorem counted_topLevelCode {d : Declaration} (h : AllPlain d.strings) :
    Counted (topLevelCode g d) := by
  cases d with
  | ofClass decl => exact counted_classCode hg false decl h
  | function | constructor | property | field => exact counted_mark _

theorem counted_fileCode {f : SourceFile} (h : AllPlain (Declaration.listStrings f.declarations)) :
    Counted (fileCode g f) := by
  have hItems : ∀ d ∈ f.declarations, Counted (topLevelCode g d) := by
    rw [Declaration.listStrings_eq_flatMap, allPlain_flatMap] at h
    exact fun d hd => counted_topLevelCode hg (h d hd)
  have hNamespace : Clean ("namespace " ++ f.package.text) := (settled_of_opens rfl).append.clean
  refine .bind (.each hItems) fun items => ?_
  rw [← listMarkers_eq_total]
  split
  · exact .pure (by simp)
  · exact .pure (by simp [markers_text hNamespace])

end Classes

theorem within_generate {symbols : SymbolSource} (hSymbols : symbols.HoldersUnmarked)
    {m : SourceModule} (h : AllPlain m.strings) :
    (generate symbols m).Within (fun files => total (files.map (·.code.markers))) 0 := by
  refine .each fun f hf => ?_
  have hFile := counted_fileCode (g := .ofModule symbols m) hSymbols (allPlain_flatMap.mp h f hf)
  exact hFile.map fun code => Nat.le_refl _

end KotlinBackend.Output

namespace KotlinBackend

open Output

theorem Writing.entries_subset_add (directory : Path) (w : Writing) (output : String × String) :
    w.diagnostics.entries ⊆ (w.add directory output).diagnostics.entries := by
  unfold Writing.add
  simp only
  split
  · exact List.Subset.refl _
  · exact List.subset_append_left _ _

theorem entries_subset_writeOutputs (directory : Path) (outputs : List (String × String))
    (w : Writing) :
    w.diagnostics.entries ⊆ (writeOutputs directory outputs w).diagnostics.entries := by
  have hFold : ∀ v : Writing, v.diagnostics.entries ⊆
      (outputs.foldl (Writing.add directory) v).diagnostics.entries := by
    induction outputs with
    | nil => exact fun v => List.Subset.refl _
    | cons output rest ih =>
      intro v
      rw [List.foldl_cons]
      exact List.Subset.trans (Writing.entries_subset_add directory v output) (ih _)
  unfold writeOutputs
  split
  · rename_i disk hDisk
    exact hFold { w with disk }
  · exact List.subset_append_left _ _

/-- What a session generates code from: its symbols and the lowered module. -/
def Session.generatorInput (s : Session) (source : SourceModule) : SymbolSource × SourceModule :=
  let m := (s.actualize source).1.module
  let symbols := (s.actualize source).2.symbols
  (symbols, (Pipeline.standard.run (.ofModule symbols.contains m) m).module)

theorem count_outputsFor (dumps : Bool) (symbols : SymbolSource) (before lowered : SourceModule) :
    (outputsFor dumps symbols before lowered).count = (generate symbols lowered).count :=
  Tally.count_map _ _

theorem warning_mem_generate {s : Session} {source m : SourceModule} {symbols : SymbolSource}
    (hInput : s.generatorInput source = (symbols, m)) (h : 0 < (generate symbols m).count)
    (d : Disk) :
    ⟨.warning, .codeGenerator, unsupportedText (generate symbols m).count⟩ ∈
      (s.generate source d).1.diagnostics.entries := by
  have hReported : ∀ (ds : Diagnostics) (count : Nat), 0 < count →
      ⟨.warning, .codeGenerator, unsupportedText count⟩ ∈
        (if 0 < count then ds.warning .codeGenerator (unsupportedText count) else ds).entries := by
    intro ds count hCount
    rw [if_pos hCount]
    exact List.mem_append_right _ List.mem_cons_self
  unfold Session.generatorInput at hInput
  unfold Session.generate
  generalize s.actualize source = actualized at hInput ⊢
  obtain ⟨⟨actual, _, _, _⟩, session⟩ := actualized
  dsimp only at hInput ⊢
  obtain ⟨rfl, hLowered⟩ := Prod.mk.inj hInput
  have hCount := count_outputsFor session.config.emitDumps session.symbols actual m
  rw [hLowered, ← hCount]
  rw [← hCount] at h
  exact entries_subset_writeOutputs _ _ _ (hReported _ _ h)

/-- The code of a module has at most as many markers as were counted, if neither the strings of the
module nor the names of the classes that carry functions of packages open a comment. Code that is
generated without a warning has no marker. -/
theorem markers_counted {symbols : SymbolSource} {m : SourceModule} (hModule : AllPlain m.strings)
    (hSymbols : symbols.HoldersUnmarked) :
    total ((generate symbols m).value.map (·.code.markers)) ≤ (generate symbols m).count ∧
      ∀ (s : Session) (source : SourceModule) (d : Disk),
        s.generatorInput source = (symbols, m) →
        (∀ entry ∈ (s.generate source d).1.diagnostics.entries,
          entry.severity = .warning → entry.reporter ≠ .codeGenerator) →
        ∀ file ∈ (generate symbols m).value, file.code.markers = 0 := by
  have hTotal : total ((generate symbols m).value.map (·.code.markers)) ≤
      (generate symbols m).count := by
    have hWithin := within_generate hSymbols hModule
    rwa [Tally.Within, Nat.zero_add] at hWithin
  refine ⟨hTotal, ?_⟩
  intro s source d hInput hSilent file hFile
  have hCount : (generate symbols m).count = 0 := by
    refine Nat.eq_zero_of_not_pos fun hPositive => ?_
    exact hSilent _ (warning_mem_generate hInput hPositive d) rfl rfl
  rw [hCount, Nat.le_zero] at hTotal
  exact total_eq_zero hTotal _ (List.mem_map_of_mem hFile)

/-- Symbols in which a class carries the function `run` of the root package. -/
def runSymbols (holder : String) : SymbolSource :=
  { SymbolSource.layered [] with
    callables := fun _ _ => [.function
      { id := ⟨.inPackage ⟨""⟩, "run"⟩, returnType := .unit
        staticHolder := some (.inPackage "" holder) }] }

/-- A class with a function that calls `run` and then does something else. -/
def runModule (rest : List Statement) : SourceModule :=
  let id : ClassId := .inPackage "app" "Box"
  let run : Call :=
    { callee := ⟨.inPackage ⟨""⟩, "run"⟩, dispatchReceiver := none, extensionReceiver := none
      arguments := [], typeArguments := [], type := .unit }
  let go : FunctionDecl :=
    { id := id.member "go", returnType := .unit, body := some (.evaluate (.call run) :: rest) }
  { name := "main"
    files :=
      [{ name := "main.kt", package := ⟨"app"⟩
         declarations := [.ofClass { id, declarations := [.function go] }] }] }

/-- A session without a standard library. -/
def bareSession : Session := { config := { noStandardLibrary := true } }

theorem runModule_counted :
    ((generate (runSymbols "Tools") (runModule [.evaluate (.unsupported "LABEL")])).count = 1 ∧
      total ((generate (runSymbols "Tools")
        (runModule [.evaluate (.unsupported "LABEL")])).value.map (·.code.markers)) ≤ 1) ∧
    (bareSession.generate (runModule []) .empty).1.diagnostics.entries = [] ∧
      ∀ file ∈ (generate (bareSession.generatorInput (runModule [])).1
        (bareSession.generatorInput (runModule [])).2).value, file.code.markers = 0 := by
  have hTools : (runSymbols "Tools").HoldersUnmarked := by
    intro package name callable hCallable holder hHolder
    obtain rfl := List.mem_singleton.mp hCallable
    obtain rfl := Option.some.inj hHolder
    decide +kernel
  have hBare : (bareSession.generatorInput (runModule [])).1.HoldersUnmarked :=
    fun _ _ => List.forall_mem_nil _
  have hCount : (generate (runSymbols "Tools")
      (runModule [.evaluate (.unsupported "LABEL")])).count = 1 := by decide +kernel
  have hSilent : (bareSession.generate (runModule []) .empty).1.diagnostics.entries = [] := by
    decide +kernel
  refine ⟨⟨hCount, ?_⟩, hSilent, ?_⟩
  · rw [← hCount]
    exact (markers_counted (by decide +kernel) hTools).1
  · refine (markers_counted (by decide +kernel) hBare).2 bareSession (runModule [])
      .empty rfl ?_
    rw [hSilent]
    exact List.forall_mem_nil _

/-- A class that is written like a marker is written without being counted. -/
theorem runModule_uncounted :
    AllPlain (runModule []).strings ∧
      (generate (runSymbols "/* UNSUPPORTED: X") (runModule [])).count = 0 ∧
      total ((generate (runSymbols "/* UNSUPPORTED: X") (runModule [])).value.map
        (·.code.markers)) = 1 := by
  decide +kernel

end KotlinBackend
