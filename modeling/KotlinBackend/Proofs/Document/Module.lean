import KotlinBackend.Proofs.Document.Program

/-!
# The documents of modules

The documents of declarations, files and modules. The document of a portable module is read as the
module, and so is every form of it in which members are left out that hold their defaults.
-/

namespace KotlinBackend

open Json (Reads ReadsOption Trimmed decodeMembers_bind decodeNamed_wordFor decode_of_reads
  forall₂_reads readsOption reads_of_within reads_plain reads_record reads_record_of_all
  reads_variant_map reads_zero variant)

theorem ClassKind.decode_word (k : ClassKind) : ClassKind.decode (.string k.word) = .ok k :=
  decodeNamed_wordFor (by decide) (by cases k <;> decide)

theorem Modality.decode_word (m : Modality) : Modality.decode (.string m.word) = .ok m :=
  decodeNamed_wordFor (by decide) (by cases m <;> decide)

theorem Visibility.decode_word (v : Visibility) : Visibility.decode (.string v.word) = .ok v :=
  decodeNamed_wordFor (by decide) (by cases v <;> decide)

theorem Origin.decode_word (o : Origin) : Origin.decode (.string o.word) = .ok o :=
  decodeNamed_wordFor (by decide) (by cases o <;> decide)

theorem DelegationTarget.decode_word (t : DelegationTarget) :
    DelegationTarget.decode (.string t.word) = .ok t :=
  decodeNamed_wordFor (by decide) (by cases t <;> decide)

theorem body_reads {body : Option (List Statement)} (h : PortableNodes (bodyNodes body))
    (bound : Nat) :
    ReadsOption bound (.node NodeKind.body) decodeBody (Json.ofOption bodyToJson body) body := by
  cases body with
  | none => exact .none
  | some statements =>
    simp only [bodyNodes, portable_cons] at h
    refine .some (reads_record_of_all rfl rfl (by decide) fun bound members hMembers => ?_)
    simp only [decodeBody, decodeMembers_bind]
    exact (bind_pure _).symm.trans (hMembers.listed (Statement.list_reads h.2 bound) fun _ => rfl)

theorem AnnotationUse.reads {a : AnnotationUse} (h : PortableNodes a.nodes)
    (hArguments : ∀ value ∈ a.arguments, ¬ value.IsReal) (bound : Nat) :
    Reads bound (.node NodeKind.annotationUse) AnnotationUse.decode a.toJson a := by
  simp only [AnnotationUse.nodes, portable_cons] at h
  refine reads_record_of_all rfl rfl (by decide) fun bound members hMembers => ?_
  simp only [AnnotationUse.decode, decodeMembers_bind]
  refine hMembers.required (reads_plain (ClassId.decode_toJson h.1)) fun hMembers => ?_
  refine hMembers.listed (forall₂_reads fun value hValue => ?_) fun _ => rfl
  exact reads_plain (Constant.decode_toJson (hArguments value hValue))

theorem TypeParameter.reads {p : TypeParameter} (h : PortableNodes p.nodes) (bound : Nat) :
    Reads bound (.node NodeKind.typeParameter) TypeParameter.decode p.toJson p := by
  refine reads_record_of_all rfl rfl (by decide) fun bound members hMembers => ?_
  simp only [TypeParameter.decode, decodeMembers_bind]
  refine hMembers.required (reads_plain rfl) fun hMembers => ?_
  refine hMembers.word p.variance.decode_word rfl fun hMembers => ?_
  exact hMembers.listed (SourceType.list_reads h bound) fun _ => rfl

theorem ValueParameter.reads {p : ValueParameter} (h : PortableNodes p.nodes) (bound : Nat) :
    Reads bound (.node NodeKind.valueParameter) ValueParameter.decode p.toJson p := by
  simp only [ValueParameter.nodes, portable_cons, portable_append] at h
  refine reads_record_of_all rfl rfl (by decide) fun bound members hMembers => ?_
  simp only [ValueParameter.decode, decodeMembers_bind]
  refine hMembers.required (reads_plain rfl) fun hMembers => ?_
  refine hMembers.required (SourceType.reads h.2.1 bound) fun hMembers => ?_
  refine hMembers.optional (Expression.option_reads h.2.2 bound) ⟨_, rfl⟩ fun hMembers => ?_
  exact hMembers.flag fun _ => rfl

theorem Delegation.reads {d : Delegation} (h : PortableNodes (Expression.argumentNodes d.arguments))
    (bound : Nat) : Reads bound (.node NodeKind.delegation) Delegation.decode d.toJson d := by
  refine reads_record_of_all rfl rfl (by decide) fun bound members hMembers => ?_
  simp only [Delegation.decode, decodeMembers_bind]
  refine hMembers.required (reads_plain d.target.decode_word) fun hMembers => ?_
  exact hMembers.listed (Expression.arguments_read h bound) fun _ => rfl

/-- The annotations have no real numbers among their arguments. -/
def PortableAnnotations (annotations : List AnnotationUse) : Prop :=
  ∀ a ∈ annotations, ∀ value ∈ a.arguments, ¬ value.IsReal

theorem AnnotationUse.list_reads {annotations : List AnnotationUse}
    (h : ∀ a ∈ annotations, PortableNodes a.nodes) (hAnnotations : PortableAnnotations annotations)
    (bound : Nat) :
    List.Forall₂ (Reads bound (.node NodeKind.annotationUse) AnnotationUse.decode)
      (annotations.map AnnotationUse.toJson) annotations :=
  forall₂_reads fun a ha => AnnotationUse.reads (h a ha) (hAnnotations a ha) bound

theorem FunctionDecl.reads {d : FunctionDecl} (h : PortableNodes d.nodes)
    (hAnnotations : PortableAnnotations d.annotations) (bound : Nat) :
    Reads bound (.node NodeKind.function) FunctionDecl.decode d.toJson d := by
  simp only [FunctionDecl.nodes, CallableId.nodes, portable_append, portable_cons,
    portable_flatMap] at h
  obtain ⟨⟨⟨⟨⟨⟨⟨hId, _⟩, hTypeParameters⟩, hReceiver⟩, hParameters⟩, hReturn⟩, hUses⟩, hBody⟩ := h
  refine reads_record_of_all rfl rfl (by decide) fun bound members hMembers => ?_
  simp only [FunctionDecl.decode, decodeMembers_bind]
  refine hMembers.required (reads_plain (CallableId.decode_toJson hId)) fun hMembers => ?_
  refine hMembers.listed
    (forall₂_reads fun p hp => TypeParameter.reads (hTypeParameters p hp) bound)
    fun hMembers => ?_
  refine hMembers.optional
    (readsOption fun p hp => ValueParameter.reads (hReceiver p (Option.mem_toList.mpr hp)) bound)
    ⟨_, rfl⟩ fun hMembers => ?_
  refine hMembers.listed (forall₂_reads fun p hp => ValueParameter.reads (hParameters p hp) bound)
    fun hMembers => ?_
  refine hMembers.required (SourceType.reads hReturn bound) fun hMembers => ?_
  refine hMembers.optional (body_reads hBody bound) ⟨_, rfl⟩ fun hMembers => ?_
  refine hMembers.flag fun hMembers => ?_
  refine hMembers.word d.visibility.decode_word rfl fun hMembers => ?_
  refine hMembers.word d.modality.decode_word rfl fun hMembers => ?_
  iterate 3 refine hMembers.flag fun hMembers => ?_
  refine hMembers.listed (AnnotationUse.list_reads hUses hAnnotations bound) fun hMembers => ?_
  exact hMembers.word d.origin.decode_word rfl fun _ => rfl

theorem ConstructorDecl.reads {d : ConstructorDecl} (h : PortableNodes d.nodes) (bound : Nat) :
    Reads bound (.node NodeKind.constructor) ConstructorDecl.decode d.toJson d := by
  simp only [ConstructorDecl.nodes, portable_append, portable_cons, portable_flatMap] at h
  obtain ⟨hId, ⟨hParameters, hDelegation⟩, hBody⟩ := h
  refine reads_record_of_all rfl rfl (by decide) fun bound members hMembers => ?_
  simp only [ConstructorDecl.decode, decodeMembers_bind]
  refine hMembers.required (reads_plain (ClassId.decode_toJson hId)) fun hMembers => ?_
  refine hMembers.listed (forall₂_reads fun p hp => ValueParameter.reads (hParameters p hp) bound)
    fun hMembers => ?_
  refine hMembers.optional
    (readsOption fun c hc => Delegation.reads (hDelegation c (Option.mem_toList.mpr hc)) bound)
    ⟨_, rfl⟩ fun hMembers => ?_
  refine hMembers.optional (body_reads hBody bound) ⟨_, rfl⟩ fun hMembers => ?_
  refine hMembers.flag fun hMembers => ?_
  refine hMembers.word d.visibility.decode_word rfl fun hMembers => ?_
  exact hMembers.word d.origin.decode_word rfl fun _ => rfl

theorem PropertyDecl.reads {d : PropertyDecl} (h : PortableNodes d.nodes) (bound : Nat) :
    Reads bound (.node NodeKind.property) PropertyDecl.decode d.toJson d := by
  simp only [PropertyDecl.nodes, CallableId.nodes, portable_append, portable_cons] at h
  obtain ⟨⟨⟨⟨⟨hId, _⟩, hType⟩, hGetter⟩, hSetter⟩, hInitializer⟩ := h
  refine reads_record_of_all rfl rfl (by decide) fun bound members hMembers => ?_
  simp only [PropertyDecl.decode, decodeMembers_bind]
  refine hMembers.required (reads_plain (CallableId.decode_toJson hId)) fun hMembers => ?_
  refine hMembers.required (SourceType.reads hType bound) fun hMembers => ?_
  iterate 3 refine hMembers.flag fun hMembers => ?_
  refine hMembers.optional (body_reads hGetter bound) ⟨_, rfl⟩ fun hMembers => ?_
  refine hMembers.optional (body_reads hSetter bound) ⟨_, rfl⟩ fun hMembers => ?_
  refine hMembers.optional (Expression.option_reads hInitializer bound) ⟨_, rfl⟩
    fun hMembers => ?_
  refine hMembers.word d.visibility.decode_word rfl fun hMembers => ?_
  refine hMembers.word d.modality.decode_word rfl fun hMembers => ?_
  refine hMembers.flag fun hMembers => ?_
  exact hMembers.word d.origin.decode_word rfl fun _ => rfl

theorem FieldDecl.reads {d : FieldDecl} (h : PortableNodes d.nodes) (bound : Nat) :
    Reads bound (.node NodeKind.field) FieldDecl.decode d.toJson d := by
  simp only [FieldDecl.nodes, portable_append] at h
  refine reads_record_of_all rfl rfl (by decide) fun bound members hMembers => ?_
  simp only [FieldDecl.decode, decodeMembers_bind]
  refine hMembers.required (reads_plain rfl) fun hMembers => ?_
  refine hMembers.required (SourceType.reads h.1 bound) fun hMembers => ?_
  refine hMembers.flag fun hMembers => ?_
  refine hMembers.flag fun hMembers => ?_
  refine hMembers.optional (Expression.option_reads h.2 bound) ⟨_, rfl⟩ fun hMembers => ?_
  refine hMembers.word d.visibility.decode_word rfl fun hMembers => ?_
  exact hMembers.word d.origin.decode_word rfl fun _ => rfl

mutual

/-- The annotations on a class and on the declarations in it. -/
def ClassDecl.annotationUses : ClassDecl → List AnnotationUse
  | { annotations, declarations, .. } =>
    annotations ++ Declaration.listAnnotationUses declarations

def Declaration.annotationUses : Declaration → List AnnotationUse
  | .ofClass decl => decl.annotationUses
  | .function decl => decl.annotations
  | .constructor _ => []
  | .property _ => []
  | .field _ => []

def Declaration.listAnnotationUses : List Declaration → List AnnotationUse
  | [] => []
  | declaration :: rest => declaration.annotationUses ++ Declaration.listAnnotationUses rest

end

mutual

theorem ClassDecl.reads_within (c : ClassDecl) (h : PortableNodes c.nodes)
    (hAnnotations : PortableAnnotations c.annotationUses) (fuel : Nat) :
    Reads fuel (.node NodeKind.classDecl) (ClassDecl.decodeWithin fuel) c.toJson c := by
  obtain ⟨id, kind, modality, visibility, isLocal, isValue, isExpect, isExternal, isCompanion,
    typeParameters, supertypes, annotations, enumEntries, declarations, origin⟩ := c
  simp only [ClassDecl.nodes, portable_cons, portable_append, portable_flatMap] at h
  obtain ⟨hId, ⟨⟨hTypeParameters, hSupertypes⟩, hUses⟩, hDeclarations⟩ := h
  obtain ⟨hOwn, hInner⟩ := List.forall_mem_append.mp hAnnotations
  cases fuel with
  | zero => exact reads_zero
  | succ fuel =>
    refine reads_record rfl rfl (by decide) fun members hMembers => ?_
    simp only [ClassDecl.decodeWithin, decodeMembers_bind]
    refine hMembers.required (reads_plain (ClassId.decode_toJson hId)) fun hMembers => ?_
    refine hMembers.word kind.decode_word rfl fun hMembers => ?_
    refine hMembers.word modality.decode_word rfl fun hMembers => ?_
    refine hMembers.word visibility.decode_word rfl fun hMembers => ?_
    iterate 5 refine hMembers.flag fun hMembers => ?_
    refine hMembers.listed
      (forall₂_reads fun p hp => TypeParameter.reads (hTypeParameters p hp) fuel)
      fun hMembers => ?_
    refine hMembers.listed (SourceType.list_reads hSupertypes fuel) fun hMembers => ?_
    refine hMembers.listed (AnnotationUse.list_reads hUses hOwn fuel) fun hMembers => ?_
    refine hMembers.listed (forall₂_reads fun _ _ => reads_plain rfl) fun hMembers => ?_
    refine hMembers.listed (Declaration.list_reads_within declarations hDeclarations hInner fuel)
      fun hMembers => ?_
    exact hMembers.word origin.decode_word rfl fun _ => rfl

theorem Declaration.reads_within (d : Declaration) (h : PortableNodes d.nodes)
    (hAnnotations : PortableAnnotations d.annotationUses) (fuel : Nat) :
    Reads fuel (.node NodeKind.declaration) (Declaration.decodeWithin fuel) d.toJson d := by
  cases fuel with
  | zero => exact reads_zero
  | succ fuel =>
    cases d with
    | ofClass decl =>
      simp only [Declaration.nodes, portable_cons] at h
      exact reads_variant_map Declaration.ofClass rfl rfl (fun _ => rfl)
        (decl.reads_within h.2 hAnnotations fuel)
    | function decl =>
      simp only [Declaration.nodes, portable_cons] at h
      exact reads_variant_map Declaration.function rfl rfl (fun _ => rfl)
        (FunctionDecl.reads h.2 hAnnotations fuel)
    | constructor decl =>
      simp only [Declaration.nodes, portable_cons] at h
      exact reads_variant_map Declaration.constructor rfl rfl (fun _ => rfl)
        (ConstructorDecl.reads h.2 fuel)
    | property decl =>
      simp only [Declaration.nodes, portable_cons] at h
      exact reads_variant_map Declaration.property rfl rfl (fun _ => rfl)
        (PropertyDecl.reads h.2 fuel)
    | field decl =>
      simp only [Declaration.nodes, portable_cons] at h
      exact reads_variant_map Declaration.field rfl rfl (fun _ => rfl)
        (FieldDecl.reads h.2 fuel)

theorem Declaration.list_reads_within (ds : List Declaration)
    (h : PortableNodes (Declaration.listNodes ds))
    (hAnnotations : PortableAnnotations (Declaration.listAnnotationUses ds)) (fuel : Nat) :
    List.Forall₂ (Reads fuel (.node NodeKind.declaration) (Declaration.decodeWithin fuel))
      (Declaration.toJsonList ds) ds := by
  cases ds with
  | nil => exact .nil
  | cons d rest =>
    simp only [Declaration.listNodes, portable_append] at h
    obtain ⟨hFirst, hRest⟩ := List.forall_mem_append.mp hAnnotations
    exact .cons (d.reads_within h.1 hFirst fuel)
      (Declaration.list_reads_within rest h.2 hRest fuel)

end

theorem Declaration.list_reads {ds : List Declaration}
    (h : PortableNodes (Declaration.listNodes ds))
    (hAnnotations : PortableAnnotations (Declaration.listAnnotationUses ds)) (bound : Nat) :
    List.Forall₂ (Reads bound (.node NodeKind.declaration) Declaration.decode)
      (Declaration.toJsonList ds) ds := by
  induction ds with
  | nil => exact .nil
  | cons d rest ih =>
    simp only [Declaration.listNodes, portable_append] at h
    obtain ⟨hFirst, hRest⟩ := List.forall_mem_append.mp hAnnotations
    exact .cons (reads_of_within (d.reads_within h.1 hFirst)) (ih h.2 hRest)

/-- All identifiers of a module can be read from their texts, and none of its constants is a real
number. -/
structure SourceModule.Portable (m : SourceModule) : Prop where
  nodes : PortableNodes m.nodes
  annotations : ∀ f ∈ m.files, PortableAnnotations (Declaration.listAnnotationUses f.declarations)

theorem SourceFile.reads {f : SourceFile} (h : PortableNodes f.nodes)
    (hAnnotations : PortableAnnotations (Declaration.listAnnotationUses f.declarations))
    (bound : Nat) : Reads bound (.node NodeKind.file) SourceFile.decode f.toJson f := by
  simp only [SourceFile.nodes, portable_cons] at h
  refine reads_record_of_all rfl rfl (by decide) fun bound members hMembers => ?_
  simp only [SourceFile.decode, decodeMembers_bind]
  refine hMembers.required (reads_plain rfl) fun hMembers => ?_
  refine hMembers.word rfl rfl fun hMembers => ?_
  exact hMembers.listed (Declaration.list_reads h.2 hAnnotations bound) fun _ => rfl

theorem SourceModule.reads {m : SourceModule} (h : m.Portable) (bound : Nat) :
    Reads bound (.node NodeKind.module) SourceModule.decode m.toJson m := by
  refine reads_record_of_all rfl rfl (by decide) fun bound members hMembers => ?_
  simp only [SourceModule.decode, decodeMembers_bind]
  refine hMembers.required (reads_plain rfl) fun hMembers => ?_
  refine hMembers.listed (forall₂_reads fun f hf => ?_) fun _ => rfl
  exact SourceFile.reads (portable_flatMap.mp h.nodes f hf) (h.annotations f hf) bound

theorem module_document_exact {m : SourceModule} (h : m.Portable) :
    SourceModule.decode m.toJson = .ok m ∧
      ∀ value, Trimmed (.node NodeKind.module) m.toJson value →
        SourceModule.decode value = .ok m := by
  constructor
  · exact decode_of_reads (SourceModule.reads h) (.same _ _)
  · intro value hTrimmed
    exact decode_of_reads (SourceModule.reads h) hTrimmed

/-- A function that returns at once, in a file of the root package. All that can be left out of the
document is left out. -/
def shortModule : SourceModule where
  name := "app"
  files := [{
    name := "main.kt"
    declarations := [.function {
      id := ⟨.inPackage .root, "main"⟩
      returnType := .unit
      body := some [.conditional (.boolean true) [] [.returns none]] }] }]

def shortDocument : Json :=
  .object [("name", .string "app"), ("files", .array [.object [("name", .string "main.kt"),
    ("declarations", .array [variant "Function" (.object [("id", .string "#main"),
      ("return_type", variant "Class" (.object [("id", .string "kotlin/Unit")])),
      ("body", .object [("statements", .array [variant "If" (.object [
        ("condition", variant "Const" (variant "Boolean" (.bool true))),
        ("else_branch", .array [variant "Return" .null])])])])])])]])]

theorem portable_shortModule : shortModule.Portable where
  nodes := by
    have hNodes : shortModule.nodes = [.file "main.kt", .declaration "main",
        .callable ⟨.inPackage .root, "main"⟩, .type .unit, .classRef WellKnown.unit, .body 1,
        .statement, .expression (.boolean true), .statement] := rfl
    have hRoot : '/' ∉ QualifiedName.root.text.toList := by decide
    have hMain : Node.Portable (.callable ⟨.inPackage .root, "main"⟩) :=
      ⟨"#main", CallableId.parse_eq_ok_iff.mpr ⟨⟨by decide, by decide, hRoot⟩, rfl⟩⟩
    have hUnit : Node.Portable (.classRef WellKnown.unit) :=
      ⟨"kotlin/Unit",
        ClassId.parse_eq_ok_iff.mpr ⟨⟨by decide, by decide, by decide, by decide⟩, rfl⟩⟩
    rw [hNodes]
    simp only [portable_cons, portable_nil]
    exact ⟨trivial, trivial, hMain, trivial, hUnit, trivial, trivial, id, trivial, trivial⟩
  annotations := by
    intro f hf a ha
    cases List.mem_singleton.mp hf
    cases ha

theorem trimmed_shortDocument :
    Trimmed (.node NodeKind.module) shortModule.toJson shortDocument := by
  refine .node (.record (.kept (.same _ _) (.kept (.list rfl ?_) .nil)))
  intro item item' hItem
  cases List.mem_singleton.mp hItem
  refine .node (.record (.kept (.same _ _) (.dropped rfl (.kept (.list rfl ?_) .nil))))
  intro item item' hItem
  cases List.mem_singleton.mp hItem
  refine .node (.choice rfl (.node (.record (.kept (.same _ _) ?_))))
  iterate 3 refine .dropped rfl ?_
  refine .kept (.node (.choice rfl (.record ?_))) (.kept ?_ ?_)
  · exact .kept (.same _ _) (.dropped rfl (.dropped rfl .nil))
  · refine .optional (by rintro ⟨⟩) (.node (.record (.kept (.list rfl ?_) .nil)))
    intro item item' hItem
    cases List.mem_singleton.mp hItem
    exact .node (.choice rfl (.record (.kept (.same _ _) (.dropped rfl (.kept (.same _ _) .nil)))))
  · iterate 8 refine .dropped rfl ?_
    exact .nil

theorem shortDocument_read :
    SourceModule.decode shortModule.toJson = .ok shortModule ∧
      SourceModule.decode shortDocument = .ok shortModule := by
  obtain ⟨hWhole, hTrimmed⟩ := module_document_exact portable_shortModule
  exact ⟨hWhole, hTrimmed shortDocument trimmed_shortDocument⟩

end KotlinBackend
