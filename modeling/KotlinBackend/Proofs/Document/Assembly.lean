import KotlinBackend.Metadata.Decoding
import KotlinBackend.Metadata.Encoding
import KotlinBackend.Proofs.Document.Trimmed

/-!
# The documents of assemblies

The format of assemblies, and for every record of it that its document is read as the record it was
written from. References to types and types themselves contain others of their kind; their decoders
are bounded by the depth of the document, which a trimmed document does not exceed.
-/

namespace KotlinBackend.Metadata

open Json (Grammar Reads Trimmed decodeMembers_bind decodeNamed_wordFor decode_of_reads
  forall₂_reads readsOption reads_of_within reads_plain reads_record reads_record_of_all reads_zero)

inductive NodeKind where
  | assembly
  | type
  | flags
  | reference
  | genericParameter
  | attribute
  | parameter
  | method
  | constructor
  | field
  | property
  | event

instance : Grammar NodeKind where
  shape
    | .assembly => .record [.must "name" .plain, .list "types" (.node .type)]
    | .type => .record [.must "name" .plain, .word "namespace" "",
        .optional "declaringType" .plain, .optional "baseType" (.node .reference),
        .list "interfaces" (.node .reference), .list "attributes" (.node .attribute),
        .list "constructors" (.node .constructor), .list "methods" (.node .method),
        .list "fields" (.node .field), .list "properties" (.node .property),
        .list "events" (.node .event), .list "nestedTypes" (.node .type),
        .list "typeParameters" (.node .genericParameter),
        ⟨"flags", .node .flags, some (TypeFlags.toJson {})⟩]
    | .flags => .record (TypeFlags.names.map .flag)
    | .reference => .record [.optional "namespace" .plain, .must "name" .plain,
        .word "kind" "class", .optional "typeParameter" (.node .genericParameter),
        .list "typeParameters" (.node .reference)]
    | .genericParameter => .record [.must "name" .plain, .flag "isCovariant",
        .flag "isContravariant", .flag "ownedByType", .flag "ownedByMethod"]
    | .attribute => .record [.must "typeName" .plain, .list "arguments" .plain]
    | .parameter => .record [.optional "name" .plain, .must "type" (.node .reference),
        .list "attributes" (.node .attribute), .flag "hasDefaultValue", .flag "isVariadic"]
    | .method => .record [.must "name" .plain, .must "returnType" (.node .reference),
        .list "attributes" (.node .attribute), .list "typeParameters" (.node .genericParameter),
        .list "parameters" (.node .parameter), .flag "isStatic", .word "visibility" "public",
        .flag "isVirtual", .flag "isFinal", .flag "isAbstract"]
    | .constructor => .record [.list "attributes" (.node .attribute),
        .list "parameters" (.node .parameter), .flag "isStatic", .word "visibility" "public"]
    | .field => .record [.must "name" .plain, .must "fieldType" (.node .reference),
        .flag "isStatic", .flag "isInitOnly", .flag "isLiteral", .word "visibility" "public"]
    | .property => .record [.must "name" .plain, .must "propertyType" (.node .reference),
        .flag "canRead", .flag "canWrite", .flag "isStatic"]
    | .event => .record [.must "name" .plain, .must "handlerType" (.node .reference),
        .flag "isStatic"]

theorem RefKind.decode_word (k : RefKind) :
    RefKind.decode (.string (wordFor RefKind.words k)) = .ok k :=
  decodeNamed_wordFor (by decide) (by cases k <;> decide)

theorem MemberAccess.decode_word (a : MemberAccess) :
    MemberAccess.decode (.string (wordFor MemberAccess.words a)) = .ok a :=
  decodeNamed_wordFor (by decide) (by cases a <;> decide)

theorem GenericParameter.reads (p : GenericParameter) (bound : Nat) :
    Reads bound (.node NodeKind.genericParameter) GenericParameter.decode p.toJson p := by
  refine reads_record_of_all rfl rfl (by decide) fun bound members hMembers => ?_
  simp only [GenericParameter.decode, decodeMembers_bind]
  refine hMembers.required (reads_plain rfl) fun hMembers => ?_
  refine hMembers.flag fun hMembers => ?_
  refine hMembers.flag fun hMembers => ?_
  refine hMembers.flag fun hMembers => ?_
  exact hMembers.flag fun _ => rfl

mutual

theorem TypeRef.reads_within (r : TypeRef) (fuel : Nat) :
    Reads fuel (.node NodeKind.reference) (TypeRef.decodeWithin fuel) r.toJson r := by
  obtain ⟨nameSpace, name, kind, parameter, arguments⟩ := r
  cases fuel with
  | zero => exact reads_zero
  | succ fuel =>
    refine reads_record rfl rfl (by decide) fun members hMembers => ?_
    simp only [TypeRef.decodeWithin, decodeMembers_bind]
    refine hMembers.optional (readsOption fun _ _ => reads_plain rfl) ⟨_, rfl⟩
      fun hMembers => ?_
    refine hMembers.required (reads_plain rfl) fun hMembers => ?_
    refine hMembers.word kind.decode_word rfl fun hMembers => ?_
    refine hMembers.optional (readsOption fun p _ => p.reads fuel) ⟨_, rfl⟩
      fun hMembers => ?_
    exact hMembers.listed (TypeRef.list_reads_within arguments fuel) fun _ => rfl

theorem TypeRef.list_reads_within (refs : List TypeRef) (fuel : Nat) :
    List.Forall₂ (Reads fuel (.node NodeKind.reference) (TypeRef.decodeWithin fuel))
      (TypeRef.toJsonList refs) refs := by
  cases refs with
  | nil => exact .nil
  | cons ref rest => exact .cons (ref.reads_within fuel) (TypeRef.list_reads_within rest fuel)

end

theorem TypeRef.reads (r : TypeRef) (bound : Nat) :
    Reads bound (.node NodeKind.reference) TypeRef.decode r.toJson r :=
  reads_of_within r.reads_within

theorem Attribute.reads (a : Attribute) (bound : Nat) :
    Reads bound (.node NodeKind.attribute) Attribute.decode a.toJson a := by
  refine reads_record_of_all rfl rfl (by decide) fun bound members hMembers => ?_
  simp only [Attribute.decode, decodeMembers_bind]
  refine hMembers.required (reads_plain rfl) fun hMembers => ?_
  exact hMembers.listed (forall₂_reads fun _ _ => reads_plain rfl) fun _ => rfl

theorem Parameter.reads (p : Parameter) (bound : Nat) :
    Reads bound (.node NodeKind.parameter) Parameter.decode p.toJson p := by
  refine reads_record_of_all rfl rfl (by decide) fun bound members hMembers => ?_
  simp only [Parameter.decode, decodeMembers_bind]
  refine hMembers.optional (readsOption fun _ _ => reads_plain rfl) ⟨_, rfl⟩
    fun hMembers => ?_
  refine hMembers.required (p.type.reads bound) fun hMembers => ?_
  refine hMembers.listed (forall₂_reads fun a _ => a.reads bound) fun hMembers => ?_
  refine hMembers.flag fun hMembers => ?_
  exact hMembers.flag fun _ => rfl

theorem Method.reads (m : Method) (bound : Nat) :
    Reads bound (.node NodeKind.method) Method.decode m.toJson m := by
  refine reads_record_of_all rfl rfl (by decide) fun bound members hMembers => ?_
  simp only [Method.decode, decodeMembers_bind]
  refine hMembers.required (reads_plain rfl) fun hMembers => ?_
  refine hMembers.required (m.returnType.reads bound) fun hMembers => ?_
  refine hMembers.listed (forall₂_reads fun a _ => a.reads bound) fun hMembers => ?_
  refine hMembers.listed (forall₂_reads fun p _ => p.reads bound) fun hMembers => ?_
  refine hMembers.listed (forall₂_reads fun p _ => p.reads bound) fun hMembers => ?_
  refine hMembers.flag fun hMembers => ?_
  refine hMembers.word m.access.decode_word rfl fun hMembers => ?_
  refine hMembers.flag fun hMembers => ?_
  refine hMembers.flag fun hMembers => ?_
  exact hMembers.flag fun _ => rfl

theorem Constructor.reads (c : Constructor) (bound : Nat) :
    Reads bound (.node NodeKind.constructor) Constructor.decode c.toJson c := by
  refine reads_record_of_all rfl rfl (by decide) fun bound members hMembers => ?_
  simp only [Constructor.decode, decodeMembers_bind]
  refine hMembers.listed (forall₂_reads fun a _ => a.reads bound) fun hMembers => ?_
  refine hMembers.listed (forall₂_reads fun p _ => p.reads bound) fun hMembers => ?_
  refine hMembers.flag fun hMembers => ?_
  exact hMembers.word c.access.decode_word rfl fun _ => rfl

theorem Field.reads (f : Field) (bound : Nat) :
    Reads bound (.node NodeKind.field) Field.decode f.toJson f := by
  refine reads_record_of_all rfl rfl (by decide) fun bound members hMembers => ?_
  simp only [Field.decode, decodeMembers_bind]
  refine hMembers.required (reads_plain rfl) fun hMembers => ?_
  refine hMembers.required (f.type.reads bound) fun hMembers => ?_
  refine hMembers.flag fun hMembers => ?_
  refine hMembers.flag fun hMembers => ?_
  refine hMembers.flag fun hMembers => ?_
  exact hMembers.word f.access.decode_word rfl fun _ => rfl

theorem Property.reads (p : Property) (bound : Nat) :
    Reads bound (.node NodeKind.property) Property.decode p.toJson p := by
  refine reads_record_of_all rfl rfl (by decide) fun bound members hMembers => ?_
  simp only [Property.decode, decodeMembers_bind]
  refine hMembers.required (reads_plain rfl) fun hMembers => ?_
  refine hMembers.required (p.type.reads bound) fun hMembers => ?_
  refine hMembers.flag fun hMembers => ?_
  refine hMembers.flag fun hMembers => ?_
  exact hMembers.flag fun _ => rfl

theorem Event.reads (e : Event) (bound : Nat) :
    Reads bound (.node NodeKind.event) Event.decode e.toJson e := by
  refine reads_record_of_all rfl rfl (by decide) fun bound members hMembers => ?_
  simp only [Event.decode, decodeMembers_bind]
  refine hMembers.required (reads_plain rfl) fun hMembers => ?_
  refine hMembers.required (e.handlerType.reads bound) fun hMembers => ?_
  exact hMembers.flag fun _ => rfl

theorem TypeFlags.reads (f : TypeFlags) (bound : Nat) :
    Reads bound (.node NodeKind.flags) TypeFlags.decode f.toJson f := by
  refine reads_record_of_all rfl rfl (by decide) fun bound members hMembers => ?_
  simp only [TypeFlags.decode, decodeMembers_bind]
  iterate 11 refine hMembers.flag fun hMembers => ?_
  exact hMembers.flag fun _ => rfl

theorem TypeFlags.eq_of_toJson_eq {f g : TypeFlags} (h : f.toJson = g.toJson) : f = g := by
  have hf : TypeFlags.decode f.toJson = .ok f := decode_of_reads f.reads (.same _ _)
  have hg : TypeFlags.decode g.toJson = .ok g := decode_of_reads g.reads (.same _ _)
  rw [h, hg] at hf
  exact (Except.ok.inj hf).symm

mutual

theorem TypeDef.reads_within (t : TypeDef) (fuel : Nat) :
    Reads fuel (.node NodeKind.type) (TypeDef.decodeWithin fuel) t.toJson t := by
  obtain ⟨name, nameSpace, declaringType, baseType, interfaces, attributes, constructors, methods,
    fields, properties, events, nestedTypes, typeParameters, flags⟩ := t
  cases fuel with
  | zero => exact reads_zero
  | succ fuel =>
    refine reads_record rfl rfl (by decide) fun members hMembers => ?_
    simp only [TypeDef.decodeWithin, decodeMembers_bind]
    refine hMembers.required (reads_plain rfl) fun hMembers => ?_
    refine hMembers.word rfl rfl fun hMembers => ?_
    refine hMembers.optional (readsOption fun _ _ => reads_plain rfl) ⟨_, rfl⟩
      fun hMembers => ?_
    refine hMembers.optional (readsOption fun r _ => r.reads fuel) ⟨_, rfl⟩
      fun hMembers => ?_
    refine hMembers.listed (forall₂_reads fun r _ => r.reads fuel) fun hMembers => ?_
    refine hMembers.listed (forall₂_reads fun a _ => a.reads fuel) fun hMembers => ?_
    refine hMembers.listed (forall₂_reads fun c _ => c.reads fuel) fun hMembers => ?_
    refine hMembers.listed (forall₂_reads fun m _ => m.reads fuel) fun hMembers => ?_
    refine hMembers.listed (forall₂_reads fun f _ => f.reads fuel) fun hMembers => ?_
    refine hMembers.listed (forall₂_reads fun p _ => p.reads fuel) fun hMembers => ?_
    refine hMembers.listed (forall₂_reads fun e _ => e.reads fuel) fun hMembers => ?_
    refine hMembers.listed (TypeDef.list_reads_within nestedTypes fuel) fun hMembers => ?_
    refine hMembers.listed (forall₂_reads fun p _ => p.reads fuel) fun hMembers => ?_
    exact hMembers.defaulted (flags.reads fuel) (fun _ => TypeFlags.eq_of_toJson_eq) fun _ => rfl

theorem TypeDef.list_reads_within (types : List TypeDef) (fuel : Nat) :
    List.Forall₂ (Reads fuel (.node NodeKind.type) (TypeDef.decodeWithin fuel))
      (TypeDef.toJsonList types) types := by
  cases types with
  | nil => exact .nil
  | cons type rest => exact .cons (type.reads_within fuel) (TypeDef.list_reads_within rest fuel)

end

theorem TypeDef.reads (t : TypeDef) (bound : Nat) :
    Reads bound (.node NodeKind.type) TypeDef.decode t.toJson t :=
  reads_of_within t.reads_within

theorem TypeDef.toJsonList_eq_map (types : List TypeDef) :
    TypeDef.toJsonList types = types.map TypeDef.toJson := by
  induction types with
  | nil => rfl
  | cons type rest ih => rw [TypeDef.toJsonList, ih, List.map_cons]

theorem Assembly.reads (a : Assembly) (bound : Nat) :
    Reads bound (.node NodeKind.assembly) Assembly.decode a.toJson a := by
  rw [Assembly.toJson, TypeDef.toJsonList_eq_map]
  refine reads_record_of_all rfl rfl (by decide) fun bound members hMembers => ?_
  simp only [Assembly.decode, decodeMembers_bind]
  refine hMembers.required (reads_plain rfl) fun hMembers => ?_
  exact hMembers.listed (forall₂_reads fun t _ => t.reads bound) fun _ => rfl

theorem assembly_document_exact (a : Assembly) :
    Assembly.decode a.toJson = .ok a ∧
      ∀ value, Trimmed (.node NodeKind.assembly) a.toJson value →
        Assembly.decode value = .ok a := by
  constructor
  · exact decode_of_reads a.reads (.same _ _)
  · intro value hTrimmed
    exact decode_of_reads a.reads hTrimmed

end KotlinBackend.Metadata
