import KotlinBackend.Data.Except
import KotlinBackend.Program.Decoding
import KotlinBackend.Program.Encoding
import KotlinBackend.Program.Node
import KotlinBackend.Proofs.Document.Trimmed
import KotlinBackend.Proofs.Identifier

/-!
# The documents of expressions

The format of programs, and the documents of types, constants, expressions and statements. A program
is portable if its identifiers have a text that can be read and none of its constants is a real
number; what becomes of the digits of a real number is not looked at here.
-/

namespace KotlinBackend

open Json (Grammar Reads ReadsOption decodeChoice_bind decodeMembers_bind decodeNamed_wordFor
  decodeOption decodeString_bind forall₂_reads ofOption reads_list reads_name reads_of_within
  reads_optional reads_plain reads_record reads_record_of_all reads_variant_map
  reads_variant_record reads_zero variant)

inductive NodeKind where
  | module
  | file
  | declaration
  | classDecl
  | function
  | constructor
  | property
  | field
  | annotationUse
  | typeParameter
  | valueParameter
  | delegation
  | body
  | statement
  | expression
  | call
  | branch
  | type
  | typeArgument

instance : Grammar NodeKind where
  shape
    | .module => .record [.must "name" .plain, .list "files" (.node .file)]
    | .file => .record [.must "name" .plain, .word "package" "",
        .list "declarations" (.node .declaration)]
    | .declaration => .choice [("Class", .node .classDecl), ("Function", .node .function),
        ("Constructor", .node .constructor), ("Property", .node .property),
        ("Field", .node .field)]
    | .classDecl => .record [.must "id" .plain, .word "kind" "Class", .word "modality" "Final",
        .word "visibility" "Public", .flag "is_local", .flag "is_value", .flag "is_expect",
        .flag "is_external", .flag "is_companion",
        .list "type_parameters" (.node .typeParameter), .list "supertypes" (.node .type),
        .list "annotations" (.node .annotationUse), .list "enum_entries" .plain,
        .list "declarations" (.node .declaration), .word "origin" "Defined"]
    | .function => .record [.must "id" .plain, .list "type_parameters" (.node .typeParameter),
        .optional "extension_receiver" (.node .valueParameter),
        .list "value_parameters" (.node .valueParameter), .must "return_type" (.node .type),
        .optional "body" (.node .body), .flag "is_static", .word "visibility" "Public",
        .word "modality" "Final", .flag "is_expect", .flag "is_external", .flag "is_operator",
        .list "annotations" (.node .annotationUse), .word "origin" "Defined"]
    | .constructor => .record [.must "class" .plain,
        .list "value_parameters" (.node .valueParameter),
        .optional "delegation" (.node .delegation), .optional "body" (.node .body),
        .flag "is_primary", .word "visibility" "Public", .word "origin" "Defined"]
    | .property => .record [.must "id" .plain, .must "type" (.node .type), .flag "is_var",
        .flag "is_const", .flag "is_static", .optional "getter" (.node .body),
        .optional "setter" (.node .body), .optional "initializer" (.node .expression),
        .word "visibility" "Public", .word "modality" "Final", .flag "is_expect",
        .word "origin" "Defined"]
    | .field => .record [.must "name" .plain, .must "type" (.node .type), .flag "is_static",
        .flag "is_final", .optional "initializer" (.node .expression),
        .word "visibility" "Public", .word "origin" "Defined"]
    | .annotationUse => .record [.must "class" .plain, .list "arguments" .plain]
    | .typeParameter => .record [.must "name" .plain, .word "variance" "Invariant",
        .list "bounds" (.node .type)]
    | .valueParameter => .record [.must "name" .plain, .must "type" (.node .type),
        .optional "default_value" (.node .expression), .flag "is_vararg"]
    | .delegation => .record [.must "kind" .plain,
        .list "arguments" (.optional (.node .expression))]
    | .body => .record [.list "statements" (.node .statement)]
    | .statement => .choice [("Expression", .node .expression),
        ("Variable", .record [.must "name" .plain, .must "type" (.node .type),
          .optional "initializer" (.node .expression), .flag "is_var"]),
        ("SetValue", .record [.must "name" .plain, .must "value" (.node .expression)]),
        ("SetField", .record [.optional "receiver" (.node .expression), .must "field" .plain,
          .must "value" (.node .expression)]),
        ("Return", .optional (.node .expression)),
        ("If", .record [.must "condition" (.node .expression),
          .list "then_branch" (.node .statement), .list "else_branch" (.node .statement)]),
        ("While", .record [.must "condition" (.node .expression),
          .list "body" (.node .statement)]),
        ("Throw", .node .expression)]
    | .expression => .choice [("Const", .plain),
        ("GetValue", .record [.must "name" .plain, .must "type" (.node .type)]),
        ("This", .record [.must "type" (.node .type)]),
        ("GetField", .record [.optional "receiver" (.node .expression), .must "field" .plain,
          .must "type" (.node .type)]),
        ("GetObject", .record [.must "class" .plain]), ("Call", .node .call),
        ("ConstructorCall", .record [.must "class" .plain, .list "type_arguments" (.node .type),
          .list "arguments" (.optional (.node .expression))]),
        ("StringConcatenation", .list (.node .expression)),
        ("TypeOperator", .record [.must "operator" .plain, .must "operand" (.node .expression),
          .must "type" (.node .type)]),
        ("When", .record [.must "branches" (.list (.node .branch)), .must "type" (.node .type)]),
        ("Block", .record [.must "statements" (.list (.node .statement)),
          .must "type" (.node .type)]),
        ("Unsupported", .record [.must "kind" .plain])]
    | .call => .record [.must "callee" .plain, .optional "dispatch_receiver" (.node .expression),
        .optional "extension_receiver" (.node .expression),
        .list "arguments" (.optional (.node .expression)), .list "type_arguments" (.node .type),
        .must "type" (.node .type)]
    | .branch => .record [.must "condition" (.node .expression), .must "result" (.node .expression)]
    | .type => .choice [("Class", .record [.must "id" .plain,
          .list "arguments" (.node .typeArgument), .flag "nullable"]),
        ("TypeParameter", .record [.must "name" .plain, .flag "nullable"])]
    | .typeArgument => .choice [("Invariant", .node .type), ("Out", .node .type),
        ("In", .node .type)]

def Constant.IsReal : Constant → Prop
  | .float _ | .double _ => True
  | _ => False

/-- A node whose document is exact. -/
def Node.Portable : Node → Prop
  | .classRef id => ∃ text, ClassId.parse text = .ok id
  | .callable id => ∃ text, CallableId.parse text = .ok id
  | .expression (.constant value) => ¬ value.IsReal
  | _ => True

def PortableNodes (nodes : List Node) : Prop := ∀ node ∈ nodes, node.Portable

section Lists

variable {node : Node} {nodes nodes' : List Node}

@[simp] theorem portable_nil : PortableNodes [] := List.forall_mem_nil _

@[simp] theorem portable_cons :
    PortableNodes (node :: nodes) ↔ node.Portable ∧ PortableNodes nodes := List.forall_mem_cons

@[simp] theorem portable_append :
    PortableNodes (nodes ++ nodes') ↔ PortableNodes nodes ∧ PortableNodes nodes' :=
  List.forall_mem_append

@[simp] theorem portable_flatMap {α : Type} {items : List α} {f : α → List Node} :
    PortableNodes (items.flatMap f) ↔ ∀ a ∈ items, PortableNodes (f a) :=
  List.forall_mem_flatMap

end Lists

theorem ClassId.decode_toJson {id : ClassId} (h : Node.Portable (.classRef id)) :
    ClassId.decode id.toJson = .ok id := by
  obtain ⟨text, hParse⟩ := h
  obtain ⟨-, rfl⟩ := ClassId.parse_eq_ok_iff.mp hParse
  simp only [ClassId.decode, ClassId.toJson, decodeString_bind, hParse]

theorem CallableId.decode_toJson {id : CallableId} (h : Node.Portable (.callable id)) :
    CallableId.decode id.toJson = .ok id := by
  obtain ⟨text, hParse⟩ := h
  obtain ⟨-, rfl⟩ := CallableId.parse_eq_ok_iff.mp hParse
  simp only [CallableId.decode, CallableId.toJson, decodeString_bind, hParse]

theorem Variance.decode_word (v : Variance) : Variance.decode (.string v.word) = .ok v :=
  decodeNamed_wordFor (by decide) (by cases v <;> decide)

theorem TypeOperator.decode_word (o : TypeOperator) :
    TypeOperator.decode (.string o.word) = .ok o :=
  decodeNamed_wordFor (by decide) (by cases o <;> decide)

mutual

theorem SourceType.reads_within (t : SourceType) (h : PortableNodes (t.classIds.map .classRef))
    (fuel : Nat) :
    Reads fuel (.node NodeKind.type) (SourceType.decodeWithin fuel) t.toJson t := by
  cases fuel with
  | zero => exact reads_zero
  | succ fuel =>
    cases t with
    | applied id arguments nullable =>
      simp only [SourceType.classIds, List.map_cons, portable_cons] at h
      refine reads_variant_record rfl rfl rfl (by decide) fun members hMembers => ?_
      simp only [SourceType.decodeWithin, decodeChoice_bind, Json.Choice.data, decodeMembers_bind]
      refine hMembers.required (reads_plain (ClassId.decode_toJson h.1)) fun hMembers => ?_
      refine hMembers.listed (TypeArgument.list_reads_within arguments h.2 fuel) fun hMembers => ?_
      exact hMembers.flag fun _ => rfl
    | parameter name nullable =>
      refine reads_variant_record rfl rfl rfl (by decide) fun members hMembers => ?_
      simp only [SourceType.decodeWithin, decodeChoice_bind, Json.Choice.data, decodeMembers_bind]
      refine hMembers.required (reads_plain rfl) fun hMembers => ?_
      exact hMembers.flag fun _ => rfl

theorem TypeArgument.reads_within (argument : TypeArgument)
    (h : PortableNodes (argument.classIds.map .classRef)) (fuel : Nat) :
    Reads fuel (.node NodeKind.typeArgument) (TypeArgument.decodeWithin fuel) argument.toJson
      argument := by
  cases fuel with
  | zero => exact reads_zero
  | succ fuel =>
    cases argument with
    | star => exact reads_name rfl rfl
    | projected variance type =>
      refine reads_variant_map (TypeArgument.projected variance) rfl ?_ ?_
        (type.reads_within h fuel)
      · cases variance <;> rfl
      · intro payload
        cases variance <;> rfl

theorem TypeArgument.list_reads_within (arguments : List TypeArgument)
    (h : PortableNodes ((TypeArgument.listClassIds arguments).map .classRef)) (fuel : Nat) :
    List.Forall₂ (Reads fuel (.node NodeKind.typeArgument) (TypeArgument.decodeWithin fuel))
      (TypeArgument.toJsonList arguments) arguments := by
  cases arguments with
  | nil => exact .nil
  | cons argument rest =>
    simp only [TypeArgument.listClassIds, List.map_append, portable_append] at h
    exact .cons (argument.reads_within h.1 fuel) (TypeArgument.list_reads_within rest h.2 fuel)

end

theorem SourceType.reads {t : SourceType} (h : PortableNodes t.nodes) (bound : Nat) :
    Reads bound (.node NodeKind.type) SourceType.decode t.toJson t := by
  simp only [SourceType.nodes, portable_cons] at h
  exact reads_of_within (t.reads_within h.2)

theorem SourceType.list_reads {types : List SourceType}
    (h : PortableNodes (SourceType.listNodes types)) (bound : Nat) :
    List.Forall₂ (Reads bound (.node NodeKind.type) SourceType.decode)
      (types.map SourceType.toJson) types :=
  forall₂_reads fun t ht => SourceType.reads (portable_flatMap.mp h t ht) bound

theorem decodeSigned_ofInt {bits : Nat} {n : Int} (hLeast : -(Nat.pow 2 (bits - 1) : Int) ≤ n)
    (hMost : n < (Nat.pow 2 (bits - 1) : Int)) : decodeSigned bits (Json.ofInt n) = .ok n := by
  rw [decodeSigned]
  exact if_pos ⟨hLeast, by omega⟩

theorem decodeUnsigned_ofNat {bits n : Nat} (h : n < Nat.pow 2 bits) :
    decodeUnsigned bits (Json.ofNat n) = .ok (n : Int) := by
  rw [decodeUnsigned]
  exact if_pos ⟨by omega, by omega⟩

theorem decodeCharacter_toString (c : Char) : decodeCharacter (.string c.toString) = .ok c := by
  have hList : c.toString.toList = [c] := by simp [Char.toString]
  simp only [decodeCharacter, decodeString_bind, hList]

theorem Constant.decode_toJson {value : Constant} (h : ¬ value.IsReal) :
    Constant.decode value.toJson = .ok value := by
  cases value with
  | null => rfl
  | boolean b => rfl
  | char c =>
    change Constant.char <$> decodeCharacter (.string c.toString) = _
    exact map_eq_ok (decodeCharacter_toString c) rfl
  | byte n =>
    change (Constant.byte ∘ Int8.ofInt) <$> decodeSigned 8 (Json.ofInt n.toInt) = _
    exact map_eq_ok (decodeSigned_ofInt n.le_toInt n.toInt_lt)
      (congrArg Constant.byte n.ofInt_toInt)
  | short n =>
    change (Constant.short ∘ Int16.ofInt) <$> decodeSigned 16 (Json.ofInt n.toInt) = _
    exact map_eq_ok (decodeSigned_ofInt n.le_toInt n.toInt_lt)
      (congrArg Constant.short n.ofInt_toInt)
  | int n =>
    change (Constant.int ∘ Int32.ofInt) <$> decodeSigned 32 (Json.ofInt n.toInt) = _
    exact map_eq_ok (decodeSigned_ofInt n.le_toInt n.toInt_lt)
      (congrArg Constant.int n.ofInt_toInt)
  | long n =>
    change (Constant.long ∘ Int64.ofInt) <$> decodeSigned 64 (Json.ofInt n.toInt) = _
    exact map_eq_ok (decodeSigned_ofInt n.le_toInt n.toInt_lt)
      (congrArg Constant.long n.ofInt_toInt)
  | float x => exact absurd trivial h
  | double x => exact absurd trivial h
  | uint n =>
    change (Constant.uint ∘ UInt32.ofNat ∘ Int.toNat) <$>
      decodeUnsigned 32 (Json.ofNat n.toNat) = _
    exact map_eq_ok (decodeUnsigned_ofNat n.toNat_lt) (congrArg Constant.uint n.ofNat_toNat)
  | ulong n =>
    change (Constant.ulong ∘ UInt64.ofNat ∘ Int.toNat) <$>
      decodeUnsigned 64 (Json.ofNat n.toNat) = _
    exact map_eq_ok (decodeUnsigned_ofNat n.toNat_lt) (congrArg Constant.ulong n.ofNat_toNat)
  | string s => rfl

theorem Expression.decodeWithin_null (fuel : Nat) :
    ∃ e, Expression.decodeWithin fuel .null = .error e := by
  cases fuel <;> exact ⟨_, rfl⟩

mutual

theorem Expression.reads_within (e : Expression) (h : PortableNodes e.nodes) (fuel : Nat) :
    Reads fuel (.node NodeKind.expression) (Expression.decodeWithin fuel) e.toJson e := by
  cases fuel with
  | zero => exact reads_zero
  | succ fuel =>
    cases e with
    | constant value =>
      simp only [Expression.nodes, portable_cons] at h
      exact reads_variant_map Expression.constant rfl rfl (fun _ => rfl)
        (reads_plain (Constant.decode_toJson h.1))
    | readValue name type =>
      simp only [Expression.nodes, portable_cons] at h
      refine reads_variant_record rfl rfl rfl (by decide) fun members hMembers => ?_
      simp only [Expression.decodeWithin, decodeChoice_bind, Json.Choice.data, decodeMembers_bind]
      refine hMembers.required (reads_plain rfl) fun hMembers => ?_
      exact hMembers.required (SourceType.reads h.2 fuel) fun _ => rfl
    | self type =>
      simp only [Expression.nodes, portable_cons] at h
      refine reads_variant_record rfl rfl rfl (by decide) fun members hMembers => ?_
      simp only [Expression.decodeWithin, decodeChoice_bind, Json.Choice.data, decodeMembers_bind]
      exact hMembers.required (SourceType.reads h.2 fuel) fun _ => rfl
    | readField receiver field type =>
      simp only [Expression.nodes, portable_cons, portable_append] at h
      refine reads_variant_record rfl rfl rfl (by decide) fun members hMembers => ?_
      simp only [Expression.decodeWithin, decodeChoice_bind, Json.Choice.data, decodeMembers_bind]
      refine hMembers.optional (Expression.option_reads_within receiver h.2.1 fuel)
        (Expression.decodeWithin_null fuel) fun hMembers => ?_
      refine hMembers.required (reads_plain rfl) fun hMembers => ?_
      exact hMembers.required (SourceType.reads h.2.2 fuel) fun _ => rfl
    | object id =>
      simp only [Expression.nodes, portable_cons] at h
      refine reads_variant_record rfl rfl rfl (by decide) fun members hMembers => ?_
      simp only [Expression.decodeWithin, decodeChoice_bind, Json.Choice.data, decodeMembers_bind]
      exact hMembers.required (reads_plain (ClassId.decode_toJson h.2.1)) fun _ => rfl
    | call c =>
      simp only [Expression.nodes, portable_cons] at h
      exact reads_variant_map Expression.call rfl rfl (fun _ => rfl) (c.reads_within h.2 fuel)
    | construct id typeArguments arguments =>
      simp only [Expression.nodes, portable_cons, portable_append] at h
      refine reads_variant_record rfl rfl rfl (by decide) fun members hMembers => ?_
      simp only [Expression.decodeWithin, decodeChoice_bind, Json.Choice.data, decodeMembers_bind]
      refine hMembers.required (reads_plain (ClassId.decode_toJson h.2.1)) fun hMembers => ?_
      refine hMembers.listed (SourceType.list_reads h.2.2.1 fuel) fun hMembers => ?_
      exact hMembers.listed (Expression.arguments_read_within arguments h.2.2.2 fuel)
        fun _ => rfl
    | concatenation parts =>
      simp only [Expression.nodes, portable_cons] at h
      exact reads_variant_map Expression.concatenation rfl rfl (fun _ => rfl)
        (reads_list (Expression.list_reads_within parts h.2 fuel))
    | typeOperation operator operand type =>
      simp only [Expression.nodes, portable_cons, portable_append] at h
      refine reads_variant_record rfl rfl rfl (by decide) fun members hMembers => ?_
      simp only [Expression.decodeWithin, decodeChoice_bind, Json.Choice.data, decodeMembers_bind]
      refine hMembers.required (reads_plain operator.decode_word) fun hMembers => ?_
      refine hMembers.required (operand.reads_within h.2.1 fuel) fun hMembers => ?_
      exact hMembers.required (SourceType.reads h.2.2 fuel) fun _ => rfl
    | when branches type =>
      simp only [Expression.nodes, portable_cons, portable_append] at h
      refine reads_variant_record rfl rfl rfl (by decide) fun members hMembers => ?_
      simp only [Expression.decodeWithin, decodeChoice_bind, Json.Choice.data, decodeMembers_bind]
      refine hMembers.required (reads_list (Branch.list_reads_within branches h.2.1 fuel))
        fun hMembers => ?_
      exact hMembers.required (SourceType.reads h.2.2 fuel) fun _ => rfl
    | block statements type =>
      simp only [Expression.nodes, portable_cons, portable_append] at h
      refine reads_variant_record rfl rfl rfl (by decide) fun members hMembers => ?_
      simp only [Expression.decodeWithin, decodeChoice_bind, Json.Choice.data, decodeMembers_bind]
      refine hMembers.required (reads_list (Statement.list_reads_within statements h.2.1 fuel))
        fun hMembers => ?_
      exact hMembers.required (SourceType.reads h.2.2 fuel) fun _ => rfl
    | unsupported kind =>
      refine reads_variant_record rfl rfl rfl (by decide) fun members hMembers => ?_
      simp only [Expression.decodeWithin, decodeChoice_bind, Json.Choice.data, decodeMembers_bind]
      exact hMembers.required (reads_plain rfl) fun _ => rfl

theorem Call.reads_within (c : Call) (h : PortableNodes c.nodes) (fuel : Nat) :
    Reads fuel (.node NodeKind.call) (Call.decodeWithin fuel) c.toJson c := by
  obtain ⟨callee, dispatchReceiver, extensionReceiver, arguments, typeArguments, type⟩ := c
  simp only [Call.nodes, CallableId.nodes, portable_append, portable_cons] at h
  obtain ⟨⟨⟨⟨⟨⟨hCallee, _⟩, hDispatch⟩, hExtension⟩, hArguments⟩, hTypeArguments⟩, hType⟩ := h
  cases fuel with
  | zero => exact reads_zero
  | succ fuel =>
    refine reads_record rfl rfl (by decide) fun members hMembers => ?_
    simp only [Call.decodeWithin, decodeMembers_bind]
    refine hMembers.required (reads_plain (CallableId.decode_toJson hCallee)) fun hMembers => ?_
    refine hMembers.optional (Expression.option_reads_within dispatchReceiver hDispatch fuel)
      (Expression.decodeWithin_null fuel) fun hMembers => ?_
    refine hMembers.optional (Expression.option_reads_within extensionReceiver hExtension fuel)
      (Expression.decodeWithin_null fuel) fun hMembers => ?_
    refine hMembers.listed (Expression.arguments_read_within arguments hArguments fuel)
      fun hMembers => ?_
    refine hMembers.listed (SourceType.list_reads hTypeArguments fuel) fun hMembers => ?_
    exact hMembers.required (SourceType.reads hType fuel) fun _ => rfl

theorem Branch.reads_within (b : Branch) (h : PortableNodes b.nodes) (fuel : Nat) :
    Reads fuel (.node NodeKind.branch) (Branch.decodeWithin fuel) b.toJson b := by
  obtain ⟨condition, result⟩ := b
  simp only [Branch.nodes, portable_append] at h
  cases fuel with
  | zero => exact reads_zero
  | succ fuel =>
    refine reads_record rfl rfl (by decide) fun members hMembers => ?_
    simp only [Branch.decodeWithin, decodeMembers_bind]
    refine hMembers.required (condition.reads_within h.1 fuel) fun hMembers => ?_
    exact hMembers.required (result.reads_within h.2 fuel) fun _ => rfl

theorem Statement.reads_within (s : Statement) (h : PortableNodes s.nodes) (fuel : Nat) :
    Reads fuel (.node NodeKind.statement) (Statement.decodeWithin fuel) s.toJson s := by
  cases fuel with
  | zero => exact reads_zero
  | succ fuel =>
    cases s with
    | evaluate expression =>
      simp only [Statement.nodes, portable_cons] at h
      exact reads_variant_map Statement.evaluate rfl rfl (fun _ => rfl)
        (expression.reads_within h.2 fuel)
    | declare name type initializer isVariable =>
      simp only [Statement.nodes, portable_cons, portable_append] at h
      refine reads_variant_record rfl rfl rfl (by decide) fun members hMembers => ?_
      simp only [Statement.decodeWithin, decodeChoice_bind, Json.Choice.data, decodeMembers_bind]
      refine hMembers.required (reads_plain rfl) fun hMembers => ?_
      refine hMembers.required (SourceType.reads h.2.1 fuel) fun hMembers => ?_
      refine hMembers.optional (Expression.option_reads_within initializer h.2.2 fuel)
        (Expression.decodeWithin_null fuel) fun hMembers => ?_
      exact hMembers.flag fun _ => rfl
    | assign name value =>
      simp only [Statement.nodes, portable_cons] at h
      refine reads_variant_record rfl rfl rfl (by decide) fun members hMembers => ?_
      simp only [Statement.decodeWithin, decodeChoice_bind, Json.Choice.data, decodeMembers_bind]
      refine hMembers.required (reads_plain rfl) fun hMembers => ?_
      exact hMembers.required (value.reads_within h.2 fuel) fun _ => rfl
    | assignField receiver field value =>
      simp only [Statement.nodes, portable_cons, portable_append] at h
      refine reads_variant_record rfl rfl rfl (by decide) fun members hMembers => ?_
      simp only [Statement.decodeWithin, decodeChoice_bind, Json.Choice.data, decodeMembers_bind]
      refine hMembers.optional (Expression.option_reads_within receiver h.2.1 fuel)
        (Expression.decodeWithin_null fuel) fun hMembers => ?_
      refine hMembers.required (reads_plain rfl) fun hMembers => ?_
      exact hMembers.required (value.reads_within h.2.2 fuel) fun _ => rfl
    | returns value =>
      simp only [Statement.nodes, portable_cons] at h
      exact reads_variant_map Statement.returns rfl rfl (fun _ => rfl)
        (reads_optional (Expression.option_reads_within value h.2 fuel)
          (Expression.decodeWithin_null fuel))
    | conditional condition thenBranch elseBranch =>
      simp only [Statement.nodes, portable_cons, portable_append] at h
      refine reads_variant_record rfl rfl rfl (by decide) fun members hMembers => ?_
      simp only [Statement.decodeWithin, decodeChoice_bind, Json.Choice.data, decodeMembers_bind]
      refine hMembers.required (condition.reads_within h.2.1.1 fuel) fun hMembers => ?_
      refine hMembers.listed (Statement.list_reads_within thenBranch h.2.1.2 fuel)
        fun hMembers => ?_
      exact hMembers.listed (Statement.list_reads_within elseBranch h.2.2 fuel) fun _ => rfl
    | loop condition body =>
      simp only [Statement.nodes, portable_cons, portable_append] at h
      refine reads_variant_record rfl rfl rfl (by decide) fun members hMembers => ?_
      simp only [Statement.decodeWithin, decodeChoice_bind, Json.Choice.data, decodeMembers_bind]
      refine hMembers.required (condition.reads_within h.2.1 fuel) fun hMembers => ?_
      exact hMembers.listed (Statement.list_reads_within body h.2.2 fuel) fun _ => rfl
    | throws value =>
      simp only [Statement.nodes, portable_cons] at h
      exact reads_variant_map Statement.throws rfl rfl (fun _ => rfl)
        (value.reads_within h.2 fuel)

theorem Expression.option_reads_within (e : Option Expression)
    (h : PortableNodes (Expression.optionNodes e)) (fuel : Nat) :
    ReadsOption fuel (.node NodeKind.expression) (Expression.decodeWithin fuel)
      (Expression.toJsonOption e) e := by
  cases e with
  | none => exact .none
  | some e => exact .some (e.reads_within h fuel)

theorem Expression.list_reads_within (es : List Expression)
    (h : PortableNodes (Expression.listNodes es)) (fuel : Nat) :
    List.Forall₂ (Reads fuel (.node NodeKind.expression) (Expression.decodeWithin fuel))
      (Expression.toJsonList es) es := by
  cases es with
  | nil => exact .nil
  | cons e rest =>
    simp only [Expression.listNodes, portable_append] at h
    exact .cons (e.reads_within h.1 fuel) (Expression.list_reads_within rest h.2 fuel)

theorem Expression.arguments_read_within (es : List (Option Expression))
    (h : PortableNodes (Expression.argumentNodes es)) (fuel : Nat) :
    List.Forall₂ (Reads fuel (.optional (.node NodeKind.expression))
        (decodeOption (Expression.decodeWithin fuel)))
      (Expression.toJsonArguments es) es := by
  cases es with
  | nil => exact .nil
  | cons e rest =>
    simp only [Expression.argumentNodes, portable_append] at h
    exact .cons
      (reads_optional (Expression.option_reads_within e h.1 fuel)
        (Expression.decodeWithin_null fuel))
      (Expression.arguments_read_within rest h.2 fuel)

theorem Branch.list_reads_within (bs : List Branch) (h : PortableNodes (Branch.listNodes bs))
    (fuel : Nat) :
    List.Forall₂ (Reads fuel (.node NodeKind.branch) (Branch.decodeWithin fuel))
      (Branch.toJsonList bs) bs := by
  cases bs with
  | nil => exact .nil
  | cons b rest =>
    simp only [Branch.listNodes, portable_append] at h
    exact .cons (b.reads_within h.1 fuel) (Branch.list_reads_within rest h.2 fuel)

theorem Statement.list_reads_within (ss : List Statement)
    (h : PortableNodes (Statement.listNodes ss)) (fuel : Nat) :
    List.Forall₂ (Reads fuel (.node NodeKind.statement) (Statement.decodeWithin fuel))
      (Statement.toJsonList ss) ss := by
  cases ss with
  | nil => exact .nil
  | cons s rest =>
    simp only [Statement.listNodes, portable_append] at h
    exact .cons (s.reads_within h.1 fuel) (Statement.list_reads_within rest h.2 fuel)

end

theorem Expression.option_reads {e : Option Expression}
    (h : PortableNodes (Expression.optionNodes e)) (bound : Nat) :
    ReadsOption bound (.node NodeKind.expression) Expression.decode (Expression.toJsonOption e)
      e := by
  cases e with
  | none => exact .none
  | some e => exact .some (reads_of_within (e.reads_within h))

theorem Expression.arguments_read {es : List (Option Expression)}
    (h : PortableNodes (Expression.argumentNodes es)) (bound : Nat) :
    List.Forall₂ (Reads bound (.optional (.node NodeKind.expression))
        (decodeOption Expression.decode))
      (Expression.toJsonArguments es) es := by
  induction es with
  | nil => exact .nil
  | cons e rest ih =>
    simp only [Expression.argumentNodes, portable_append] at h
    exact .cons (reads_optional (Expression.option_reads h.1 bound) ⟨_, rfl⟩) (ih h.2)

theorem Statement.list_reads {ss : List Statement} (h : PortableNodes (Statement.listNodes ss))
    (bound : Nat) :
    List.Forall₂ (Reads bound (.node NodeKind.statement) Statement.decode)
      (Statement.toJsonList ss) ss := by
  induction ss with
  | nil => exact .nil
  | cons s rest ih =>
    simp only [Statement.listNodes, portable_append] at h
    exact .cons (reads_of_within (s.reads_within h.1)) (ih h.2)

end KotlinBackend
