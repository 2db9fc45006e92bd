import KotlinBackend.Proofs.Symbol.Contribution

/-!
# Where the members of a foreign type are placed

An object and an enumeration list all their methods, a static holder gives its static methods to the
package and lists them as well, and any other class shares its methods, fields and properties with a
companion. Methods are never lost that way. Constants are, in a class that has nothing else that
belongs to a companion.
-/

namespace KotlinBackend

open Metadata (Assembly TypeDef Method Field Property)

/-- Something that is neither a class nor a link to a companion. -/
inductive Insertion.IsMember : Insertion → Prop
  | function (f : FunctionSymbol) : IsMember (.function f)
  | constructor (c : ConstructorSymbol) : IsMember (.constructor c)
  | property (p : PropertySymbol) : IsMember (.property p)

theorem Insertion.IsMember.symbol? {i : Insertion} (h : i.IsMember) : i.symbol? = none := by
  cases h <;> rfl

theorem Insertion.IsMember.companionOf? {i : Insertion} (h : i.IsMember) (id : ClassId) :
    i.companionOf? id = none := by
  cases h <;> rfl

def companionSymbol (origin : SymbolOrigin) (id : ClassId) : ClassSymbol :=
  { id, kind := .object, isCompanion := true, origin }

namespace Metadata.TypeDef

variable (known : ClassId → Bool) (origin : SymbolOrigin) (t : TypeDef)

/-- The insertions for a companion, where the shape of a type allows it. -/
def companionPart : List Insertion :=
  t.companionClass?.toList.flatMap fun id =>
    [.ofClass (companionSymbol origin id).node, .companion t.classId id]

theorem insertions_eq : t.insertions known origin =
    .ofClass (t.classSymbol known origin).node ::
      (t.companionPart origin ++ t.ownMembers known) := by
  rw [insertions, memberInsertions_eq, companionPart, companionClass?, companionInsertions]
  cases t.companion? <;> split <;> rfl

theorem dataMembers_isMember (owner : ClassId) (wanted : Bool → Bool) :
    ∀ i ∈ t.dataMembers known owner wanted, i.IsMember := by
  rw [dataMembers, List.forall_mem_append, List.forall_mem_map, List.forall_mem_map]
  exact ⟨fun _ _ => .property _, fun _ _ => .property _⟩

theorem ownMembers_isMember : ∀ i ∈ t.ownMembers known, i.IsMember := by
  unfold ownMembers
  split
  · rw [objectMembers, List.forall_mem_append, List.forall_mem_map]
    exact ⟨fun _ _ => .function _, t.dataMembers_isMember known _ _⟩
  · simp only [holderMembers, List.forall_mem_append, List.forall_mem_map]
    exact ⟨⟨fun _ _ => .function _, fun _ _ => .property _⟩, fun _ _ => .property _⟩
  · simp only [List.forall_mem_append]
    refine ⟨⟨⟨?_, ?_⟩, t.dataMembers_isMember known _ _⟩, ?_⟩
    · unfold constructorInsertions
      split
      · exact List.forall_mem_nil _
      · exact List.forall_mem_map.mpr fun _ _ => .constructor _
    · intro i hi
      obtain ⟨m, _, hOwner⟩ := List.mem_filterMap.mp hi
      obtain ⟨owner, _, rfl⟩ := Option.map_eq_some_iff.mp hOwner
      exact .function _
    · intro i hi
      obtain ⟨id, _, hi⟩ := List.mem_flatMap.mp hi
      exact t.dataMembers_isMember known id _ i hi

theorem filterMap_insertions {β : Type} {f : Insertion → Option β}
    (hClass : ∀ c, f (.ofClass c) = none) (hLink : ∀ owner id, f (.companion owner id) = none) :
    (t.insertions known origin).filterMap f = (t.ownMembers known).filterMap f := by
  rw [insertions_eq, List.filterMap_cons, hClass, companionPart]
  cases t.companionClass? <;> simp [hClass, hLink]

theorem classes_insertions : SymbolLog.classes (t.insertions known origin) =
    t.classSymbol known origin :: t.companionClass?.toList.map (companionSymbol origin) := by
  have hOwn : (t.ownMembers known).filterMap Insertion.symbol? = [] := by
    rw [List.filterMap_eq_nil_iff]
    exact fun i hi => (t.ownMembers_isMember known i hi).symbol?
  rw [insertions_eq, SymbolLog.classes, List.filterMap_cons, List.filterMap_append, hOwn,
    List.append_nil, companionPart]
  cases t.companionClass? <;> rfl

theorem links_insertions (id : ClassId) :
    (t.insertions known origin).filterMap (Insertion.companionOf? id) =
      if t.classId = id then t.companionClass?.toList else [] := by
  have hOwn : (t.ownMembers known).filterMap (Insertion.companionOf? id) = [] := by
    rw [List.filterMap_eq_nil_iff]
    exact fun i hi => (t.ownMembers_isMember known i hi).companionOf? id
  rw [insertions_eq, List.filterMap_cons, List.filterMap_append, hOwn, List.append_nil,
    companionPart]
  cases t.companionClass? with
  | none => simp [Insertion.companionOf?]
  | some other =>
    by_cases hId : t.classId = id <;>
      simp [List.filterMap_cons, Insertion.companionOf?, hId]

theorem classIds_insertions :
    SymbolLog.classIds (t.insertions known origin) = t.classId :: t.companionClass?.toList := by
  rw [SymbolLog.classIds_eq, classes_insertions]
  cases t.companionClass? <;> rfl

end Metadata.TypeDef

/-- The class of an identifier has its companion, and the companion is one. -/
def SymbolGraph.HasCompanion (g : SymbolGraph) (id : ClassId) : Prop :=
  (∃ c, g.class? id = some c ∧ c.companion = some id.companion) ∧
    ∃ c, g.class? id.companion = some c ∧ c.isCompanion = true

theorem ClassId.companion_ne (id : ClassId) : id ≠ id.companion := by
  intro h
  have hLength := congrArg (·.names.length) h
  simp [ClassId.companion, ClassId.nested] at hLength

namespace SymbolGraph.Shows

variable {known : ClassId → Bool} {origin : SymbolOrigin} {g : SymbolGraph} {t : TypeDef}
  (h : g.Shows (t.insertions known origin))

include h

/-- The class of an accepted type is its own, with the companion that the type brings along. -/
theorem class?_self : g.class? t.classId =
    some { t.classSymbol known origin with companion := t.companionClass? } := by
  have hFirst : (t.classSymbol known origin).id = t.classId := rfl
  rw [h.class? t.classId (by simp [TypeDef.classIds_insertions]), TypeDef.classes_insertions,
    List.find?_cons_of_pos (by simp [hFirst]), Option.map_some, SymbolLog.current, hFirst,
    TypeDef.links_insertions, if_pos rfl]
  cases t.companionClass? <;> rfl

theorem class?_companion {id : ClassId} (hId : t.companionClass? = some id) :
    g.class? id = some (companionSymbol origin id) := by
  have hOther : t.classId ≠ id := TypeDef.eq_companion hId ▸ t.classId.companion_ne
  have hFirst : (t.classSymbol known origin).id = t.classId := rfl
  have hSecond : (companionSymbol origin id).id = id := rfl
  rw [h.class? id (by simp [TypeDef.classIds_insertions, hId]), TypeDef.classes_insertions, hId,
    List.find?_cons_of_neg (by simpa [hFirst] using hOther), Option.toList_some,
    List.map_singleton, List.find?_cons_of_pos (by simp [hSecond]), Option.map_some,
    SymbolLog.current, hSecond, TypeDef.links_insertions, if_neg hOther]
  rfl

theorem hasCompanion_iff : g.HasCompanion t.classId ↔ t.companionClass?.isSome = true := by
  constructor
  · rintro ⟨⟨c, hClass, hCompanion⟩, _⟩
    rw [h.class?_self, Option.some.injEq] at hClass
    subst hClass
    simp only at hCompanion
    rw [hCompanion]
    rfl
  · intro hSome
    obtain ⟨id, hId⟩ := Option.isSome_iff_exists.mp hSome
    obtain rfl := TypeDef.eq_companion hId
    exact ⟨⟨_, h.class?_self, hId⟩, ⟨_, h.class?_companion hId, rfl⟩⟩

theorem functionsIn_self :
    g.functionsIn t.classId = (t.ownMembers known).filterMap (Insertion.functionOf? t.classId) := by
  rw [h.functions t.classId (by simp [TypeDef.classIds_insertions])]
  exact t.filterMap_insertions known origin (fun _ => rfl) fun _ _ => rfl

theorem functionsIn_companion {id : ClassId} (hId : t.companionClass? = some id) :
    g.functionsIn id = (t.ownMembers known).filterMap (Insertion.functionOf? id) := by
  rw [h.functions id (by simp [TypeDef.classIds_insertions, hId])]
  exact t.filterMap_insertions known origin (fun _ => rfl) fun _ _ => rfl

theorem propertiesIn_self : g.propertiesIn t.classId =
    (t.ownMembers known).filterMap (Insertion.propertyOf? t.classId) := by
  rw [h.properties t.classId (by simp [TypeDef.classIds_insertions])]
  exact t.filterMap_insertions known origin (fun _ => rfl) fun _ _ => rfl

theorem propertiesIn_companion {id : ClassId} (hId : t.companionClass? = some id) :
    g.propertiesIn id = (t.ownMembers known).filterMap (Insertion.propertyOf? id) := by
  rw [h.properties id (by simp [TypeDef.classIds_insertions, hId])]
  exact t.filterMap_insertions known origin (fun _ => rfl) fun _ _ => rfl

end SymbolGraph.Shows

theorem filterMap_if {α β : Type} (p : α → Prop) [DecidablePred p] (f : α → β) (items : List α) :
    items.filterMap (fun a => if p a then some (f a) else none) = (items.filter p).map f := by
  induction items with
  | nil => rfl
  | cons a rest ih => by_cases h : p a <;> simp [h, ih]

@[simp] theorem ClassId.holder?_member (id : ClassId) (name : String) (carrier : Option ClassId) :
    (id.member name).holder? carrier = some id := rfl

@[simp] theorem CallableId.holder?_topLevel (package name : String) (carrier : Option ClassId) :
    (CallableId.topLevel package name).holder? carrier = carrier := rfl

@[simp] theorem Metadata.Method.holder?_symbol (known : ClassId → Bool) (m : Method)
    (id : CallableId) (carrier : Option ClassId) :
    (m.symbol known id carrier).id.holder? (m.symbol known id carrier).staticHolder =
      id.holder? carrier := rfl

namespace Metadata.TypeDef

variable (known : ClassId → Bool) (t : TypeDef)

theorem functions_dataMembers (owner id : ClassId) (wanted : Bool → Bool) :
    (t.dataMembers known owner wanted).filterMap (Insertion.functionOf? id) = [] := by
  simp [dataMembers, List.filterMap_map, Function.comp_def, Insertion.functionOf?]

theorem functions_constructorInsertions (id : ClassId) :
    (t.constructorInsertions known).filterMap (Insertion.functionOf? id) = [] := by
  unfold constructorInsertions
  split
  · rfl
  · simp [List.filterMap_map, Function.comp_def, Insertion.functionOf?]

theorem functions_methodInsertions (id : ClassId) :
    (t.methodInsertions known).filterMap (Insertion.functionOf? id) =
      (t.visibleMethods.filter fun m => t.methodOwner? m = some id).map fun m =>
        { m.symbol known (id.member m.name) none with
          isStatic := m.isStatic && t.companion?.isNone } := by
  rw [methodInsertions, List.filterMap_filterMap, ← filterMap_if]
  refine List.filterMap_congr fun m _ => ?_
  cases t.methodOwner? m with
  | none => simp
  | some owner => by_cases hOwner : owner = id <;> simp [hOwner, Insertion.functionOf?]

variable {t}

theorem companion?_of_enum (h : t.flags.isEnum = true) : t.companion? = none := by
  simp [companion?, h]

theorem methodOwner?_of_enum (h : t.flags.isEnum = true) (m : Method) :
    t.methodOwner? m = some t.classId := by
  simp [methodOwner?, companion?_of_enum h, h]

theorem methodOwner?_eq_self_iff (hEnum : t.flags.isEnum = false) {m : Method} :
    t.methodOwner? m = some t.classId ↔ m.isStatic = false := by
  cases hStatic : m.isStatic with
  | false => simp [methodOwner?, hStatic]
  | true =>
    have hOther : t.companion? ≠ some t.classId := fun hSelf =>
      t.classId.companion_ne (eq_companion_of_companion? hSelf)
    simpa [methodOwner?, hStatic, hEnum] using hOther

theorem methodOwner?_eq_companion_iff {id : ClassId} (hId : t.companion? = some id)
    {m : Method} : t.methodOwner? m = some id ↔ m.isStatic = true := by
  cases hStatic : m.isStatic with
  | true => simp [methodOwner?, hStatic, hId]
  | false =>
    have hOther : t.classId ≠ id := eq_companion_of_companion? hId ▸ t.classId.companion_ne
    simpa [methodOwner?, hStatic] using hOther

theorem companion?_of_static {m : Method} (hm : m ∈ t.visibleMethods) (hStatic : m.isStatic = true)
    (hEnum : t.flags.isEnum = false) : t.companion? = some t.classId.companion := by
  have hAny : t.visibleMethods.any (·.isStatic) = true := List.any_eq_true.mpr ⟨m, hm, hStatic⟩
  simp [companion?, hasStaticMembers, hAny, hEnum]

theorem functions_object (hShape : t.shape = .object) :
    (t.ownMembers known).filterMap (Insertion.functionOf? t.classId) =
      t.visibleMethods.map fun m => m.symbol known (t.classId.member m.name) none := by
  simp [ownMembers, hShape, objectMembers, functions_dataMembers, List.filterMap_map,
    Function.comp_def, Insertion.functionOf?]

theorem functions_holder (hShape : t.shape = .staticHolder) :
    (t.ownMembers known).filterMap (Insertion.functionOf? t.classId) =
      (t.visibleMethods.filter (·.isStatic)).map fun m =>
        m.symbol known (.topLevel t.nameSpace m.name) (some t.classId) := by
  simp [ownMembers, hShape, holderMembers, List.filterMap_map, Function.comp_def,
    Insertion.functionOf?]

theorem functions_plain (hShape : t.shape = .plainClass) (id : ClassId) :
    (t.ownMembers known).filterMap (Insertion.functionOf? id) =
      (t.visibleMethods.filter fun m => t.methodOwner? m = some id).map fun m =>
        { m.symbol known (id.member m.name) none with
          isStatic := m.isStatic && t.companion?.isNone } := by
  have hStatic : (t.companion?.toList.flatMap fun id => t.dataMembers known id fun b => b).filterMap
      (Insertion.functionOf? id) = [] := by
    cases t.companion? <;> simp [functions_dataMembers]
  simp only [ownMembers, hShape, List.filterMap_append, functions_constructorInsertions,
    functions_methodInsertions, functions_dataMembers, hStatic, List.nil_append, List.append_nil]

end Metadata.TypeDef

/-- Where the graph lists the visible methods of a type: each in one place, in their order. -/
structure MethodsPlaced (known : ClassId → Bool) (t : TypeDef) (g : SymbolGraph) : Prop where
  /-- An object and an enumeration list all of them. -/
  all : t.shape = .object ∨ t.shape = .plainClass ∧ t.flags.isEnum = true →
    g.functionsIn t.classId =
      t.visibleMethods.map fun m => m.symbol known (t.classId.member m.name) none
  /-- A static holder lists the static ones, and its package has them. -/
  holder : t.shape = .staticHolder →
    g.functionsIn t.classId = (t.visibleMethods.filter (·.isStatic)).map (fun m =>
        m.symbol known (.topLevel t.nameSpace m.name) (some t.classId)) ∧
      ∀ m ∈ t.visibleMethods, m.isStatic = true →
        .function (m.symbol known (.topLevel t.nameSpace m.name) (some t.classId)) ∈
          g.callables ⟨t.nameSpace⟩ m.name
  /-- Any other class lists those that are not static. -/
  own : t.shape = .plainClass → t.flags.isEnum = false →
    g.functionsIn t.classId = (t.visibleMethods.filter (!·.isStatic)).map fun m =>
      m.symbol known (t.classId.member m.name) none
  /-- The static ones of any other class are in its companion. -/
  companion : t.shape = .plainClass → t.flags.isEnum = false →
    (∃ m ∈ t.visibleMethods, m.isStatic = true) →
      g.HasCompanion t.classId ∧
        g.functionsIn t.classId.companion = (t.visibleMethods.filter (·.isStatic)).map fun m =>
          { m.symbol known (t.classId.companion.member m.name) none with isStatic := false }

namespace SymbolGraph.Shows

variable {known : ClassId → Bool} {origin : SymbolOrigin} {g : SymbolGraph} {t : TypeDef}
  (h : g.Shows (t.insertions known origin))

include h

theorem functions_enum (hShape : t.shape = .plainClass) (hEnum : t.flags.isEnum = true) :
    g.functionsIn t.classId =
      t.visibleMethods.map fun m => m.symbol known (t.classId.member m.name) none := by
  have hAll : (t.visibleMethods.filter fun m => t.methodOwner? m = some t.classId) =
      t.visibleMethods :=
    List.filter_eq_self.mpr fun m _ => decide_eq_true (TypeDef.methodOwner?_of_enum hEnum m)
  rw [h.functionsIn_self, TypeDef.functions_plain known hShape, hAll,
    TypeDef.companion?_of_enum hEnum]
  refine List.map_congr_left fun m _ => ?_
  rw [Option.isNone_none, Bool.and_true]
  rfl

theorem functions_own (hShape : t.shape = .plainClass) (hEnum : t.flags.isEnum = false) :
    g.functionsIn t.classId = (t.visibleMethods.filter (!·.isStatic)).map fun m =>
      m.symbol known (t.classId.member m.name) none := by
  have hFilter : (t.visibleMethods.filter fun m => t.methodOwner? m = some t.classId) =
      t.visibleMethods.filter (!·.isStatic) := by
    refine List.filter_congr fun m _ => ?_
    simp [TypeDef.methodOwner?_eq_self_iff hEnum]
  rw [h.functionsIn_self, TypeDef.functions_plain known hShape, hFilter]
  refine List.map_congr_left fun m hm => ?_
  have hStatic : m.isStatic = false := by simpa using (List.mem_filter.mp hm).2
  have hSame : (m.symbol known (t.classId.member m.name) none).isStatic = false := hStatic
  rw [hStatic, Bool.false_and, ← hSame]

theorem functions_companion (hShape : t.shape = .plainClass)
    (hId : t.companion? = some t.classId.companion) :
    g.functionsIn t.classId.companion = (t.visibleMethods.filter (·.isStatic)).map fun m =>
      { m.symbol known (t.classId.companion.member m.name) none with isStatic := false } := by
  have hClass : t.companionClass? = some t.classId.companion := by
    rw [TypeDef.companionClass?, if_pos hShape, hId]
  have hFilter : (t.visibleMethods.filter fun m => t.methodOwner? m = some t.classId.companion) =
      t.visibleMethods.filter (·.isStatic) := by
    refine List.filter_congr fun m _ => ?_
    simp [TypeDef.methodOwner?_eq_companion_iff hId]
  rw [h.functionsIn_companion hClass, TypeDef.functions_plain known hShape, hFilter, hId]
  simp

theorem callables_holder (hShape : t.shape = .staticHolder) {m : Method}
    (hm : m ∈ t.visibleMethods) (hStatic : m.isStatic = true) :
    .function (m.symbol known (.topLevel t.nameSpace m.name) (some t.classId)) ∈
      g.callables ⟨t.nameSpace⟩ m.name := by
  let f := m.symbol known (.topLevel t.nameSpace m.name) (some t.classId)
  have hMember : .function f ∈ t.ownMembers known := by
    simp only [TypeDef.ownMembers, hShape, TypeDef.holderMembers, List.mem_append]
    refine .inl (.inl (List.mem_map.mpr ⟨m, ?_, rfl⟩))
    exact List.mem_filter.mpr ⟨hm, hStatic⟩
  refine h.callables (.function f) ?_ (.function f) rfl
  rw [TypeDef.insertions_eq]
  exact List.mem_cons_of_mem _ (List.mem_append_right _ hMember)

end SymbolGraph.Shows

/-- The visible methods of every type that is accepted are listed where they belong, and there are
no others. -/
theorem methods_placed {assemblies : List Assembly} {assembly : String} {t : TypeDef}
    (h : Accepts assemblies assembly t) :
    MethodsPlaced (foreignClasses assemblies).contains t (synthesize assemblies).graph where
  all hShape := by
    rcases hShape with hShape | ⟨hShape, hEnum⟩
    · rw [h.shows.functionsIn_self, TypeDef.functions_object _ hShape]
    · exact h.shows.functions_enum hShape hEnum
  holder hShape := by
    refine ⟨?_, fun m hm hStatic => h.shows.callables_holder hShape hm hStatic⟩
    rw [h.shows.functionsIn_self, TypeDef.functions_holder _ hShape]
  own := h.shows.functions_own
  companion hShape hEnum hStatic := by
    obtain ⟨m, hm, hStatic⟩ := hStatic
    have hId := TypeDef.companion?_of_static hm hStatic hEnum
    refine ⟨h.shows.hasCompanion_iff.mpr ?_, h.shows.functions_companion hShape hId⟩
    rw [TypeDef.companionClass?, if_pos hShape, hId]
    rfl

/-- A class with an accessor, a method and a static method. -/
def rectangleType : TypeDef :=
  { libraryType "Rectangle" with
    methods :=
      [{ name := "get_area", returnType := { name := "T" } },
        { name := "scale", returnType := { name := "T" } },
        { name := "unit", returnType := { name := "T" }, isStatic := true }]
    properties := [{ name := "area", type := { name := "T" }, canRead := true }] }

def geometryType : TypeDef :=
  { libraryType "Geometry" with
    attributes := [{ typeName := fileFacadeAttribute }]
    methods :=
      [{ name := "reset", returnType := { name := "T" } },
        { name := "overlap", returnType := { name := "T" }, isStatic := true }] }

def alone (t : TypeDef) : List Assembly := [⟨"Lib", [t]⟩]

theorem methods_placed_alone :
    let rectangle := (synthesize (alone rectangleType)).graph
    let geometry := (synthesize (alone geometryType)).graph
    Accepts (alone rectangleType) "Lib" rectangleType ∧
      (rectangle.functionsIn rectangleType.classId).map (·.id.name) = ["scale"] ∧
      rectangle.HasCompanion rectangleType.classId ∧
      (rectangle.functionsIn rectangleType.classId.companion).map (·.id.name) = ["unit"] ∧
      Accepts (alone geometryType) "Lib" geometryType ∧
      (geometry.functionsIn geometryType.classId).map (·.id.name) = ["overlap"] := by
  intro rectangle geometry
  have hRectangle : Accepts (alone rectangleType) "Lib" rectangleType :=
    ⟨_, List.mem_cons_self, by decide +kernel⟩
  have hGeometry : Accepts (alone geometryType) "Lib" geometryType :=
    ⟨_, List.mem_cons_self, by decide +kernel⟩
  have hClass := methods_placed hRectangle
  have hShape : rectangleType.shape = .plainClass := by decide +kernel
  have hStatic : rectangleType.visibleMethods.any (·.isStatic) = true := by decide +kernel
  obtain ⟨hCompanion, hMoved⟩ := hClass.companion hShape rfl (List.any_eq_true.mp hStatic)
  refine ⟨hRectangle, ?_, hCompanion, ?_, hGeometry, ?_⟩
  · rw [hClass.own hShape rfl]
    decide +kernel
  · rw [hMoved]
    decide +kernel
  · rw [((methods_placed hGeometry).holder (by decide +kernel)).1]
    decide +kernel

/-- The symbols for the accessible fields and the readable properties of a type that are static, or
are not, as members of a class. -/
def Metadata.TypeDef.dataSymbols (known : ClassId → Bool) (t : TypeDef) (owner : ClassId)
    (isStatic : Bool) : List PropertySymbol :=
  (t.fields.filter fun f => f.access.isAccessible && f.isStatic == isStatic).map
      (fun f => f.symbol known (owner.member f.name) none) ++
    (t.properties.filter fun p => p.canRead && p.isStatic == isStatic).map
      fun p => p.symbol known (owner.member p.name) none

@[simp] theorem Metadata.Field.holder?_symbol (known : ClassId → Bool) (f : Field)
    (id : CallableId) (carrier : Option ClassId) :
    (f.symbol known id carrier).id.holder? (f.symbol known id carrier).staticHolder =
      id.holder? carrier := rfl

@[simp] theorem Metadata.Property.holder?_symbol (known : ClassId → Bool) (p : Property)
    (id : CallableId) (carrier : Option ClassId) :
    (p.symbol known id carrier).id.holder? (p.symbol known id carrier).staticHolder =
      id.holder? carrier := rfl

namespace Metadata.TypeDef

variable (known : ClassId → Bool) {t : TypeDef}

theorem properties_dataMembers (hEnum : t.flags.isEnum = false) {wanted : Bool → Bool}
    {isStatic : Bool} (hWanted : ∀ b, wanted b = (b == isStatic)) (owner id : ClassId) :
    (t.dataMembers known owner wanted).filterMap (Insertion.propertyOf? id) =
      if owner = id then t.dataSymbols known owner isStatic else [] := by
  -- Only enumerations hide some of their fields.
  have hDetail (f : Field) : t.isEnumDetail f = false := by simp [isEnumDetail, hEnum]
  by_cases hOwner : owner = id <;>
    simp [dataMembers, dataSymbols, List.filterMap_map, Function.comp_def, Insertion.propertyOf?,
      hDetail, hWanted, hOwner]

theorem properties_constructorInsertions (id : ClassId) :
    (t.constructorInsertions known).filterMap (Insertion.propertyOf? id) = [] := by
  unfold constructorInsertions
  split
  · rfl
  · simp [List.filterMap_map, Function.comp_def, Insertion.propertyOf?]

theorem properties_methodInsertions (id : ClassId) :
    (t.methodInsertions known).filterMap (Insertion.propertyOf? id) = [] := by
  rw [methodInsertions, List.filterMap_filterMap, List.filterMap_eq_nil_iff]
  intro m _
  cases t.methodOwner? m <;> rfl

theorem properties_plain (hShape : t.shape = .plainClass) (hEnum : t.flags.isEnum = false)
    (id : ClassId) :
    (t.ownMembers known).filterMap (Insertion.propertyOf? id) =
      (if t.classId = id then t.dataSymbols known t.classId false else []) ++
        if t.companion? = some id then t.dataSymbols known id true else [] := by
  have hOwn := properties_dataMembers known hEnum (by decide : ∀ b, (!b) = (b == false))
  have hStatic := properties_dataMembers known hEnum (by decide : ∀ b, b = (b == true))
  simp only [ownMembers, hShape, List.filterMap_append, properties_constructorInsertions,
    properties_methodInsertions, List.nil_append, hOwn]
  congr 1
  cases t.companion? with
  | none => rfl
  | some owner =>
    rw [Option.toList_some, List.flatMap_singleton, hStatic]
    by_cases hOwner : owner = id <;> simp [hOwner]

end Metadata.TypeDef

/-- Every accessible field and every readable property of a type has its symbol: in the companion if
it is static, and in the class otherwise. -/
structure DataKept (known : ClassId → Bool) (t : TypeDef) (g : SymbolGraph) : Prop where
  own : g.propertiesIn t.classId = t.dataSymbols known t.classId false
  static : t.dataSymbols known t.classId.companion true ≠ [] →
    g.HasCompanion t.classId ∧
      g.propertiesIn t.classId.companion = t.dataSymbols known t.classId.companion true

def Metadata.Field.isConstant (f : Field) : Bool :=
  f.access.isAccessible && f.isStatic && f.isLiteral

namespace Metadata.TypeDef

variable (known : ClassId → Bool) {t : TypeDef}

theorem dataSymbols_ne_nil {f : Field} (hf : f ∈ t.fields) (hConstant : f.isConstant = true)
    (owner : ClassId) : t.dataSymbols known owner true ≠ [] := by
  simp only [Field.isConstant, Bool.and_eq_true] at hConstant
  have hMem : f ∈ t.fields.filter fun f => f.access.isAccessible && f.isStatic == true := by
    simp [hf, hConstant]
  exact List.append_ne_nil_of_left_ne_nil (by simpa using List.ne_nil_of_mem hMem) _

theorem hasStaticMembers_of_dataSymbols {owner : ClassId}
    (h : t.dataSymbols known owner true ≠ [])
    (hConstants : t.fields.any (·.isConstant) = true → t.hasStaticMembers = true) :
    t.hasStaticMembers = true := by
  obtain ⟨symbol, hSymbol⟩ := List.exists_mem_of_ne_nil _ h
  rcases List.mem_append.mp hSymbol with hSymbol | hSymbol
  · obtain ⟨f, hf, _⟩ := List.mem_map.mp hSymbol
    obtain ⟨hf, hStatic⟩ := List.mem_filter.mp hf
    obtain ⟨hAccess, hStatic⟩ : f.access.isAccessible = true ∧ f.isStatic = true := by
      simpa using hStatic
    cases hLiteral : f.isLiteral with
    | true =>
      refine hConstants (List.any_eq_true.mpr ⟨f, hf, ?_⟩)
      simp [Field.isConstant, hAccess, hStatic, hLiteral]
    | false =>
      have hAny : t.fields.any (fun f => f.isStatic && !f.isLiteral && f.access.isAccessible) =
          true := by
        refine List.any_eq_true.mpr ⟨f, hf, ?_⟩
        simp [hAccess, hStatic, hLiteral]
      simp [hasStaticMembers, hAny]
  · obtain ⟨p, hp, _⟩ := List.mem_map.mp hSymbol
    obtain ⟨hp, hStatic⟩ := List.mem_filter.mp hp
    have hAny : t.properties.any (·.isStatic) = true := by
      refine List.any_eq_true.mpr ⟨p, hp, ?_⟩
      simpa using (Bool.and_eq_true_iff.mp hStatic).2
    simp [hasStaticMembers, hAny]

theorem companion?_eq (hEnum : t.flags.isEnum = false) :
    t.companion? = if t.hasStaticMembers then some t.classId.companion else none := by
  simp [companion?, hEnum]

end Metadata.TypeDef

/-- The fields and properties of a class are all kept, unless it has constants and no other static
members. -/
theorem data_kept_iff {assemblies : List Assembly} {assembly : String} {t : TypeDef}
    (h : Accepts assemblies assembly t) (hShape : t.shape = .plainClass)
    (hEnum : t.flags.isEnum = false) :
    DataKept (foreignClasses assemblies).contains t (synthesize assemblies).graph ↔
      (t.fields.any (·.isConstant) = true → t.hasStaticMembers = true) := by
  have hClass : t.companionClass? = t.companion? := if_pos hShape
  constructor
  · intro hKept hConstant
    -- A constant is static data, but it is not counted when a companion is considered.
    obtain ⟨f, hf, hConstant⟩ := List.any_eq_true.mp hConstant
    obtain ⟨hCompanion, _⟩ := hKept.static (TypeDef.dataSymbols_ne_nil _ hf hConstant _)
    have hSome := h.shows.hasCompanion_iff.mp hCompanion
    rw [hClass, TypeDef.companion?_eq hEnum] at hSome
    by_contra hNone
    rw [if_neg hNone] at hSome
    cases hSome
  · intro hConstants
    constructor
    case own =>
      have hOther : t.companion? ≠ some t.classId := fun hSelf =>
        t.classId.companion_ne (TypeDef.eq_companion_of_companion? hSelf)
      rw [h.shows.propertiesIn_self, TypeDef.properties_plain _ hShape hEnum, if_pos rfl,
        if_neg hOther, List.append_nil]
    case static =>
      intro hData
      have hId : t.companion? = some t.classId.companion := by
        rw [TypeDef.companion?_eq hEnum,
          if_pos (TypeDef.hasStaticMembers_of_dataSymbols _ hData hConstants)]
      refine ⟨h.shows.hasCompanion_iff.mpr (by rw [hClass, hId]; rfl), ?_⟩
      rw [h.shows.propertiesIn_companion (hClass.trans hId),
        TypeDef.properties_plain _ hShape hEnum, if_neg t.classId.companion_ne, if_pos hId,
        List.nil_append]

/-- A class with a constant and nothing else. -/
def limitsType : TypeDef :=
  { libraryType "Limits" with
    fields := [{ name := "Max", type := { name := "T" }, isStatic := true, isLiteral := true }] }

/-- A class with a constant and a variable, both of them static. -/
def counterType : TypeDef :=
  { libraryType "Counter" with
    fields := { name := "count", type := { name := "T" }, isStatic := true } :: limitsType.fields }

theorem data_kept_counter :
    Accepts (alone counterType) "Lib" counterType ∧
      DataKept (foreignClasses (alone counterType)).contains counterType
        (synthesize (alone counterType)).graph := by
  have hAccepts : Accepts (alone counterType) "Lib" counterType :=
    ⟨_, List.mem_cons_self, by decide +kernel⟩
  exact ⟨hAccepts, (data_kept_iff hAccepts (by decide +kernel) rfl).mpr (by decide +kernel)⟩

/-- The constant of a class that has nothing else is in neither of the two classes. -/
theorem limits_constant_lost :
    let g := (synthesize (alone limitsType)).graph
    Accepts (alone limitsType) "Lib" limitsType ∧
      limitsType.shape = .plainClass ∧ limitsType.flags.isEnum = false ∧
      g.propertiesIn limitsType.classId = [] ∧
      g.class? limitsType.classId.companion = none ∧
      ¬ DataKept (foreignClasses (alone limitsType)).contains limitsType g := by
  intro g
  have hNone : g.class? limitsType.classId.companion = none :=
    Option.isNone_iff_eq_none.mp (by decide +kernel)
  have hOwn : (g.propertiesIn limitsType.classId).isEmpty = true := by decide +kernel
  refine ⟨⟨_, List.mem_cons_self, by decide +kernel⟩, by decide +kernel, rfl,
    List.isEmpty_iff.mp hOwn, hNone, fun hKept => ?_⟩
  obtain ⟨⟨_, ⟨c, hClass, _⟩⟩, _⟩ := hKept.static
    (TypeDef.dataSymbols_ne_nil _ List.mem_cons_self (by decide) _)
  rw [hNone] at hClass
  cases hClass

end KotlinBackend
