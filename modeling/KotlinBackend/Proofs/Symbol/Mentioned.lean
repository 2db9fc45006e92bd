import KotlinBackend.Proofs.Symbol.Effect
import KotlinBackend.Symbol.Synthesis

/-!
# The classes that synthesized symbols mention

The types of the symbols that come from assemblies are made of references. A reference becomes an
entry of a fixed table, an array, or a class that the assemblies are known to have, so nothing else
is mentioned anywhere in the graph.
-/

namespace KotlinBackend

open Metadata (Assembly TypeDef TypeRef Parameter Method Field Property)

def FunctionSymbol.types (f : FunctionSymbol) : List SourceType :=
  f.extensionReceiver.toList ++ f.parameters.map (·.type) ++ [f.returnType]

def ConstructorSymbol.types (c : ConstructorSymbol) : List SourceType := c.parameters.map (·.type)

/-- The types in what is added to a graph. -/
def Insertion.types : Insertion → List SourceType
  | .ofClass node => node.supertypes
  | .companion _ _ => []
  | .function f => f.types
  | .constructor c => c.types
  | .property p => [p.type]

/-- The supertypes, receiver types, parameter types, return types and property types of a graph. -/
def SymbolGraph.types (g : SymbolGraph) : List SourceType :=
  g.symbols.flatMap (·.supertypes) ++ g.functions.toList.flatMap (·.types) ++
    g.constructors.toList.flatMap (·.types) ++ g.properties.toList.map (·.type)

/-- The classes in the types of a graph, at any depth. -/
def SymbolGraph.mentioned (g : SymbolGraph) : List ClassId := g.types.flatMap (·.classIds)

/-- The classes that references become without being declared anywhere. -/
def tableClasses : List ClassId :=
  primitiveTypes.flatMap (·.2.classIds) ++ primitiveArrays.map (·.2) ++
    [WellKnown.any, WellKnown.array, WellKnown.nothing]

namespace SymbolGraph

variable {g g' : SymbolGraph} {position : Option Nat}

theorem nodup_classIds_insert {i : Insertion} (h : g.classIds.Nodup)
    (hInsert : g.insert i = .ok position g') : g'.classIds.Nodup := by
  rw [classIds_insert hInsert]
  cases i with
  | ofClass node =>
    have hNew : node.id ∉ g.classIds := by
      simpa [Insertion.refusal?, Insertion.class?] using refusal?_of_insert hInsert
    rw [Insertion.class?, Option.toList_some, List.nodup_append]
    refine ⟨h, by simp, ?_⟩
    rintro id hid _ hLast rfl
    exact hNew (List.mem_singleton.mp hLast ▸ hid)
  | companion | function | constructor | property =>
    simpa [Insertion.class?] using h

theorem types_insert {i : Insertion} (h : g.classIds.Nodup)
    (hInsert : g.insert i = .ok position g') :
    ∀ t ∈ g'.types, t ∈ g.types ∨ t ∈ i.types := by
  have hEffect := effect_insert h hInsert
  have hSupertypes (c : ClassSymbol) : (i.applyTo c).supertypes = c.supertypes := by
    cases i with
    | companion owner chosen =>
      rw [Insertion.applyTo]
      split <;> rfl
    | ofClass | function | constructor | property => rfl
  intro t ht
  simp only [types, hEffect.symbols, hEffect.functions, hEffect.constructors, hEffect.properties,
    List.flatMap_append, List.flatMap_map, hSupertypes, List.map_append, List.mem_append] at ht ⊢
  cases i with
  | ofClass | companion | function | constructor | property =>
    simp only [Insertion.symbol?, Insertion.node?, Insertion.function?, Insertion.constructor?,
      Insertion.property?, Insertion.types, Option.map_some, Option.map_none, Option.toList_some,
      Option.toList_none, List.flatMap_nil, List.flatMap_singleton, List.map_nil,
      List.map_singleton, List.not_mem_nil, or_false] at ht ⊢
    tauto

end SymbolGraph

section References

variable {P : ClassId → Prop} {known : ClassId → Bool}

/-- All classes in a type have a property. -/
def SourceType.NamesOnly (P : ClassId → Prop) (t : SourceType) : Prop := ∀ id ∈ t.classIds, P id

theorem TypeArgument.listClassIds_eq_flatMap (arguments : List TypeArgument) :
    TypeArgument.listClassIds arguments = arguments.flatMap TypeArgument.classIds := by
  induction arguments with
  | nil => rfl
  | cons first rest ih => rw [TypeArgument.listClassIds, ih, List.flatMap_cons]

theorem SourceType.namesOnly_generic {id : ClassId} {ts : List SourceType} (hId : P id)
    (h : ∀ t ∈ ts, t.NamesOnly P) : (SourceType.generic id ts).NamesOnly P := by
  intro id' hMem
  rw [SourceType.generic, SourceType.classIds, TypeArgument.listClassIds_eq_flatMap,
    List.flatMap_map, List.mem_cons, List.mem_flatMap] at hMem
  rcases hMem with rfl | ⟨t, ht, hMem⟩
  · exact hId
  · exact h t ht id' hMem

theorem SourceType.namesOnly_argument? {t argument : SourceType} {index : Nat}
    (h : t.NamesOnly P) (hArgument : t.argument? index = some argument) :
    argument.NamesOnly P := by
  obtain ⟨projection, hProjection, hType⟩ := Option.bind_eq_some_iff.mp hArgument
  have hPlace := List.mem_of_getElem? hProjection
  cases t with
  | parameter => cases hPlace
  | applied id arguments nullable =>
    cases projection with
    | star => cases hType
    | projected variance type =>
      obtain rfl : type = argument := Option.some.inj hType
      intro id' hMem
      refine h id' (List.mem_cons_of_mem _ ?_)
      rw [TypeArgument.listClassIds_eq_flatMap]
      exact List.mem_flatMap.mpr ⟨_, hPlace, hMem⟩

variable (hTable : ∀ id ∈ tableClasses, P id)

include hTable

theorem namesOnly_ofClass {id : ClassId} (h : id ∈ tableClasses) :
    (SourceType.ofClass id).NamesOnly P := by
  intro id' hMem
  rw [List.mem_singleton.mp hMem]
  exact hTable id h

theorem namesOnly_top : SourceType.top.NamesOnly P := by
  have hAny := namesOnly_ofClass hTable (by simp [tableClasses] : WellKnown.any ∈ tableClasses)
  exact hAny

theorem namesOnly_arrayOf {element : SourceType} (h : element.NamesOnly P) :
    (SourceType.arrayOf element).NamesOnly P :=
  SourceType.namesOnly_generic (hTable _ (by simp [tableClasses])) (by simpa using h)

theorem namesOnly_foreignArray {element : SourceType} (h : element.NamesOnly P) :
    (foreignArray element).NamesOnly P := by
  have hArray := namesOnly_arrayOf hTable h
  unfold foreignArray
  split
  · exact hArray
  · split
    · rename_i array hFound
      obtain ⟨id, _, hLookup⟩ := Option.bind_eq_some_iff.mp hFound
      obtain ⟨before, after, hEntries, _⟩ := List.lookup_eq_some_iff.mp hLookup
      refine namesOnly_ofClass hTable ?_
      have hEntry : (id, array) ∈ primitiveArrays := by simp [hEntries]
      exact List.mem_append_left _ (List.mem_append_right _ (List.mem_map_of_mem hEntry))
    · exact hArray

variable (hKnown : ∀ id, known id = true → P id)

include hKnown

theorem namesOnly_foreignClass {fullName : String} {id : ClassId} {ts : List SourceType}
    (h : ∀ t ∈ ts, t.NamesOnly P) : (foreignClass known fullName id ts).NamesOnly P := by
  unfold foreignClass
  split
  · rename_i primitive hLookup
    obtain ⟨before, after, hEntries, _⟩ := List.lookup_eq_some_iff.mp hLookup
    have hEntry : (fullName, primitive) ∈ primitiveTypes := by simp [hEntries]
    intro id' hMem
    exact hTable id' (List.mem_append_left _ (List.mem_append_left _
      (List.mem_flatMap.mpr ⟨_, hEntry, hMem⟩)))
  · split
    · rename_i hFound
      exact SourceType.namesOnly_generic (hKnown id hFound) h
    · exact namesOnly_top hTable

end References

/-- The classes of the tables, and those that are known, have a property. -/
structure Covers (P : ClassId → Prop) (known : ClassId → Bool) : Prop where
  tables : ∀ id ∈ tableClasses, P id
  known : ∀ id, known id = true → P id

section Symbols

variable {P : ClassId → Prop} {known : ClassId → Bool}

mutual

theorem Covers.resolve (h : Covers P known) (r : TypeRef) : (r.resolve known).NamesOnly P := by
  obtain ⟨nameSpace, name, kind, parameter, arguments⟩ := r
  have hArguments := h.resolveList arguments
  cases kind with
  | genericParameter => exact nofun
  | byRef | pointer =>
    rw [TypeRef.resolve, List.headD_eq_head?_getD]
    cases hHead : (TypeRef.resolveList known arguments).head? with
    | none => exact namesOnly_top h.tables
    | some first => exact hArguments first (List.mem_of_head? hHead)
  | array =>
    rw [TypeRef.resolve]
    cases hHead : (TypeRef.resolveList known arguments).head? with
    | none => exact namesOnly_arrayOf h.tables (namesOnly_top h.tables)
    | some first =>
      exact namesOnly_foreignArray h.tables (hArguments first (List.mem_of_head? hHead))
  | plainClass | interface | valueType => exact namesOnly_foreignClass h.tables h.known hArguments

theorem Covers.resolveList (h : Covers P known) (rs : List TypeRef) :
    ∀ t ∈ TypeRef.resolveList known rs, t.NamesOnly P := by
  cases rs with
  | nil => exact nofun
  | cons r rest => exact List.forall_mem_cons.mpr ⟨h.resolve r, h.resolveList rest⟩

end

theorem Covers.parameterSymbols (h : Covers P known) (position : Nat) (ps : List Parameter) :
    ∀ p ∈ Metadata.parameterSymbols known position ps, p.type.NamesOnly P := by
  induction ps generalizing position with
  | nil => exact nofun
  | cons p rest ih =>
    refine List.forall_mem_cons.mpr ⟨?_, ih (position + 1)⟩
    have hType := h.resolve p.type
    change (if p.isVariadic then ((p.type.resolve known).argument? 0).getD .top
      else p.type.resolve known).NamesOnly P
    split
    · cases hArgument : (p.type.resolve known).argument? 0 with
      | none => exact namesOnly_top h.tables
      | some argument => exact SourceType.namesOnly_argument? hType hArgument
    · exact hType

/-- All types in what is added to a graph keep to a property. -/
def Insertion.NamesOnly (P : ClassId → Prop) (i : Insertion) : Prop := ∀ t ∈ i.types, t.NamesOnly P

theorem Covers.method (h : Covers P known) (m : Method) (id : CallableId)
    (holder : Option ClassId) : ∀ t ∈ (m.symbol known id holder).types, t.NamesOnly P := by
  intro t ht
  simp only [FunctionSymbol.types, Method.symbol, List.mem_append, Option.mem_toList,
    Option.map_eq_some_iff, List.mem_map, List.mem_singleton] at ht
  rcases ht with (⟨receiver, _, rfl⟩ | ⟨p, hp, rfl⟩) | rfl
  · exact h.resolve receiver.type
  · exact h.parameterSymbols 0 _ p hp
  · split
    · exact namesOnly_ofClass h.tables (by simp [tableClasses])
    · exact h.resolve m.returnType

theorem Covers.dataMembers (h : Covers P known) (t : TypeDef) (owner : ClassId)
    (wanted : Bool → Bool) : ∀ i ∈ t.dataMembers known owner wanted, i.NamesOnly P := by
  intro i hi
  rcases List.mem_append.mp hi with hi | hi
  · obtain ⟨f, _, rfl⟩ := List.mem_map.mp hi
    exact List.forall_mem_singleton.mpr (h.resolve f.type)
  · obtain ⟨p, _, rfl⟩ := List.mem_map.mp hi
    exact List.forall_mem_singleton.mpr (h.resolve p.type)

theorem Covers.objectMembers (h : Covers P known) (t : TypeDef) :
    ∀ i ∈ t.objectMembers known, i.NamesOnly P := by
  intro i hi
  rcases List.mem_append.mp hi with hi | hi
  · obtain ⟨m, _, rfl⟩ := List.mem_map.mp hi
    exact h.method m _ _
  · exact h.dataMembers t _ _ i hi

theorem Covers.holderMembers (h : Covers P known) (t : TypeDef) :
    ∀ i ∈ t.holderMembers known, i.NamesOnly P := by
  intro i hi
  rcases List.mem_append.mp hi with hi | hi
  · rcases List.mem_append.mp hi with hi | hi
    · obtain ⟨m, _, rfl⟩ := List.mem_map.mp hi
      exact h.method m _ _
    · obtain ⟨f, _, rfl⟩ := List.mem_map.mp hi
      exact List.forall_mem_singleton.mpr (h.resolve f.type)
  · obtain ⟨p, _, rfl⟩ := List.mem_map.mp hi
    exact List.forall_mem_singleton.mpr (h.resolve p.type)

theorem Covers.classMembers (h : Covers P known) (t : TypeDef) (origin : SymbolOrigin) :
    ∀ i ∈ t.classMembers known origin, i.NamesOnly P := by
  intro i hi
  simp only [TypeDef.classMembers, List.mem_append, List.mem_flatMap] at hi
  rcases hi with (((hi | hi) | hi) | hi) | ⟨id, _, hi⟩
  · -- A companion has no supertypes.
    unfold TypeDef.companionInsertions at hi
    split at hi
    · simp only [List.mem_cons, List.not_mem_nil, or_false] at hi
      rcases hi with rfl | rfl <;> exact List.forall_mem_nil _
    · cases hi
  · unfold TypeDef.constructorInsertions at hi
    split at hi
    · cases hi
    · obtain ⟨c, _, rfl⟩ := List.mem_map.mp hi
      intro type hType
      obtain ⟨p, hp, rfl⟩ := List.mem_map.mp hType
      exact h.parameterSymbols 0 c.parameters p hp
  · obtain ⟨m, _, hOwner⟩ := List.mem_filterMap.mp hi
    obtain ⟨owner, _, rfl⟩ := Option.map_eq_some_iff.mp hOwner
    exact h.method m (owner.member m.name) none
  · exact h.dataMembers t _ _ i hi
  · exact h.dataMembers t id _ i hi

theorem Covers.memberInsertions (h : Covers P known) (t : TypeDef) (origin : SymbolOrigin) :
    ∀ i ∈ t.memberInsertions known origin, i.NamesOnly P := by
  unfold TypeDef.memberInsertions
  split
  · exact h.objectMembers t
  · exact h.holderMembers t
  · exact h.classMembers t origin

theorem Covers.classSymbol (h : Covers P known) (t : TypeDef) (origin : SymbolOrigin) :
    ∀ type ∈ (t.classSymbol known origin).supertypes, type.NamesOnly P := by
  intro type hType
  obtain ⟨r, _, rfl⟩ := List.mem_map.mp (List.mem_filter.mp hType).1
  exact h.resolve r

end Symbols

/-- The classes of a graph are distinct, and all its types keep to a property. -/
structure SymbolGraph.Keeps (P : ClassId → Prop) (g : SymbolGraph) : Prop where
  distinct : g.classIds.Nodup
  types : ∀ t ∈ g.types, t.NamesOnly P

section Synthesis

variable {P : ClassId → Prop} {known : ClassId → Bool} {g g' : SymbolGraph}

theorem SymbolGraph.Keeps.insert {i : Insertion} {position : Option Nat} (h : g.Keeps P)
    (hi : i.NamesOnly P) (hInsert : g.insert i = .ok position g') : g'.Keeps P where
  distinct := nodup_classIds_insert h.distinct hInsert
  types t ht := by
    rcases types_insert h.distinct hInsert t ht with ht | ht
    · exact h.types t ht
    · exact hi t ht

theorem SymbolGraph.Keeps.insertAll {is : List Insertion} (h : g.Keeps P)
    (hAll : ∀ i ∈ is, i.NamesOnly P) : (g.insertAll is).1.Keeps P := by
  induction is generalizing g with
  | nil => exact h
  | cons i rest ih =>
    obtain ⟨hFirst, hRest⟩ := List.forall_mem_cons.mp hAll
    unfold SymbolGraph.insertAll
    split
    · rename_i position g' hInsert
      exact ih (h.insert hFirst hInsert) hRest
    · rename_i e g' hRefused
      rwa [(insert_eq_error_iff.mp hRefused).2]

theorem Synthesis.keeps_addType (hCovers : Covers P known) {s : Synthesis}
    (h : s.graph.Keeps P) (assembly : String) (t : TypeDef) :
    (s.addType known assembly t).1.graph.Keeps P := by
  unfold Synthesis.addType
  split
  · exact h
  · exact h
  · split
    · rename_i e graph hRefused
      rwa [(SymbolGraph.insert_eq_error_iff.mp hRefused).2]
    · rename_i position graph hAdd
      have hClass : graph.Keeps P :=
        h.insert (i := .ofClass (t.classSymbol known (.assembly assembly)).node)
          (hCovers.classSymbol t _) hAdd
      exact hClass.insertAll (hCovers.memberInsertions t _)

/-- A type whose class was looked at is left out. Any other is added; what is nested in it follows
unless the type is skipped. -/
theorem Synthesis.addTree_eq (assembly : String) (t : TypeDef) (s : Synthesis) :
    Synthesis.addTree known assembly t s =
      if s.visited.contains t.classId then s
      else
        match ({ s with visited := t.classId :: s.visited } : Synthesis).addType
          known assembly t with
        | (s, some reason) => s.skip assembly t reason
        | (s, none) => Synthesis.addTrees known assembly t.nestedTypes s := by
  obtain ⟨name, nameSpace, declaringType, baseType, interfaces, attributes, constructors, methods,
    fields, properties, events, nestedTypes, typeParameters, flags⟩ := t
  unfold Synthesis.addTree
  rfl

mutual

theorem Synthesis.keeps_addTree (hCovers : Covers P known) (assembly : String) (t : TypeDef)
    (s : Synthesis) (h : s.graph.Keeps P) :
    (Synthesis.addTree known assembly t s).graph.Keeps P := by
  have hAdded : ∀ reason? added,
      ({ s with visited := t.classId :: s.visited } : Synthesis).addType known assembly t =
        (added, reason?) → added.graph.Keeps P := by
    intro reason? added hAdd
    have hKeeps := Synthesis.keeps_addType hCovers
      (s := { s with visited := t.classId :: s.visited }) h assembly t
    rwa [hAdd] at hKeeps
  rw [Synthesis.addTree_eq]
  split
  · exact h
  · split
    · rename_i added reason hAdd
      have hSkipped := hAdded _ _ hAdd
      exact hSkipped
    · rename_i added hAdd
      obtain ⟨name, nameSpace, declaringType, baseType, interfaces, attributes, constructors,
        methods, fields, properties, events, nestedTypes, typeParameters, flags⟩ := t
      exact Synthesis.keeps_addTrees hCovers assembly nestedTypes added (hAdded _ _ hAdd)

theorem Synthesis.keeps_addTrees (hCovers : Covers P known) (assembly : String)
    (ts : List TypeDef) (s : Synthesis) (h : s.graph.Keeps P) :
    (Synthesis.addTrees known assembly ts s).graph.Keeps P := by
  cases ts with
  | nil => exact h
  | cons t rest =>
    exact Synthesis.keeps_addTrees hCovers assembly rest _
      (Synthesis.keeps_addTree hCovers assembly t s h)

end

theorem Synthesis.keeps_foldl (hCovers : Covers P known) (assemblies : List Assembly)
    (s : Synthesis) (h : s.graph.Keeps P) :
    (assemblies.foldl (Synthesis.addAssembly known) s).graph.Keeps P := by
  induction assemblies generalizing s with
  | nil => exact h
  | cons a rest ih => exact ih _ (Synthesis.keeps_addTrees hCovers a.name _ _ h)

end Synthesis

/-- Whatever the types of a synthesized graph mention is in the tables or known. -/
theorem mentioned_synthesize (assemblies : List Assembly) :
    ∀ id ∈ (synthesize assemblies).graph.mentioned,
      id ∈ tableClasses ∨ id ∈ foreignClasses assemblies := by
  have hCovers : Covers (fun id => id ∈ tableClasses ∨ id ∈ foreignClasses assemblies)
      (foreignClasses assemblies).contains :=
    ⟨fun _ => .inl, fun id hid => .inr (List.contains_iff_mem.mp hid)⟩
  have hEmpty : SymbolGraph.empty.Keeps
      fun id => id ∈ tableClasses ∨ id ∈ foreignClasses assemblies := ⟨List.nodup_nil, nofun⟩
  have hKeeps := Synthesis.keeps_foldl hCovers assemblies {} hEmpty
  intro id hid
  obtain ⟨t, ht, hid⟩ := List.mem_flatMap.mp hid
  exact hKeeps.types t ht id hid

end KotlinBackend
