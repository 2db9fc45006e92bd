import KotlinBackend.Proofs.Symbol.Placement

/-!
# References to accepted types

A reference spells a nested type with the types around it in its name, while a definition has them
apart. Both ways lead to the same class, and the class of every type that is accepted is known, so
that a reference to an accepted type is resolved to the class that the graph has for the type.
-/

namespace KotlinBackend

open Metadata (Assembly TypeDef TypeRef RefKind)

/-- The name of a type in references: the types around it come first. -/
def Metadata.TypeDef.referenceName (t : TypeDef) : String :=
  match t.declaringType with
  | some outer => outer ++ "+" ++ t.name
  | none => t.name

/-- A reference spells a type with its namespace and the types around it. -/
structure Metadata.TypeRef.Spells (r : TypeRef) (t : TypeDef) : Prop where
  kind : r.kind = .plainClass ∨ r.kind = .interface ∨ r.kind = .valueType
  nameSpace : r.nameSpace = some t.nameSpace ∨ t.nameSpace = "" ∧ r.nameSpace = none
  name : r.name = t.referenceName

section Names

theorem nestedNames_of_not_mem {name : String} (h : '+' ∉ name.toList) :
    nestedNames name = [Metadata.stripArity name] := by
  rw [nestedNames, Text.pieces, Text.splitOn_of_not_mem h, List.map_singleton,
    String.ofList_toList, List.map_singleton]

theorem nestedNames_append (outer inner : String) :
    nestedNames (outer ++ "+" ++ inner) = nestedNames outer ++ nestedNames inner := by
  have hText : (outer ++ "+" ++ inner).toList = outer.toList ++ '+' :: inner.toList := by
    simp [String.toList_append]
  rw [nestedNames, Text.pieces, hText, Text.splitOn_append, List.map_append, List.map_append]
  rfl

theorem Metadata.TypeDef.nestedNames_referenceName {t : TypeDef} (h : '+' ∉ t.name.toList) :
    nestedNames t.referenceName = t.classId.names := by
  rw [TypeDef.referenceName, TypeDef.classId]
  cases t.declaringType with
  | none => exact nestedNames_of_not_mem h
  | some outer =>
    simp only [Option.map_some, Option.getD_some]
    rw [nestedNames_append, nestedNames_of_not_mem h]
    rfl

theorem Metadata.TypeRef.Spells.classId {r : TypeRef} {t : TypeDef} (h : r.Spells t)
    (hName : '+' ∉ t.name.toList) : r.classId = t.classId := by
  have hSpace : r.nameSpace.getD "" = t.nameSpace := by
    rcases h.nameSpace with hSpace | ⟨hEmpty, hSpace⟩
    · rw [hSpace, Option.getD_some]
    · rw [hSpace, hEmpty, Option.getD_none]
  rw [TypeRef.classId, hSpace, h.name, TypeDef.nestedNames_referenceName hName]
  rfl

end Names

section Resolution

variable (known : ClassId → Bool)

theorem Metadata.TypeRef.resolveList_eq_map (rs : List TypeRef) :
    TypeRef.resolveList known rs = rs.map (TypeRef.resolve known) := by
  induction rs with
  | nil => rfl
  | cons r rest ih => rw [TypeRef.resolveList, ih, List.map_cons]

theorem Metadata.TypeRef.resolve_named {r : TypeRef}
    (h : r.kind = .plainClass ∨ r.kind = .interface ∨ r.kind = .valueType) :
    r.resolve known =
      foreignClass known r.fullName r.classId (r.arguments.map (TypeRef.resolve known)) := by
  obtain ⟨nameSpace, name, kind, parameter, arguments⟩ := r
  rw [← TypeRef.resolveList_eq_map]
  rcases h with rfl | rfl | rfl <;> rfl

end Resolution

/-- A reference that spells an accepted type is resolved to the class that the graph has for the
type, applied to the arguments as they are resolved. -/
theorem reference_to_accepted {assemblies : List Assembly} {assembly : String} {t : TypeDef}
    {r : TypeRef} (h : Accepts assemblies assembly t) (hName : '+' ∉ t.name.toList)
    (hSpells : r.Spells t) (hTable : primitiveTypes.lookup r.fullName = none) :
    let known := (foreignClasses assemblies).contains
    r.resolve known = .generic t.classId (r.arguments.map (TypeRef.resolve known)) ∧
      (synthesize assemblies).graph.class? t.classId =
        some { t.classSymbol known (.assembly assembly) with companion := t.companionClass? } := by
  intro known
  refine ⟨?_, h.shows.class?_self⟩
  obtain ⟨hListed, hAccepted⟩ := h.listed
  have hKnown : known t.classId = true :=
    List.contains_iff_mem.mpr (mem_foreignClasses.mpr ⟨t, hListed, hAccepted, rfl⟩)
  rw [TypeRef.resolve_named known hSpells.kind, hSpells.classId hName, foreignClass, hTable]
  exact if_pos hKnown

section Examples

def nodeType : TypeDef :=
  { name := "Node`2"
    nameSpace := "Lib"
    declaringType := some "Bag`1"
    typeParameters := [{ name := "K" }, { name := "V" }]
    flags := { isNested := true, isNestedPublic := true } }

/-- The nested type is listed beside the type around it. -/
def nodeAssemblies : List Assembly := [⟨"Lib", [nodeType, libraryType "Bag`1"]⟩]

def nodeReference : TypeRef :=
  { nameSpace := some "Lib"
    name := "Bag`1+Node`2"
    kind := .valueType
    arguments :=
      [{ nameSpace := some "System", name := "Int32", kind := .valueType },
        { nameSpace := some "System", name := "String" }] }

theorem reference_to_node :
    Accepts nodeAssemblies "Lib" nodeType ∧ nodeReference.Spells nodeType ∧
      nodeReference.resolve (foreignClasses nodeAssemblies).contains =
        .generic ⟨⟨"Lib"⟩, ["Bag", "Node"]⟩ [.int, .string] := by
  have hAccepts : Accepts nodeAssemblies "Lib" nodeType :=
    ⟨_, List.mem_append_left _ (List.mem_append_right _ List.mem_cons_self), by decide +kernel⟩
  have hSpells : nodeReference.Spells nodeType :=
    ⟨.inr (.inr rfl), .inl rfl, by decide +kernel⟩
  refine ⟨hAccepts, hSpells, ?_⟩
  have hTable : primitiveTypes.lookup nodeReference.fullName = none := by rfl
  rw [(reference_to_accepted hAccepts (by decide +kernel) hSpells hTable).1]
  rfl

end Examples

end KotlinBackend
