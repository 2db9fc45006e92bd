import KotlinBackend.Facade.Basic
import KotlinBackend.Proofs.Declared
import KotlinBackend.Proofs.Mention.Revision
import KotlinBackend.Reference

/-!
# Conserving the classes of a module

`Conserves m m'` says what every lowering pass does to the classes of a module: an actual class
stays one, and a class that is named afterwards was named before, is declared by now, or is trusted
anyway. The relation composes, so a sequence of passes has it once each pass does. Pointing calls at
declared holders is shown to have it here; the passes follow in their own modules.
-/

namespace KotlinBackend

/-- A class that a changed module may name. -/
def MayName (m m' : SourceModule) (id : ClassId) : Prop :=
  id ∈ m.nodes.filterMap Node.class? ∨ id ∈ m'.actualClasses ∨ isTrustedPackage id.package = true

structure Conserves (m m' : SourceModule) : Prop where
  declared : ∀ id ∈ m.actualClasses, id ∈ m'.actualClasses
  named : NamesOnly (MayName m m') m'.nodes

theorem Conserves.refl (m : SourceModule) : Conserves m m :=
  ⟨fun _ h => h, fun _ h => .inl h⟩

theorem Conserves.trans {m₁ m₂ m₃ : SourceModule} (h : Conserves m₁ m₂) (h' : Conserves m₂ m₃) :
    Conserves m₁ m₃ := by
  refine ⟨fun id hid => h'.declared id (h.declared id hid), fun id hid => ?_⟩
  rcases h'.named id hid with hNamed | hDeclared | hTrusted
  · rcases h.named id hNamed with hNamed | hDeclared | hTrusted
    · exact .inl hNamed
    · exact .inr (.inl (h'.declared id hDeclared))
    · exact .inr (.inr hTrusted)
  · exact .inr (.inl hDeclared)
  · exact .inr (.inr hTrusted)

theorem mayName_of_named (m m' : SourceModule) : NamesOnly (MayName m m') m.nodes :=
  fun _ h => .inl h

section Files

variable {P : ClassId → Prop}

theorem namesOnly_listNodes {ds : List Declaration} :
    NamesOnly P (Declaration.listNodes ds) ↔ ∀ d ∈ ds, NamesOnly P d.nodes := by
  induction ds with
  | nil => simp [Declaration.listNodes]
  | cons d rest ih => simp [Declaration.listNodes, ih]

theorem namesOnly_file {f : SourceFile} :
    NamesOnly P f.nodes ↔ ∀ d ∈ f.declarations, NamesOnly P d.nodes := by
  simp [SourceFile.nodes, Node.class?, namesOnly_listNodes]

theorem namesOnly_module {m : SourceModule} :
    NamesOnly P m.nodes ↔ ∀ f ∈ m.files, NamesOnly P f.nodes := namesOnly_flatMap

theorem mem_listActualClasses {id : ClassId} {ds : List Declaration} :
    id ∈ Declaration.listActualClasses ds ↔ ∃ d ∈ ds, id ∈ d.actualClasses := by
  induction ds with
  | nil => simp [Declaration.listActualClasses]
  | cons d rest ih => simp [Declaration.listActualClasses, ih]

theorem SourceModule.mem_actualClasses {id : ClassId} {m : SourceModule} :
    id ∈ m.actualClasses ↔ ∃ f ∈ m.files, ∃ d ∈ f.declarations, id ∈ d.actualClasses := by
  simp [SourceModule.actualClasses, mem_listActualClasses]

end Files

theorem Declaration.actualClasses_of_callable {d : Declaration} {id : CallableId}
    (h : d.callable? = some id) : d.actualClasses = [] := by
  cases d with
  | function | property => rfl
  | ofClass | constructor | field => simp [Declaration.callable?] at h

/-- A callable that moves names its holder instead of its owner. -/
theorem Declaration.namesOnly_moveInto {P : ClassId → Prop} {d : Declaration} {holder : ClassId}
    (hHolder : P holder) (h : NamesOnly P d.nodes) : NamesOnly P (d.moveInto holder).nodes := by
  have hMoved (id : CallableId) : NamesOnly P (id.movedTo holder).nodes := by
    simp [namesOnly_callable, CallableId.movedTo, ClassId.member, CallableId.class?, Owner.class?,
      hHolder]
  cases d with
  | function decl =>
    simp only [Declaration.nodes, FunctionDecl.nodes, namesOnly_cons, namesOnly_append] at h
    simp only [Declaration.moveInto, Declaration.nodes, FunctionDecl.nodes, namesOnly_cons,
      namesOnly_append]
    obtain ⟨hHead, ⟨⟨⟨⟨⟨_, hTypes⟩, hReceiver⟩, hParameters⟩, hReturn⟩, hAnnotations⟩, hBody⟩ := h
    exact ⟨by simp [Node.class?],
      ⟨⟨⟨⟨⟨hMoved decl.id, hTypes⟩, hReceiver⟩, hParameters⟩, hReturn⟩, hAnnotations⟩, hBody⟩
  | property decl =>
    simp only [Declaration.nodes, PropertyDecl.nodes, namesOnly_cons, namesOnly_append] at h
    simp only [Declaration.moveInto, Declaration.nodes, PropertyDecl.nodes, namesOnly_cons,
      namesOnly_append]
    obtain ⟨hHead, ⟨⟨⟨_, hType⟩, hGetter⟩, hSetter⟩, hInitializer⟩ := h
    exact ⟨by simp [Node.class?],
      ⟨⟨⟨hMoved decl.id, hType⟩, hGetter⟩, hSetter⟩, hInitializer⟩
  | ofClass | constructor | field => exact h

theorem Moves.mem_of_target? {moves : Moves} {id target : CallableId}
    (h : moves.target? id = some target) : (id, target) ∈ moves := by
  obtain ⟨before, after, hReverse, _⟩ := List.lookup_eq_some_iff.mp h
  have hMem : (id, target) ∈ moves.reverse := by simp [hReverse]
  exact List.mem_reverse.mp hMem

theorem Moves.mem_into {holder : ClassId} {ds : List Declaration} {id target : CallableId}
    (h : (id, target) ∈ Moves.into holder ds) :
    target.class? = some holder ∧ ∃ d ∈ ds, d.callable? = some id := by
  obtain ⟨callable, hCallable, hPair⟩ := List.mem_map.mp h
  obtain ⟨rfl, rfl⟩ := Prod.mk.inj hPair
  exact ⟨rfl, List.mem_filterMap.mp hCallable⟩

theorem Moves.stepKeeps {P : ClassId → Prop} {moves : Moves}
    (h : ∀ id target, (id, target) ∈ moves → ∀ holder, target.class? = some holder → P holder) :
    StepKeeps P moves.step := by
  intro e e' hStep hNames
  cases e with
  | call c =>
    obtain ⟨target, hTarget, rfl⟩ := Option.map_eq_some_iff.mp hStep
    obtain ⟨callee, dispatchReceiver, extensionReceiver, arguments, typeArguments, type⟩ := c
    simp only [Expression.nodes, Call.nodes, namesOnly_cons, namesOnly_append] at hNames ⊢
    obtain ⟨_, ⟨⟨⟨⟨_, hDispatch⟩, hExtension⟩, hArguments⟩, hTypes⟩, hType⟩ := hNames
    refine ⟨by simp [Node.class?], ⟨⟨⟨⟨?_, ?_⟩, hExtension⟩, hArguments⟩, hTypes⟩, hType⟩
    · exact namesOnly_callable.mpr (h callee target (Moves.mem_of_target? hTarget))
    · unfold dropObject
      split
      · exact namesOnly_nil
      · exact hDispatch
  | constant | readValue | self | readField | object | construct | concatenation |
    typeOperation | «when» | block | unsupported => simp [Moves.step] at hStep

/-- Pointing calls at declared holders conserves the classes of a module. -/
theorem SourceModule.conserves_retarget {m m' : SourceModule} {moves : Moves}
    (h : Conserves m m')
    (hMoves : ∀ id target, (id, target) ∈ moves →
      ∀ holder, target.class? = some holder → holder ∈ m'.actualClasses) :
    Conserves m (m'.retarget moves) := by
  refine h.trans ⟨fun id hid => ?_, ?_⟩
  · rw [SourceModule.retarget, SourceModule.actualClasses_revise]
    exact hid
  · apply SourceModule.namesOnly_revise (Moves.stepKeeps ?_) m' (mayName_of_named m' _)
    intro id target hMem holder hHolder
    have hDeclared := hMoves id target hMem holder hHolder
    rw [← SourceModule.actualClasses_revise m'] at hDeclared
    exact .inr (.inl hDeclared)

end KotlinBackend
