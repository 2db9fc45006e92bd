import KotlinBackend.Proofs.Call.Site
import KotlinBackend.Proofs.FacadeClass

/-!
# Where moved callables go

A relocation sends a callable to the facade of the class that it names, if that class is not
declared. Merging sends it to the facade of its file; when several files have a callable of the same
identifier, calls go to the last of them. In both cases the call sites of the module stay, up to
their order.
-/

namespace KotlinBackend

theorem Moves.target?_append (before after : Moves) (id : CallableId) :
    Moves.target? (before ++ after) id = (after.target? id).or (before.target? id) := by
  rw [Moves.target?, List.reverse_append, List.lookup_append, Moves.target?, Moves.target?]

theorem Moves.target?_into (holder : ClassId) (ds : List Declaration) (id : CallableId) :
    (Moves.into holder ds).target? id =
      if ds.any (·.callable? == some id) then some (holder.member id.name) else none := by
  induction ds with
  | nil => rfl
  | cons d rest ih =>
    have hSplit : Moves.into holder (d :: rest) =
        Moves.into holder [d] ++ Moves.into holder rest := by
      simp only [Moves.into, ← List.map_append, ← List.filterMap_append, List.singleton_append]
    have hFirst : (Moves.into holder [d]).target? id =
        if d.callable? == some id then some (holder.member id.name) else none := by
      cases hCallable : d.callable? with
      | none => simp [Moves.into, Moves.target?, hCallable]
      | some callable =>
        by_cases hEq : id = callable
        · simp [Moves.into, Moves.target?, hCallable, hEq, CallableId.movedTo]
        · have hNe : (id == callable) = false := by simpa using hEq
          simp [Moves.into, Moves.target?, hCallable, hNe, Ne.symm hEq]
    rw [hSplit, Moves.target?_append, ih, hFirst, List.any_cons]
    cases rest.any (·.callable? == some id) <;> cases d.callable? == some id <;> rfl

/-- A callable of an identifier is at file level. -/
def SourceModule.HasCallable (m : SourceModule) (id : CallableId) : Prop :=
  ∃ f ∈ m.files, ∃ d ∈ f.declarations, d.callable? = some id

/-- The last file with a callable of an identifier. -/
def SourceModule.lastFileOf? (m : SourceModule) (id : CallableId) : Option SourceFile :=
  m.files.reverse.find? fun f => f.declarations.any (·.callable? == some id)

section Targets

variable {m : SourceModule} {id : CallableId}

theorem SourceModule.lastFileOf?_eq_none_iff : m.lastFileOf? id = none ↔ ¬ m.HasCallable id := by
  simp [SourceModule.lastFileOf?, SourceModule.HasCallable]

theorem SourceModule.mem_of_lastFileOf? {f : SourceFile} (h : m.lastFileOf? id = some f) :
    f ∈ m.files ∧ ∃ d ∈ f.declarations, d.callable? = some id := by
  refine ⟨List.mem_reverse.mp (List.mem_of_find?_eq_some h), ?_⟩
  simpa using List.find?_some h

/-- Merging sends a callable to the facade of the last file that has it. -/
theorem SourceModule.fileMoves_target? (m : SourceModule) (id : CallableId) :
    m.fileMoves.target? id = (m.lastFileOf? id).map fun f => f.facadeId.member id.name := by
  have hFile (f : SourceFile) : (Moves.into f.facadeId f.callables).target? id =
      if f.declarations.any (·.callable? == some id) then some (f.facadeId.member id.name)
      else none := by
    have hAny : f.callables.any (·.callable? == some id) =
        f.declarations.any (·.callable? == some id) := by
      rw [SourceFile.callables, List.any_filter]
      congr 1
      funext d
      cases hCallable : d.callable? <;> simp [Declaration.isCallable, hCallable]
    rw [Moves.target?_into, hAny]
  rw [SourceModule.fileMoves, SourceModule.lastFileOf?]
  induction m.files with
  | nil => rfl
  | cons f rest ih =>
    rw [List.flatMap_cons, Moves.target?_append, ih, hFile, List.reverse_cons, List.find?_append,
      Option.map_or]
    congr 1
    cases hAny : f.declarations.any (·.callable? == some id) <;> simp [hAny]

variable {declared : List ClassId}

theorem Declaration.externalContainer?_eq_some_iff {d : Declaration} {container : ClassId} :
    d.externalContainer? declared = some container ↔
      ∃ id, d.callable? = some id ∧ id.class? = some container ∧ container ∉ declared := by
  simp only [Declaration.externalContainer?, Option.bind_eq_bind, Option.bind_eq_some_iff]
  constructor
  · rintro ⟨id, hid, named, hClass, hSome⟩
    split at hSome
    · cases hSome
    · rename_i hDeclared
      cases hSome
      exact ⟨id, hid, hClass, by simpa using hDeclared⟩
  · rintro ⟨id, hid, hClass, hDeclared⟩
    exact ⟨id, hid, container, hClass, by simp [hDeclared]⟩

/-- A relocation sends a callable to the facade of the class that it names. -/
theorem SourceModule.externalMoves_target?_eq_some_iff {target : CallableId} :
    (m.externalMoves declared).target? id = some target ↔
      m.HasCallable id ∧ ∃ container, id.class? = some container ∧ container ∉ declared ∧
        target = (externalFacadeId container).member id.name := by
  have hFound {target : CallableId} (h : (m.externalMoves declared).target? id = some target) :
      m.HasCallable id ∧ ∃ container, id.class? = some container ∧ container ∉ declared ∧
        target = (externalFacadeId container).member id.name := by
    obtain ⟨⟨container, d⟩, hExternal, hInto⟩ := List.mem_flatMap.mp (Moves.mem_of_target? h)
    obtain ⟨f, hf, hd, hContainer⟩ := SourceModule.mem_externals.mp hExternal
    obtain ⟨id', hid', hClass, hDeclared⟩ :=
      Declaration.externalContainer?_eq_some_iff.mp hContainer
    obtain ⟨rfl, rfl⟩ : id = id' ∧ target = id'.movedTo (externalFacadeId container) := by
      simpa [Moves.into, hid'] using hInto
    exact ⟨⟨f, hf, d, hd, hid'⟩, container, hClass, hDeclared, rfl⟩
  constructor
  · exact hFound
  · rintro ⟨⟨f, hf, d, hd, hid⟩, container, hClass, hDeclared, rfl⟩
    have hContainer : d.externalContainer? declared = some container :=
      Declaration.externalContainer?_eq_some_iff.mpr ⟨id, hid, hClass, hDeclared⟩
    have hMove := SourceModule.mem_externalMoves hf hd hid hContainer
    cases hTarget : (m.externalMoves declared).target? id with
    | none =>
      have hAbsent := List.lookup_eq_none_iff.mp hTarget _ (List.mem_reverse.mpr hMove)
      simp at hAbsent
    | some target =>
      -- whatever is found names the same class
      obtain ⟨_, container', hClass', _, rfl⟩ := hFound hTarget
      obtain rfl : container = container' := Option.some.inj (hClass.symm.trans hClass')
      rfl

variable {site : CallSite}

theorem SourceModule.callee_follow_fileMoves {f : SourceFile}
    (h : m.lastFileOf? site.callee = some f) :
    (m.fileMoves.follow site).callee = f.facadeId.member site.callee.name := by
  rw [Moves.follow, m.fileMoves_target?, h, Option.map_some, Option.getD_some]

theorem SourceModule.follow_fileMoves_of_not (h : ¬ m.HasCallable site.callee) :
    m.fileMoves.follow site = site := by
  rw [Moves.follow, m.fileMoves_target?, SourceModule.lastFileOf?_eq_none_iff.mpr h,
    Option.map_none, Option.getD_none]

theorem SourceModule.callee_follow_externalMoves {container : ClassId}
    (h : m.HasCallable site.callee) (hClass : site.callee.class? = some container)
    (hDeclared : container ∉ declared) :
    ((m.externalMoves declared).follow site).callee =
      (externalFacadeId container).member site.callee.name := by
  have hTarget := SourceModule.externalMoves_target?_eq_some_iff.mpr
    ⟨h, container, hClass, hDeclared, rfl⟩
  rw [Moves.follow, hTarget, Option.getD_some]

/-- A call stays if what it calls is not at file level or names no undeclared class. -/
theorem SourceModule.follow_externalMoves_of_not
    (h : m.HasCallable site.callee →
      ∀ container, site.callee.class? = some container → container ∈ declared) :
    (m.externalMoves declared).follow site = site := by
  have hTarget : (m.externalMoves declared).target? site.callee = none := by
    rw [Option.eq_none_iff_forall_ne_some]
    intro target hTarget
    obtain ⟨hCallable, container, hClass, hUndeclared, _⟩ :=
      SourceModule.externalMoves_target?_eq_some_iff.mp hTarget
    exact hUndeclared (h hCallable container hClass)
  rw [Moves.follow, hTarget, Option.getD_none]

end Targets

theorem Declaration.sites_moveInto (holder : ClassId) (d : Declaration) :
    sitesIn (d.moveInto holder).nodes = sitesIn d.nodes := by
  cases d with
  | function decl =>
    simp [Declaration.moveInto, Declaration.nodes, FunctionDecl.nodes, Node.site?]
  | property decl =>
    simp [Declaration.moveInto, Declaration.nodes, PropertyDecl.nodes, Node.site?]
  | ofClass | constructor | field => rfl

theorem sitesIn_listNodes (ds : List Declaration) :
    sitesIn (Declaration.listNodes ds) = ds.flatMap fun d => sitesIn d.nodes := by
  induction ds with
  | nil => rfl
  | cons d rest ih => rw [Declaration.listNodes, sitesIn_append, ih, List.flatMap_cons]

theorem SourceFile.sitesIn_nodes (f : SourceFile) :
    sitesIn f.nodes = f.declarations.flatMap fun d => sitesIn d.nodes := by
  simp [SourceFile.nodes, Node.site?, sitesIn_listNodes]

theorem SourceModule.sites_eq (m : SourceModule) :
    m.sites = m.files.flatMap fun f => f.declarations.flatMap fun d => sitesIn d.nodes := by
  simp only [SourceModule.sites, SourceModule.nodes, sitesIn_flatMap, SourceFile.sitesIn_nodes]

/-- A facade has the call sites of what moved into it. -/
theorem sitesIn_facade (id : ClassId) (origin : Origin) (members : List Declaration) :
    sitesIn (Declaration.ofClass
      (facadeClass id origin (members.map (Declaration.moveInto id)))).nodes =
        members.flatMap fun d => sitesIn d.nodes := by
  simp [Declaration.nodes, facadeClass, ClassDecl.nodes, Node.site?, sitesIn_listNodes,
    List.flatMap_map, Declaration.sites_moveInto]

section Groups

variable {κ α : Type} [DecidableEq κ]

theorem flatMap_single {keys : List κ} (h : keys.Nodup) (k : κ) (a : α) :
    (keys.flatMap fun key => if k = key then [a] else []) = if k ∈ keys then [a] else [] := by
  induction keys with
  | nil => rfl
  | cons key rest ih =>
    obtain ⟨hFresh, hRest⟩ := List.nodup_cons.mp h
    rw [List.flatMap_cons, ih hRest]
    by_cases hKey : k = key
    · subst hKey
      rw [if_pos rfl, if_neg hFresh, if_pos List.mem_cons_self, List.append_nil]
    · simp [hKey]

/-- What is put into groups by a key is all there, each once. -/
theorem perm_groups {keys : List κ} (h : keys.Nodup) (pairs : List (κ × α))
    (hKeys : ∀ pair ∈ pairs, pair.1 ∈ keys) :
    (keys.flatMap fun key => pairs.filterMap fun (k, a) => if k = key then some a else none).Perm
      (pairs.map (·.2)) := by
  induction pairs with
  | nil => simp
  | cons pair rest ih =>
    obtain ⟨k, a⟩ := pair
    obtain ⟨hk, hRest⟩ := List.forall_mem_cons.mp hKeys
    have hHead (key : κ) :
        (((k, a) :: rest).filterMap fun (k, a) => if k = key then some a else none) =
          (if k = key then [a] else []) ++
            rest.filterMap fun (k, a) => if k = key then some a else none := by
      by_cases hKey : k = key <;> simp [hKey]
    simp only [hHead]
    refine (List.flatMap_append_perm keys _ _).symm.trans ?_
    rw [flatMap_single h, if_pos hk, List.map_cons]
    exact (ih hRest).cons a

end Groups

section Sites

variable (declared : List ClassId) (m : SourceModule)

/-- The declarations that stay in their files, and those that have to move. -/
theorem Declaration.perm_externals (ds : List Declaration) :
    ds.Perm ((ds.filter fun d => (d.externalContainer? declared).isNone) ++
      (ds.filterMap fun d => (d.externalContainer? declared).map (·, d)).map (·.2)) := by
  induction ds with
  | nil => simp
  | cons d rest ih =>
    cases hContainer : d.externalContainer? declared with
    | none => simpa [hContainer] using ih
    | some container =>
      simp only [hContainer, Option.isNone_some, Bool.false_eq_true, not_false_eq_true,
        List.filter_cons_of_neg, List.filterMap_cons, Option.map_some, List.map_cons]
      exact (ih.cons d).trans List.perm_middle.symm

theorem SourceModule.perm_externalMembers :
    ((m.externalContainers declared).flatMap (m.externalMembers declared)).Perm
      ((m.externals declared).map (·.2)) :=
  perm_groups (nodup_distinct _) _ fun _ hPair => mem_distinct.mpr (List.mem_map_of_mem hPair)

theorem SourceModule.sites_withFacades : (m.withFacades declared).sites.Perm m.sites := by
  let sites (d : Declaration) : List CallSite := sitesIn d.nodes
  let moving (f : SourceFile) : List Declaration :=
    (f.declarations.filterMap fun d => (d.externalContainer? declared).map (·, d)).map (·.2)
  have hGroups : ((m.externalContainers declared).flatMap (m.externalMembers declared)).Perm
      (m.files.flatMap moving) := by
    have hMoving : m.files.flatMap moving = (m.externals declared).map (·.2) := by
      rw [SourceModule.externals, List.map_flatMap]
    rw [hMoving]
    exact m.perm_externalMembers declared
  have hFile (f : SourceFile) : ((f.withoutExternals declared).declarations.flatMap sites ++
      (moving f).flatMap sites).Perm (f.declarations.flatMap sites) := by
    rw [← List.flatMap_append]
    exact ((Declaration.perm_externals declared f.declarations).flatMap_right sites).symm
  have hSites : (m.withFacades declared).sites =
      (m.files.flatMap fun f => (f.withoutExternals declared).declarations.flatMap sites) ++
        ((m.externalContainers declared).flatMap (m.externalMembers declared)).flatMap sites := by
    simp only [SourceModule.sites_eq, SourceModule.withFacades, SourceModule.externalFiles,
      List.flatMap_append, List.flatMap_map, externalFacadeFile, List.flatMap_singleton,
      sitesIn_facade, List.flatMap_assoc, sites]
  rw [hSites, SourceModule.sites_eq]
  refine ((hGroups.flatMap_right sites).append_left _).trans ?_
  rw [List.flatMap_assoc]
  refine (List.flatMap_append_perm m.files _ _).trans ?_
  exact List.Perm.flatMap_left m.files fun f _ => hFile f

theorem Moves.follow_nil (site : CallSite) : Moves.follow [] site = site := rfl

theorem sites_relocateExternals :
    (relocateExternals declared m).value.sites.Perm
      (m.sites.map (m.externalMoves declared).follow) := by
  rw [relocateExternals_value]
  split
  · rename_i hEmpty
    have hMoves : m.externalMoves declared = [] := by
      rw [SourceModule.externalMoves, List.isEmpty_iff.mp hEmpty, List.flatMap_nil]
    rw [hMoves, List.map_congr_left fun site _ => Moves.follow_nil site, List.map_id']
  · rw [SourceModule.sites_retarget]
    exact (m.sites_withFacades declared).map _

theorem SourceFile.sites_mergeFacade (f : SourceFile) :
    (f.mergeFacade.value.declarations.flatMap fun d => sitesIn d.nodes).Perm
      (f.declarations.flatMap fun d => sitesIn d.nodes) := by
  rw [SourceFile.mergeFacade_value]
  split
  · exact .refl _
  · rw [List.flatMap_append, List.flatMap_singleton, sitesIn_facade, ← List.flatMap_append]
    refine List.Perm.flatMap_right _ (List.perm_append_comm.trans ?_)
    exact List.filter_append_perm Declaration.isCallable f.declarations

theorem SourceModule.sites_withFileFacades : m.withFileFacades.sites.Perm m.sites := by
  rw [SourceModule.sites_eq, SourceModule.sites_eq, SourceModule.withFileFacades, List.flatMap_map]
  exact List.Perm.flatMap_left _ fun f _ => f.sites_mergeFacade

theorem sites_mergeFileFacades :
    (mergeFileFacades m).value.sites.Perm (m.sites.map m.fileMoves.follow) := by
  rw [mergeFileFacades_value, SourceModule.sites_retarget]
  exact m.sites_withFileFacades.map _

end Sites

end KotlinBackend
