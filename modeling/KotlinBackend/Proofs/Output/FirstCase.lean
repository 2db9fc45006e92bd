import KotlinBackend.Output.Body

/-!
# Case distinctions in the output

A case distinction is written as a chain of conditionals. Following the chain, whatever its
conditions turn out to be, leads to the code of the first case that applies; a case with the
condition `true` ends the chain wherever it stands.
-/

namespace KotlinBackend.Output

/-- Where a chain of conditionals leads when at most `count` conditions are tested, the first of
them as number `n`: to the branch of the first condition that holds, or to what stands behind the
last one. Nothing is reached where the last `else` is missing. -/
def Code.follow (holds : Nat → Code → Bool) : (count n : Nat) → Code → Option Code
  | count + 1, n, .conditional condition thenBranch elseBranch =>
    if holds n condition then some thenBranch
    else elseBranch.bind (Code.follow holds count (n + 1))
  | _, _, code => some code

/-- The number of cases before one with the condition `true`. -/
def testedCount (branches : List Branch) : Nat :=
  (branches.takeWhile fun branch => !isTrue branch.condition).length

section Chain

variable (g : Context) (scope : Scope) (holds : Nat → Code → Bool)

/-- A case applies, as number `n`, if its condition is `true` or holds there. -/
def caseApplies (branch : Branch) (n : Nat) : Bool :=
  isTrue branch.condition || holds n (expressionCode g scope branch.condition).value

/-- The first case that applies. The cases are numbered from `n` on. -/
def firstCase (branches : List Branch) (n : Nat) : Option Branch :=
  ((branches.zipIdx n).find? fun numbered => caseApplies g scope holds numbered.1 numbered.2).map
    Prod.fst

theorem firstCase_cons (branch : Branch) (rest : List Branch) (n : Nat) :
    firstCase g scope holds (branch :: rest) n =
      if caseApplies g scope holds branch n then some branch
      else firstCase g scope holds rest (n + 1) := by
  rw [firstCase, List.zipIdx_cons, List.find?_cons]
  cases caseApplies g scope holds branch n <;> rfl

/-- Following the chain of some cases leads to the first one that applies. -/
theorem follow_branchChain (finish : Code → Code) (branches : List Branch) (n : Nat) :
    (branchChain finish (branchParts g scope branches)).value.bind
        (Code.follow holds (testedCount branches) n) =
      (firstCase g scope holds branches n).map fun branch =>
        finish (expressionCode g scope branch.result).value := by
  induction branches generalizing n with
  | nil => rfl
  | cons branch rest ih =>
    obtain ⟨condition, result⟩ := branch
    rw [firstCase_cons, branchParts, branchChain, testedCount, List.takeWhile_cons, caseApplies]
    cases hTrue : isTrue condition with
    -- The chain of the cases behind this one is dropped.
    | true => rfl
    | false =>
      simp only [Tally.value_bind, Tally.value_map, Tally.value_pure, Bool.not_false, if_true,
        Bool.false_or, Bool.false_eq_true, if_false, Option.bind_some, List.length_cons,
        Code.follow]
      split
      · rfl
      · exact ih (n + 1)

/-- The markers in the code of a case. The condition `true` has no code. -/
def caseMarkers (branch : Branch) : Nat :=
  (if isTrue branch.condition then 0 else (expressionCode g scope branch.condition).count) +
    (expressionCode g scope branch.result).count

theorem count_branchChain (finish : Code → Code) (branches : List Branch) :
    (branchChain finish (branchParts g scope branches)).count =
      total (branches.map (caseMarkers g scope)) := by
  induction branches with
  | nil => rfl
  | cons branch rest ih =>
    obtain ⟨condition, result⟩ := branch
    rw [branchParts, branchChain, Tally.count_bind, ih, List.map_cons, total, caseMarkers]
    cases hTrue : isTrue condition with
    | true =>
      simp only [Tally.count_bind, Tally.count_map, if_true, Tally.count_pure]
      omega
    | false =>
      simp only [Tally.count_bind, Tally.count_map, Bool.false_eq_true, if_false, Tally.count_pure]
      omega

/-- Only without cases there is no chain. -/
theorem exists_branchChain (finish : Code → Code) {branches : List Branch} (h : branches ≠ []) :
    ∃ code, (branchChain finish (branchParts g scope branches)).value = some code ∧
      (code.isConditional = true ∨ ∃ result, code = finish result) := by
  obtain ⟨⟨condition, result⟩, rest, rfl⟩ := List.exists_cons_of_ne_nil h
  rw [branchParts, branchChain]
  cases hTrue : isTrue condition with
  | true => exact ⟨_, rfl, .inr ⟨_, rfl⟩⟩
  | false => exact ⟨_, rfl, .inl rfl⟩

theorem whenExpressionCode_of_chain {parts : List BranchParts} {code : Code}
    (h : (branchChain id parts).value = some code) :
    whenExpressionCode parts = ⟨code, (branchChain id parts).count⟩ := by
  simp only [whenExpressionCode, Bind.bind, h]
  rfl

theorem whenStatementCode_of_chain {parts : List BranchParts} {code : Code}
    (h : (branchChain Code.statement parts).value = some code) :
    whenStatementCode parts = ⟨code, (branchChain Code.statement parts).count⟩ := by
  simp only [whenStatementCode, Bind.bind, h]
  rfl

/-- The code of a case distinction: a marker or nothing if there are no cases, and otherwise a chain
that leads to the result of the first case that applies, or to a missing `else` if there is none,
and that has no other markers than its cases. -/
theorem when_leads_to_firstCase (branches : List Branch) (type : SourceType) :
    (branches = [] →
      expressionCode g scope (.when branches type) = Code.mark "EMPTY_WHEN" ∧
        statementCode g scope (.evaluate (.when branches type)) = pure .nothing) ∧
    (branches ≠ [] →
      (expressionCode g scope (.when branches type)).count =
          total (branches.map (caseMarkers g scope)) ∧
        (statementCode g scope (.evaluate (.when branches type))).count =
          total (branches.map (caseMarkers g scope)) ∧
        (statementCode g scope (.evaluate (.when branches type))).value.isNothing = false ∧
        ∀ holds : Nat → Code → Bool,
          (expressionCode g scope (.when branches type)).value.follow holds
              (testedCount branches) 0 =
            (firstCase g scope holds branches 0).map (fun branch =>
              (expressionCode g scope branch.result).value) ∧
          (statementCode g scope (.evaluate (.when branches type))).value.follow holds
              (testedCount branches) 0 =
            (firstCase g scope holds branches 0).map fun branch =>
              .statement (expressionCode g scope branch.result).value) := by
  refine ⟨?_, fun hBranches => ?_⟩
  · rintro rfl
    exact ⟨rfl, rfl⟩
  · obtain ⟨expression, hExpression, -⟩ := exists_branchChain g scope id hBranches
    obtain ⟨statement, hStatement, hShape⟩ :=
      exists_branchChain g scope Code.statement hBranches
    have hSays : statement.isNothing = false := by
      rcases hShape with hConditional | ⟨result, rfl⟩
      · cases statement with
        | nothing => cases hConditional
        | _ => rfl
      · rfl
    rw [expressionCode, statementCode, whenExpressionCode_of_chain hExpression,
      whenStatementCode_of_chain hStatement]
    refine ⟨count_branchChain g scope id branches,
      count_branchChain g scope Code.statement branches, hSays, fun holds => ?_⟩
    have hFollowExpression := follow_branchChain g scope holds id branches 0
    have hFollowStatement := follow_branchChain g scope holds Code.statement branches 0
    rw [hExpression] at hFollowExpression
    rw [hStatement] at hFollowStatement
    exact ⟨hFollowExpression, hFollowStatement⟩

end Chain

/-- A case that always applies stands between two others, and its result is a case distinction. -/
def cutCases : List Branch :=
  let read (name : String) : Expression := .readValue name .boolean
  [⟨read "a", .int 1⟩, ⟨.boolean true, .when [⟨read "c", .int 2⟩] .int⟩, ⟨read "b", .int 3⟩]

theorem when_leads_to_firstCase_cutCases :
    let g : Context := { symbols := SymbolGraph.empty.source, declared := [] }
    let scope : Scope := { owner := .inPackage "app" "MainKt", isStatic := true }
    let inner : Code := .conditional (.text "c") (.text "2") none
    let fails : Nat → Code → Bool := fun _ _ => false
    cutCases ≠ [] ∧
      (expressionCode g scope (.when cutCases .int)).value.follow fails 1 0 = some inner ∧
      (statementCode g scope (.evaluate (.when cutCases .int))).value.follow fails 1 0 =
        some (.statement inner) := by
  intro g scope inner fails
  have hCases : cutCases ≠ [] := List.cons_ne_nil _ _
  obtain ⟨-, -, -, hFollow⟩ := (when_leads_to_firstCase g scope cutCases .int).2 hCases
  exact ⟨hCases, hFollow fails⟩

end KotlinBackend.Output
