/-
This file proves which contracts evaluation can violate. An expression that was built by the
operations on nodes never lacks an operand that its operator takes, and never has a slice without
an ending, so evaluation cannot run into either; what is left to go wrong is that a test was
never assigned or that a kind was never registered.
-/

import PacketFilter.Proofs.Eval.Operand
import PacketFilter.Proofs.Eval.Truth
import PacketFilter.Proofs.Expr.Run

namespace PacketFilter

/-- Something that should have been done before an expression is evaluated was not: a test was
not assigned, or a kind was not registered. -/
def Fault.IsOmission (fault : Fault) : Prop :=
  fault = .unassignedTest ∨ ∃ kind, fault = .notRegistered kind

/-! ### Operands -/

/-- Slices whose endings are set are taken without violating a contract. -/
theorem FieldRange.sliceValue_ne_fault {field : FieldRef} {slices : SliceSeries}
    (set : ∀ slice ∈ slices.slices, slice.ending ≠ .unset) (whole : Value) (fault : Fault) :
    sliceValue field slices whole ≠ .error (.fault fault) := by
  intro failed
  cases whole with
  | bytes content =>
    obtain ⟨selected?, applied⟩ := SliceSeries.select_of_set set content
    rw [sliceValue, SliceSeries.apply, applied] at failed
    cases failed
  | string text =>
    obtain ⟨selected?, applied⟩ := SliceSeries.select_of_set set (Text.utf8Bytes text)
    rw [sliceValue, SliceSeries.apply, applied] at failed
    cases failed
  | integer | double | absoluteTime | relativeTime => cases failed

theorem FieldRange.sliceValues_ne_fault {field : FieldRef} {slices : SliceSeries}
    (set : ∀ slice ∈ slices.slices, slice.ending ≠ .unset) (wholes : List Value)
    (fault : Fault) : sliceValues field slices wholes ≠ .error (.fault fault) := by
  induction wholes with
  | nil => exact nofun
  | cons whole rest inductionHypothesis =>
    intro failed
    rcases bind_eq_error.mp failed with first | ⟨sliced?, first, failedRest⟩
    · exact sliceValue_ne_fault set whole fault first
    · rcases bind_eq_error.mp failedRest with others | ⟨tail, others, impossible⟩
      · exact inductionHypothesis others
      · cases impossible

/-- The values of a consistent operand are found without violating a contract. -/
theorem Node.Consistent.values_ne_fault {node : Node} (consistent : node.Consistent)
    (source : FieldSource) (fault : Fault) : node.values source ≠ .error (.fault fault) := by
  cases content : node.content with
  | value literal => rw [Node.values_literal content]; exact nofun
  | field reference => rw [Node.values_field content]; exact nofun
  | range range =>
    have set := (consistent.range range content).set
    obtain ⟨field?, slices?⟩ := range
    rw [Node.values_range content]
    match field?, slices? with
    | none, _ => exact nofun
    | some field, none => exact nofun
    | some field, some slices =>
      exact FieldRange.sliceValues_ne_fault (set slices rfl) (source field) fault
  | bare | test =>
    unfold Node.values
    rw [content]
    split <;> simp_all

/-! ### Comparisons -/

/-- Comparing two values violates a contract only if the kind of the left one is not live. -/
theorem Registry.fault_of_compare {registry : Registry} {comparison : Comparison}
    {left right : Value} {fault : Fault}
    (failed : registry.compare comparison left right = .error (.fault fault)) :
    fault = .notRegistered left.kind := by
  rcases bind_eq_error.mp failed with missing | ⟨descriptor, -, compared⟩
  · obtain ⟨missing, found, same⟩ := mapError_eq_error.mp missing
    cases same
    unfold lookup at found
    split at found
    · cases found
    · cases found
      rfl
  · obtain ⟨cause, -, impossible⟩ := mapError_eq_error.mp compared
    cases impossible

namespace Environment

variable {environment : Environment} {fault : Fault}

theorem isOmission_of_compare {comparison : Comparison} {left right : Value}
    (failed : environment.compare comparison left right = .error (.fault fault)) :
    fault.IsOmission := by
  obtain ⟨failure, compared, same⟩ := mapError_eq_error.mp failed
  cases failure with
  | error cause => cases same
  | fault other =>
    cases same
    exact .inr ⟨left.kind, Registry.fault_of_compare compared⟩

theorem isPresent_ne_fault {operand : Node} (consistent : operand.Consistent) :
    environment.isPresent operand ≠ .error (.fault fault) := by
  intro failed
  exact consistent.values_ne_fault _ _ (map_eq_error.mp failed)

theorem isOmission_of_isRelated {comparison : Comparison} {left right : Node}
    (leftConsistent : left.Consistent) (rightConsistent : right.Consistent)
    (failed : environment.isRelated comparison left right = .error (.fault fault)) :
    fault.IsOmission := by
  rcases bind_eq_error.mp failed with leftFailed | ⟨leftValues, -, failedRight⟩
  · exact absurd leftFailed (leftConsistent.values_ne_fault _ _)
  · rcases bind_eq_error.mp failedRight with rightFailed | ⟨rightValues, -, searched⟩
    · exact absurd rightFailed (rightConsistent.values_ne_fault _ _)
    · obtain ⟨leftValue, -, searchedRight⟩ := exists_mem_of_anyM_eq_error searched
      obtain ⟨rightValue, -, compared⟩ := exists_mem_of_anyM_eq_error searchedRight
      exact isOmission_of_compare compared

end Environment

/-! ### Tests -/

/-- Evaluation gets past a consistent node, or the node is no test or one that was never
assigned. -/
theorem Node.Consistent.fault_of_obstacle {node : Node} (consistent : node.Consistent)
    {fault : Fault} (obstacle : node.obstacle? = some (.fault fault)) :
    fault = .unassignedTest := by
  unfold obstacle? at obstacle
  split at obstacle
  · rename_i op first content
    have second := (consistent.test _ content).second
    split at obstacle
    · rename_i double
      exact absurd (second.mpr ⟨op, rfl, double⟩) Bool.false_ne_true
    · cases obstacle
  · cases obstacle
  · cases obstacle
    rfl
  · cases obstacle

/-- Evaluation of a well-formed node violates a contract only by an omission. -/
theorem Node.WellFormed.isOmission_of_truth {environment : Environment} {node : Node}
    {depth : Nat} {fault : Fault} (formed : node.WellFormed)
    (failed : (node.truth environment depth).result = .error (.fault fault)) :
    fault.IsOmission := by
  induction node using Node.testInduction generalizing depth with
  | present node operand second? content =>
    rw [result_truth_present (admits_of_result_fault failed) content] at failed
    exact absurd failed (Environment.isPresent_ne_fault (formed.first content).consistent)
  | not node operand second? content inductionHypothesis =>
    rw [result_truth_not (admits_of_result_fault failed) content] at failed
    exact inductionHypothesis (formed.first content) (map_eq_error.mp failed)
  | connective node op decided left right connective content leftHypothesis rightHypothesis =>
    rw [result_truth_connective (admits_of_result_fault failed) connective content] at failed
    rcases bind_eq_error.mp failed with leftFailed | ⟨holds, -, failedRight⟩
    · exact leftHypothesis (formed.first content) leftFailed
    · split at failedRight
      · cases failedRight
      · exact rightHypothesis (formed.second content) failedRight
  | relation node comparison left right content =>
    rw [result_truth_relation (admits_of_result_fault failed) content] at failed
    exact Environment.isOmission_of_isRelated (formed.first content).consistent
      (formed.second content).consistent failed
  | stuck node failure obstacle =>
    rw [result_truth_stuck (admits_of_result_fault failed) obstacle] at failed
    cases failed
    exact .inl (formed.consistent.fault_of_obstacle obstacle)

/-- Whatever operations are run, every node on the way and every node below it is consistent, and
evaluating one of them never finds an operand missing nor an operator or a slice unset. -/
theorem run_consistent (operations : List Operation) :
    (∀ node ∈ Nodes.run operations, ∀ inner : Node, inner.IsWithin node → inner.Consistent) ∧
    (∀ node ∈ Nodes.run operations, ∀ registry source fault,
      (evaluate registry source node).result = .error (.fault fault) →
        fault = .unassignedTest ∨ ∃ kind, fault = .notRegistered kind) := by
  have formed := Nodes.wellFormed_run operations
  refine ⟨formed, fun node member registry source fault failed => ?_⟩
  unfold evaluate at failed
  rw [Run.result_noting] at failed
  exact (formed node member).isOmission_of_truth failed

/-! ### A run -/

/-- The test `exists eth.src[1:2]` is built and given an operand too many, which changes nothing.
Then a test that was never assigned is negated. -/
def buildingSteps : List Operation :=
  let registry : FilledRegistry := ⟨.standard .standard, .registerAll (.empty _ _)⟩
  [.make (.field registry ⟨"eth.src", .bytes⟩), .make (.new registry (some .range) .bare),
    .change 1 (.attachOne 0 (.withLength 1 2)), .make (.unaryTest registry .present 1),
    .change 2 (.setOperands 1 (some 0)), .make (.new registry (some .test) .bare),
    .make (.unaryTest registry .not 3)]

def negatedPlaceholder : Node :=
  ⟨some .test, 0, .test ⟨some .not, some ⟨some .test, 0, .test .unassigned⟩, none⟩⟩

theorem negatedPlaceholder_mem_run : negatedPlaceholder ∈ Nodes.run buildingSteps := by
  have found : (Nodes.run buildingSteps)[4]? = some negatedPlaceholder := rfl
  exact List.mem_of_getElem? found

/-- What the run leaves behind is consistent, but the test in it still has to be assigned. -/
theorem run_consistent_buildingSteps :
    Node.Consistent ⟨some .test, 0, .test .unassigned⟩ ∧
      (evaluate (.standard .standard) (fun _ => []) negatedPlaceholder).result =
        .error (.fault .unassignedTest) ∧
      Fault.IsOmission .unassignedTest := by
  obtain ⟨consistent, omissions⟩ := run_consistent buildingSteps
  refine ⟨?_, rfl, omissions _ negatedPlaceholder_mem_run (.standard .standard) (fun _ => []) _ rfl⟩
  exact consistent _ negatedPlaceholder_mem_run _ (.operand rfl List.mem_cons_self .self)

end PacketFilter
