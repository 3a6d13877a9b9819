/-
This file says, test by test, what evaluation does. The equations speak of a node through its
content only, since evaluation looks at nothing else, and the induction principle beside them has
one case for each equation: the sorts of tests, with the two connectives as one, and all nodes
that evaluation cannot get past, because they are no test, because they are unassigned, or because
an operand is missing.
-/

import PacketFilter.Eval.Basic

namespace PacketFilter

/-- The truth value of the left operand that decides a connective: its right operand is only
looked at if the left one has the other truth value. -/
def TestOp.deciding? : TestOp → Option Bool
  | .and => some false
  | .or => some true
  | _ => none

theorem TestOp.deciding?_of_logical {op : TestOp} (logical : op = .and ∨ op = .or) :
    ∃ decided, op.deciding? = some decided := by
  rcases logical with rfl | rfl
  · exact ⟨false, rfl⟩
  · exact ⟨true, rfl⟩

theorem TestOp.logical_of_deciding? {op : TestOp} {decided : Bool}
    (connective : op.deciding? = some decided) : op = .and ∨ op = .or := by
  cases op with
  | and => exact .inl rfl
  | or => exact .inr rfl
  | present | not | relation => cases connective

/-- Why a node has no truth value at all, whatever the data and the settings. -/
def Node.obstacle? (node : Node) : Option (Failure EvalError) :=
  match node.content with
  | .test ⟨some op, some _, none⟩ =>
    if op.arity = 2 then some (.fault (.missingOperand op)) else none
  | .test ⟨some _, some _, some _⟩ => none
  | .test _ => some (.fault .unassignedTest)
  | _ => some (.error (.notATest node.typeName))

theorem Environment.admits_of_le {environment : Environment} {depth : Nat}
    (room : depth ≤ environment.registry.settings.maxDepth) : environment.admits depth = true :=
  decide_eq_true room

/-! ### Induction over tests -/

/-- What holds of a test if it holds of its operands holds of every node. -/
@[elab_as_elim]
theorem Node.testInduction {motive : Node → Prop}
    (present : ∀ node operand second?,
      node.content = .test ⟨some .present, some operand, second?⟩ → motive node)
    (not : ∀ node operand second?,
      node.content = .test ⟨some .not, some operand, second?⟩ → motive operand → motive node)
    (connective : ∀ node op decided left right, op.deciding? = some decided →
      node.content = .test ⟨some op, some left, some right⟩ →
        motive left → motive right → motive node)
    (relation : ∀ node comparison left right,
      node.content = .test ⟨some (.relation comparison), some left, some right⟩ → motive node)
    (stuck : ∀ node failure, node.obstacle? = some failure → motive node) :
    ∀ node, motive node
  | ⟨_, _, .test ⟨some op, some first, second?⟩⟩ =>
    match op, second? with
    | .present, second? => present _ first second? rfl
    | .not, second? =>
      not _ first second? rfl (Node.testInduction present not connective relation stuck first)
    | .and, some second =>
      connective _ .and false first second rfl rfl
        (Node.testInduction present not connective relation stuck first)
        (Node.testInduction present not connective relation stuck second)
    | .or, some second =>
      connective _ .or true first second rfl rfl
        (Node.testInduction present not connective relation stuck first)
        (Node.testInduction present not connective relation stuck second)
    | .relation comparison, some second => relation _ comparison first second rfl
    | .and, none | .or, none | .relation _, none => stuck _ _ rfl
  | ⟨_, _, .test ⟨some _, none, _⟩⟩ | ⟨_, _, .test ⟨none, _, _⟩⟩ => stuck _ _ rfl
  | ⟨_, _, .bare⟩ | ⟨_, _, .value _⟩ | ⟨_, _, .field _⟩ | ⟨_, _, .range _⟩ => stuck _ _ rfl

namespace Node

section

variable {environment : Environment} {node : Node} {depth : Nat}

/-! ### The run of a test -/

theorem truth_refused (refused : environment.admits depth = false) :
    node.truth environment depth =
      Run.error (.tooDeep environment.registry.settings.maxDepth) := by
  unfold truth
  rw [refused]
  rfl

theorem truth_present (admitted : environment.admits depth = true) {operand : Node}
    {second? : Option Node}
    (content : node.content = .test ⟨some .present, some operand, second?⟩) :
    node.truth environment depth =
      (Run.ofExcept (environment.isPresent operand)).noting
        (Event.reduced .present depth node) := by
  obtain ⟨kind?, number, inner⟩ := node
  subst content
  rw [truth, admitted]
  rfl

theorem truth_not (admitted : environment.admits depth = true) {operand : Node}
    {second? : Option Node} (content : node.content = .test ⟨some .not, some operand, second?⟩) :
    node.truth environment depth =
      ((operand.truth environment (depth + 1)).map not).noting
        (Event.reduced .not depth node) := by
  obtain ⟨kind?, number, inner⟩ := node
  subst content
  rw [truth, admitted]
  rfl

theorem truth_connective (admitted : environment.admits depth = true) {op : TestOp}
    {decided : Bool} (connective : op.deciding? = some decided) {left right : Node}
    (content : node.content = .test ⟨some op, some left, some right⟩) :
    node.truth environment depth =
      ((left.truth environment (depth + 1)).bind fun holds =>
        if holds = decided then Run.pure decided
        else right.truth environment (depth + 1)).noting (Event.reduced op depth node) := by
  obtain ⟨kind?, number, inner⟩ := node
  subst content
  match op, connective with
  | .and, rfl =>
    rw [truth, admitted]
    refine congrArg (Run.noting _) (congrArg (Run.bind _) (funext fun holds => ?_))
    cases holds <;> rfl
  | .or, rfl =>
    rw [truth, admitted]
    refine congrArg (Run.noting _) (congrArg (Run.bind _) (funext fun holds => ?_))
    cases holds <;> rfl

theorem truth_relation (admitted : environment.admits depth = true) {comparison : Comparison}
    {left right : Node}
    (content : node.content = .test ⟨some (.relation comparison), some left, some right⟩) :
    node.truth environment depth =
      (Run.ofExcept (environment.isRelated comparison left right)).noting
        (Event.reduced (.relation comparison) depth node) := by
  obtain ⟨kind?, number, inner⟩ := node
  subst content
  unfold truth
  rw [admitted]
  rfl

/-- A node that evaluation cannot get past ends the run, before anything is noted. -/
theorem truth_stuck (admitted : environment.admits depth = true) {failure : Failure EvalError}
    (obstacle : node.obstacle? = some failure) :
    node.truth environment depth = Run.fail failure := by
  obtain ⟨kind?, number, inner⟩ := node
  unfold truth
  rw [admitted]
  match inner, obstacle with
  | .bare, rfl | .value _, rfl | .field _, rfl | .range _, rfl => rfl
  | .test ⟨none, _, _⟩, rfl | .test ⟨some _, none, _⟩, rfl => rfl
  | .test ⟨some .and, some _, none⟩, rfl => rfl
  | .test ⟨some .or, some _, none⟩, rfl => rfl
  | .test ⟨some (.relation _), some _, none⟩, rfl => rfl

/-! ### The result of a test -/

theorem result_truth_refused (refused : environment.admits depth = false) :
    (node.truth environment depth).result =
      .error (.error (.tooDeep environment.registry.settings.maxDepth)) := by
  rw [truth_refused refused]
  rfl

/-- Two tests of one level come to the same, if they do where the limit admits the level. -/
theorem result_truth_of_admits {other : Node} (same : environment.admits depth = true →
      (node.truth environment depth).result = (other.truth environment depth).result) :
    (node.truth environment depth).result = (other.truth environment depth).result := by
  cases admitted : environment.admits depth with
  | true => exact same admitted
  | false => rw [result_truth_refused admitted, result_truth_refused admitted]

theorem result_truth_present (admitted : environment.admits depth = true) {operand : Node}
    {second? : Option Node}
    (content : node.content = .test ⟨some .present, some operand, second?⟩) :
    (node.truth environment depth).result = environment.isPresent operand := by
  rw [truth_present admitted content, Run.result_noting]
  rfl

theorem result_truth_not (admitted : environment.admits depth = true) {operand : Node}
    {second? : Option Node} (content : node.content = .test ⟨some .not, some operand, second?⟩) :
    (node.truth environment depth).result =
      (operand.truth environment (depth + 1)).result.map not := by
  rw [truth_not admitted content, Run.result_noting, Run.result_map]

theorem result_truth_connective (admitted : environment.admits depth = true) {op : TestOp}
    {decided : Bool} (connective : op.deciding? = some decided) {left right : Node}
    (content : node.content = .test ⟨some op, some left, some right⟩) :
    (node.truth environment depth).result =
      (left.truth environment (depth + 1)).result.bind fun holds =>
        if holds = decided then .ok decided
        else (right.truth environment (depth + 1)).result := by
  rw [truth_connective admitted connective content, Run.result_noting, Run.result_bind]
  refine congrArg (Except.bind _) (funext fun holds => ?_)
  split <;> rfl

theorem result_truth_relation (admitted : environment.admits depth = true)
    {comparison : Comparison} {left right : Node}
    (content : node.content = .test ⟨some (.relation comparison), some left, some right⟩) :
    (node.truth environment depth).result = environment.isRelated comparison left right := by
  rw [truth_relation admitted content, Run.result_noting]
  rfl

theorem result_truth_stuck (admitted : environment.admits depth = true)
    {failure : Failure EvalError} (obstacle : node.obstacle? = some failure) :
    (node.truth environment depth).result = .error failure := by
  rw [truth_stuck admitted obstacle]
  cases failure <;> rfl

/-! ### The truth value of a test -/

/-- Whatever comes of a test but the error that names the limit, its level is admitted. -/
theorem admits_of_result_ne (other : (node.truth environment depth).result ≠
      .error (.error (.tooDeep environment.registry.settings.maxDepth))) :
    environment.admits depth = true := by
  cases admitted : environment.admits depth with
  | true => rfl
  | false => exact absurd (result_truth_refused admitted) other

theorem admits_of_result_ok {result : Bool}
    (evaluated : (node.truth environment depth).result = .ok result) :
    environment.admits depth = true :=
  admits_of_result_ne fun refused => nomatch evaluated.symm.trans refused

theorem admits_of_result_fault {fault : Fault}
    (failed : (node.truth environment depth).result = .error (.fault fault)) :
    environment.admits depth = true :=
  admits_of_result_ne fun refused => nomatch failed.symm.trans refused

theorem result_not_eq_ok (admitted : environment.admits depth = true) {operand : Node}
    {second? : Option Node} (content : node.content = .test ⟨some .not, some operand, second?⟩)
    {result : Bool} :
    (node.truth environment depth).result = .ok result ↔
      (operand.truth environment (depth + 1)).result = .ok (!result) := by
  rw [result_truth_not admitted content]
  cases (operand.truth environment (depth + 1)).result with
  | error failure => simp [Except.map]
  | ok holds => cases holds <;> cases result <;> simp [Except.map]

/-- A connective has the truth value of its right operand, unless the left one decides it. -/
theorem result_connective_eq_ok (admitted : environment.admits depth = true) {op : TestOp}
    {decided : Bool} (connective : op.deciding? = some decided) {left right : Node}
    (content : node.content = .test ⟨some op, some left, some right⟩) {result : Bool} :
    (node.truth environment depth).result = .ok result ↔
      (left.truth environment (depth + 1)).result = .ok decided ∧ result = decided ∨
        (left.truth environment (depth + 1)).result = .ok (!decided) ∧
          (right.truth environment (depth + 1)).result = .ok result := by
  rw [result_truth_connective admitted connective content]
  cases (left.truth environment (depth + 1)).result with
  | error failure => simp [Except.bind]
  | ok holds => cases holds <;> cases decided <;> simp [Except.bind, eq_comm]

end

end Node

/-- An expression has the truth value of its outermost test. -/
theorem result_evaluate (registry : Registry) (source : FieldSource) (node : Node) :
    (evaluate registry source node).result = (node.truth ⟨registry, source⟩ 0).result :=
  Run.result_noting _ _

end PacketFilter
