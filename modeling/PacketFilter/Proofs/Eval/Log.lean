/-
This file says what the debug log of an evaluation holds. Every test that evaluation enters and
finds a truth value for has one record there, after the records of the tests below it and no
others; the records therefore stand in the post-order of the expression, with gaps where
evaluation did not look. What a record says is true of its test taken by itself. An evaluation
that comes to a result closes its log with one more record; one that fails leaves out the test
that it failed at and the tests above that one, and nothing else that it entered.
-/

import Mathlib.Data.List.Forall2
import PacketFilter.Proofs.Eval.DepthLimit
import PacketFilter.Proofs.Eval.Reading
import PacketFilter.Proofs.Outcome

namespace PacketFilter

/-! ### Positions -/

/-- The operand of a node on a side, if the node is a test that has one there. -/
def Node.operand? (node : Node) (side : Side) : Option Node :=
  match node.content, side with
  | .test ⟨_, first?, _⟩, .first => first?
  | .test ⟨_, _, second?⟩, .second => second?
  | _, _ => none

/-- The operator of a node, if it is a test that has one. -/
def Node.operator? (node : Node) : Option TestOp :=
  match node.content with
  | .test ⟨op?, _, _⟩ => op?
  | _ => none

/-- The node at a position below a node. -/
def Node.below? : Node → Position → Option Node
  | node, [] => some node
  | node, side :: position => (node.operand? side).bind (·.below? position)

/-- Post-order: the tests below a test come before it, and those below its first operand before
those below its second one. -/
inductive Position.Precedes : Position → Position → Prop
  | under (side : Side) (rest : Position) : Precedes (side :: rest) []
  | across (left right : Position) : Precedes (.first :: left) (.second :: right)
  | within (side : Side) {left right : Position} (precedes : Precedes left right) :
      Precedes (side :: left) (side :: right)

/-- No position precedes itself, so positions in post-order are distinct. -/
theorem Position.not_precedes_self (position : Position) : ¬ Precedes position position := by
  induction position with
  | nil => exact nofun
  | cons side rest inductionHypothesis =>
    intro precedes
    cases precedes with
    | within _ inner => exact inductionHypothesis inner

theorem Position.nodup_of_precedes {positions : List Position}
    (sorted : positions.Pairwise Precedes) : positions.Nodup := by
  refine List.Pairwise.imp ?_ sorted
  rintro left right precedes rfl
  exact not_precedes_self left precedes

namespace Node

/-- What evaluation comes to at the node at a position below a node that is evaluated at a
level. -/
def ResultAt (environment : Environment) (node : Node) (depth : Nat) (position : Position)
    (outcome : Except (Failure EvalError) Bool) : Prop :=
  ∃ inner, node.below? position = some inner ∧
    (inner.truth environment (depth + position.length)).result = outcome

/-- The evaluation of a node at a level enters the test at a position and reduces it to a truth
value. -/
def Reduces (environment : Environment) (node : Node) (depth : Nat) (position : Position) :
    Prop :=
  node.Enters environment depth position ∧
    ∃ result, node.ResultAt environment depth position (.ok result)

section

variable {environment : Environment} {node : Node} {depth : Nat} {position : Position}

/-! ### One step down -/

theorem operand?_first {op? : Option TestOp} {first? second? : Option Node}
    (content : node.content = .test ⟨op?, first?, second?⟩) : node.operand? .first = first? := by
  unfold operand?
  rw [content]

theorem operand?_second {op? : Option TestOp} {first? second? : Option Node}
    (content : node.content = .test ⟨op?, first?, second?⟩) :
    node.operand? .second = second? := by
  unfold operand?
  rw [content]

theorem operator?_test {op? : Option TestOp} {first? second? : Option Node}
    (content : node.content = .test ⟨op?, first?, second?⟩) : node.operator? = op? := by
  unfold operator?
  rw [content]

theorem below?_cons {operand : Node} {side : Side} (isOperand : node.operand? side = some operand) :
    node.below? (side :: position) = operand.below? position := by
  rw [below?, isOperand]
  rfl

theorem resultAt_nil {outcome : Except (Failure EvalError) Bool} :
    node.ResultAt environment depth [] outcome ↔
      (node.truth environment depth).result = outcome :=
  ⟨fun ⟨_, same, comes⟩ => Option.some.inj same ▸ comes, fun comes => ⟨node, rfl, comes⟩⟩

theorem resultAt_cons {operand : Node} {side : Side}
    (isOperand : node.operand? side = some operand) {outcome : Except (Failure EvalError) Bool} :
    node.ResultAt environment depth (side :: position) outcome ↔
      operand.ResultAt environment (depth + 1) position outcome := by
  unfold ResultAt
  rw [below?_cons isOperand, List.length_cons, Nat.add_right_comm, Nat.add_assoc depth]

theorem reduces_nil_of_ok {result : Bool}
    (evaluated : (node.truth environment depth).result = .ok result) :
    node.Reduces environment depth [] :=
  ⟨.here node depth, result, resultAt_nil.mpr evaluated⟩

theorem not_reduces_nil_of_error {failure : Failure EvalError}
    (failed : (node.truth environment depth).result = .error failure) :
    ¬ node.Reduces environment depth [] := by
  rintro ⟨-, result, evaluated⟩
  rw [resultAt_nil, failed] at evaluated
  cases evaluated

/-- The tests that a step down leads to are reduced as they are from there. -/
theorem reduces_cons {operand : Node} {side : Side}
    (isOperand : node.operand? side = some operand)
    (enters : node.Enters environment depth (side :: position) ↔
      operand.Enters environment (depth + 1) position) :
    node.Reduces environment depth (side :: position) ↔
      operand.Reduces environment (depth + 1) position := by
  unfold Reduces
  rw [enters]
  simp only [resultAt_cons isOperand]

/-! ### Which tests are entered -/

/-- Nothing below a test is entered that evaluation does not get past. -/
theorem eq_nil_of_enters_refused (refused : environment.admits depth = false)
    (entered : node.Enters environment depth position) : position = [] := by
  cases entered with
  | here => rfl
  | not admitted | left admitted | right admitted => cases refused.symm.trans admitted

/-- No test below the node is ever evaluated: the node is no negation, and no connective that has
both its operands. -/
def IsLeaf (node : Node) : Prop :=
  ∀ op first second?, node.content = .test ⟨some op, some first, second?⟩ →
    op ≠ .not ∧ (op.deciding?.isSome → second? = none)

theorem isLeaf_present {operand : Node} {second? : Option Node}
    (content : node.content = .test ⟨some .present, some operand, second?⟩) : node.IsLeaf := by
  intro op first other? same
  cases content.symm.trans same
  exact ⟨nofun, nofun⟩

theorem isLeaf_relation {comparison : Comparison} {left right : Node}
    (content : node.content = .test ⟨some (.relation comparison), some left, some right⟩) :
    node.IsLeaf := by
  intro op first second? same
  cases content.symm.trans same
  exact ⟨nofun, nofun⟩

theorem isLeaf_of_obstacle {failure : Failure EvalError}
    (obstacle : node.obstacle? = some failure) : node.IsLeaf := by
  intro op first second? same
  unfold obstacle? at obstacle
  rw [same] at obstacle
  cases second? with
  | some second => cases obstacle
  | none =>
    refine ⟨?_, fun _ => rfl⟩
    rintro rfl
    cases obstacle

theorem IsLeaf.eq_nil_of_enters (leaf : node.IsLeaf)
    (entered : node.Enters environment depth position) : position = [] := by
  cases entered with
  | here => rfl
  | not admitted content => exact absurd rfl (leaf _ _ _ content).1
  | left admitted connective content | right admitted connective content =>
    cases (leaf _ _ _ content).2 (by rw [connective]; rfl)

theorem enters_not (position : Position) {operand : Node} {second? : Option Node}
    (admitted : environment.admits depth = true)
    (content : node.content = .test ⟨some .not, some operand, second?⟩) :
    node.Enters environment depth position ↔
      position = [] ∨
        ∃ rest, position = .first :: rest ∧ operand.Enters environment (depth + 1) rest := by
  constructor
  · intro entered
    cases entered with
    | here => exact .inl rfl
    | not _ same below =>
      cases content.symm.trans same
      exact .inr ⟨_, rfl, below⟩
    | left _ connective same | right _ connective same =>
      cases content.symm.trans same
      cases connective
  · rintro (rfl | ⟨rest, rfl, below⟩)
    · exact .here node depth
    · exact .not admitted content below

theorem enters_connective (position : Position) {op : TestOp} {decided : Bool} {left right : Node}
    (admitted : environment.admits depth = true) (connective : op.deciding? = some decided)
    (content : node.content = .test ⟨some op, some left, some right⟩) :
    node.Enters environment depth position ↔
      position = [] ∨
        (∃ rest, position = .first :: rest ∧ left.Enters environment (depth + 1) rest) ∨
        (left.truth environment (depth + 1)).result = .ok (!decided) ∧
          ∃ rest, position = .second :: rest ∧ right.Enters environment (depth + 1) rest := by
  constructor
  · intro entered
    cases entered with
    | here => exact .inl rfl
    | not _ same =>
      cases content.symm.trans same
      cases connective
    | left _ _ same below =>
      cases content.symm.trans same
      exact .inr (.inl ⟨_, rfl, below⟩)
    | right _ other same leftOpen below =>
      cases content.symm.trans same
      cases connective.symm.trans other
      exact .inr (.inr ⟨leftOpen, _, rfl, below⟩)
  · rintro (rfl | ⟨rest, rfl, below⟩ | ⟨leftOpen, rest, rfl, below⟩)
    · exact .here node depth
    · exact .left admitted connective content below
    · exact .right admitted connective content leftOpen below

/-! ### The trace of a test -/

/-- What the log says about the test at a position of a node that is evaluated at a level: its
operator, its level, the test itself and what evaluation comes to there. -/
def Reports (environment : Environment) (node : Node) (depth : Nat) (position : Position)
    (event : Event) : Prop :=
  ∃ inner op result, node.below? position = some inner ∧ inner.operator? = some op ∧
    node.ResultAt environment depth position (.ok result) ∧
    event = .reduced op (depth + position.length) inner result

/-- Positions that the log of a node goes through: the ones whose tests are reduced, in
post-order. -/
structure IsTrace (environment : Environment) (node : Node) (depth : Nat)
    (visited : List Position) (events : List Event) : Prop where
  sorted : visited.Pairwise Position.Precedes
  mem_iff : ∀ position, position ∈ visited ↔ node.Reduces environment depth position
  reports : List.Forall₂ (node.Reports environment depth) visited events

/-- What is known of the tests that are strictly below a node: a trace without the node. -/
structure IsTraceBelow (environment : Environment) (node : Node) (depth : Nat)
    (visited : List Position) (events : List Event) : Prop where
  sorted : visited.Pairwise Position.Precedes
  mem_iff : ∀ position,
    position ∈ visited ↔ position ≠ [] ∧ node.Reduces environment depth position
  reports : List.Forall₂ (node.Reports environment depth) visited events

theorem reports_cons {operand : Node} {side : Side}
    (isOperand : node.operand? side = some operand) {event : Event} :
    node.Reports environment depth (side :: position) event ↔
      operand.Reports environment (depth + 1) position event := by
  unfold Reports
  simp only [below?_cons isOperand, resultAt_cons isOperand, List.length_cons]
  rw [show depth + (position.length + 1) = depth + 1 + position.length by omega]

/-- A trace of an operand, seen from the node that it is an operand of. -/
theorem IsTrace.under {operand : Node} {side : Side} {visited : List Position}
    {events : List Event} (isOperand : node.operand? side = some operand)
    (trace : operand.IsTrace environment (depth + 1) visited events) :
    (visited.map (side :: ·)).Pairwise Position.Precedes ∧
      List.Forall₂ (node.Reports environment depth) (visited.map (side :: ·)) events := by
  constructor
  · rw [List.pairwise_map]
    exact trace.sorted.imp (.within side)
  · rw [List.forall₂_map_left_iff]
    exact trace.reports.imp fun _ _ => (reports_cons isOperand).mpr

/-- Nothing is below a node of which evaluation enters nothing else. -/
theorem IsTraceBelow.nil
    (alone : ∀ position, node.Enters environment depth position → position = []) :
    node.IsTraceBelow environment depth [] [] where
  sorted := .nil
  mem_iff position :=
    ⟨nofun, fun ⟨isBelow, reduces⟩ => absurd (alone position reduces.1) isBelow⟩
  reports := .nil

theorem IsLeaf.isTraceBelow (leaf : node.IsLeaf) (environment : Environment) (depth : Nat) :
    node.IsTraceBelow environment depth [] [] :=
  .nil fun _ => leaf.eq_nil_of_enters

/-- Below a node of which only the first operand is entered lies what is reduced there. -/
theorem IsTraceBelow.ofFirst {operand : Node} {visited : List Position} {events : List Event}
    (isOperand : node.operand? .first = some operand)
    (enters : ∀ rest, node.Enters environment depth (.first :: rest) ↔
      operand.Enters environment (depth + 1) rest)
    (closed : ∀ rest, ¬ node.Enters environment depth (.second :: rest))
    (trace : operand.IsTrace environment (depth + 1) visited events) :
    node.IsTraceBelow environment depth (visited.map (.first :: ·)) events where
  sorted := (trace.under isOperand).1
  mem_iff
    | [] => by simp
    | .first :: rest => by simp [trace.mem_iff, reduces_cons isOperand (enters rest)]
    | .second :: rest => by simp [show ¬ node.Reduces environment depth (.second :: rest) from
        fun reduces => closed rest reduces.1]
  reports := (trace.under isOperand).2

/-- Below a node of which both operands are entered lies what is reduced in the first one, and
then what is reduced in the second one. -/
theorem IsTraceBelow.ofBoth {left right : Node} {leftVisited rightVisited : List Position}
    {leftEvents rightEvents : List Event} (isLeft : node.operand? .first = some left)
    (isRight : node.operand? .second = some right)
    (entersLeft : ∀ rest, node.Enters environment depth (.first :: rest) ↔
      left.Enters environment (depth + 1) rest)
    (entersRight : ∀ rest, node.Enters environment depth (.second :: rest) ↔
      right.Enters environment (depth + 1) rest)
    (leftTrace : left.IsTrace environment (depth + 1) leftVisited leftEvents)
    (rightTrace : right.IsTrace environment (depth + 1) rightVisited rightEvents) :
    node.IsTraceBelow environment depth
      (leftVisited.map (.first :: ·) ++ rightVisited.map (.second :: ·))
      (leftEvents ++ rightEvents) where
  sorted := by
    refine List.pairwise_append.mpr
      ⟨(leftTrace.under isLeft).1, (rightTrace.under isRight).1, ?_⟩
    intro first inLeft second inRight
    obtain ⟨leftRest, -, rfl⟩ := List.mem_map.mp inLeft
    obtain ⟨rightRest, -, rfl⟩ := List.mem_map.mp inRight
    exact .across leftRest rightRest
  mem_iff
    | [] => by simp
    | .first :: rest => by simp [leftTrace.mem_iff, reduces_cons isLeft (entersLeft rest)]
    | .second :: rest => by simp [rightTrace.mem_iff, reduces_cons isRight (entersRight rest)]
  reports := List.rel_append (leftTrace.under isLeft).2 (rightTrace.under isRight).2

/-- A node that fails leaves no record of its own. -/
theorem IsTraceBelow.of_error {visited : List Position} {events : List Event}
    (trace : node.IsTraceBelow environment depth visited events) {failure : Failure EvalError}
    (failed : (node.truth environment depth).result = .error failure) :
    node.IsTrace environment depth visited events where
  sorted := trace.sorted
  mem_iff position := by
    rw [trace.mem_iff]
    refine and_iff_right_of_imp fun reduces isRoot => ?_
    exact not_reduces_nil_of_error failed (isRoot ▸ reduces)
  reports := trace.reports

/-- The record of a node comes after the records of the tests below it. -/
theorem IsTraceBelow.of_ok {op : TestOp} {result : Bool} {visited : List Position}
    {events : List Event} (trace : node.IsTraceBelow environment depth visited events)
    (isTest : node.operator? = some op)
    (evaluated : (node.truth environment depth).result = .ok result) :
    node.IsTrace environment depth (visited ++ [[]])
      (events ++ [.reduced op depth node result]) where
  sorted := by
    refine List.pairwise_append.mpr ⟨trace.sorted, List.pairwise_singleton _ _, ?_⟩
    intro position isVisited root isRoot
    rw [List.mem_singleton.mp isRoot]
    cases position with
    | nil => exact absurd rfl ((trace.mem_iff []).mp isVisited).1
    | cons side rest => exact .under side rest
  mem_iff position := by
    rw [List.mem_append, List.mem_singleton, trace.mem_iff]
    by_cases isRoot : position = []
    · rw [isRoot]
      exact iff_of_true (.inr rfl) (reduces_nil_of_ok evaluated)
    · simp only [isRoot, or_false, ne_eq, not_false_eq_true, true_and]
  reports := by
    refine List.rel_append trace.reports (.cons ?_ .nil)
    exact ⟨node, op, result, rfl, isTest, resultAt_nil.mpr evaluated, rfl⟩

/-- A node notes its own truth value, if it has one, after what was noted below it. -/
theorem IsTraceBelow.noting {op : TestOp} {run : Run Bool} {visited : List Position}
    {events : List Event} (trace : node.IsTraceBelow environment depth visited events)
    (isTest : node.operator? = some op)
    (truth : node.truth environment depth = run.noting (Event.reduced op depth node))
    (log : run.log = events) :
    ∃ all, node.IsTrace environment depth all (node.truth environment depth).log := by
  have result : (node.truth environment depth).result = run.result := by
    rw [truth, Run.result_noting]
  cases found : run.result with
  | error failure =>
    refine ⟨visited, ?_⟩
    rw [truth, Run.log_noting_of_error _ found, log]
    exact trace.of_error (result.trans found)
  | ok holds =>
    refine ⟨visited ++ [[]], ?_⟩
    rw [truth, Run.log_noting_of_ok _ found, log]
    exact trace.of_ok isTest (result.trans found)

/-- It is enough to look at levels that the limit admits. -/
theorem exists_trace_of_admits
    (trace : environment.admits depth = true →
      ∃ visited, node.IsTrace environment depth visited (node.truth environment depth).log) :
    ∃ visited, node.IsTrace environment depth visited (node.truth environment depth).log := by
  cases admitted : environment.admits depth with
  | true => exact trace admitted
  | false =>
    have alone : node.IsTraceBelow environment depth [] [] :=
      .nil fun _ => eq_nil_of_enters_refused admitted
    refine ⟨[], ?_⟩
    rw [truth_refused admitted]
    exact alone.of_error (result_truth_refused admitted)

/-- The log of a node goes through the tests that are reduced, in post-order, and says of each
what is true of it. -/
theorem exists_trace (environment : Environment) (node : Node) (depth : Nat) :
    ∃ visited, node.IsTrace environment depth visited (node.truth environment depth).log := by
  induction node using Node.testInduction generalizing depth with
  | present node operand second? content =>
    refine exists_trace_of_admits fun admitted => ?_
    have alone := (isLeaf_present content).isTraceBelow environment depth
    exact alone.noting (operator?_test content) (truth_present admitted content) rfl
  | not node operand second? content inductionHypothesis =>
    refine exists_trace_of_admits fun admitted => ?_
    obtain ⟨visited, trace⟩ := inductionHypothesis (depth + 1)
    have enters := fun position => enters_not position admitted content
    have below := IsTraceBelow.ofFirst (operand?_first content) (by simp [enters])
      (by simp [enters]) trace
    exact below.noting (operator?_test content) (truth_not admitted content) rfl
  | connective node op decided left right connective content leftHypothesis rightHypothesis =>
    refine exists_trace_of_admits fun admitted => ?_
    obtain ⟨leftVisited, leftTrace⟩ := leftHypothesis (depth + 1)
    obtain ⟨rightVisited, rightTrace⟩ := rightHypothesis (depth + 1)
    have isLeft := operand?_first content
    have isRight := operand?_second content
    have isTest := operator?_test content
    have truth := truth_connective admitted connective content
    have enters := fun position => enters_connective position admitted connective content
    have entersLeft : ∀ rest, node.Enters environment depth (.first :: rest) ↔
        left.Enters environment (depth + 1) rest := by simp [enters]
    cases leftResult : (left.truth environment (depth + 1)).result with
    | error failure =>
      have below := IsTraceBelow.ofFirst isLeft entersLeft (by simp [enters, leftResult]) leftTrace
      exact below.noting isTest truth (Run.log_bind_of_error leftResult)
    | ok holds =>
      by_cases decides : holds = decided
      · have below := IsTraceBelow.ofFirst isLeft entersLeft
          (by simp [enters, leftResult, decides]) leftTrace
        refine below.noting isTest truth ?_
        rw [Run.log_bind_of_ok leftResult, if_pos decides]
        exact List.append_nil _
      · have leftOpen := Bool.eq_not_of_ne decides
        have below := IsTraceBelow.ofBoth isLeft isRight entersLeft
          (by simp [enters, leftResult, leftOpen]) leftTrace rightTrace
        refine below.noting isTest truth ?_
        rw [Run.log_bind_of_ok leftResult, if_neg decides]
  | relation node comparison left right content =>
    refine exists_trace_of_admits fun admitted => ?_
    have alone := (isLeaf_relation content).isTraceBelow environment depth
    exact alone.noting (operator?_test content) (truth_relation admitted content) rfl
  | stuck node failure obstacle =>
    refine exists_trace_of_admits fun admitted => ?_
    have alone := (isLeaf_of_obstacle obstacle).isTraceBelow environment depth
    have log : (node.truth environment depth).log = [] := by
      rw [truth_stuck admitted obstacle]
      cases failure <;> rfl
    refine ⟨[], ?_⟩
    rw [log]
    exact alone.of_error (result_truth_stuck admitted obstacle)

/-! ### The test that a failure comes from -/

/-- Evaluation of a node at a level fails at the test at a position: it enters the test and fails
there, and it reduces every test that it enters except that one and the tests above it. -/
structure FailsAt (environment : Environment) (node : Node) (depth : Nat)
    (failure : Failure EvalError) (failing : Position) : Prop where
  enters : node.Enters environment depth failing
  result : node.ResultAt environment depth failing (.error failure)
  reduces_iff : ∀ position, node.Enters environment depth position →
    (node.Reduces environment depth position ↔ ¬ position <+: failing)

/-- Where evaluation comes to a truth value, it reduces every test that it enters. -/
theorem reduces_of_ok {result : Bool}
    (evaluated : (node.truth environment depth).result = .ok result)
    (entered : node.Enters environment depth position) :
    node.Reduces environment depth position := by
  induction entered generalizing result with
  | here => exact reduces_nil_of_ok evaluated
  | not admitted content below inductionHypothesis =>
    have enters := fun position => enters_not position admitted content
    rw [result_not_eq_ok admitted content] at evaluated
    exact (reduces_cons (operand?_first content) (by simp [enters])).mpr
      (inductionHypothesis evaluated)
  | left admitted connective content below inductionHypothesis =>
    have enters := fun position => enters_connective position admitted connective content
    refine (reduces_cons (operand?_first content) (by simp [enters])).mpr ?_
    rcases (result_connective_eq_ok admitted connective content).mp evaluated with
      ⟨leftResult, -⟩ | ⟨leftResult, -⟩
    · exact inductionHypothesis leftResult
    · exact inductionHypothesis leftResult
  | right admitted connective content leftOpen below inductionHypothesis =>
    have enters := fun position => enters_connective position admitted connective content
    refine (reduces_cons (operand?_second content) (by simp [enters, leftOpen])).mpr ?_
    rcases (result_connective_eq_ok admitted connective content).mp evaluated with
      ⟨leftDecides, -⟩ | ⟨-, rightResult⟩
    · exact absurd (Except.ok.inj (leftDecides.symm.trans leftOpen)) (by simp)
    · exact inductionHypothesis rightResult

/-- A node fails at itself if nothing below it is entered. -/
theorem failsAt_nil {failure : Failure EvalError}
    (alone : ∀ position, node.Enters environment depth position → position = [])
    (failed : (node.truth environment depth).result = .error failure) :
    node.FailsAt environment depth failure [] where
  enters := .here node depth
  result := resultAt_nil.mpr failed
  reduces_iff position entered := by
    rw [alone position entered]
    exact iff_of_false (not_reduces_nil_of_error failed) fun isAbove => isAbove (List.prefix_refl _)

/-- A node fails where an operand of it fails, if what it entered besides is reduced. -/
theorem FailsAt.under {operand : Node} {side : Side} {failing : Position}
    {failure : Failure EvalError} (isOperand : node.operand? side = some operand)
    (enters : ∀ rest, node.Enters environment depth (side :: rest) ↔
      operand.Enters environment (depth + 1) rest)
    (others : ∀ other rest, other ≠ side → node.Enters environment depth (other :: rest) →
      node.Reduces environment depth (other :: rest))
    (failed : (node.truth environment depth).result = .error failure)
    (below : operand.FailsAt environment (depth + 1) failure failing) :
    node.FailsAt environment depth failure (side :: failing) where
  enters := (enters failing).mpr below.enters
  result := (resultAt_cons isOperand).mpr below.result
  reduces_iff
    | [], _ => iff_of_false (not_reduces_nil_of_error failed) fun isAbove => isAbove List.nil_prefix
    | other :: rest, entered => by
      rw [List.cons_prefix_cons]
      by_cases same : other = side
      · subst same
        rw [reduces_cons isOperand (enters rest), below.reduces_iff rest ((enters rest).mp entered)]
        simp
      · exact iff_of_true (others other rest same entered) fun isAbove => same isAbove.1

/-- A refused node fails at itself, so it is enough to look at levels that the limit admits. -/
theorem exists_failsAt_of_admits {failure : Failure EvalError}
    (failed : (node.truth environment depth).result = .error failure)
    (fails : environment.admits depth = true →
      ∃ failing, node.FailsAt environment depth failure failing) :
    ∃ failing, node.FailsAt environment depth failure failing := by
  cases admitted : environment.admits depth with
  | true => exact fails admitted
  | false => exact ⟨[], failsAt_nil (fun _ => eq_nil_of_enters_refused admitted) failed⟩

theorem exists_failsAt {failure : Failure EvalError}
    (failed : (node.truth environment depth).result = .error failure) :
    ∃ failing, node.FailsAt environment depth failure failing := by
  induction node using Node.testInduction generalizing depth with
  | present node operand second? content =>
    exact ⟨[], failsAt_nil (fun _ => (isLeaf_present content).eq_nil_of_enters) failed⟩
  | not node operand second? content inductionHypothesis =>
    refine exists_failsAt_of_admits failed fun admitted => ?_
    have enters := fun position => enters_not position admitted content
    have operandFailed := failed
    rw [result_truth_not admitted content, map_eq_error] at operandFailed
    obtain ⟨failing, below⟩ := inductionHypothesis operandFailed
    refine ⟨.first :: failing, below.under (operand?_first content) (by simp [enters]) ?_ failed⟩
    rintro (_ | _) rest other entered
    · exact absurd rfl other
    · simp [enters] at entered
  | connective node op decided left right connective content leftHypothesis rightHypothesis =>
    refine exists_failsAt_of_admits failed fun admitted => ?_
    have enters := fun position => enters_connective position admitted connective content
    have operandFailed := failed
    rw [result_truth_connective admitted connective content, bind_eq_error] at operandFailed
    rcases operandFailed with leftFailed | ⟨holds, leftResult, rightFailed⟩
    · obtain ⟨failing, below⟩ := leftHypothesis leftFailed
      refine ⟨.first :: failing, below.under (operand?_first content) (by simp [enters]) ?_ failed⟩
      rintro (_ | _) rest other entered
      · exact absurd rfl other
      · simp [enters, leftFailed] at entered
    · by_cases decides : holds = decided
      · rw [if_pos decides] at rightFailed
        cases rightFailed
      · rw [if_neg decides] at rightFailed
        have leftOpen := Bool.eq_not_of_ne decides
        obtain ⟨failing, below⟩ := rightHypothesis rightFailed
        refine ⟨.second :: failing, below.under (operand?_second content)
          (by simp [enters, leftResult, leftOpen]) ?_ failed⟩
        -- The left operand came to a truth value, so all that was entered there is reduced.
        rintro (_ | _) rest other entered
        · have enteredLeft : left.Enters environment (depth + 1) rest := by
            simpa [enters] using entered
          exact (reduces_cons (operand?_first content) (by simp [enters])).mpr
            (reduces_of_ok leftResult enteredLeft)
        · exact absurd rfl other
  | relation node comparison left right content =>
    exact ⟨[], failsAt_nil (fun _ => (isLeaf_relation content).eq_nil_of_enters) failed⟩
  | stuck node failure obstacle =>
    exact ⟨[], failsAt_nil (fun _ => (isLeaf_of_obstacle obstacle).eq_nil_of_enters) failed⟩

/-! ### A test by itself -/

/-- A truth value does not depend on the level at which a test is evaluated, nor on the limit, if
there is room for it. -/
theorem result_of_ok_elsewhere {result : Bool}
    (evaluated : (node.truth environment depth).result = .ok result) {level limit : Nat}
    (room : level + node.size ≤ limit + 1) :
    (node.truth (environment.withMaxDepth limit) level).result = .ok result := by
  induction node using Node.testInduction generalizing depth level result with
  | present node operand second? content =>
    rw [result_truth_present (admits_of_result_ok evaluated) content] at evaluated
    rw [result_truth_present (admits_ample environment room) content]
    exact evaluated
  | not node operand second? content inductionHypothesis =>
    have size := size_test content
    rw [result_not_eq_ok (admits_of_result_ok evaluated) content] at evaluated
    rw [result_not_eq_ok (admits_ample environment room) content]
    exact inductionHypothesis evaluated (by omega)
  | connective node op decided left right connective content leftHypothesis rightHypothesis =>
    have size : node.size = left.size + right.size + 1 := size_test content
    have admitted := admits_of_result_ok evaluated
    rw [result_connective_eq_ok (admits_ample environment room) connective content]
    rcases (result_connective_eq_ok admitted connective content).mp evaluated with
      ⟨leftDecides, same⟩ | ⟨leftOpen, rightResult⟩
    · exact .inl ⟨leftHypothesis leftDecides (by omega), same⟩
    · exact .inr ⟨leftHypothesis leftOpen (by omega), rightHypothesis rightResult (by omega)⟩
  | relation node comparison left right content =>
    rw [result_truth_relation (admits_of_result_ok evaluated) content] at evaluated
    rw [result_truth_relation (admits_ample environment room) content]
    exact evaluated
  | stuck node failure obstacle =>
    rw [result_truth_stuck (admits_of_result_ok evaluated) obstacle] at evaluated
    cases evaluated

/-- The last thing that the log of a test with a truth value says is that truth value. -/
theorem log_of_ok {result : Bool} (evaluated : (node.truth environment depth).result = .ok result) :
    ∃ op earlier, node.operator? = some op ∧
      (node.truth environment depth).log = earlier ++ [.reduced op depth node result] := by
  have admitted := admits_of_result_ok evaluated
  have noted : ∀ {op : TestOp} {run : Run Bool},
      node.truth environment depth = run.noting (Event.reduced op depth node) →
        (node.truth environment depth).log = run.log ++ [.reduced op depth node result] := by
    intro op run truth
    rw [truth, Run.result_noting] at evaluated
    rw [truth, Run.log_noting_of_ok _ evaluated]
  cases node using Node.testInduction with
  | present node operand second? content =>
    exact ⟨_, _, operator?_test content, noted (truth_present admitted content)⟩
  | not node operand second? content inductionHypothesis =>
    exact ⟨_, _, operator?_test content, noted (truth_not admitted content)⟩
  | connective node op decided left right connective content leftHypothesis rightHypothesis =>
    exact ⟨_, _, operator?_test content, noted (truth_connective admitted connective content)⟩
  | relation node comparison left right content =>
    exact ⟨_, _, operator?_test content, noted (truth_relation admitted content)⟩
  | stuck node failure obstacle =>
    rw [result_truth_stuck admitted obstacle] at evaluated
    cases evaluated

end

/-! ### The records of an evaluation -/

/-- The record of a test with a truth value: its operator, how far it lies below the root, its
text and the truth value. -/
def reducedRecord (zone : Zone) (op : TestOp) (depth : Nat) (node : Node) (result : Bool) :
    LogRecord :=
  { message := "reduced test"
    facts := [("op", .string op.symbol), ("depth", .integer depth),
      ("expr", .string (node.text zone)), ("result", .bool result)] }

/-- The record of an expression with a truth value: its text and the truth value. -/
def finishedRecord (zone : Zone) (node : Node) (result : Bool) : LogRecord :=
  { message := "evaluation finished"
    facts := [("expr", .string (node.text zone)), ("result", .bool result)] }

/-- A record is the one of the test at a position, and the truth value in it is what evaluating
that test by itself comes to, under any limit that leaves room for it. -/
def IsRecorded (zone : Zone) (registry : Registry) (source : FieldSource) (root : Node)
    (position : Position) (record : LogRecord) : Prop :=
  ∃ inner op result, root.below? position = some inner ∧ inner.operator? = some op ∧
    record = reducedRecord zone op position.length inner result ∧
    ∀ limit, inner.size ≤ limit →
      (evaluate (registry.withMaxDepth limit) source inner).result = .ok result

theorem isRecorded_of_reports {zone : Zone} {registry : Registry} {source : FieldSource}
    {root : Node} {position : Position} {event : Event}
    (reports : root.Reports ⟨registry, source⟩ 0 position event) :
    root.IsRecorded zone registry source position (event.record zone) := by
  obtain ⟨inner, op, result, found, isTest, ⟨other, same, evaluated⟩, rfl⟩ := reports
  cases found.symm.trans same
  refine ⟨inner, op, result, found, isTest, ?_, fun limit ample => ?_⟩
  · rw [Nat.zero_add]
    rfl
  · unfold evaluate
    rw [Run.result_noting]
    exact result_of_ok_elsewhere evaluated (by omega)

end Node

/-- The log of an evaluation is a faithful trace of it. One record stands there for every test
that evaluation enters and reduces, in post-order, and says what is true of that test by itself.
After a result comes one record more, right after the one of the root. After a failure there is
none; then some test that was entered fails, and of all the tests that were entered exactly that
one and the ones above it have no record. -/
theorem evaluate_log (zone : Zone) (registry : Registry) (source : FieldSource) (node : Node) :
    ∃ visited reduced,
      visited.Nodup ∧ visited.Pairwise Position.Precedes ∧
      (∀ position, position ∈ visited ↔ node.Reduces ⟨registry, source⟩ 0 position) ∧
      List.Forall₂ (node.IsRecorded zone registry source) visited reduced ∧
      (∀ result, (evaluate registry source node).result = .ok result →
        (evaluate registry source node).log.map (Event.record zone) =
            reduced ++ [node.finishedRecord zone result] ∧
          ∃ op earlier, node.operator? = some op ∧
            reduced = earlier ++ [node.reducedRecord zone op 0 result]) ∧
      (∀ failure, (evaluate registry source node).result = .error failure →
        (evaluate registry source node).log.map (Event.record zone) = reduced ∧
          ∃ failing, node.Enters ⟨registry, source⟩ 0 failing ∧
            node.ResultAt ⟨registry, source⟩ 0 failing (.error failure) ∧
            ∀ position, node.Enters ⟨registry, source⟩ 0 position →
              (position ∈ visited ↔ ¬ position <+: failing)) := by
  obtain ⟨visited, trace⟩ := Node.exists_trace ⟨registry, source⟩ node 0
  have recorded : List.Forall₂ (node.IsRecorded zone registry source) visited
      ((node.truth ⟨registry, source⟩ 0).log.map (Event.record zone)) := by
    rw [List.forall₂_map_right_iff]
    exact trace.reports.imp fun _ _ => Node.isRecorded_of_reports
  refine ⟨visited, _, Position.nodup_of_precedes trace.sorted, trace.sorted, trace.mem_iff,
    recorded, fun result evaluated => ?_, fun failure failed => ?_⟩
  · unfold evaluate at *
    rw [Run.result_noting] at evaluated
    obtain ⟨op, earlier, isTest, log⟩ := Node.log_of_ok evaluated
    rw [Run.log_noting_of_ok _ evaluated, List.map_append, log, List.map_append]
    exact ⟨rfl, op, _, isTest, rfl⟩
  · unfold evaluate at *
    rw [Run.result_noting] at failed
    rw [Run.log_noting_of_error _ failed]
    obtain ⟨failing, fails⟩ := Node.exists_failsAt failed
    refine ⟨rfl, failing, fails.enters, fails.result, fun position entered => ?_⟩
    rw [trace.mem_iff, fails.reduces_iff position entered]

/-! ### A failure on the right -/

/-- `!exists tcp.port || exists eth.src`, where the slices of the second field have been taken
away, so that asking for its values is an error. -/
def noPortOrSlices : Node :=
  ⟨some .test, 0, .test ⟨some .or,
    some ⟨some .test, 0, .test ⟨some .not, some hasPort, none⟩⟩,
    some ⟨some .test, 0, .test ⟨some .present,
      some ⟨some .range, 0, .range ⟨some ⟨"eth.src", .bytes⟩, none⟩⟩, none⟩⟩⟩⟩

/-- The negation on the left has a record; the presence test on the right, which fails, has none,
and neither has the disjunction. -/
theorem evaluate_log_noPortOrSlices :
    (evaluate (.standard .standard) twoPorts noPortOrSlices).result =
        .error (.error (.detachedRange "eth.src")) ∧
      ∃ visited,
        List.Forall₂ (noPortOrSlices.IsRecorded .utc (.standard .standard) twoPorts) visited
          ((evaluate (.standard .standard) twoPorts noPortOrSlices).log.map
            (Event.record .utc)) ∧
        [.first] ∈ visited ∧ [.second] ∉ visited ∧ [] ∉ visited := by
  obtain ⟨visited, reduced, -, -, mem_iff, recorded, -, failing⟩ :=
    evaluate_log .utc (.standard .standard) twoPorts noPortOrSlices
  obtain ⟨log, -⟩ := failing _ rfl
  refine ⟨rfl, visited, log ▸ recorded, ?_, ?_, ?_⟩
  · exact (mem_iff _).mpr ⟨.left rfl rfl rfl (.here _ _), false, _, rfl, rfl⟩
  · rw [mem_iff]
    rintro ⟨-, result, inner, found, evaluated⟩
    cases found
    cases evaluated
  · rw [mem_iff]
    exact Node.not_reduces_nil_of_error rfl

end PacketFilter
