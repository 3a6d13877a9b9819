/-
This file relates the evaluator to the meaning of an expression. In the plain reading `not`, `and`
and `or` are the connectives of logic, a test for presence asks for a value and a comparison for
a pair of values that satisfies it. Evaluation short-circuits, so parts of an expression may never
be looked at and need not have a truth value at all; the main result says that a truth value that
evaluation finds is the one of the plain reading, whatever truth values such parts are given. It
says as well that a comparison is never denied without comparing every pair of values.
-/

import PacketFilter.Proofs.Eval.Entered
import PacketFilter.Proofs.Eval.Operand
import PacketFilter.Proofs.Eval.Truth

namespace PacketFilter

/-- Truth values that are given to some of the tests below a test. -/
abbrev Assignment := Position → Option Bool

/-- What an assignment gives to the tests below an operand. -/
def Assignment.below (given : Assignment) (side : Side) : Assignment :=
  fun position => given (side :: position)

/-- The plain reading of an expression, in which the tests that an assignment gives a truth value
to have that one. -/
def Node.Holds (environment : Environment) (given : Assignment) (node : Node) : Prop :=
  match given [] with
  | some truth => truth = true
  | none =>
    match node with
    | ⟨_, _, .test ⟨some op, some first, second?⟩⟩ =>
      match op, second? with
      | .present, _ => ∃ value, first.HasValue environment.source value
      | .not, _ => ¬ first.Holds environment (given.below .first)
      | .and, some second =>
        first.Holds environment (given.below .first) ∧
          second.Holds environment (given.below .second)
      | .or, some second =>
        first.Holds environment (given.below .first) ∨
          second.Holds environment (given.below .second)
      | .relation comparison, some second =>
        ∃ left right, first.HasValue environment.source left ∧
          second.HasValue environment.source right ∧
          environment.registry.compare comparison left right = .ok true
      | _, none => False
    | _ => False

namespace Node

section

variable {environment : Environment} {given : Assignment} {node : Node}

theorem holds_present (free : given [] = none) {operand : Node} {second? : Option Node}
    (content : node.content = .test ⟨some .present, some operand, second?⟩) :
    node.Holds environment given ↔ ∃ value, operand.HasValue environment.source value := by
  obtain ⟨kind?, number, inner⟩ := node
  subst content
  unfold Holds
  rw [free]

theorem holds_not (free : given [] = none) {operand : Node} {second? : Option Node}
    (content : node.content = .test ⟨some .not, some operand, second?⟩) :
    node.Holds environment given ↔ ¬ operand.Holds environment (given.below .first) := by
  obtain ⟨kind?, number, inner⟩ := node
  subst content
  conv => lhs; unfold Holds
  rw [free]

/-- A connective holds as its left operand does, where that one decides it, and otherwise as its
right operand does. -/
theorem holds_connective (free : given [] = none) {op : TestOp} {decided : Bool}
    (connective : op.deciding? = some decided) {left right : Node}
    (content : node.content = .test ⟨some op, some left, some right⟩) :
    node.Holds environment given ↔
      if decided then
        left.Holds environment (given.below .first) ∨
          right.Holds environment (given.below .second)
      else
        left.Holds environment (given.below .first) ∧
          right.Holds environment (given.below .second) := by
  obtain ⟨kind?, number, inner⟩ := node
  subst content
  conv => lhs; unfold Holds
  rw [free]
  match op, connective with
  | .and, rfl => exact Iff.rfl
  | .or, rfl => exact Iff.rfl

theorem holds_relation (free : given [] = none) {comparison : Comparison} {left right : Node}
    (content : node.content = .test ⟨some (.relation comparison), some left, some right⟩) :
    node.Holds environment given ↔
      ∃ leftValue rightValue, left.HasValue environment.source leftValue ∧
        right.HasValue environment.source rightValue ∧
        environment.registry.compare comparison leftValue rightValue = .ok true := by
  obtain ⟨kind?, number, inner⟩ := node
  subst content
  unfold Holds
  rw [free]

end

/-- Evaluation enters the test that it begins with, so an assignment to tests that it does not
enter leaves that one free. -/
theorem free_of_skipped {environment : Environment} {node : Node} {depth : Nat}
    {given : Assignment}
    (skipped : ∀ position, (given position).isSome → ¬ node.Enters environment depth position) :
    given [] = none := by
  cases root : given [] with
  | none => rfl
  | some truth => exact absurd (.here node depth) (skipped [] (by rw [root]; rfl))

/-- A truth value that evaluation finds is the one of the plain reading, whatever is given to the
tests that evaluation did not enter. -/
theorem holds_iff_of_result {environment : Environment} {node : Node} {depth : Nat}
    {result : Bool} (evaluated : (node.truth environment depth).result = .ok result)
    {given : Assignment}
    (skipped : ∀ position, (given position).isSome → ¬ node.Enters environment depth position) :
    node.Holds environment given ↔ result = true := by
  induction node using Node.testInduction generalizing depth result given with
  | present node operand second? content =>
    have admitted := admits_of_result_ok evaluated
    have free := free_of_skipped skipped
    rw [result_truth_present admitted content] at evaluated
    rw [holds_present free content, Environment.isPresent_eq_ok evaluated]
  | not node operand second? content inductionHypothesis =>
    have admitted := admits_of_result_ok evaluated
    have free := free_of_skipped skipped
    rw [result_not_eq_ok admitted content] at evaluated
    have operandHolds : operand.Holds environment (given.below .first) ↔ (!result) = true :=
      inductionHypothesis evaluated
        (fun position gives entered => skipped _ gives (.not admitted content entered))
    rw [holds_not free content, operandHolds]
    cases result <;> simp
  | connective node op decided left right connective content leftHypothesis rightHypothesis =>
    have admitted := admits_of_result_ok evaluated
    have free := free_of_skipped skipped
    have leftSkipped : ∀ position, (given.below .first position).isSome →
        ¬ left.Enters environment (depth + 1) position :=
      fun position gives entered => skipped _ gives (.left admitted connective content entered)
    rw [holds_connective free connective content]
    rcases (result_connective_eq_ok admitted connective content).mp evaluated with
      ⟨leftDecides, rfl⟩ | ⟨leftOpen, rightResult⟩
    · rw [leftHypothesis leftDecides leftSkipped]
      cases result <;> simp
    · have rightSkipped : ∀ position, (given.below .second position).isSome →
          ¬ right.Enters environment (depth + 1) position :=
        fun position gives entered =>
          skipped _ gives (.right admitted connective content leftOpen entered)
      rw [leftHypothesis leftOpen leftSkipped, rightHypothesis rightResult rightSkipped]
      cases decided <;> simp
  | relation node comparison left right content =>
    have admitted := admits_of_result_ok evaluated
    have free := free_of_skipped skipped
    rw [result_truth_relation admitted content] at evaluated
    rw [holds_relation free content]
    cases result with
    | true => exact iff_of_true (Environment.exists_pair_of_isRelated evaluated) rfl
    | false =>
      refine iff_of_false ?_ Bool.false_ne_true
      rintro ⟨leftValue, rightValue, leftHeld, rightHeld, related⟩
      rw [Environment.forall_pairs_of_isRelated evaluated leftHeld rightHeld] at related
      cases related
  | stuck node failure obstacle =>
    have admitted := admits_of_result_ok evaluated
    rw [result_truth_stuck admitted obstacle] at evaluated
    cases evaluated

/-- A comparison is denied only after every pair of values has been compared. -/
theorem compare_of_result_false {environment : Environment} {node left right : Node}
    {depth : Nat} {comparison : Comparison}
    (content : node.content = .test ⟨some (.relation comparison), some left, some right⟩)
    (denied : (node.truth environment depth).result = .ok false) {leftValue rightValue : Value}
    (leftHeld : left.HasValue environment.source leftValue)
    (rightHeld : right.HasValue environment.source rightValue) :
    environment.registry.compare comparison leftValue rightValue = .ok false := by
  rw [result_truth_relation (admits_of_result_ok denied) content] at denied
  exact Environment.forall_pairs_of_isRelated denied leftHeld rightHeld

end Node

/-- What evaluation finds is the truth value of the plain reading, whatever truth values the
skipped tests are given, and no pair of values is passed over on the way to denying a
comparison. -/
theorem evaluate_sound (registry : Registry) (source : FieldSource) :
    (∀ node result, (evaluate registry source node).result = .ok result →
      ∀ given : Assignment,
        (∀ position, (given position).isSome → ¬ node.Enters ⟨registry, source⟩ 0 position) →
          (node.Holds ⟨registry, source⟩ given ↔ result = true)) ∧
    (∀ (node left right : Node) (depth : Nat) (comparison : Comparison),
      node.content = .test ⟨some (.relation comparison), some left, some right⟩ →
        (node.truth ⟨registry, source⟩ depth).result = .ok false →
          ∀ leftValue rightValue, left.HasValue source leftValue →
            right.HasValue source rightValue →
              registry.compare comparison leftValue rightValue = .ok false) := by
  constructor
  · intro node result evaluated given skipped
    unfold evaluate at evaluated
    rw [Run.result_noting] at evaluated
    exact Node.holds_iff_of_result evaluated skipped
  · intro node left right depth comparison content denied leftValue rightValue leftHeld rightHeld
    exact Node.compare_of_result_false content denied leftHeld rightHeld

/-! ### An operand that is skipped -/

/-- Data in which a packet has two ports. -/
def twoPorts : FieldSource := fun field =>
  if field = ⟨"tcp.port", .integer⟩ then [.integer 443, .integer 51234] else []

def portField : Node :=
  ⟨some .pointer, 0, .field ⟨"tcp.port", .integer⟩⟩

/-- `tcp.port == 80` -/
def portIsEighty : Node :=
  ⟨some .test, 0, .test ⟨some (.relation .eq), some portField, some ⟨some .integer, 80, .bare⟩⟩⟩

/-- `exists tcp.port` -/
def hasPort : Node :=
  ⟨some .test, 0, .test ⟨some .present, some portField, none⟩⟩

/-- `exists tcp.port || exists eth.src`, where the slices of the second field have been taken
away, so that asking for its values is an error. -/
def hasPortOrSlices : Node :=
  ⟨some .test, 0, .test ⟨some .or, some hasPort,
    some ⟨some .test, 0, .test ⟨some .present,
      some ⟨some .range, 0, .range ⟨some ⟨"eth.src", .bytes⟩, none⟩⟩, none⟩⟩⟩⟩

/-- The first operand holds, so the second one counts as false as well as it would count as
true. -/
theorem evaluate_sound_hasPortOrSlices :
    (evaluate (.standard .standard) twoPorts hasPortOrSlices).result = .ok true ∧
      hasPortOrSlices.Holds ⟨.standard .standard, twoPorts⟩
        (fun position => if position = [.second] then some false else none) ∧
      (portIsEighty.truth ⟨.standard .standard, twoPorts⟩ 0).result = .ok false ∧
      Registry.compare (.standard .standard) .eq (.integer 51234) (.integer 80) = .ok false := by
  obtain ⟨reading, denial⟩ := evaluate_sound (.standard .standard) twoPorts
  refine ⟨rfl, ?_, rfl, ?_⟩
  · refine (reading hasPortOrSlices true rfl _ ?_).mpr rfl
    intro position gives entered
    by_cases second : position = [.second]
    · subst second
      cases Node.leftOpen_of_enters rfl rfl entered
    · rw [if_neg second] at gives
      cases gives
  · refine denial portIsEighty _ _ 0 .eq rfl rfl _ _ ?_ (.number rfl rfl)
    exact .field rfl (List.mem_cons_of_mem _ List.mem_cons_self)

end PacketFilter
