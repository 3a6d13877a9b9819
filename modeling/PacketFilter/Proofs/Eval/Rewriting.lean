/-
This file rewrites expressions by the laws of logic. An operand may fail, and the right operand of
a connective is looked at only if the left one leaves the connective open; so a law has to hold of
three outcomes, and it has to keep the order in which evaluation comes to the operands. Double
negation, the laws of De Morgan, associativity and the distributive law all do, failures included,
also where an operand stands twice on one side; that the operands may change places is not among
them.

A law may be used anywhere below negations and connectives. Most laws change how deep an operand
lies, so the limit has to leave room for both sides. Those of De Morgan do not: both of their sides
take every operand through the same levels, and agree even where they end at the limit.
-/

import PacketFilter.Expr.Build
import PacketFilter.Proofs.Eval.DepthLimit
import PacketFilter.Proofs.Eval.Reading
import PacketFilter.Proofs.Eval.Typing

namespace PacketFilter

/-! ### Three outcomes -/

section

variable {Cause : Type}

/-- What comes of a connective that the given truth value of its left operand decides, from what
comes of its operands. -/
def joinOutcomes (decided : Bool) (left right : Except Cause Bool) : Except Cause Bool :=
  left.bind fun holds => if holds = decided then .ok decided else right

theorem map_not_map_not (outcome : Except Cause Bool) :
    (outcome.map not).map not = outcome := by
  cases outcome with
  | error cause => rfl
  | ok holds => cases holds <;> rfl

/-- The negation of a connective joins the negations of its operands by the other connective. -/
theorem map_not_joinOutcomes (decided : Bool) (left right : Except Cause Bool) :
    (joinOutcomes decided left right).map not =
      joinOutcomes (!decided) (left.map not) (right.map not) := by
  cases left with
  | error cause => rfl
  | ok holds => cases holds <;> cases decided <;> rfl

theorem joinOutcomes_assoc (decided : Bool) (first second third : Except Cause Bool) :
    joinOutcomes decided (joinOutcomes decided first second) third =
      joinOutcomes decided first (joinOutcomes decided second third) := by
  cases first with
  | error cause => rfl
  | ok holds => cases holds <;> cases decided <;> rfl

/-- A connective distributes over the other one. The first operand stands twice on the right, but
where it is looked at again it comes to the same. -/
theorem joinOutcomes_distrib (decided : Bool) (first second third : Except Cause Bool) :
    joinOutcomes decided first (joinOutcomes (!decided) second third) =
      joinOutcomes (!decided) (joinOutcomes decided first second)
        (joinOutcomes decided first third) := by
  cases first with
  | error cause => rfl
  | ok holds => cases holds <;> cases decided <;> rfl

end

/-! ### Negations and connectives -/

/-- The other one of the two connectives. -/
def TestOp.dual? : TestOp → Option TestOp
  | .and => some .or
  | .or => some .and
  | _ => none

/-- Of the two connectives, each is decided by the truth value that leaves the other one open. -/
theorem TestOp.deciding?_of_dual? {op dual : TestOp} (other : op.dual? = some dual) :
    ∃ decided, op.deciding? = some decided ∧ dual.deciding? = some !decided := by
  cases op with
  | and => cases other; exact ⟨false, rfl, rfl⟩
  | or => cases other; exact ⟨true, rfl, rfl⟩
  | present | not | relation => cases other

namespace Node

/-- The negation of an expression. -/
def negation (operand : Node) : Node :=
  ⟨some .test, 0, .test ⟨some .not, some operand, none⟩⟩

/-- Two expressions with an operator between them. -/
def joined (op : TestOp) (left right : Node) : Node :=
  ⟨some .test, 0, .test ⟨some op, some left, some right⟩⟩

theorem new_test {registry : Registry} (built : registry.Built)
    (live : registry.isRegistered .test = true) :
    new registry (some .test) .bare = .ok ⟨some .test, 0, .test .unassigned⟩ := by
  have begun : initialContent registry .test .bare = .ok (.test .unassigned) := by
    unfold initialContent
    rw [built.lookup_of_isRegistered live]
    rfl
  show (initialContent registry .test .bare).map _ = _
  rw [begun]
  rfl

/-- The operation on one operand builds negations. -/
theorem unaryTest_not {registry : Registry} (built : registry.Built)
    (live : registry.isRegistered .test = true) (operand : Node) :
    unaryTest registry .not operand = .ok operand.negation := by
  unfold unaryTest
  rw [new_test built live]
  rfl

/-- The operation on two operands builds connectives. -/
theorem binaryTest_connective {registry : Registry} (built : registry.Built)
    (live : registry.isRegistered .test = true) {op : TestOp} (logical : op = .and ∨ op = .or)
    (left right : Node) : binaryTest registry op left right = .ok (joined op left right) := by
  unfold binaryTest
  rw [new_test built live]
  rcases logical with rfl | rfl <;> rfl

/-! ### The laws -/

/-- The two sides of a law of De Morgan. -/
inductive DeMorgan : Node → Node → Prop
  | negated {op dual : TestOp} (other : op.dual? = some dual) (left right : Node) :
      DeMorgan (joined op left right).negation (joined dual left.negation right.negation)

/-- The two sides of a law of logic. -/
inductive Law : Node → Node → Prop
  | doubleNegation (operand : Node) : Law operand.negation.negation operand
  | deMorgan {left right : Node} (law : DeMorgan left right) : Law left right
  | assoc {op : TestOp} (logical : op = .and ∨ op = .or) (first second third : Node) :
      Law (joined op (joined op first second) third) (joined op first (joined op second third))
  | distrib {op dual : TestOp} (other : op.dual? = some dual) (first second third : Node) :
      Law (joined op first (joined dual second third))
        (joined dual (joined op first second) (joined op first third))

section

variable {environment : Environment} {node : Node} {depth : Nat}

/-- Both sides of a law of De Morgan come to the same at every level, under every limit. -/
theorem DeMorgan.result_truth {left right : Node} (law : DeMorgan left right) (depth : Nat) :
    (left.truth environment depth).result = (right.truth environment depth).result := by
  obtain ⟨other, first, second⟩ := law
  obtain ⟨decided, connective, otherConnective⟩ := TestOp.deciding?_of_dual? other
  refine result_truth_of_admits fun admitted => ?_
  rw [result_truth_not admitted rfl, result_truth_connective admitted otherConnective rfl]
  cases below : environment.admits (depth + 1) with
  | false =>
    rw [result_truth_refused below, result_truth_refused below]
    rfl
  | true =>
    rw [result_truth_connective below connective rfl, result_truth_not below rfl,
      result_truth_not below rfl]
    exact map_not_joinOutcomes decided _ _

/-! ### Tests with room -/

theorem room_not {operand : Node} {second? : Option Node} {limit : Nat}
    (content : node.content = .test ⟨some .not, some operand, second?⟩)
    (room : depth + node.nesting ≤ limit) : depth + 1 + operand.nesting ≤ limit := by
  rw [nesting_not content] at room
  omega

theorem room_connective {left right : Node} {op : TestOp} {decided : Bool} {limit : Nat}
    (connective : op.deciding? = some decided)
    (content : node.content = .test ⟨some op, some left, some right⟩)
    (room : depth + node.nesting ≤ limit) :
    depth + 1 + left.nesting ≤ limit ∧ depth + 1 + right.nesting ≤ limit := by
  rw [nesting_connective (TestOp.logical_of_deciding? connective) content] at room
  omega

/-- What comes of a test does not depend on its level nor on the limit, if there is room for
it. -/
theorem result_truth_withMaxDepth {level limit : Nat}
    (room : depth + node.nesting ≤ environment.registry.settings.maxDepth)
    (otherRoom : level + node.nesting ≤ limit) :
    (node.truth environment depth).result =
      (node.truth (environment.withMaxDepth limit) level).result := by
  have admitted := Environment.admits_of_room room
  have otherAdmitted : (environment.withMaxDepth limit).admits level = true :=
    Environment.admits_of_room otherRoom
  induction node using Node.testInduction generalizing depth level with
  | present node operand second? content =>
    rw [result_truth_present admitted content, result_truth_present otherAdmitted content]
    rfl
  | not node operand second? content inductionHypothesis =>
    have below := room_not content room
    have otherBelow := room_not content otherRoom
    rw [result_truth_not admitted content, result_truth_not otherAdmitted content,
      inductionHypothesis below otherBelow (Environment.admits_of_room below)
        (Environment.admits_of_room otherBelow)]
  | connective node op decided left right connective content leftHypothesis rightHypothesis =>
    obtain ⟨leftBelow, rightBelow⟩ := room_connective connective content room
    obtain ⟨otherLeftBelow, otherRightBelow⟩ := room_connective connective content otherRoom
    rw [result_truth_connective admitted connective content,
      result_truth_connective otherAdmitted connective content,
      leftHypothesis leftBelow otherLeftBelow (Environment.admits_of_room leftBelow)
        (Environment.admits_of_room otherLeftBelow),
      rightHypothesis rightBelow otherRightBelow (Environment.admits_of_room rightBelow)
        (Environment.admits_of_room otherRightBelow)]
  | relation node comparison left right content =>
    rw [result_truth_relation admitted content, result_truth_relation otherAdmitted content]
    rfl
  | stuck node failure obstacle =>
    rw [result_truth_stuck admitted obstacle, result_truth_stuck otherAdmitted obstacle]

/-- What comes of a test that has room. -/
def outcome (environment : Environment) (node : Node) : Except (Failure EvalError) Bool :=
  (node.truth (environment.withMaxDepth node.nesting) 0).result

theorem result_truth_eq_outcome
    (room : depth + node.nesting ≤ environment.registry.settings.maxDepth) :
    (node.truth environment depth).result = node.outcome environment :=
  result_truth_withMaxDepth room (Nat.le_of_eq (Nat.zero_add _))

theorem outcome_negation (operand : Node) :
    operand.negation.outcome environment = (operand.outcome environment).map not := by
  have room : 0 + operand.negation.nesting ≤ operand.negation.nesting :=
    Nat.le_of_eq (Nat.zero_add _)
  rw [outcome, result_truth_not (Environment.admits_of_room room) rfl,
    result_truth_eq_outcome (room_not rfl room)]
  rfl

theorem outcome_joined {op : TestOp} {decided : Bool} (connective : op.deciding? = some decided)
    (left right : Node) :
    (joined op left right).outcome environment =
      joinOutcomes decided (left.outcome environment) (right.outcome environment) := by
  have room : 0 + (joined op left right).nesting ≤ (joined op left right).nesting :=
    Nat.le_of_eq (Nat.zero_add _)
  obtain ⟨leftRoom, rightRoom⟩ := room_connective connective rfl room
  rw [outcome, result_truth_connective (Environment.admits_of_room room) connective rfl,
    result_truth_eq_outcome leftRoom, result_truth_eq_outcome rightRoom]
  rfl

/-- Both sides of a law come to the same at a level that leaves room for them. -/
theorem Law.result_truth {left right : Node} (law : Law left right)
    (leftRoom : depth + left.nesting ≤ environment.registry.settings.maxDepth)
    (rightRoom : depth + right.nesting ≤ environment.registry.settings.maxDepth) :
    (left.truth environment depth).result = (right.truth environment depth).result := by
  have leftOutcome := result_truth_eq_outcome leftRoom
  have rightOutcome := result_truth_eq_outcome rightRoom
  cases law with
  | doubleNegation operand =>
    rw [leftOutcome, rightOutcome, outcome_negation, outcome_negation, map_not_map_not]
  | deMorgan law => exact law.result_truth depth
  | assoc logical first second third =>
    obtain ⟨decided, connective⟩ := TestOp.deciding?_of_logical logical
    rw [leftOutcome, rightOutcome]
    simp only [outcome_joined connective, joinOutcomes_assoc]
  | distrib other first second third =>
    obtain ⟨decided, connective, otherConnective⟩ := TestOp.deciding?_of_dual? other
    rw [leftOutcome, rightOutcome]
    simp only [outcome_joined connective, outcome_joined otherConnective, joinOutcomes_distrib]

/-! ### Rewriting in place -/

/-- The second expression is the first one with `left` replaced by `right` at one place, below
nothing but negations and connectives and so many of them. -/
inductive ReplacedAt (left right : Node) : Nat → Node → Node → Prop
  | here : ReplacedAt left right 0 left right
  | not {level : Nat} {node operand replaced : Node} {second? : Option Node}
      (content : node.content = .test ⟨some .not, some operand, second?⟩)
      (below : ReplacedAt left right level operand replaced) :
      ReplacedAt left right (level + 1) node
        (node.withContent (.test ⟨some .not, some replaced, second?⟩))
  | first {level : Nat} {op : TestOp} {node operand replaced other : Node}
      (logical : op = .and ∨ op = .or)
      (content : node.content = .test ⟨some op, some operand, some other⟩)
      (below : ReplacedAt left right level operand replaced) :
      ReplacedAt left right (level + 1) node
        (node.withContent (.test ⟨some op, some replaced, some other⟩))
  | second {level : Nat} {op : TestOp} {node other operand replaced : Node}
      (logical : op = .and ∨ op = .or)
      (content : node.content = .test ⟨some op, some other, some operand⟩)
      (below : ReplacedAt left right level operand replaced) :
      ReplacedAt left right (level + 1) node
        (node.withContent (.test ⟨some op, some other, some replaced⟩))

theorem result_truth_not_congr {other operand replaced : Node} {second? otherSecond? : Option Node}
    (content : node.content = .test ⟨some .not, some operand, second?⟩)
    (otherContent : other.content = .test ⟨some .not, some replaced, otherSecond?⟩)
    (same : (operand.truth environment (depth + 1)).result =
      (replaced.truth environment (depth + 1)).result) :
    (node.truth environment depth).result = (other.truth environment depth).result := by
  refine result_truth_of_admits fun admitted => ?_
  rw [result_truth_not admitted content, result_truth_not admitted otherContent, same]

theorem result_truth_connective_congr {other left right otherLeft otherRight : Node} {op : TestOp}
    (logical : op = .and ∨ op = .or)
    (content : node.content = .test ⟨some op, some left, some right⟩)
    (otherContent : other.content = .test ⟨some op, some otherLeft, some otherRight⟩)
    (leftSame : (left.truth environment (depth + 1)).result =
      (otherLeft.truth environment (depth + 1)).result)
    (rightSame : (right.truth environment (depth + 1)).result =
      (otherRight.truth environment (depth + 1)).result) :
    (node.truth environment depth).result = (other.truth environment depth).result := by
  obtain ⟨decided, connective⟩ := TestOp.deciding?_of_logical logical
  refine result_truth_of_admits fun admitted => ?_
  rw [result_truth_connective admitted connective content,
    result_truth_connective admitted connective otherContent, leftSame, rightSame]

/-- What comes to the same at its place may be replaced there. -/
theorem ReplacedAt.result_truth {left right before after : Node} {level : Nat}
    (replaced : ReplacedAt left right level before after)
    (same : (left.truth environment (depth + level)).result =
      (right.truth environment (depth + level)).result) :
    (before.truth environment depth).result = (after.truth environment depth).result := by
  induction replaced generalizing depth with
  | here => exact same
  | not content below inductionHypothesis =>
    rw [← Nat.add_assoc, Nat.add_right_comm] at same
    exact result_truth_not_congr content rfl (inductionHypothesis same)
  | first logical content below inductionHypothesis =>
    rw [← Nat.add_assoc, Nat.add_right_comm] at same
    exact result_truth_connective_congr logical content rfl (inductionHypothesis same) rfl
  | second logical content below inductionHypothesis =>
    rw [← Nat.add_assoc, Nat.add_right_comm] at same
    exact result_truth_connective_congr logical content rfl rfl (inductionHypothesis same)

end

end Node

/-- Rewriting an expression anywhere by a law does not change its value, nor the error that it
ends in, if the limit leaves room at that place for the tests of both sides; and if the law is one
of De Morgan, under any limit. -/
theorem evaluate_rewritten (registry : Registry) (source : FieldSource)
    {left right before after : Node} {level : Nat}
    (replaced : left.ReplacedAt right level before after) :
    (left.Law right → level + left.nesting ≤ registry.settings.maxDepth →
      level + right.nesting ≤ registry.settings.maxDepth →
      (evaluate registry source before).result = (evaluate registry source after).result) ∧
    (left.DeMorgan right →
      (evaluate registry source before).result = (evaluate registry source after).result) := by
  rw [result_evaluate, result_evaluate]
  constructor
  · intro law leftRoom rightRoom
    refine replaced.result_truth (law.result_truth ?_ ?_)
    · rwa [Nat.zero_add]
    · rwa [Nat.zero_add]
  · intro law
    exact replaced.result_truth (law.result_truth _)

/-! ### Operands that fail -/

/-- `exists eth.src`, where the slices of the field have been taken away, so that asking for its
values is an error. -/
def hasSlices : Node :=
  ⟨some .test, 0, .test ⟨some .present,
    some ⟨some .range, 0, .range ⟨some ⟨"eth.src", .bytes⟩, none⟩⟩, none⟩⟩

/-- `exists tcp.port && (tcp.port == 80 || exists eth.src)` -/
def portWithEither : Node :=
  .joined .and hasPort (.joined .or portIsEighty hasSlices)

/-- `(exists tcp.port && tcp.port == 80) || (exists tcp.port && exists eth.src)` -/
def eitherWithPort : Node :=
  .joined .or (.joined .and hasPort portIsEighty) (.joined .and hasPort hasSlices)

/-- The distributive law is used below a negation; the failure of the last operand comes through
on both sides. Under a limit that leaves no room for the operands of
`!(exists tcp.port && exists eth.src)`, both sides of the law of De Morgan end at the limit.
The operations that build tests give such trees. -/
theorem evaluate_rewritten_hasSlices :
    Node.Law portWithEither eitherWithPort ∧
      1 + portWithEither.nesting ≤ 3 ∧ 1 + eitherWithPort.nesting ≤ 3 ∧
      (evaluate (.standard ⟨.reject, 3⟩) twoPorts eitherWithPort.negation).result =
        .error (.error (.detachedRange "eth.src")) ∧
      (evaluate (.standard ⟨.reject, 1⟩) twoPorts
          (.joined .or hasPort.negation hasSlices.negation)).result =
        .error (.error (.tooDeep 1)) ∧
      Node.unaryTest (.standard .standard) .not portWithEither = .ok portWithEither.negation ∧
      Node.binaryTest (.standard .standard) .and hasPort (.joined .or portIsEighty hasSlices) =
        .ok portWithEither := by
  have distrib : Node.Law portWithEither eitherWithPort := .distrib rfl _ _ _
  have replaced : portWithEither.ReplacedAt eitherWithPort 1 portWithEither.negation
      eitherWithPort.negation := .not rfl .here
  have deMorgan : Node.DeMorgan (Node.joined .and hasPort hasSlices).negation
      (.joined .or hasPort.negation hasSlices.negation) := .negated rfl _ _
  have distributed := (evaluate_rewritten (.standard ⟨.reject, 3⟩) twoPorts replaced).1 distrib
    (by decide) (by decide)
  have refused := (evaluate_rewritten (.standard ⟨.reject, 1⟩) twoPorts .here).2 deMorgan
  have built : (Registry.standard .standard).Built := .registerAll (.empty _ _)
  exact ⟨distrib, by decide, by decide, distributed.symm, refused.symm,
    Node.unaryTest_not built rfl _, Node.binaryTest_connective built rfl (.inl rfl) _ _⟩

end PacketFilter
