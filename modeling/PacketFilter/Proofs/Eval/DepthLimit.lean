/-
This file compares the evaluation of an expression under a limit to the nesting of tests with its
evaluation under a limit so large that it cannot matter. As long as the second one enters no test
below the limit the two runs are the same, log and all; as soon as it does, the first one ends
there, with the error that names the limit, whatever comes of the second.
-/

import PacketFilter.Proofs.Eval.Entered
import PacketFilter.Proofs.Eval.Truth

namespace PacketFilter

/-- The registry with another limit to the nesting of tests. -/
def Registry.withMaxDepth (registry : Registry) (limit : Nat) : Registry :=
  { registry with settings := { registry.settings with maxDepth := limit } }

/-- The environment with another limit to the nesting of tests. -/
def Environment.withMaxDepth (environment : Environment) (limit : Nat) : Environment :=
  { environment with registry := environment.registry.withMaxDepth limit }

/-! ### The size of an expression -/

mutual

/-- The number of nodes of an expression. -/
def Node.size : Node → Nat
  | ⟨_, _, content⟩ => content.size + 1

/-- The number of nodes below a node with the given content. -/
def Content.size : Content → Nat
  | .test inner => inner.size
  | _ => 0

/-- The number of nodes of the operands of a test. -/
def Test.size : Test → Nat
  | ⟨_, first?, second?⟩ => Node.sizeOfOperand first? + Node.sizeOfOperand second?

/-- The number of nodes of an operand that may be missing. -/
def Node.sizeOfOperand : Option Node → Nat
  | none => 0
  | some operand => operand.size

end

namespace Node

theorem size_pos (node : Node) : 0 < node.size := by
  obtain ⟨kind?, number, content⟩ := node
  exact Nat.succ_pos _

theorem size_test {node first : Node} {op : TestOp} {second? : Option Node}
    (content : node.content = .test ⟨some op, some first, second?⟩) :
    node.size = first.size + sizeOfOperand second? + 1 := by
  obtain ⟨kind?, number, inner⟩ := node
  subst content
  rfl

section

variable {environment : Environment} {node : Node} {depth limit ample : Nat}

/-! ### Ending at the limit -/

theorem admits_withMaxDepth (room : depth ≤ limit) :
    (environment.withMaxDepth limit).admits depth = true :=
  Environment.admits_of_le room

/-- Evaluation of a node at a level ends in the error that names the limit. -/
def EndsAt (environment : Environment) (limit : Nat) (node : Node) (depth : Nat) : Prop :=
  (node.truth (environment.withMaxDepth limit) depth).result = .error (.error (.tooDeep limit))

theorem endsAt_of_lt (beyond : limit < depth) : EndsAt environment limit node depth :=
  result_truth_refused (decide_eq_false (Nat.not_le.mpr beyond))

/-- A negation ends at the limit if its operand does. -/
theorem endsAt_not {operand : Node} {second? : Option Node}
    (content : node.content = .test ⟨some .not, some operand, second?⟩)
    (ends : EndsAt environment limit operand (depth + 1)) :
    EndsAt environment limit node depth := by
  rcases Nat.lt_or_ge limit depth with beyond | here
  · exact endsAt_of_lt beyond
  · unfold EndsAt at *
    rw [result_truth_not (admits_withMaxDepth here) content, ends]
    rfl

/-- A connective ends at the limit if its left operand does. -/
theorem endsAt_left {op : TestOp} {decided : Bool} (connective : op.deciding? = some decided)
    {left right : Node} (content : node.content = .test ⟨some op, some left, some right⟩)
    (ends : EndsAt environment limit left (depth + 1)) : EndsAt environment limit node depth := by
  rcases Nat.lt_or_ge limit depth with beyond | here
  · exact endsAt_of_lt beyond
  · unfold EndsAt at *
    rw [result_truth_connective (admits_withMaxDepth here) connective content, ends]
    rfl

/-- A connective ends at the limit if its left operand leaves it open and its right one does. -/
theorem endsAt_right {op : TestOp} {decided : Bool} (connective : op.deciding? = some decided)
    {left right : Node} (content : node.content = .test ⟨some op, some left, some right⟩)
    (leftOpen : (left.truth (environment.withMaxDepth limit) (depth + 1)).result =
      .ok (!decided))
    (ends : EndsAt environment limit right (depth + 1)) :
    EndsAt environment limit node depth := by
  rcases Nat.lt_or_ge limit depth with beyond | here
  · exact endsAt_of_lt beyond
  · unfold EndsAt at *
    rw [result_truth_connective (admits_withMaxDepth here) connective content, leftOpen, ends]
    exact if_neg (Bool.not_eq_self decided).mp

/-! ### Two limits -/

theorem admits_ample (environment : Environment) (room : depth + node.size ≤ ample + 1) :
    (environment.withMaxDepth ample).admits depth = true := by
  have positive := node.size_pos
  exact admits_withMaxDepth (by omega)

/-- A connective is the same under both limits if its left operand is, and its right one as far
as it matters. -/
theorem truth_connective_congr (room : depth + node.size ≤ ample + 1) (here : depth ≤ limit)
    {op : TestOp} {decided : Bool} (connective : op.deciding? = some decided) {left right : Node}
    (content : node.content = .test ⟨some op, some left, some right⟩)
    (leftSame : left.truth (environment.withMaxDepth limit) (depth + 1) =
      left.truth (environment.withMaxDepth ample) (depth + 1))
    (rightSame : (left.truth (environment.withMaxDepth ample) (depth + 1)).result =
        .ok (!decided) →
      right.truth (environment.withMaxDepth limit) (depth + 1) =
        right.truth (environment.withMaxDepth ample) (depth + 1)) :
    node.truth (environment.withMaxDepth limit) depth =
      node.truth (environment.withMaxDepth ample) depth := by
  rw [truth_connective (admits_withMaxDepth here) connective content,
    truth_connective (admits_ample environment room) connective content, leftSame]
  refine congrArg _ (Run.bind_congr fun holds found => ?_)
  by_cases decides : holds = decided
  · rw [if_pos decides, if_pos decides]
  · rw [Bool.eq_not_of_ne decides] at found
    rw [if_neg decides, if_neg decides, rightSame found]

/-- Under a limit evaluation is what it is under an ample one, or it ends at the limit because
the other one goes below it. -/
def AgreesUpTo (environment : Environment) (limit ample : Nat) (node : Node) (depth : Nat) :
    Prop :=
  node.truth (environment.withMaxDepth limit) depth =
      node.truth (environment.withMaxDepth ample) depth ∨
    EndsAt environment limit node depth ∧
      node.GoesBelow (environment.withMaxDepth ample) depth limit

/-- It is enough to look at levels that the limit admits. -/
theorem agreesUpTo_of_le
    (agrees : depth ≤ limit → AgreesUpTo environment limit ample node depth) :
    AgreesUpTo environment limit ample node depth := by
  rcases Nat.lt_or_ge limit depth with beyond | here
  · exact .inr ⟨endsAt_of_lt beyond, goesBelow_of_lt beyond⟩
  · exact agrees here

theorem agreesUpTo (depth : Nat) (room : depth + node.size ≤ ample + 1) :
    AgreesUpTo environment limit ample node depth := by
  induction node using Node.testInduction generalizing depth with
  | present node operand second? content =>
    refine agreesUpTo_of_le fun here => .inl ?_
    rw [truth_present (admits_withMaxDepth here) content,
      truth_present (admits_ample environment room) content]
    rfl
  | not node operand second? content inductionHypothesis =>
    have admitted := admits_ample environment room
    have size := size_test content
    refine agreesUpTo_of_le fun here => ?_
    rcases inductionHypothesis (depth + 1) (by omega) with same | ⟨ends, goesBelow⟩
    · refine .inl ?_
      rw [truth_not (admits_withMaxDepth here) content, truth_not admitted content, same]
    · exact .inr ⟨endsAt_not content ends,
        goesBelow_of_operand (fun _ => .not admitted content) goesBelow⟩
  | connective node op decided left right connective content leftHypothesis rightHypothesis =>
    have admitted := admits_ample environment room
    have size : node.size = left.size + right.size + 1 := size_test content
    refine agreesUpTo_of_le fun here => ?_
    rcases leftHypothesis (depth + 1) (by omega) with leftSame | ⟨ends, goesBelow⟩
    · by_cases leftOpen :
          (left.truth (environment.withMaxDepth ample) (depth + 1)).result = .ok (!decided)
      · rcases rightHypothesis (depth + 1) (by omega) with rightSame | ⟨ends, goesBelow⟩
        · exact .inl
            (truth_connective_congr room here connective content leftSame fun _ => rightSame)
        · exact .inr ⟨endsAt_right connective content (leftSame ▸ leftOpen) ends,
            goesBelow_of_operand (fun _ => .right admitted connective content leftOpen) goesBelow⟩
      · exact .inl (truth_connective_congr room here connective content leftSame
          fun found => absurd found leftOpen)
    · exact .inr ⟨endsAt_left connective content ends,
        goesBelow_of_operand (fun _ => .left admitted connective content) goesBelow⟩
  | relation node comparison left right content =>
    refine agreesUpTo_of_le fun here => .inl ?_
    rw [truth_relation (admits_withMaxDepth here) content,
      truth_relation (admits_ample environment room) content]
    rfl
  | stuck node failure obstacle =>
    refine agreesUpTo_of_le fun here => .inl ?_
    rw [truth_stuck (admits_withMaxDepth here) obstacle,
      truth_stuck (admits_ample environment room) obstacle]

/-- Evaluation ends at a limit if under an ample one it goes below it. -/
theorem endsAt_of_enters (room : depth + node.size ≤ ample + 1) {position : Position}
    (entered : node.Enters (environment.withMaxDepth ample) depth position)
    (beyond : limit < depth + position.length) : EndsAt environment limit node depth := by
  induction entered with
  | here node depth => exact endsAt_of_lt beyond
  | not admitted content below inductionHypothesis =>
    have size := size_test content
    rw [List.length_cons] at beyond
    exact endsAt_not content (inductionHypothesis (by omega) (by omega))
  | left admitted connective content below inductionHypothesis =>
    have size := size_test content
    rw [List.length_cons] at beyond
    exact endsAt_left connective content (inductionHypothesis (by omega) (by omega))
  | @right node left right op decided depth position admitted connective content leftOpen below
      inductionHypothesis =>
    have size : node.size = left.size + right.size + 1 := size_test content
    have leftRoom : depth + 1 + left.size ≤ ample + 1 := by
      have positive := right.size_pos
      omega
    rw [List.length_cons] at beyond
    -- The left operand may end at the limit by itself, before the right one is looked at.
    rcases agreesUpTo (depth + 1) leftRoom with leftSame | ⟨leftEnds, -⟩
    · exact endsAt_right connective content (leftSame ▸ leftOpen)
        (inductionHypothesis (by omega) (by omega))
    · exact endsAt_left connective content leftEnds

theorem endsAt_of_goesBelow (environment : Environment) (room : depth + node.size ≤ ample + 1)
    (goesBelow : node.GoesBelow (environment.withMaxDepth ample) depth limit) :
    EndsAt environment limit node depth := by
  obtain ⟨position, entered, beyond⟩ := goesBelow
  exact endsAt_of_enters room entered beyond

theorem truth_eq_of_not_goesBelow (environment : Environment) (room : depth + node.size ≤ ample + 1)
    (stays : ¬ node.GoesBelow (environment.withMaxDepth ample) depth limit) :
    node.truth (environment.withMaxDepth limit) depth =
      node.truth (environment.withMaxDepth ample) depth := by
  rcases agreesUpTo depth room with same | ⟨-, goesBelow⟩
  · exact same
  · exact absurd goesBelow stays

/-- Evaluation goes less far below a greater limit. -/
theorem GoesBelow.of_le {larger : Nat} (le : limit ≤ larger)
    (goesBelow : node.GoesBelow environment depth larger) :
    node.GoesBelow environment depth limit := by
  obtain ⟨position, entered, beyond⟩ := goesBelow
  exact ⟨position, entered, Nat.lt_of_le_of_lt le beyond⟩

/-- A run that does not end at a limit is the same under every larger one. -/
theorem truth_eq_of_le (environment : Environment) {larger : Nat} (le : limit ≤ larger)
    (other : ¬ EndsAt environment limit node depth) :
    node.truth (environment.withMaxDepth larger) depth =
      node.truth (environment.withMaxDepth limit) depth := by
  have room : depth + node.size ≤ depth + node.size + 1 := Nat.le_succ _
  have stays : ¬ node.GoesBelow (environment.withMaxDepth (depth + node.size)) depth limit :=
    fun goesBelow => other (endsAt_of_goesBelow environment room goesBelow)
  rw [truth_eq_of_not_goesBelow environment room stays,
    truth_eq_of_not_goesBelow environment room fun goesBelow => stays (goesBelow.of_le le)]

/-- A connective that its left operand decides has that truth value, whatever the right one is. -/
theorem result_of_decided (environment : Environment) {op : TestOp} {decided : Bool}
    (connective : op.deciding? = some decided) {left right : Node}
    (content : node.content = .test ⟨some op, some left, some right⟩)
    (decides : (left.truth (environment.withMaxDepth limit) (depth + 1)).result = .ok decided) :
    (node.truth (environment.withMaxDepth limit) depth).result = .ok decided := by
  have below : depth + 1 ≤ limit := of_decide_eq_true (admits_of_result_ok decides)
  rw [result_truth_connective (admits_withMaxDepth (by omega)) connective content, decides]
  exact if_pos rfl

end

end Node

/-! ### Evaluation under a limit -/

/-- A limit is exact: evaluation is the same as without one unless that goes below the limit, and
otherwise it ends at the limit. It is not noticed in other ways: what does not end at a limit is
the same under every larger one, and a test that is skipped may lie as deep as it likes. -/
theorem evaluate_withMaxDepth (registry : Registry) (source : FieldSource) (node : Node)
    (limit unlimited : Nat) (ample : node.size ≤ unlimited) :
    (¬ node.GoesBelow ⟨registry.withMaxDepth unlimited, source⟩ 0 limit →
      evaluate (registry.withMaxDepth limit) source node =
        evaluate (registry.withMaxDepth unlimited) source node) ∧
    (node.GoesBelow ⟨registry.withMaxDepth unlimited, source⟩ 0 limit →
      (evaluate (registry.withMaxDepth limit) source node).result =
        .error (.error (.tooDeep limit))) ∧
    (∀ larger, limit ≤ larger →
      (evaluate (registry.withMaxDepth limit) source node).result ≠
        .error (.error (.tooDeep limit)) →
      evaluate (registry.withMaxDepth larger) source node =
        evaluate (registry.withMaxDepth limit) source node) ∧
    (∀ (inner left right : Node) (op : TestOp) (decided : Bool) (depth : Nat),
      op.deciding? = some decided →
      inner.content = .test ⟨some op, some left, some right⟩ →
      (left.truth ⟨registry.withMaxDepth limit, source⟩ (depth + 1)).result = .ok decided →
        (inner.truth ⟨registry.withMaxDepth limit, source⟩ depth).result = .ok decided) := by
  have room : 0 + node.size ≤ unlimited + 1 := by omega
  refine ⟨fun stays => ?_, fun goesBelow => ?_, fun larger le other => ?_, ?_⟩
  · exact congrArg _ (Node.truth_eq_of_not_goesBelow ⟨registry, source⟩ room stays)
  · unfold evaluate
    rw [Run.result_noting]
    exact Node.endsAt_of_goesBelow ⟨registry, source⟩ room goesBelow
  · unfold evaluate at other
    rw [Run.result_noting] at other
    exact congrArg _ (Node.truth_eq_of_le ⟨registry, source⟩ le other)
  · intro inner left right op decided depth connective content decides
    exact Node.result_of_decided ⟨registry, source⟩ connective content decides

/-! ### A limit that is reached -/

/-- `!!exists ip.ttl` -/
def doubleNegation : Node :=
  ⟨some .test, 0, .test ⟨some .not, some ⟨some .test, 0, .test ⟨some .not,
    some ⟨some .test, 0, .test ⟨some .present,
      some ⟨some .pointer, 0, .field ⟨"ip.ttl", .integer⟩⟩, none⟩⟩, none⟩⟩, none⟩⟩

/-- The innermost test lies at level two, below a limit of one and not below one of two. -/
theorem evaluate_withMaxDepth_doubleNegation :
    doubleNegation.size ≤ 4 ∧
      (evaluate ((Registry.standard .standard).withMaxDepth 1) (fun _ => [])
        doubleNegation).result = .error (.error (.tooDeep 1)) ∧
      evaluate ((Registry.standard .standard).withMaxDepth 9) (fun _ => []) doubleNegation =
        evaluate ((Registry.standard .standard).withMaxDepth 2) (fun _ => []) doubleNegation := by
  have ample : doubleNegation.size ≤ 4 := Nat.le_refl 4
  have limits := fun limit =>
    evaluate_withMaxDepth (.standard .standard) (fun _ => []) doubleNegation limit 4 ample
  refine ⟨ample, (limits 1).2.1 ?_, (limits 2).2.2.1 9 (by decide) ?_⟩
  · exact ⟨[.first, .first], .not rfl rfl (.not rfl rfl (.here _ _)), by decide⟩
  · intro ended
    cases ended

end PacketFilter
