/-
This file evaluates one expression in two sources of data. Evaluation tries values in the order in
which a source supplies them, stops at the pair that decides and fails at a pair that cannot be
compared, so a source with other values in another order may take it another way. The truth value
does not depend on the way: it is the one of the plain reading, and that only asks which values the
mentioned fields have. Two sources in which these are the same values agree on the truth value
wherever both come to one. A source that has further values can only let more comparisons hold, so
an expression without negations that holds is not refuted by them.
-/

import PacketFilter.Proofs.Eval.Typing
import PacketFilter.Proofs.Eval.Reading
import PacketFilter.Proofs.Expr.WellFormed

namespace PacketFilter

namespace Node

/-! ### Mentioned fields -/

/-- The expression refers to a field, by itself or for slices of it. -/
def Mentions (node : Node) (field : FieldRef) : Prop :=
  ∃ inner : Node, inner.IsWithin node ∧
    (inner.content = .field field ∨ ∃ slices?, inner.content = .range ⟨some field, slices?⟩)

/-- No test of the expression is a negation. -/
def IsNegationFree (node : Node) : Prop :=
  ∀ inner : Node, inner.IsWithin node →
    ∀ first? second?, inner.content ≠ .test ⟨some .not, first?, second?⟩

/-- Every value that a field of the expression has in the first source, it has in the second one
as well, wherever and however often. -/
def FindsAgain (node : Node) (first second : FieldSource) : Prop :=
  ∀ field, node.Mentions field → ∀ value ∈ first field, value ∈ second field

/-- What holds of the expression in the first source cannot be lost in the second one: the second
one has all values of the first, and if there are negations it has no others. -/
structure Keeps (node : Node) (first second : FieldSource) : Prop where
  again : node.FindsAgain first second
  polarity : node.IsNegationFree ∨ node.FindsAgain second first

section

variable {node inner : Node} {test : Test} {first second : FieldSource}

theorem Mentions.ofOperand (content : node.content = .test test) (member : inner ∈ test.operands)
    {field : FieldRef} (mentions : inner.Mentions field) : node.Mentions field := by
  obtain ⟨reference, within, refers⟩ := mentions
  exact ⟨reference, .operand content member within, refers⟩

theorem FindsAgain.operand (again : node.FindsAgain first second)
    (content : node.content = .test test) (member : inner ∈ test.operands) :
    inner.FindsAgain first second :=
  fun field mentions => again field (mentions.ofOperand content member)

theorem IsNegationFree.operand (free : node.IsNegationFree) (content : node.content = .test test)
    (member : inner ∈ test.operands) : inner.IsNegationFree :=
  fun other within => free other (.operand content member within)

theorem Keeps.operand (keeps : node.Keeps first second) (content : node.content = .test test)
    (member : inner ∈ test.operands) : inner.Keeps first second where
  again := keeps.again.operand content member
  polarity := keeps.polarity.imp (·.operand content member) (·.operand content member)

/-- Below a negation the sources change places. -/
theorem Keeps.negated (keeps : node.Keeps first second) {second? : Option Node}
    (content : node.content = .test ⟨some .not, some inner, second?⟩) :
    inner.Keeps second first := by
  rcases keeps.polarity with free | back
  · exact absurd content (free node .self _ _)
  · exact ⟨back.operand content List.mem_cons_self,
      .inr (keeps.again.operand content List.mem_cons_self)⟩

/-! ### More values -/

/-- An operand has in the second source all values that it has in the first one. -/
theorem HasValue.again (again : node.FindsAgain first second) {value : Value}
    (held : node.HasValue first value) : node.HasValue second value := by
  cases held with
  | number kind content => exact .number kind content
  | literal content => exact .literal content
  | field content occurs => exact .field content (again _ ⟨node, .self, .inl content⟩ _ occurs)
  | bytes content occurs applied =>
    exact .bytes content (again _ ⟨node, .self, .inr ⟨_, content⟩⟩ _ occurs) applied
  | string content occurs applied =>
    exact .string content (again _ ⟨node, .self, .inr ⟨_, content⟩⟩ _ occurs) applied

/-- A node that evaluation cannot get past does not hold. -/
theorem not_holds_stuck {environment : Environment} {failure : Failure EvalError}
    (obstacle : node.obstacle? = some failure) : ¬ node.Holds environment fun _ => none := by
  obtain ⟨kind?, number, content⟩ := node
  match content, obstacle with
  | .bare, _ | .value _, _ | .field _, _ | .range _, _ => exact nofun
  | .test ⟨none, _, _⟩, _ | .test ⟨some _, none, _⟩, _ => exact nofun
  | .test ⟨some .and, some _, none⟩, _ => exact nofun
  | .test ⟨some .or, some _, none⟩, _ => exact nofun
  | .test ⟨some (.relation _), some _, none⟩, _ => exact nofun

/-- What holds of an expression in a source holds in every source in which it cannot be lost. -/
theorem Keeps.holds {registry : Registry} (keeps : node.Keeps first second)
    (holds : node.Holds ⟨registry, first⟩ fun _ => none) :
    node.Holds ⟨registry, second⟩ fun _ => none := by
  induction node using Node.testInduction generalizing first second with
  | present node operand second? content =>
    obtain ⟨value, held⟩ := (holds_present rfl content).mp holds
    have keepsOperand := keeps.operand content List.mem_cons_self
    exact (holds_present rfl content).mpr ⟨value, held.again keepsOperand.again⟩
  | not node operand second? content inductionHypothesis =>
    rw [holds_not rfl content] at holds ⊢
    exact fun operandHolds => holds (inductionHypothesis (keeps.negated content) operandHolds)
  | connective node op decided left right connective content leftHypothesis rightHypothesis =>
    have keepsLeft := keeps.operand content List.mem_cons_self
    have keepsRight := keeps.operand content (List.mem_append_right _ List.mem_cons_self)
    rw [holds_connective rfl connective content] at holds ⊢
    cases decided with
    | false => exact holds.imp (leftHypothesis keepsLeft) (rightHypothesis keepsRight)
    | true => exact holds.imp (leftHypothesis keepsLeft) (rightHypothesis keepsRight)
  | relation node comparison left right content =>
    have keepsLeft := keeps.operand content List.mem_cons_self
    have keepsRight := keeps.operand content (List.mem_append_right _ List.mem_cons_self)
    obtain ⟨leftValue, rightValue, leftHeld, rightHeld, related⟩ :=
      (holds_relation rfl content).mp holds
    exact (holds_relation rfl content).mpr ⟨leftValue, rightValue,
      leftHeld.again keepsLeft.again, rightHeld.again keepsRight.again, related⟩
  | stuck node failure obstacle => exact absurd holds (not_holds_stuck obstacle)

theorem holds_iff_of_evaluate {registry : Registry} {source : FieldSource} {result : Bool}
    (evaluated : (evaluate registry source node).result = .ok result) :
    (node.Holds ⟨registry, source⟩ fun _ => none) ↔ result = true := by
  rw [result_evaluate] at evaluated
  exact holds_iff_of_result evaluated nofun

/-- Evaluation does not refute in a source what cannot be lost in it. -/
theorem Keeps.eq_true {registry : Registry} (keeps : node.Keeps first second)
    (matched : (evaluate registry first node).result = .ok true) {result : Bool}
    (evaluated : (evaluate registry second node).result = .ok result) : result = true :=
  (holds_iff_of_evaluate evaluated).mp (keeps.holds ((holds_iff_of_evaluate matched).mpr rfl))

/-! ### The same values in the same order -/

/-- The fields of the expression have the same lists of values in both sources. -/
def SeesSame (node : Node) (first second : FieldSource) : Prop :=
  ∀ field, node.Mentions field → first field = second field

theorem SeesSame.operand (same : node.SeesSame first second) (content : node.content = .test test)
    (member : inner ∈ test.operands) : inner.SeesSame first second :=
  fun field mentions => same field (mentions.ofOperand content member)

/-- An operand contributes the same values, or fails in the same way. -/
theorem SeesSame.values (same : node.SeesSame first second) :
    node.values first = node.values second := by
  cases content : node.content with
  | bare =>
    by_cases kind : node.kind? = some .integer
    · rw [values_number kind content, values_number kind content]
    · rw [values_bare kind content, values_bare kind content]
  | value literal => rw [values_literal content, values_literal content]
  | field field =>
    rw [values_field content, values_field content, same field ⟨node, .self, .inl content⟩]
  | range range =>
    rw [values_range content, values_range content]
    obtain ⟨field?, slices?⟩ := range
    match field?, slices? with
    | none, _ | some field, none => rfl
    | some field, some slices =>
      exact congrArg (FieldRange.sliceValues field slices)
        (same field ⟨node, .self, .inr ⟨_, content⟩⟩)
  | test test => rw [values_test content, values_test content]

theorem SeesSame.isPresent (registry : Registry) (same : node.SeesSame first second) :
    Environment.isPresent ⟨registry, first⟩ node = Environment.isPresent ⟨registry, second⟩ node :=
  congrArg (Except.map _) same.values

theorem SeesSame.isRelated (registry : Registry) {left right : Node} (comparison : Comparison)
    (leftSame : left.SeesSame first second) (rightSame : right.SeesSame first second) :
    Environment.isRelated ⟨registry, first⟩ comparison left right =
      Environment.isRelated ⟨registry, second⟩ comparison left right := by
  unfold Environment.isRelated
  rw [leftSame.values, rightSame.values]
  rfl

/-- It is enough to look at levels that the limit admits; it is the same one for both sources. -/
theorem truth_eq_of_admits {registry : Registry} {depth : Nat}
    (same : Environment.admits ⟨registry, first⟩ depth = true →
      Environment.admits ⟨registry, second⟩ depth = true →
      node.truth ⟨registry, first⟩ depth = node.truth ⟨registry, second⟩ depth) :
    node.truth ⟨registry, first⟩ depth = node.truth ⟨registry, second⟩ depth := by
  cases admitted : Environment.admits ⟨registry, first⟩ depth with
  | true => exact same admitted admitted
  | false =>
    have alsoRefused : Environment.admits ⟨registry, second⟩ depth = false := admitted
    rw [truth_refused admitted, truth_refused alsoRefused]

/-- The evaluation of a test is the same, log and all. -/
theorem SeesSame.truth {registry : Registry} (same : node.SeesSame first second) (depth : Nat) :
    node.truth ⟨registry, first⟩ depth = node.truth ⟨registry, second⟩ depth := by
  induction node using Node.testInduction generalizing depth with
  | present node operand second? content =>
    refine truth_eq_of_admits fun admitted alsoAdmitted => ?_
    have sameOperand := same.operand content List.mem_cons_self
    rw [truth_present admitted content, truth_present alsoAdmitted content,
      sameOperand.isPresent registry]
  | not node operand second? content inductionHypothesis =>
    refine truth_eq_of_admits fun admitted alsoAdmitted => ?_
    have sameOperand := same.operand content List.mem_cons_self
    rw [truth_not admitted content, truth_not alsoAdmitted content,
      inductionHypothesis sameOperand]
  | connective node op decided left right connective content leftHypothesis rightHypothesis =>
    refine truth_eq_of_admits fun admitted alsoAdmitted => ?_
    have sameLeft := same.operand content List.mem_cons_self
    have sameRight := same.operand content (List.mem_append_right _ List.mem_cons_self)
    rw [truth_connective admitted connective content,
      truth_connective alsoAdmitted connective content, leftHypothesis sameLeft,
      rightHypothesis sameRight]
  | relation node comparison left right content =>
    refine truth_eq_of_admits fun admitted alsoAdmitted => ?_
    have sameLeft := same.operand content List.mem_cons_self
    have sameRight := same.operand content (List.mem_append_right _ List.mem_cons_self)
    rw [truth_relation admitted content, truth_relation alsoAdmitted content,
      sameLeft.isRelated registry comparison sameRight]
  | stuck node failure obstacle =>
    refine truth_eq_of_admits fun admitted alsoAdmitted => ?_
    rw [truth_stuck admitted obstacle, truth_stuck alsoAdmitted obstacle]

end

end Node

/-! ### More values -/

/-- An expression without negations that holds in a source is not refuted in a source that has
the same values and more. -/
theorem evaluate_of_more (registry : Registry) {fewer more : FieldSource}
    (included : ∀ field, ∀ value ∈ fewer field, value ∈ more field) {node : Node}
    (free : node.IsNegationFree) (matched : (evaluate registry fewer node).result = .ok true)
    {result : Bool} (evaluated : (evaluate registry more node).result = .ok result) :
    result = true := by
  have keeps : node.Keeps fewer more := ⟨fun field _ => included field, .inl free⟩
  exact keeps.eq_true matched evaluated

/-- Data in which other addresses stand before those of `twoAddresses`, the first of them too
short to be sliced. -/
def fourAddresses : FieldSource := fun field =>
  [.bytes [1], .bytes [255, 255, 255]] ++ (twoAddresses field).reverse

theorem eq_of_isWithin_vendorIsKnown {inner : Node} (within : inner.IsWithin vendorIsKnown) :
    inner = vendorIsKnown ∨ inner = vendorField ∨
      inner = ⟨some .bytes, 0, .value (.bytes [27, 33])⟩ := by
  cases within with
  | self => exact .inl rfl
  | operand content member within =>
    cases content
    rcases List.mem_cons.mp member with rfl | member
    · exact .inr (.inl (within.eq_of_leaf nofun))
    · cases List.mem_singleton.mp member
      exact .inr (.inr (within.eq_of_leaf nofun))

theorem isNegationFree_vendorIsKnown : vendorIsKnown.IsNegationFree := by
  intro inner within
  rcases eq_of_isWithin_vendorIsKnown within with rfl | rfl | rfl <;> exact nofun

/-- The first address has no slices, and the second one has others than those asked for. -/
theorem evaluate_of_more_fourAddresses :
    (evaluate (.standard .standard) twoAddresses vendorIsKnown).result = .ok true ∧
      ∃ result, (evaluate (.standard .standard) fourAddresses vendorIsKnown).result =
        .ok result ∧ result = true := by
  have included : ∀ field, ∀ value ∈ twoAddresses field, value ∈ fourAddresses field :=
    fun field value member => List.mem_append_right _ (List.mem_reverse.mpr member)
  exact ⟨rfl, true, rfl,
    evaluate_of_more (.standard .standard) included isNegationFree_vendorIsKnown rfl rfl⟩

/-! ### The same values -/

/-- Two sources in which the mentioned fields have the same values, in any order and however
often, agree on the truth value where both come to one. If the values stand there in the same
order and as often, evaluation is the same altogether. -/
theorem evaluate_of_mentioned (registry : Registry) (first second : FieldSource) (node : Node) :
    ((∀ field, node.Mentions field → ∀ value, value ∈ first field ↔ value ∈ second field) →
      ∀ firstResult secondResult, (evaluate registry first node).result = .ok firstResult →
        (evaluate registry second node).result = .ok secondResult →
          firstResult = secondResult) ∧
    ((∀ field, node.Mentions field → first field = second field) →
      evaluate registry first node = evaluate registry second node) := by
  constructor
  · intro same firstResult secondResult firstEvaluated secondEvaluated
    have forward : node.FindsAgain first second :=
      fun field mentions value => (same field mentions value).mp
    have back : node.FindsAgain second first :=
      fun field mentions value => (same field mentions value).mpr
    have agree : firstResult = true ↔ secondResult = true := by
      rw [← Node.holds_iff_of_evaluate firstEvaluated,
        ← Node.holds_iff_of_evaluate secondEvaluated]
      exact ⟨(⟨forward, .inr back⟩ : node.Keeps first second).holds,
        (⟨back, .inr forward⟩ : node.Keeps second first).holds⟩
    exact Bool.eq_iff_iff.mpr agree
  · intro same
    have sameRun : node.truth ⟨registry, first⟩ 0 = node.truth ⟨registry, second⟩ 0 :=
      Node.SeesSame.truth same 0
    exact congrArg _ sameRun

/-- `!(eth.src[1:2] == 1b:21)` -/
def vendorIsUnknown : Node :=
  ⟨some .test, 0, .test ⟨some .not, some vendorIsKnown, none⟩⟩

theorem eq_of_mentions_vendorIsUnknown {field : FieldRef}
    (mentions : vendorIsUnknown.Mentions field) : field = ⟨"eth.src", .bytes⟩ := by
  obtain ⟨inner, within, refers⟩ := mentions
  cases within with
  | self => rcases refers with same | ⟨_, same⟩ <;> cases same
  | operand content member within =>
    cases content
    cases List.mem_singleton.mp member
    rcases eq_of_isWithin_vendorIsKnown within with rfl | rfl | rfl <;>
      rcases refers with same | ⟨_, same⟩ <;> cases same
    rfl

/-- The addresses of `twoAddresses` in the given order, in data that has a counter as well. -/
def countedAddresses (addresses : List Value) : FieldSource := fun field =>
  if field = ⟨"eth.src", .bytes⟩ then addresses else [.integer 64]

/-- Neither the counter matters, nor that the addresses stand in another order and one of them
twice. -/
theorem evaluate_of_mentioned_countedAddresses :
    (evaluate (.standard .standard)
        (countedAddresses [.bytes [0], .bytes [0, 27, 33, 58], .bytes [0]])
          vendorIsUnknown).result = .ok false ∧
      (evaluate (.standard .standard) twoAddresses vendorIsUnknown).result = .ok false ∧
      evaluate (.standard .standard) twoAddresses vendorIsUnknown =
        evaluate (.standard .standard)
          (countedAddresses [.bytes [0, 27, 33, 58], .bytes [0]]) vendorIsUnknown := by
  have sameValues (field : FieldRef) (mentions : vendorIsUnknown.Mentions field) (value : Value) :
      value ∈ countedAddresses [.bytes [0], .bytes [0, 27, 33, 58], .bytes [0]] field ↔
        value ∈ twoAddresses field := by
    rw [eq_of_mentions_vendorIsUnknown mentions]
    show value ∈ [Value.bytes [0], .bytes [0, 27, 33, 58], .bytes [0]] ↔
      value ∈ [Value.bytes [0, 27, 33, 58], .bytes [0]]
    grind
  have sameList (field : FieldRef) (mentions : vendorIsUnknown.Mentions field) :
      twoAddresses field = countedAddresses [.bytes [0, 27, 33, 58], .bytes [0]] field := by
    rw [eq_of_mentions_vendorIsUnknown mentions]
    rfl
  obtain ⟨result, evaluated⟩ : ∃ result, (evaluate (.standard .standard)
      (countedAddresses [.bytes [0], .bytes [0, 27, 33, 58], .bytes [0]])
        vendorIsUnknown).result = .ok result := ⟨_, rfl⟩
  have isFalse : result = false :=
    (evaluate_of_mentioned (.standard .standard) _ twoAddresses vendorIsUnknown).1 sameValues
      result false evaluated rfl
  refine ⟨isFalse ▸ evaluated, rfl, ?_⟩
  exact (evaluate_of_mentioned (.standard .standard) _ _ vendorIsUnknown).2 sameList

end PacketFilter
