/-
This file exchanges the two forms of a literal integer. Its number stands either in the node
itself, which then has no content, or in the content, as the value of a literal. Evaluation, its
errors, its log and the text of an expression do not tell the two forms apart, wherever the literal
stands: as an operand with a value, or by mistake in the place of a test.
-/

import PacketFilter.Expr.Build
import PacketFilter.Proofs.Eval.Reading
import PacketFilter.Proofs.Registry.Built

namespace PacketFilter

/-! ### Two forms of a literal integer -/

/-- A literal integer in its other form: with its number as content, or without content. Every
other node stays as it is. -/
def Node.exchanged : Node → Node
  | ⟨some .integer, number, .bare⟩ => ⟨some .integer, 0, .value (.integer number)⟩
  | ⟨some .integer, _, .value (.integer number)⟩ => ⟨some .integer, number, .bare⟩
  | node => node

mutual

/-- The expression with the literal integers at the chosen positions in their other form. -/
def Node.respelled (chosen : Position → Bool) : Node → Node
  | ⟨kind?, number, .test inner⟩ => ⟨kind?, number, .test (inner.respelled chosen)⟩
  | node => if chosen [] then node.exchanged else node

/-- The test with the literal integers at the chosen positions in their other form. -/
def Test.respelled (chosen : Position → Bool) : Test → Test
  | ⟨op?, first?, second?⟩ =>
    ⟨op?, Node.respelledOperand (fun position => chosen (.first :: position)) first?,
      Node.respelledOperand (fun position => chosen (.second :: position)) second?⟩

/-- The operand, if there is one, with the literal integers at the chosen positions in their other
form. -/
def Node.respelledOperand (chosen : Position → Bool) : Option Node → Option Node
  | none => none
  | some operand => some (operand.respelled chosen)

end

namespace Node

section

variable {node : Node} (chosen : Position → Bool)

theorem content_respelled {op? : Option TestOp} {first? second? : Option Node}
    (content : node.content = .test ⟨op?, first?, second?⟩) :
    (node.respelled chosen).content =
      .test ⟨op?, respelledOperand (fun position => chosen (.first :: position)) first?,
        respelledOperand (fun position => chosen (.second :: position)) second?⟩ := by
  obtain ⟨kind?, number, inner⟩ := node
  subst content
  rfl

/-- Whatever a literal has in common with its other form, and a test with the test over respelled
operands, an expression has in common with every respelling. -/
theorem answer_respelled {Answer : Type} (answer : Node → Answer)
    (literal : answer node.exchanged = answer node)
    (test : ∀ kind? number inner, node = ⟨kind?, number, .test inner⟩ →
      answer ⟨kind?, number, .test (inner.respelled chosen)⟩ = answer node) :
    answer (node.respelled chosen) = answer node := by
  obtain ⟨kind?, number, content⟩ := node
  cases content with
  | test inner => exact test kind? number inner rfl
  | bare | value | field | range =>
    unfold respelled
    split
    · exact literal
    · rfl

/-- Both forms of a literal contribute its number; a test contributes nothing. -/
theorem values_respelled (source : FieldSource) :
    (node.respelled chosen).values source = node.values source := by
  refine answer_respelled chosen (·.values source) ?_ ?_
  · unfold exchanged
    split <;> rfl
  · rintro kind? number inner rfl
    rw [values_test rfl, values_test rfl]
    rfl

/-- Evaluation gets past the same nodes, and fails at the others in the same way. -/
theorem obstacle?_respelled : (node.respelled chosen).obstacle? = node.obstacle? := by
  refine answer_respelled chosen obstacle? ?_ ?_
  · unfold exchanged
    split <;> rfl
  · rintro kind? number ⟨op?, first?, second?⟩ rfl
    cases op? <;> cases first? <;> cases second? <;> rfl

end

end Node

/-! ### Text -/

/-- The text of a test is made of the texts of its operands. -/
theorem Test.text_congr {zone : Zone} (op : TestOp) {first other : Node}
    {second? otherSecond? : Option Node} (sameFirst : first.text zone = other.text zone)
    (sameSecond : second?.map (Node.text zone) = otherSecond?.map (Node.text zone)) :
    Test.text zone ⟨some op, some first, second?⟩ =
      Test.text zone ⟨some op, some other, otherSecond?⟩ := by
  match second?, otherSecond?, sameSecond with
  | none, none, _ => cases op <;> simp only [Test.text, sameFirst]
  | some second, some otherSecond, sameSecond =>
    have sameTexts := Option.some.inj sameSecond
    cases op <;> simp only [Test.text, sameFirst, sameTexts]

/-- Both forms of a literal are written as its number. -/
theorem Node.text_exchanged (zone : Zone) (node : Node) :
    node.exchanged.text zone = node.text zone := by
  unfold exchanged
  split <;> rfl

mutual

theorem Node.text_respelled (zone : Zone) (chosen : Position → Bool) :
    (node : Node) → (node.respelled chosen).text zone = node.text zone
  | ⟨none, _, .test _⟩ => rfl
  | ⟨some _, _, .test inner⟩ => Test.text_respelled zone chosen inner
  | ⟨_, _, .bare⟩ | ⟨_, _, .value _⟩ | ⟨_, _, .field _⟩ | ⟨_, _, .range _⟩ =>
    Node.answer_respelled chosen (Node.text zone) (Node.text_exchanged zone _) nofun

theorem Test.text_respelled (zone : Zone) (chosen : Position → Bool) :
    (test : Test) → (test.respelled chosen).text zone = test.text zone
  | ⟨some op, some first, second?⟩ =>
    Test.text_congr op (Node.text_respelled zone _ first)
      (Node.text_respelledOperand zone _ second?)
  | ⟨some _, none, _⟩ | ⟨none, _, _⟩ => rfl

theorem Node.text_respelledOperand (zone : Zone) (chosen : Position → Bool) :
    (operand? : Option Node) →
      (Node.respelledOperand chosen operand?).map (Node.text zone) =
        operand?.map (Node.text zone)
  | none => rfl
  | some operand => congrArg some (Node.text_respelled zone chosen operand)

end

/-! ### Runs -/

/-- Two runs have the same result and leave the same records in the log. -/
structure Run.LooksLike {Result : Type} (zone : Zone) (run other : Run Result) : Prop where
  result : run.result = other.result
  records : run.log.map (Event.record zone) = other.log.map (Event.record zone)

namespace Run.LooksLike

variable {zone : Zone} {Result : Type} {run other : Run Result}

theorem refl (run : Run Result) : run.LooksLike zone run :=
  ⟨rfl, rfl⟩

theorem map {Second : Type} (change : Result → Second) (same : run.LooksLike zone other) :
    (run.map change).LooksLike zone (other.map change) :=
  ⟨by rw [result_map, result_map, same.result], same.records⟩

theorem bind {Second : Type} {next otherNext : Result → Run Second}
    (same : run.LooksLike zone other)
    (sameNext : ∀ result, (next result).LooksLike zone (otherNext result)) :
    (run.bind next).LooksLike zone (other.bind otherNext) := by
  cases found : run.result with
  | error failure =>
    have otherFound := same.result.symm.trans found
    constructor
    · rw [result_bind, result_bind, found, otherFound]
      rfl
    · rw [log_bind_of_error found, log_bind_of_error otherFound, same.records]
  | ok result =>
    have otherFound := same.result.symm.trans found
    constructor
    · rw [result_bind, result_bind, found, otherFound]
      exact (sameNext result).result
    · rw [log_bind_of_ok found, log_bind_of_ok otherFound, List.map_append, List.map_append,
        same.records, (sameNext result).records]

theorem noting {event otherEvent : Result → Event} (same : run.LooksLike zone other)
    (sameRecord : ∀ result, (event result).record zone = (otherEvent result).record zone) :
    (run.noting event).LooksLike zone (other.noting otherEvent) := by
  refine ⟨by rw [result_noting, result_noting, same.result], ?_⟩
  cases found : run.result with
  | error failure =>
    rw [log_noting_of_error _ found, log_noting_of_error _ (same.result.symm.trans found),
      same.records]
  | ok result =>
    rw [log_noting_of_ok _ found, log_noting_of_ok _ (same.result.symm.trans found),
      List.map_append, List.map_append, same.records, List.map_singleton, List.map_singleton,
      sameRecord]

end Run.LooksLike

namespace Node

/-! ### Evaluation -/

theorem isPresent_respelled (environment : Environment) (chosen : Position → Bool)
    (operand : Node) :
    environment.isPresent (operand.respelled chosen) = environment.isPresent operand :=
  congrArg (Except.map _) (values_respelled chosen environment.source)

theorem isRelated_respelled (environment : Environment) (comparison : Comparison)
    (leftChosen rightChosen : Position → Bool) (left right : Node) :
    environment.isRelated comparison (left.respelled leftChosen) (right.respelled rightChosen) =
      environment.isRelated comparison left right := by
  unfold Environment.isRelated
  rw [values_respelled, values_respelled]

/-- A test that is noted looks the same over respelled operands, if what it comes to does. -/
theorem looksLike_noting_respelled {zone : Zone} {run other : Run Bool}
    (same : run.LooksLike zone other) (op : TestOp) (depth : Nat) (node : Node)
    (chosen : Position → Bool) :
    (run.noting (Event.reduced op depth (node.respelled chosen))).LooksLike zone
      (other.noting (Event.reduced op depth node)) := by
  refine same.noting fun result => ?_
  simp only [Event.record, text_respelled]

/-- It is enough to look at levels that the limit admits. -/
theorem looksLike_of_admits {zone : Zone} {environment : Environment} {node other : Node}
    {depth : Nat} (same : environment.admits depth = true →
      (node.truth environment depth).LooksLike zone (other.truth environment depth)) :
    (node.truth environment depth).LooksLike zone (other.truth environment depth) := by
  cases admitted : environment.admits depth with
  | true => exact same admitted
  | false =>
    rw [truth_refused admitted, truth_refused admitted]
    exact .refl _

/-- The evaluation of a test looks the same, whichever literals are in their other form. -/
theorem looksLike_truth_respelled (zone : Zone) (environment : Environment) (node : Node)
    (chosen : Position → Bool) (depth : Nat) :
    ((node.respelled chosen).truth environment depth).LooksLike zone
      (node.truth environment depth) := by
  induction node using Node.testInduction generalizing chosen depth with
  | present node operand second? content =>
    refine looksLike_of_admits fun admitted => ?_
    rw [truth_present admitted (content_respelled chosen content),
      truth_present admitted content, isPresent_respelled]
    exact looksLike_noting_respelled (.refl _) _ _ _ _
  | not node operand second? content inductionHypothesis =>
    refine looksLike_of_admits fun admitted => ?_
    rw [truth_not admitted (content_respelled chosen content), truth_not admitted content]
    exact looksLike_noting_respelled ((inductionHypothesis _ _).map _) _ _ _ _
  | connective node op decided left right connective content leftHypothesis rightHypothesis =>
    refine looksLike_of_admits fun admitted => ?_
    rw [truth_connective admitted connective (content_respelled chosen content),
      truth_connective admitted connective content]
    refine looksLike_noting_respelled ((leftHypothesis _ _).bind fun holds => ?_) _ _ _ _
    by_cases decides : holds = decided
    · rw [if_pos decides, if_pos decides]
      exact .refl _
    · rw [if_neg decides, if_neg decides]
      exact rightHypothesis _ _
  | relation node comparison left right content =>
    refine looksLike_of_admits fun admitted => ?_
    rw [truth_relation admitted (content_respelled chosen content),
      truth_relation admitted content, isRelated_respelled]
    exact looksLike_noting_respelled (.refl _) _ _ _ _
  | stuck node failure obstacle =>
    refine looksLike_of_admits fun admitted => ?_
    rw [truth_stuck admitted ((obstacle?_respelled chosen).trans obstacle),
      truth_stuck admitted obstacle]
    exact .refl _

/-! ### Building literals -/

/-- The two ways of building a literal integer, from its number and from its value, give its two
forms. -/
theorem exists_forms_of_built {registry : Registry} (built : registry.Built)
    (live : registry.isRegistered .integer = true) (number : UInt32) :
    ∃ inline payload, integer registry number = .ok inline ∧
      literal registry (.integer number) = .ok payload ∧
      inline.exchanged = payload ∧ payload.exchanged = inline := by
  have found := built.lookup_of_isRegistered live
  have inlineContent : initialContent registry .integer .bare = .ok .bare := by
    unfold initialContent
    rw [found]
    rfl
  have payloadContent : initialContent registry .integer (.value (.integer number)) =
      .ok (.value (.integer number)) := by
    unfold initialContent
    rw [found]
    rfl
  refine ⟨⟨some .integer, number, .bare⟩, ⟨some .integer, 0, .value (.integer number)⟩,
    ?_, ?_, rfl, rfl⟩
  · show ((initialContent registry .integer .bare).map _).map _ = _
    rw [inlineContent]
    rfl
  · show (initialContent registry .integer (.value (.integer number))).map _ = _
    rw [payloadContent]
    rfl

end Node

/-- Expressions that differ in the form of literal integers, wherever these stand, have the same
value or end in the same error, leave the same records in the log, and have the same text. The
two forms are what building a literal gives from its number and from its value. -/
theorem evaluate_respelled (zone : Zone) (registry : Registry) (source : FieldSource)
    (node : Node) (chosen : Position → Bool) :
    (evaluate registry source (node.respelled chosen)).result =
        (evaluate registry source node).result ∧
      (evaluate registry source (node.respelled chosen)).log.map (Event.record zone) =
        (evaluate registry source node).log.map (Event.record zone) ∧
      (node.respelled chosen).text zone = node.text zone ∧
      (∀ builder : Registry, builder.Built → builder.isRegistered .integer = true →
        ∀ number, ∃ inline payload, Node.integer builder number = .ok inline ∧
          Node.literal builder (.integer number) = .ok payload ∧
          inline.exchanged = payload ∧ payload.exchanged = inline) := by
  have sameText : (node.respelled chosen).text zone = node.text zone :=
    Node.text_respelled zone chosen node
  have sameRun : (evaluate registry source (node.respelled chosen)).LooksLike zone
      (evaluate registry source node) := by
    refine (Node.looksLike_truth_respelled zone ⟨registry, source⟩ node chosen 0).noting ?_
    intro result
    simp only [Event.record, sameText]
  exact ⟨sameRun.result, sameRun.records, sameText,
    fun builder built live number => Node.exists_forms_of_built built live number⟩

/-! ### A number in the place of a test -/

/-- `tcp.port == 443 && 443`, with both numbers in their nodes. -/
def portWithNumber : Node :=
  ⟨some .test, 0, .test ⟨some .and,
    some ⟨some .test, 0, .test ⟨some (.relation .eq), some portField,
      some ⟨some .integer, 443, .bare⟩⟩⟩,
    some ⟨some .integer, 443, .bare⟩⟩⟩

/-- `tcp.port == 443 && 443`, with both numbers as content. -/
def portWithValue : Node :=
  ⟨some .test, 0, .test ⟨some .and,
    some ⟨some .test, 0, .test ⟨some (.relation .eq), some portField,
      some ⟨some .integer, 0, .value (.integer 443)⟩⟩⟩,
    some ⟨some .integer, 0, .value (.integer 443)⟩⟩⟩

/-- The comparison holds and is noted, and the second number is no test, in both forms. -/
theorem evaluate_respelled_portWithNumber :
    (evaluate (.standard .standard) twoPorts portWithValue).result =
        .error (.error (.notATest "INTEGER")) ∧
      (evaluate (.standard .standard) twoPorts portWithValue).log.map (Event.record .utc) =
        (evaluate (.standard .standard) twoPorts portWithNumber).log.map (Event.record .utc) ∧
      portWithValue.text .utc = portWithNumber.text .utc ∧
      ∃ inline payload, Node.integer (.standard .standard) 443 = .ok inline ∧
        Node.literal (.standard .standard) (.integer 443) = .ok payload ∧
        inline.exchanged = payload ∧ payload.exchanged = inline := by
  obtain ⟨result, records, text, forms⟩ := evaluate_respelled .utc (.standard .standard) twoPorts
    portWithNumber fun _ => true
  have evaluated : (evaluate (.standard .standard) twoPorts portWithNumber).result =
      .error (.error (.notATest "INTEGER")) := rfl
  exact ⟨result.trans evaluated, records, text,
    forms (.standard .standard) (.registerAll (.empty _ _)) rfl 443⟩

end PacketFilter
