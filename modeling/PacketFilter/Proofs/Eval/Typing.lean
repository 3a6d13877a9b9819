/-
This file says which expressions are well typed: connectives stand over tests, and a comparison
stands between two operands of one kind, which is live and supports it. The main result is that
a well-typed expression has a truth value in all data whose fields have values of the kinds that
they are declared with, if the settings leave room for its nesting.
-/

import PacketFilter.Proofs.Eval.Operand
import PacketFilter.Proofs.Eval.Truth
import PacketFilter.Proofs.Registry.Built
import PacketFilter.Proofs.Slice.Built

namespace PacketFilter

/-! ### Types -/

/-- An operand whose values are all of one kind. Slices are taken of byte strings and of strings
only, and the slices of a field are of the kind of the field. -/
inductive Node.HasKind (node : Node) : Kind → Prop
  | number (kind : node.kind? = some .integer) (content : node.content = .bare) :
      node.HasKind .integer
  | literal {literal : Value} (content : node.content = .value literal) :
      node.HasKind literal.kind
  | field {field : FieldRef} (content : node.content = .field field)
      (valued : field.kind.hasValues = true) : node.HasKind field.kind
  | range {field : FieldRef} {slices : SliceSeries}
      (content : node.content = .range ⟨some field, some slices⟩) (built : slices.Built)
      (sliceable : field.kind = .bytes ∨ field.kind = .string) : node.HasKind field.kind

/-- A test that asks of its operands only what they have. -/
inductive Node.WellTyped (registry : Registry) : Node → Prop
  | present {node operand : Node} {second? : Option Node} {kind : Kind}
      (content : node.content = .test ⟨some .present, some operand, second?⟩)
      (typed : operand.HasKind kind) : node.WellTyped registry
  | not {node operand : Node} {second? : Option Node}
      (content : node.content = .test ⟨some .not, some operand, second?⟩)
      (typed : operand.WellTyped registry) : node.WellTyped registry
  | connective {node left right : Node} {op : TestOp} (logical : op = .and ∨ op = .or)
      (content : node.content = .test ⟨some op, some left, some right⟩)
      (leftTyped : left.WellTyped registry) (rightTyped : right.WellTyped registry) :
      node.WellTyped registry
  | relation {node left right : Node} {comparison : Comparison} {kind : Kind}
      (content : node.content = .test ⟨some (.relation comparison), some left, some right⟩)
      (leftTyped : left.HasKind kind) (rightTyped : right.HasKind kind)
      (live : registry.isRegistered kind = true)
      (supported : Descriptor.supports ⟨kind⟩ comparison = true) : node.WellTyped registry

/-- How many negations and connectives stand above the deepest test. -/
def Node.nesting : Node → Nat
  | ⟨_, _, .test ⟨some .not, some operand, _⟩⟩ => operand.nesting + 1
  | ⟨_, _, .test ⟨some .and, some left, some right⟩⟩ => max left.nesting right.nesting + 1
  | ⟨_, _, .test ⟨some .or, some left, some right⟩⟩ => max left.nesting right.nesting + 1
  | _ => 0

/-- Data whose fields have values of the declared kinds only. -/
def FieldSource.KeepsKinds (source : FieldSource) : Prop :=
  ∀ field, ∀ value ∈ source field, value.kind = field.kind

namespace Node

theorem nesting_not {node operand : Node} {second? : Option Node}
    (content : node.content = .test ⟨some .not, some operand, second?⟩) :
    node.nesting = operand.nesting + 1 := by
  obtain ⟨kind?, number, inner⟩ := node
  subst content
  rfl

theorem nesting_connective {node left right : Node} {op : TestOp}
    (logical : op = .and ∨ op = .or)
    (content : node.content = .test ⟨some op, some left, some right⟩) :
    node.nesting = max left.nesting right.nesting + 1 := by
  obtain ⟨kind?, number, inner⟩ := node
  subst content
  rcases logical with rfl | rfl <;> rfl

end Node

/-! ### Operands -/

/-- A value of a kind that can be sliced has slices of that kind, or is too short for them. -/
theorem FieldRange.sliceValue_of_kind (field : FieldRef) {slices : SliceSeries}
    (built : slices.Built) {whole : Value}
    (sliceable : whole.kind = .bytes ∨ whole.kind = .string) :
    ∃ sliced?, sliceValue field slices whole = .ok sliced? ∧
      ∀ part, sliced? = some part → part.kind = whole.kind := by
  cases whole with
  | bytes content =>
    obtain ⟨selected?, applied⟩ := built.apply content
    refine ⟨selected?.map .bytes, ?_, ?_⟩
    · rw [sliceValue, applied]
      rfl
    · intro part sliced
      obtain ⟨selected, -, rfl⟩ := Option.map_eq_some_iff.mp sliced
      rfl
  | string text =>
    obtain ⟨selected?, applied⟩ := built.apply (Text.utf8Bytes text)
    refine ⟨selected?.map fun selected => .string (Text.textOfBytes selected), ?_, ?_⟩
    · rw [sliceValue, applied]
      rfl
    · intro part sliced
      obtain ⟨selected, -, rfl⟩ := Option.map_eq_some_iff.mp sliced
      rfl
  | integer | double | absoluteTime | relativeTime =>
    rcases sliceable with impossible | impossible <;> cases impossible

/-- Values of a kind that can be sliced have slices of that kind. -/
theorem FieldRange.sliceValues_of_kind (field : FieldRef) {slices : SliceSeries}
    (built : slices.Built) {kind : Kind} (sliceable : kind = .bytes ∨ kind = .string)
    {wholes : List Value} (kinds : ∀ whole ∈ wholes, whole.kind = kind) :
    ∃ parts, sliceValues field slices wholes = .ok parts ∧ ∀ part ∈ parts, part.kind = kind := by
  induction wholes with
  | nil => exact ⟨[], rfl, fun part member => nomatch member⟩
  | cons whole rest inductionHypothesis =>
    have wholeKind := kinds whole List.mem_cons_self
    obtain ⟨sliced?, sliced, slicedKind⟩ :=
      sliceValue_of_kind field built (wholeKind.symm ▸ sliceable)
    obtain ⟨others, slicedOthers, otherKinds⟩ :=
      inductionHypothesis fun other member => kinds other (List.mem_cons_of_mem _ member)
    refine ⟨sliced?.toList ++ others, ?_, ?_⟩
    · unfold sliceValues
      rw [sliced, slicedOthers]
      rfl
    · intro part member
      rcases List.mem_append.mp member with here | there
      · rw [slicedKind part (Option.mem_toList.mp here), wholeKind]
      · exact otherKinds part there

/-- The values of an operand of a kind are found, and are of that kind. -/
theorem Node.HasKind.values {source : FieldSource} (keeps : source.KeepsKinds) {operand : Node}
    {kind : Kind} (typed : operand.HasKind kind) :
    ∃ values, operand.values source = .ok values ∧ ∀ value ∈ values, value.kind = kind := by
  cases typed with
  | number kind content =>
    refine ⟨_, Node.values_number kind content, ?_⟩
    intro value member
    rw [List.mem_singleton.mp member]
    rfl
  | literal content =>
    refine ⟨_, Node.values_literal content, ?_⟩
    intro value member
    rw [List.mem_singleton.mp member]
  | field content valued => exact ⟨_, Node.values_field content, keeps _⟩
  | range content built sliceable =>
    obtain ⟨parts, sliced, partKinds⟩ :=
      FieldRange.sliceValues_of_kind _ built sliceable (keeps _)
    exact ⟨parts, (Node.values_range content).trans sliced, partKinds⟩

/-! ### Comparisons -/

section

variable {registry : Registry} {comparison : Comparison} {kind : Kind} {left right : Value}

/-- Two values of a kind that is live and supports a comparison are compared by their order. -/
theorem Registry.Built.compare_eq (built : registry.Built)
    (live : registry.isRegistered kind = true)
    (supported : Descriptor.supports ⟨kind⟩ comparison = true) (leftKind : left.kind = kind)
    (rightKind : right.kind = kind) :
    registry.compare comparison left right = .ok (comparison.holds (left.order right)) := by
  have compared : Descriptor.compare ⟨kind⟩ comparison left right =
      .ok (comparison.holds (left.order right)) := by
    unfold Descriptor.compare
    rw [supported, leftKind, rightKind]
    simp
  unfold Registry.compare
  rw [leftKind, built.lookup_of_isRegistered live]
  show Except.mapError _ (Descriptor.compare _ _ _ _) = _
  rw [compared]
  rfl

/-- Two values of a kind that is live and supports a comparison can be compared. -/
theorem Registry.Built.compare (built : registry.Built) (live : registry.isRegistered kind = true)
    (supported : Descriptor.supports ⟨kind⟩ comparison = true) (leftKind : left.kind = kind)
    (rightKind : right.kind = kind) :
    ∃ result, registry.compare comparison left right = .ok result :=
  ⟨_, built.compare_eq live supported leftKind rightKind⟩

end

namespace Environment

variable {environment : Environment} {kind : Kind}

theorem isPresent_of_hasKind (keeps : environment.source.KeepsKinds) {operand : Node}
    (typed : operand.HasKind kind) : ∃ result, environment.isPresent operand = .ok result := by
  obtain ⟨values, found, -⟩ := typed.values keeps
  unfold isPresent
  rw [found]
  exact ⟨_, rfl⟩

/-- Two operands whose values are of one kind can be compared in every way that the kind
supports. -/
theorem isRelated_of_values (built : environment.registry.Built) {comparison : Comparison}
    (live : environment.registry.isRegistered kind = true)
    (supported : Descriptor.supports ⟨kind⟩ comparison = true) {left right : Node}
    {leftValues rightValues : List Value}
    (leftFound : left.values environment.source = .ok leftValues)
    (rightFound : right.values environment.source = .ok rightValues)
    (leftKinds : ∀ value ∈ leftValues, value.kind = kind)
    (rightKinds : ∀ value ∈ rightValues, value.kind = kind) :
    ∃ result, environment.isRelated comparison left right = .ok result := by
  unfold isRelated
  rw [leftFound, rightFound]
  refine exists_anyM_eq_ok fun leftValue leftMember => ?_
  refine exists_anyM_eq_ok fun rightValue rightMember => ?_
  obtain ⟨result, compared⟩ := built.compare live supported (leftKinds leftValue leftMember)
    (rightKinds rightValue rightMember)
  exact ⟨result, compare_eq_ok.mpr compared⟩

theorem isRelated_of_hasKind (built : environment.registry.Built)
    (keeps : environment.source.KeepsKinds) {comparison : Comparison}
    (live : environment.registry.isRegistered kind = true)
    (supported : Descriptor.supports ⟨kind⟩ comparison = true) {left right : Node}
    (leftTyped : left.HasKind kind) (rightTyped : right.HasKind kind) :
    ∃ result, environment.isRelated comparison left right = .ok result := by
  obtain ⟨leftValues, leftFound, leftKinds⟩ := leftTyped.values keeps
  obtain ⟨rightValues, rightFound, rightKinds⟩ := rightTyped.values keeps
  exact isRelated_of_values built live supported leftFound rightFound leftKinds rightKinds

end Environment

/-! ### Tests -/

theorem Environment.admits_of_room {environment : Environment} {depth nesting : Nat}
    (room : depth + nesting ≤ environment.registry.settings.maxDepth) :
    environment.admits depth = true :=
  admits_of_le (Nat.le_trans (Nat.le_add_right depth nesting) room)

/-- A well-typed test has a truth value at every level that leaves room for its nesting. -/
theorem Node.WellTyped.truth (environment : Environment) (built : environment.registry.Built)
    (keeps : environment.source.KeepsKinds) {node : Node}
    (typed : node.WellTyped environment.registry) (depth : Nat)
    (room : depth + node.nesting ≤ environment.registry.settings.maxDepth) :
    ∃ result, (node.truth environment depth).result = .ok result := by
  induction typed generalizing depth with
  | present content typed =>
    have admitted := Environment.admits_of_room room
    rw [result_truth_present admitted content]
    exact Environment.isPresent_of_hasKind keeps typed
  | not content typed inductionHypothesis =>
    have admitted := Environment.admits_of_room room
    rw [nesting_not content] at room
    obtain ⟨holds, operandResult⟩ := inductionHypothesis (depth + 1) (by omega)
    rw [result_truth_not admitted content, operandResult]
    exact ⟨!holds, rfl⟩
  | connective logical content leftTyped rightTyped leftHypothesis rightHypothesis =>
    have admitted := Environment.admits_of_room room
    rw [nesting_connective logical content] at room
    obtain ⟨leftHolds, leftResult⟩ := leftHypothesis (depth + 1) (by omega)
    obtain ⟨rightHolds, rightResult⟩ := rightHypothesis (depth + 1) (by omega)
    obtain ⟨decided, connective⟩ := TestOp.deciding?_of_logical logical
    rw [result_truth_connective admitted connective content, leftResult, rightResult]
    by_cases decides : leftHolds = decided
    · exact ⟨decided, if_pos decides⟩
    · exact ⟨rightHolds, if_neg decides⟩
  | relation content leftTyped rightTyped live supported =>
    have admitted := Environment.admits_of_room room
    rw [result_truth_relation admitted content]
    exact Environment.isRelated_of_hasKind built keeps live supported leftTyped rightTyped

/-- Evaluating a well-typed expression gives a truth value. -/
theorem evaluate_of_wellTyped {registry : Registry} (built : registry.Built)
    {source : FieldSource} (keeps : source.KeepsKinds) {node : Node}
    (typed : node.WellTyped registry) (room : node.nesting ≤ registry.settings.maxDepth) :
    ∃ result, (evaluate registry source node).result = .ok result := by
  unfold evaluate
  rw [Run.result_noting]
  exact Node.WellTyped.truth ⟨registry, source⟩ built keeps typed 0
    (by rw [Nat.zero_add]; exact room)

/-! ### A well-typed expression -/

/-- Data in which a packet has two addresses, one of them cut off. -/
def twoAddresses : FieldSource := fun field =>
  if field = ⟨"eth.src", .bytes⟩ then [.bytes [0, 27, 33, 58], .bytes [0]] else []

theorem keepsKinds_twoAddresses : twoAddresses.KeepsKinds := by
  intro field value member
  unfold twoAddresses at member
  split at member
  · rename_i same
    rw [same]
    rcases List.mem_cons.mp member with rfl | member
    · rfl
    · rw [List.mem_singleton.mp member]
      rfl
  · cases member

/-- `[1:2]` -/
def vendorSlices : SliceSeries :=
  ⟨[.withLength 1 2], true, 2, 1, 1⟩

theorem ofSlices_vendorSlices : SliceSeries.ofSlices [.withLength 1 2] = .ok vendorSlices := rfl

/-- `eth.src[1:2]` -/
def vendorField : Node :=
  ⟨some .range, 0, .range ⟨some ⟨"eth.src", .bytes⟩, some vendorSlices⟩⟩

/-- `eth.src[1:2] == 1b:21` -/
def vendorIsKnown : Node :=
  ⟨some .test, 0, .test ⟨some (.relation .eq), some vendorField,
    some ⟨some .bytes, 0, .value (.bytes [27, 33])⟩⟩⟩

/-- `exists ip.ttl && !(eth.src[1:2] == 1b:21)` -/
def vendorIsForeign : Node :=
  ⟨some .test, 0, .test ⟨some .and,
    some ⟨some .test, 0, .test ⟨some .present,
      some ⟨some .pointer, 0, .field ⟨"ip.ttl", .integer⟩⟩, none⟩⟩,
    some ⟨some .test, 0, .test ⟨some .not, some vendorIsKnown, none⟩⟩⟩⟩

/-- The kind of the sliced field is the one that the field is declared with. -/
theorem hasKind_vendorField : vendorField.HasKind (FieldRef.mk "eth.src" .bytes).kind :=
  .range rfl (SliceSeries.built_of_ofSlices ofSlices_vendorSlices) (.inl rfl)

theorem wellTyped_vendorIsForeign (settings : Settings) :
    vendorIsForeign.WellTyped (.standard settings) := by
  have addressTyped : Node.HasKind ⟨some .bytes, 0, .value (.bytes [27, 33])⟩
      (Value.bytes [27, 33]).kind := .literal rfl
  have counterTyped : Node.HasKind ⟨some .pointer, 0, .field ⟨"ip.ttl", .integer⟩⟩
      (FieldRef.mk "ip.ttl" .integer).kind := .field rfl rfl
  exact .connective (.inl rfl) rfl (.present rfl counterTyped)
    (.not rfl (.relation rfl hasKind_vendorField addressTyped rfl rfl))

/-- Two levels of settings are enough for two levels of tests above the comparison. -/
theorem evaluate_of_wellTyped_vendorIsForeign :
    vendorIsForeign.WellTyped (.standard { Settings.standard with maxDepth := 2 }) ∧
      ∃ result, (evaluate (.standard { Settings.standard with maxDepth := 2 }) twoAddresses
        vendorIsForeign).result = .ok result :=
  ⟨wellTyped_vendorIsForeign _,
    evaluate_of_wellTyped (.registerAll (.empty _ _)) keepsKinds_twoAddresses
      (wellTyped_vendorIsForeign _) (by decide)⟩

end PacketFilter
