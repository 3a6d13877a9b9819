/-
This file says what the types of nodes leave open: the content of a node is of the kind of the
node, a node without a kind is empty, a test has as many operands as its operator takes, and the
slices of a field have endings. A node is well formed if all of this holds of it and of every
node below it, and each operation that builds a node from well-formed ones builds another.
-/

import PacketFilter.Expr.Build
import PacketFilter.Proofs.Outcome
import PacketFilter.Proofs.Registry.Built
import PacketFilter.Proofs.Slice.Built

namespace PacketFilter

/-! ### Consistent nodes -/

/-- A test has its operands if it has an operator, and as many of them as that takes. -/
structure Test.Consistent (test : Test) : Prop where
  operands : test.op?.isSome ↔ test.first?.isSome
  second : test.second?.isSome ↔ ∃ op, test.op? = some op ∧ op.arity = 2

/-- Slices are taken from a field, and each of them has an ending. -/
structure FieldRange.Consistent (range : FieldRange) : Prop where
  field : range.slices?.isSome → range.field?.isSome
  set : ∀ slices, range.slices? = some slices → ∀ slice ∈ slices.slices, slice.ending ≠ .unset

/-- A node holds what its kind asks for, whatever stands below it. -/
structure Node.Consistent (node : Node) : Prop where
  blank : node.kind? = none → node.content = .bare ∧ node.number = 0
  kind : ∀ kind, node.content.kind? = some kind → node.kind? = some kind
  content : ∀ kind ∈ [Kind.string, .range, .test], node.kind? = some kind →
    node.content.kind? = some kind
  test : ∀ test, node.content = .test test → test.Consistent
  range : ∀ range, node.content = .range range → range.Consistent

/-- The operands that a test has. -/
def Test.operands (test : Test) : List Node :=
  test.first?.toList ++ test.second?.toList

/-- A node is another one, or stands below it. -/
inductive Node.IsWithin (inner : Node) : Node → Prop
  | self : inner.IsWithin inner
  | operand {outer operand : Node} {test : Test} (content : outer.content = .test test)
      (member : operand ∈ test.operands) (within : inner.IsWithin operand) : inner.IsWithin outer

/-- In a node that is no test stands nothing but itself. -/
theorem Node.IsWithin.eq_of_leaf {inner outer : Node} (leaf : ∀ test, outer.content ≠ .test test)
    (within : inner.IsWithin outer) : inner = outer := by
  cases within with
  | self => rfl
  | operand content => exact absurd content (leaf _)

/-- A node is consistent, and so is every node below it. -/
def Node.WellFormed (node : Node) : Prop :=
  ∀ inner : Node, inner.IsWithin node → inner.Consistent

theorem Node.wellFormed_iff {node : Node} :
    node.WellFormed ↔ node.Consistent ∧ ∀ test, node.content = .test test →
      ∀ operand ∈ test.operands, operand.WellFormed := by
  constructor
  · intro formed
    exact ⟨formed node .self, fun test content operand member inner within =>
      formed inner (.operand content member within)⟩
  · rintro ⟨consistent, operands⟩ inner within
    cases within with
    | self => exact consistent
    | operand content member within => exact operands _ content _ member inner within

theorem Node.WellFormed.consistent {node : Node} (formed : node.WellFormed) : node.Consistent :=
  formed node .self

theorem Node.WellFormed.operand {node operand : Node} {test : Test} (formed : node.WellFormed)
    (content : node.content = .test test) (member : operand ∈ test.operands) :
    operand.WellFormed :=
  (wellFormed_iff.mp formed).2 test content operand member

theorem Node.WellFormed.first {node first : Node} {op? : Option TestOp} {second? : Option Node}
    (formed : node.WellFormed) (content : node.content = .test ⟨op?, some first, second?⟩) :
    first.WellFormed :=
  formed.operand content List.mem_cons_self

theorem Node.WellFormed.second {node second : Node} {op? : Option TestOp} {first? : Option Node}
    (formed : node.WellFormed) (content : node.content = .test ⟨op?, first?, some second⟩) :
    second.WellFormed :=
  formed.operand content (List.mem_append_right _ List.mem_cons_self)

/-! ### What a node begins with -/

/-- The content that a node of a kind can begin with. -/
inductive Content.Initial : Kind → Content → Prop
  | bare {kind : Kind} (plain : kind ∉ [Kind.string, .range, .test]) : Initial kind .bare
  | value (literal : Value) : Initial literal.kind (.value literal)
  | field (reference : FieldRef) : Initial .pointer (.field reference)
  | range : Initial .range (.range ⟨none, none⟩)
  | test : Initial .test (.test .unassigned)

theorem Descriptor.hasConstructor_iff (kind : Kind) :
    Descriptor.hasConstructor ⟨kind⟩ = true ↔ kind ∈ [Kind.string, .range, .test] := by
  cases kind <;> decide

theorem Descriptor.initial_of_construct {kind : Kind} {given content : Content}
    (constructed : Descriptor.construct ⟨kind⟩ given = .ok content) : content.Initial kind := by
  unfold construct at constructed
  split at constructed
  · rename_i same
    obtain rfl : kind = .test := same
    cases constructed
    exact .test
  · rename_i same
    obtain rfl : kind = .range := same
    cases constructed
    exact .range
  · rename_i same
    obtain rfl : kind = .string := same
    cases constructed
    exact .value (.string "")
  · rename_i text same
    obtain rfl : kind = .string := same
    cases constructed
    exact .value (.string text)
  · split at constructed
    · split at constructed <;> cases constructed
    · cases constructed

/-- Content of a plain kind is that of a new node. -/
theorem Content.initial_of_kind {kind : Kind} {content : Content}
    (plain : kind ∉ [Kind.string, .range, .test]) (own : content.kind? = some kind) :
    content.Initial kind := by
  cases content with
  | bare => cases own
  | value literal =>
    obtain rfl : literal.kind = kind := Option.some.inj own
    exact .value literal
  | field reference =>
    obtain rfl : Kind.pointer = kind := Option.some.inj own
    exact .field reference
  | range sliced =>
    obtain rfl : Kind.range = kind := Option.some.inj own
    exact absurd (by decide) plain
  | test inner =>
    obtain rfl : Kind.test = kind := Option.some.inj own
    exact absurd (by decide) plain

namespace Node

variable {registry : Registry} {node changed : Node} {kind : Kind}

theorem initial_of_initialContent (built : registry.Built) {given content : Content}
    (made : initialContent registry kind given = .ok content) : content.Initial kind := by
  obtain ⟨descriptor, found, made⟩ := bind_eq_ok.mp made
  obtain rfl := built.lookup_eq_ok found
  split at made
  · exact Descriptor.initial_of_construct made
  · rename_i plain
    rw [Descriptor.hasConstructor_iff] at plain
    cases own : given.kind? with
    | some givenKind =>
      rw [own] at made
      dsimp only at made
      split at made
      · rename_i same
        cases made
        exact Content.initial_of_kind plain (same ▸ own)
      · cases made
    | none =>
      rw [own] at made
      cases made
      cases given <;> cases own
      exact .bare plain

theorem consistent_of_initial {content : Content} (initial : content.Initial kind)
    (number : UInt32) : Node.Consistent ⟨some kind, number, content⟩ := by
  refine ⟨nofun, ?_, ?_, ?_, ?_⟩
  · intro own same
    cases initial <;> cases same <;> rfl
  · intro own member same
    cases same
    cases initial with
    | bare plain => exact absurd member plain
    | value | field | range | test => rfl
  · intro test same
    cases initial <;> cases same
    exact ⟨Iff.rfl, by simp [Test.unassigned]⟩
  · intro range same
    cases initial <;> cases same
    exact ⟨nofun, nofun⟩

/-- A node that begins with nothing below it is well formed. -/
theorem wellFormed_of_initial {content : Content} (initial : content.Initial kind)
    (number : UInt32) : Node.WellFormed ⟨some kind, number, content⟩ := by
  refine wellFormed_iff.mpr ⟨consistent_of_initial initial number, ?_⟩
  intro test same operand member
  cases initial <;> cases same
  cases member

theorem wellFormed_blank : Node.blank.WellFormed :=
  wellFormed_iff.mpr ⟨⟨fun _ => ⟨rfl, rfl⟩, nofun, nofun, nofun, nofun⟩, nofun⟩

/-! ### Nodes that get their kind -/

/-- A placeholder that gets a kind begins with content of the kind, and keeps its number. -/
theorem init_eq_ok (built : registry.Built) {given : Content}
    (made : node.init registry kind given = .ok changed) :
    ∃ content, content.Initial kind ∧ changed = ⟨some kind, node.number, content⟩ := by
  unfold init at made
  split at made
  · obtain ⟨content, begun, rfl⟩ := map_eq_ok.mp made
    exact ⟨content, initial_of_initialContent built begun, rfl⟩
  · cases made

theorem wellFormed_init (built : registry.Built) {given : Content}
    (made : node.init registry kind given = .ok changed) : changed.WellFormed := by
  obtain ⟨content, initial, rfl⟩ := init_eq_ok built made
  exact wellFormed_of_initial initial node.number

theorem wellFormed_initNumber (built : registry.Built) {number : UInt32}
    (made : node.initNumber registry kind number = .ok changed) : changed.WellFormed := by
  obtain ⟨initialized, begun, rfl⟩ := map_eq_ok.mp made
  obtain ⟨content, initial, rfl⟩ := init_eq_ok built begun
  exact wellFormed_of_initial initial number

theorem wellFormed_new (built : registry.Built) {kind? : Option Kind} {given : Content}
    (made : new registry kind? given = .ok node) : node.WellFormed := by
  unfold new at made
  cases kind? with
  | some kind => exact wellFormed_init built made
  | none =>
    dsimp only at made
    split at made
    · cases made
    · cases made
      exact wellFormed_blank

theorem wellFormed_integer (built : registry.Built) {number : UInt32}
    (made : integer registry number = .ok node) : node.WellFormed :=
  wellFormed_initNumber built made

theorem wellFormed_literal (built : registry.Built) {value : Value}
    (made : literal registry value = .ok node) : node.WellFormed :=
  wellFormed_new built made

theorem wellFormed_field (built : registry.Built) {field : FieldRef}
    (made : Node.field registry field = .ok node) : node.WellFormed :=
  wellFormed_new built made

/-! ### Nodes whose content changes -/

/-- Content that is replaced by content of the same kind leaves a node consistent. -/
theorem consistent_withContent (consistent : node.Consistent) {content : Content}
    (before : node.content.kind? = some kind) (after : content.kind? = some kind)
    (test : ∀ test, content = .test test → test.Consistent)
    (range : ∀ range, content = .range range → range.Consistent) :
    (node.withContent content).Consistent := by
  have own : node.kind? = some kind := consistent.kind kind before
  refine ⟨fun blank => ?_, fun other same => ?_, fun other member same => ?_, test, range⟩
  · exact nomatch own.symm.trans blank
  · exact own.trans (after.symm.trans same)
  · exact after.trans (own.symm.trans same)

theorem content_of_asTest {test : Test} (role : node.asTest = .ok test) :
    node.content = .test test := by
  unfold asTest at role
  split at role
  · rename_i content
    rw [content, Except.ok.inj role]
  · cases role

theorem content_of_asRange {range : FieldRange} (role : node.asRange = .ok range) :
    node.content = .range range := by
  unfold asRange at role
  split at role
  · rename_i content
    rw [content, Except.ok.inj role]
  · cases role

/-- Replacing the test of a well-formed node by a consistent one over well-formed operands leaves
it well formed. -/
theorem wellFormed_updateTest (formed : node.WellFormed) {change : Test → Except Fault Test}
    (updated : node.updateTest change = .ok changed)
    (sound : ∀ before after, change before = .ok after →
      after.Consistent ∧ ∀ operand ∈ after.operands, operand.WellFormed) :
    changed.WellFormed := by
  obtain ⟨before, role, replacing⟩ := bind_eq_ok.mp updated
  obtain ⟨after, replaced, rewritten⟩ := bind_eq_ok.mp replacing
  cases rewritten
  obtain ⟨consistent, operands⟩ := sound before after replaced
  refine wellFormed_iff.mpr ⟨?_, ?_⟩
  · have own : node.content.kind? = some .test := congrArg _ (content_of_asTest role)
    refine consistent_withContent formed.consistent own rfl ?_ nofun
    rintro test ⟨⟩
    exact consistent
  · rintro test ⟨⟩
    exact operands

theorem wellFormed_updateRange (formed : node.WellFormed)
    {change : FieldRange → Except Fault FieldRange}
    (updated : node.updateRange change = .ok changed)
    (sound : ∀ before after, change before = .ok after → after.Consistent) :
    changed.WellFormed := by
  obtain ⟨before, role, replacing⟩ := bind_eq_ok.mp updated
  obtain ⟨after, replaced, rewritten⟩ := bind_eq_ok.mp replacing
  cases rewritten
  have own : node.content.kind? = some .range := congrArg _ (content_of_asRange role)
  refine wellFormed_iff.mpr ⟨?_, nofun⟩
  refine consistent_withContent formed.consistent own rfl nofun ?_
  rintro range ⟨⟩
  exact sound before after replaced

/-- A value may be replaced by another one of its kind. -/
theorem wellFormed_updateValue (formed : node.WellFormed) {change : Value → Except Fault Value}
    (updated : (node.updateValue change).map Prod.fst = .ok changed)
    (sound : ∀ before after, change before = .ok after → after.kind = before.kind) :
    changed.WellFormed := by
  obtain ⟨result, replacing, rfl⟩ := map_eq_ok.mp updated
  unfold updateValue at replacing
  cases content : node.content with
  | bare | field | range | test => rw [content] at replacing; cases replacing; exact formed
  | value before =>
    rw [content] at replacing
    obtain ⟨after, replaced, rfl⟩ := map_eq_ok.mp replacing
    refine wellFormed_iff.mpr ⟨?_, nofun⟩
    refine consistent_withContent formed.consistent (by rw [content]; rfl) ?_ nofun nofun
    exact congrArg some (sound before after replaced)

end Node

/-! ### Tests and sliced fields -/

namespace Test

variable {test : Test} {op : TestOp}

theorem setOne_eq_ok {operand : Node} (set : setOne op operand = .ok test) :
    test.Consistent ∧ test.operands = [operand] := by
  unfold setOne at set
  split at set
  · rename_i single
    cases set
    refine ⟨⟨Iff.rfl, nofun, ?_⟩, rfl⟩
    rintro ⟨other, same, double⟩
    cases same
    omega
  · cases set

theorem setTwo_eq_ok {left right : Node} (set : setTwo op left right = .ok test) :
    test.Consistent ∧ test.operands = [left, right] := by
  unfold setTwo at set
  split at set
  · rename_i double
    cases set
    exact ⟨⟨Iff.rfl, fun _ => ⟨op, rfl, double⟩, fun _ => rfl⟩, rfl⟩
  · cases set

theorem arity_eq (op : TestOp) : op.arity = 1 ∨ op.arity = 2 := by
  cases op with
  | present | not => exact .inl rfl
  | and | or | relation => exact .inr rfl

theorem setOperands_eq_ok {before : Test} {first : Node} {second? : Option Node}
    (set : before.setOperands first second? = .ok test) :
    test.Consistent ∧ test.operands = first :: second?.toList := by
  obtain ⟨op?, oldFirst?, oldSecond?⟩ := before
  cases op? with
  | none => cases set
  | some op =>
    unfold setOperands at set
    dsimp only at set
    rcases arity_eq op with single | double
    · cases second? with
      | some second => rw [single] at set; cases set
      | none =>
        rw [single] at set
        cases set
        refine ⟨⟨Iff.rfl, nofun, ?_⟩, rfl⟩
        rintro ⟨other, same, double⟩
        cases same
        omega
    · cases second? with
      | none => rw [double] at set; cases set
      | some second =>
        rw [double] at set
        cases set
        exact ⟨⟨Iff.rfl, fun _ => ⟨op, rfl, double⟩, fun _ => rfl⟩, rfl⟩

end Test

namespace FieldRange

variable {range : FieldRange} {fieldNode : Node}

theorem consistent_attach {slices : SliceSeries} (built : slices.Built)
    (attached : attach fieldNode slices = .ok range) : range.Consistent := by
  obtain ⟨field, -, rfl⟩ := map_eq_ok.mp attached
  refine ⟨fun _ => rfl, ?_⟩
  rintro own ⟨⟩
  exact built.set

theorem consistent_attachOne {slice : Slice} (attached : attachOne fieldNode slice = .ok range) :
    range.Consistent := by
  obtain ⟨slices, made, attached⟩ := bind_eq_ok.mp attached
  exact consistent_attach (SliceSeries.built_of_ofSlices made) attached

theorem consistent_detach (range : FieldRange) : range.detach.Consistent :=
  ⟨nofun, nofun⟩

end FieldRange

namespace Node

variable {registry : Registry} {node operand left right : Node} {op : TestOp}

theorem wellFormed_setOne (formed : node.WellFormed) (operandFormed : operand.WellFormed)
    {changed : Node} (updated : node.updateTest (fun _ => Test.setOne op operand) = .ok changed) :
    changed.WellFormed := by
  refine wellFormed_updateTest formed updated fun before after set => ?_
  obtain ⟨consistent, operands⟩ := Test.setOne_eq_ok set
  rw [operands]
  exact ⟨consistent, List.forall_mem_singleton.mpr operandFormed⟩

theorem wellFormed_setTwo (formed : node.WellFormed) (leftFormed : left.WellFormed)
    (rightFormed : right.WellFormed) {changed : Node}
    (updated : node.updateTest (fun _ => Test.setTwo op left right) = .ok changed) :
    changed.WellFormed := by
  refine wellFormed_updateTest formed updated fun before after set => ?_
  obtain ⟨consistent, operands⟩ := Test.setTwo_eq_ok set
  rw [operands]
  refine ⟨consistent, List.forall_mem_cons.mpr ⟨leftFormed, ?_⟩⟩
  exact List.forall_mem_singleton.mpr rightFormed

theorem wellFormed_setOperands (formed : node.WellFormed) (leftFormed : left.WellFormed)
    {right? : Option Node} (rightFormed : ∀ right, right? = some right → right.WellFormed)
    {changed : Node}
    (updated : node.updateTest (fun test => test.setOperands left right?) = .ok changed) :
    changed.WellFormed := by
  refine wellFormed_updateTest formed updated fun before after set => ?_
  obtain ⟨consistent, operands⟩ := Test.setOperands_eq_ok set
  rw [operands]
  refine ⟨consistent, List.forall_mem_cons.mpr ⟨leftFormed, ?_⟩⟩
  intro right member
  exact rightFormed right (Option.mem_toList.mp member)

theorem wellFormed_attach (formed : node.WellFormed) {fieldNode : Node} {slices : SliceSeries}
    (built : slices.Built) {changed : Node}
    (updated : node.updateRange (fun _ => FieldRange.attach fieldNode slices) = .ok changed) :
    changed.WellFormed :=
  wellFormed_updateRange formed updated fun _ _ => FieldRange.consistent_attach built

theorem wellFormed_unaryTest (built : registry.Built) (operandFormed : operand.WellFormed)
    (made : unaryTest registry op operand = .ok node) : node.WellFormed := by
  obtain ⟨empty, begun, set⟩ := bind_eq_ok.mp made
  exact wellFormed_setOne (wellFormed_new built begun) operandFormed set

theorem wellFormed_binaryTest (built : registry.Built) (leftFormed : left.WellFormed)
    (rightFormed : right.WellFormed) (made : binaryTest registry op left right = .ok node) :
    node.WellFormed := by
  obtain ⟨empty, begun, set⟩ := bind_eq_ok.mp made
  exact wellFormed_setTwo (wellFormed_new built begun) leftFormed rightFormed set

theorem wellFormed_range (built : registry.Built) {fieldNode : Node} {slices : SliceSeries}
    (builtSlices : slices.Built) (made : range registry fieldNode slices = .ok node) :
    node.WellFormed := by
  obtain ⟨empty, begun, attached⟩ := bind_eq_ok.mp made
  exact wellFormed_attach (wellFormed_new built begun) builtSlices attached

end Node

end PacketFilter
