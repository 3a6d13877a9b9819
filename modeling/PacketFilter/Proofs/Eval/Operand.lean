/-
This file says which values an operand has, without saying how they are found, and proves that
evaluation finds exactly those. A comparison of two operands is then a statement about pairs of
values: it holds if some pair satisfies it, and it is denied only if every pair has been compared
and none satisfies it.
-/

import PacketFilter.Eval.Basic
import PacketFilter.Proofs.Outcome

namespace PacketFilter

/-! ### The values of an operand -/

/-- A value of an operand: that of a literal, an occurrence of a field, or the slices of an
occurrence of a field that is long enough for them. -/
inductive Node.HasValue (source : FieldSource) (node : Node) : Value → Prop
  | number (kind : node.kind? = some .integer) (content : node.content = .bare) :
      node.HasValue source (.integer node.number)
  | literal {literal : Value} (content : node.content = .value literal) :
      node.HasValue source literal
  | field {field : FieldRef} {value : Value} (content : node.content = .field field)
      (occurs : value ∈ source field) : node.HasValue source value
  | bytes {field : FieldRef} {slices : SliceSeries} {whole part : Bytes}
      (content : node.content = .range ⟨some field, some slices⟩)
      (occurs : .bytes whole ∈ source field) (applied : slices.apply whole = .ok (some part)) :
      node.HasValue source (.bytes part)
  | string {field : FieldRef} {slices : SliceSeries} {whole : String} {part : Bytes}
      (content : node.content = .range ⟨some field, some slices⟩)
      (occurs : .string whole ∈ source field)
      (applied : slices.apply (Text.utf8Bytes whole) = .ok (some part)) :
      node.HasValue source (.string (Text.textOfBytes part))

namespace FieldRange

/-- The slices of one value, as a value, are the bytes that are applied from it. -/
theorem sliceValue_eq_some {field : FieldRef} {slices : SliceSeries} {whole part : Value} :
    sliceValue field slices whole = .ok (some part) ↔
      (∃ content selected, whole = .bytes content ∧ part = .bytes selected ∧
        slices.apply content = .ok (some selected)) ∨
      (∃ text selected, whole = .string text ∧ part = .string (Text.textOfBytes selected) ∧
        slices.apply (Text.utf8Bytes text) = .ok (some selected)) := by
  constructor
  · intro sliced
    cases whole with
    | bytes content =>
      obtain ⟨selected?, applied, same⟩ := map_eq_ok.mp sliced
      obtain ⟨selected, rfl, rfl⟩ := Option.map_eq_some_iff.mp same
      exact .inl ⟨content, selected, rfl, rfl, mapError_eq_ok.mp applied⟩
    | string text =>
      obtain ⟨selected?, applied, same⟩ := map_eq_ok.mp sliced
      obtain ⟨selected, rfl, rfl⟩ := Option.map_eq_some_iff.mp same
      exact .inr ⟨text, selected, rfl, rfl, mapError_eq_ok.mp applied⟩
    | integer | double | absoluteTime | relativeTime => cases sliced
  · rintro (⟨content, selected, rfl, rfl, applied⟩ | ⟨text, selected, rfl, rfl, applied⟩)
    · exact map_eq_ok.mpr ⟨some selected, mapError_eq_ok.mpr applied, rfl⟩
    · exact map_eq_ok.mpr ⟨some selected, mapError_eq_ok.mpr applied, rfl⟩

/-- The slices of several values are those of each of them. -/
theorem mem_sliceValues {field : FieldRef} {slices : SliceSeries} {wholes parts : List Value}
    (sliced : sliceValues field slices wholes = .ok parts) (part : Value) :
    part ∈ parts ↔ ∃ whole ∈ wholes, sliceValue field slices whole = .ok (some part) := by
  induction wholes generalizing parts with
  | nil =>
    obtain rfl : [] = parts := Except.ok.inj sliced
    simp
  | cons whole rest inductionHypothesis =>
    obtain ⟨sliced?, first, slicedRest⟩ := bind_eq_ok.mp sliced
    obtain ⟨tail, others, joined⟩ := bind_eq_ok.mp slicedRest
    obtain rfl : sliced?.toList ++ tail = parts := Except.ok.inj joined
    simp only [List.mem_append, Option.mem_toList, inductionHypothesis others,
      List.mem_cons, exists_eq_or_imp, first, Except.ok.injEq]

end FieldRange

/-- What evaluation finds for a sliced field are the slices of its occurrences. -/
theorem FieldRange.mem_values {source : FieldSource} {range : FieldRange} {values : List Value}
    (found : range.values source = .ok values) :
    ∃ field slices, range = ⟨some field, some slices⟩ ∧ ∀ value, value ∈ values ↔
      ∃ whole ∈ source field, sliceValue field slices whole = .ok (some value) := by
  obtain ⟨field?, slices?⟩ := range
  match field?, slices? with
  | none, _ => cases found
  | some field, none => cases found
  | some field, some slices => exact ⟨field, slices, rfl, mem_sliceValues found⟩

namespace Node

section

variable {source : FieldSource} {node : Node}

theorem values_number (kind : node.kind? = some .integer) (content : node.content = .bare) :
    node.values source = .ok [.integer node.number] := by
  unfold values
  rw [kind, content]

theorem values_literal {literal : Value} (content : node.content = .value literal) :
    node.values source = .ok [literal] := by
  unfold values
  rw [content]
  split <;> simp_all

theorem values_field {field : FieldRef} (content : node.content = .field field) :
    node.values source = .ok (source field) := by
  unfold values
  rw [content]
  split <;> simp_all

theorem values_range {range : FieldRange} (content : node.content = .range range) :
    node.values source = range.values source := by
  unfold values
  rw [content]
  split <;> simp_all

theorem values_test {test : Test} (content : node.content = .test test) :
    node.values source = .error (.error (.notAValue node.typeName)) := by
  unfold values
  rw [content]
  split <;> simp_all

theorem values_bare (kind : node.kind? ≠ some .integer) (content : node.content = .bare) :
    node.values source = .error (.error (.notAValue node.typeName)) := by
  unfold values
  rw [content]
  split <;> simp_all

/-- A node without content has a value only if it is a literal integer. -/
theorem kind_of_values_bare {values : List Value} (content : node.content = .bare)
    (found : node.values source = .ok values) : node.kind? = some .integer := by
  unfold Node.values at found
  rw [content] at found
  split at found <;> simp_all

/-- What evaluation finds for an operand are the values that the operand has. -/
theorem mem_values {values : List Value} (found : node.values source = .ok values)
    (value : Value) : value ∈ values ↔ node.HasValue source value := by
  constructor
  · intro member
    cases content : node.content with
    | bare =>
      have kind := kind_of_values_bare content found
      rw [values_number kind content] at found
      cases found
      obtain rfl := List.mem_singleton.mp member
      exact .number kind content
    | value literal =>
      rw [values_literal content] at found
      cases found
      obtain rfl := List.mem_singleton.mp member
      exact .literal content
    | field field =>
      rw [values_field content] at found
      cases found
      exact .field content member
    | range range =>
      rw [values_range content] at found
      obtain ⟨field, slices, rfl, spec⟩ := FieldRange.mem_values found
      obtain ⟨whole, occurs, sliced⟩ := (spec value).mp member
      rcases FieldRange.sliceValue_eq_some.mp sliced with
        ⟨whole, part, rfl, rfl, applied⟩ | ⟨whole, part, rfl, rfl, applied⟩
      · exact .bytes content occurs applied
      · exact .string content occurs applied
    | test test =>
      unfold Node.values at found
      rw [content] at found
      split at found <;> simp_all
  · intro held
    cases held with
    | number kind content =>
      rw [values_number kind content] at found
      cases found
      exact List.mem_singleton_self _
    | literal content =>
      rw [values_literal content] at found
      cases found
      exact List.mem_singleton_self _
    | field content occurs =>
      rw [values_field content] at found
      cases found
      exact occurs
    | bytes content occurs applied =>
      rw [values_range content] at found
      obtain ⟨field, slices, same, spec⟩ := FieldRange.mem_values found
      cases same
      exact (spec _).mpr ⟨_, occurs,
        FieldRange.sliceValue_eq_some.mpr (.inl ⟨_, _, rfl, rfl, applied⟩)⟩
    | string content occurs applied =>
      rw [values_range content] at found
      obtain ⟨field, slices, same, spec⟩ := FieldRange.mem_values found
      cases same
      exact (spec _).mpr ⟨_, occurs,
        FieldRange.sliceValue_eq_some.mpr (.inr ⟨_, _, rfl, rfl, applied⟩)⟩

end

end Node

/-! ### Pairs of values -/

namespace Environment

variable {environment : Environment}

/-- Evaluation compares two values as the registry does. -/
theorem compare_eq_ok {comparison : Comparison} {left right : Value} {result : Bool} :
    environment.compare comparison left right = .ok result ↔
      environment.registry.compare comparison left right = .ok result :=
  mapError_eq_ok

/-- An operand is present if it has a value. -/
theorem isPresent_eq_ok {operand : Node} {result : Bool}
    (found : environment.isPresent operand = .ok result) :
    result = true ↔ ∃ value, operand.HasValue environment.source value := by
  obtain ⟨held, values, rfl⟩ := map_eq_ok.mp found
  simp only [← Node.mem_values values]
  cases held <;> simp

/-- The values that are compared when two operands are. -/
theorem anyM_of_isRelated {comparison : Comparison} {left right : Node} {result : Bool}
    (found : environment.isRelated comparison left right = .ok result) :
    ∃ leftValues rightValues, left.values environment.source = .ok leftValues ∧
      right.values environment.source = .ok rightValues ∧
      (leftValues.anyM fun leftValue => rightValues.anyM fun rightValue =>
        environment.compare comparison leftValue rightValue) = .ok result := by
  obtain ⟨leftValues, leftFound, rightSearched⟩ := bind_eq_ok.mp found
  obtain ⟨rightValues, rightFound, searched⟩ := bind_eq_ok.mp rightSearched
  exact ⟨leftValues, rightValues, leftFound, rightFound, searched⟩

/-- Two operands are related only if some value of the one is related to some value of the
other. -/
theorem exists_pair_of_isRelated {comparison : Comparison} {left right : Node}
    (found : environment.isRelated comparison left right = .ok true) :
    ∃ leftValue rightValue, left.HasValue environment.source leftValue ∧
      right.HasValue environment.source rightValue ∧
      environment.registry.compare comparison leftValue rightValue = .ok true := by
  obtain ⟨leftValues, rightValues, leftFound, rightFound, searched⟩ := anyM_of_isRelated found
  obtain ⟨leftValue, leftMember, searchedRight⟩ := exists_mem_of_anyM searched
  obtain ⟨rightValue, rightMember, compared⟩ := exists_mem_of_anyM searchedRight
  exact ⟨leftValue, rightValue, (Node.mem_values leftFound _).mp leftMember,
    (Node.mem_values rightFound _).mp rightMember, compare_eq_ok.mp compared⟩

/-- Two operands are not related only if every pair of their values has been compared and is
not. -/
theorem forall_pairs_of_isRelated {comparison : Comparison} {left right : Node}
    (found : environment.isRelated comparison left right = .ok false)
    {leftValue rightValue : Value} (leftHeld : left.HasValue environment.source leftValue)
    (rightHeld : right.HasValue environment.source rightValue) :
    environment.registry.compare comparison leftValue rightValue = .ok false := by
  obtain ⟨leftValues, rightValues, leftFound, rightFound, searched⟩ := anyM_of_isRelated found
  have searchedRight := forall_mem_of_anyM searched leftValue
    ((Node.mem_values leftFound _).mpr leftHeld)
  exact compare_eq_ok.mp (forall_mem_of_anyM searchedRight rightValue
    ((Node.mem_values rightFound _).mpr rightHeld))

end Environment

end PacketFilter
