/-
This file shows that slices which tile a value give the value back. Slices tile data of a size if
each of them begins where the one before it ends, from the beginning of the data to its end; how
they are spelled does not matter, and neither does whether a cut lies inside a character, since a
string is put together from its bytes before it is read from them. So a sliced field contributes its
values of that size unchanged, and is equal to each of them.
-/

import PacketFilter.Proofs.Eval.Typing
import PacketFilter.Proofs.Slice.Positions
import PacketFilter.Proofs.Text.Utf8

namespace PacketFilter

/-! ### Slices that tile data -/

/-- Slices that tile data of the given size from a position on: each of them spells the bytes up to
the next cut, and the last one ends with the data. Cuts may coincide. -/
inductive Slice.Tiles (size : Nat) : Nat → List Slice → Prop
  | done : Tiles size size []
  | next {start cut : Nat} {slice : Slice} {rest : List Slice} (ordered : start ≤ cut)
      (spells : Spells size start cut slice) (tiles : Tiles size cut rest) :
      Tiles size start (slice :: rest)

namespace Slice.Tiles

variable {size start : Nat} {slices : List Slice}

theorem start_le (tiles : Tiles size start slices) : start ≤ size := by
  induction tiles with
  | done => exact Nat.le_refl size
  | next ordered spells tiles inductionHypothesis => exact Nat.le_trans ordered inductionHypothesis

/-- Slices that tile data from a position on take the bytes from there on. -/
theorem select (tiles : Tiles size start slices) (fits : (size : Int) ≤ Int32.maxValue.toInt)
    {data : Bytes} (length : data.length = size) :
    SliceSeries.select data slices = .ok (some (data.drop start)) := by
  induction tiles with
  | done =>
    rw [List.drop_of_length_le (Nat.le_of_eq length)]
    rfl
  | @next start cut slice rest ordered spells tiles inductionHypothesis =>
    have bounded := tiles.start_le
    have taken : slice.Takes data ((data.drop start).take (cut - start)) := by
      refine takes_iff_between.mpr ⟨start, cut, ?_, Bytes.between_of_bounds ordered (by omega)⟩
      rw [length]
      exact spells.resolve fits ordered bounded
    have joined : data.drop start = (data.drop start).take (cut - start) ++ data.drop cut := by
      rw [show data.drop cut = (data.drop start).drop (cut - start) by
        rw [List.drop_drop, Nat.add_sub_cancel' ordered], List.take_append_drop]
    exact SliceSeries.select_cons_eq_some_iff.mpr ⟨_, _, taken, inductionHypothesis, joined⟩

end Slice.Tiles

/-- A series of slices that tile data takes all of it. -/
theorem SliceSeries.apply_of_tiles {slices : List Slice} {series : SliceSeries}
    (made : ofSlices slices = .ok series) {data : Bytes}
    (fits : (data.length : Int) ≤ Int32.maxValue.toInt)
    (tiles : Slice.Tiles data.length 0 slices) : series.apply data = .ok (some data) := by
  unfold apply
  rw [slices_of_ofSlices made]
  exact tiles.select fits rfl

/-! ### Values that are tiled -/

/-- The bytes of a value that can be sliced. -/
def Value.encoding? : Value → Option Bytes
  | .bytes content => some content
  | .string text => some (Text.utf8Bytes text)
  | _ => none

namespace FieldRange

/-- The slices of a value, if it can be sliced and is long enough. -/
def sliced? (field : FieldRef) (series : SliceSeries) (whole : Value) : Option Value :=
  (sliceValue field series whole).toOption.join

/-- A value that is tiled is sliced into itself. -/
theorem sliceValue_of_apply {series : SliceSeries} {whole : Value} {content : Bytes}
    (encoding : whole.encoding? = some content)
    (applied : series.apply content = .ok (some content)) (field : FieldRef) :
    sliceValue field series whole = .ok (some whole) := by
  refine sliceValue_eq_some.mpr ?_
  cases whole with
  | bytes bytes =>
    obtain rfl := Option.some.inj encoding
    exact .inl ⟨bytes, bytes, rfl, rfl, applied⟩
  | string text =>
    obtain rfl := Option.some.inj encoding
    refine .inr ⟨text, _, rfl, ?_, applied⟩
    rw [Text.textOfBytes_utf8Bytes]
  | integer | double | absoluteTime | relativeTime => cases encoding

/-- The slices of values that can be sliced are those of each of them, in order. -/
theorem sliceValues_eq_filterMap (field : FieldRef) {series : SliceSeries} (built : series.Built)
    {kind : Kind} (sliceable : kind = .bytes ∨ kind = .string) {wholes : List Value}
    (kinds : ∀ whole ∈ wholes, whole.kind = kind) :
    sliceValues field series wholes = .ok (wholes.filterMap (sliced? field series)) := by
  induction wholes with
  | nil => rfl
  | cons whole rest inductionHypothesis =>
    obtain ⟨wholeKind, restKinds⟩ := List.forall_mem_cons.mp kinds
    obtain ⟨part?, sliced, -⟩ := sliceValue_of_kind field built (wholeKind.symm ▸ sliceable)
    have part : sliced? field series whole = part? := by
      unfold sliced?
      rw [sliced]
      rfl
    unfold sliceValues
    rw [sliced, inductionHypothesis restKinds, List.filterMap_cons, part]
    cases part? <;> rfl

end FieldRange

/-! ### Comparing with the whole -/

/-- A value of a kind that is only sliced is equal to itself. -/
theorem Value.order_self_of_encoding {value : Value} {content : Bytes}
    (encoding : value.encoding? = some content) : value.order value = some .eq := by
  cases value with
  | bytes bytes =>
    have lengths : compare bytes.length bytes.length = .eq := Std.ReflCmp.compare_self
    have members : List.compareLex compare bytes bytes = .eq := Std.ReflCmp.compare_self
    show some (Bytes.order bytes bytes) = some .eq
    rw [Bytes.order, lengths, members]
    rfl
  | string text => exact if_pos rfl
  | integer | double | absoluteTime | relativeTime => cases encoding

/-- Operands of one kind are equal if the one has the value that the other one is. -/
theorem Environment.isRelated_of_mem {environment : Environment}
    (built : environment.registry.Built) {kind : Kind}
    (live : environment.registry.isRegistered kind = true)
    (supported : Descriptor.supports ⟨kind⟩ .eq = true) {left right : Node}
    {leftValues : List Value}
    (leftFound : left.values environment.source = .ok leftValues)
    (kinds : ∀ value ∈ leftValues, value.kind = kind) {value : Value}
    (literal : right.content = .value value) (member : value ∈ leftValues)
    (self : value.order value = some .eq) : environment.isRelated .eq left right = .ok true := by
  have valueKind := kinds value member
  obtain ⟨result, related⟩ := isRelated_of_values built live supported leftFound
    (Node.values_literal literal) kinds (List.forall_mem_singleton.mpr valueKind)
  cases result with
  | true => exact related
  | false =>
    have denied := forall_pairs_of_isRelated related ((Node.mem_values leftFound value).mp member)
      (.literal literal)
    rw [built.compare_eq live supported valueKind valueKind, self] at denied
    cases denied

/-- Let slices tile data of a size, and let all occurrences of a field be strings, or all of them
byte strings. Then the sliced field has what the slices take from each occurrence, and from one of
that size they take the whole of it. So the field, sliced as it is, is equal to such an
occurrence. -/
theorem evaluate_tiled {registry : Registry} (registryBuilt : registry.Built) {kind : Kind}
    (sliceable : kind = .bytes ∨ kind = .string) (live : registry.isRegistered kind = true)
    {source : FieldSource} {field : FieldRef} (kinds : ∀ value ∈ source field, value.kind = kind)
    {size : Nat} (fits : (size : Int) ≤ Int32.maxValue.toInt) {slices : List Slice}
    (tiles : Slice.Tiles size 0 slices) {series : SliceSeries}
    (made : SliceSeries.ofSlices slices = .ok series) {ranged : Node}
    (rangeContent : ranged.content = .range ⟨some field, some series⟩) :
    ranged.values source = .ok ((source field).filterMap (FieldRange.sliced? field series)) ∧
    ∀ whole content, whole.encoding? = some content → content.length = size →
      FieldRange.sliced? field series whole = some whole ∧
      (whole ∈ source field → ∀ literal node : Node, literal.content = .value whole →
        node.content = .test ⟨some (.relation .eq), some ranged, some literal⟩ →
          (evaluate registry source node).result = .ok true) := by
  have built := SliceSeries.built_of_ofSlices made
  have sliced := FieldRange.sliceValues_eq_filterMap field built sliceable kinds
  have found : ranged.values source = .ok ((source field).filterMap _) :=
    (Node.values_range rangeContent).trans sliced
  refine ⟨found, ?_⟩
  rintro whole content encoding rfl
  have same : FieldRange.sliced? field series whole = some whole := by
    unfold FieldRange.sliced?
    rw [FieldRange.sliceValue_of_apply encoding (SliceSeries.apply_of_tiles made fits tiles)]
    rfl
  refine ⟨same, fun member literal node literalContent content => ?_⟩
  obtain ⟨parts, found', partKinds⟩ :=
    FieldRange.sliceValues_of_kind field built sliceable kinds
  obtain rfl := Except.ok.inj (sliced.symm.trans found')
  have supported : Descriptor.supports ⟨kind⟩ .eq = true := by
    rcases sliceable with rfl | rfl <;> rfl
  have admitted : Environment.admits ⟨registry, source⟩ 0 = true :=
    Environment.admits_of_le (Nat.zero_le _)
  rw [result_evaluate, Node.result_truth_relation admitted content]
  exact Environment.isRelated_of_mem registryBuilt live supported found partKinds literalContent
    (List.mem_filterMap.mpr ⟨whole, member, same⟩) (Value.order_self_of_encoding encoding)

/-! ### A cut inside a character -/

/-- Data in which a reading is given in seconds and in microseconds. -/
def twoUnits : FieldSource := fun field =>
  if field = ⟨"reading.unit", .string⟩ then [.string "s", .string "µs"] else []

/-- `[0:1,1:]` -/
def splitMicro : SliceSeries :=
  ⟨[.withLength 0 1, .toTheEnd 1], false, 1, 0, 1⟩

/-- `reading.unit[0:1,1:]` -/
def splitUnit : Node :=
  ⟨some .range, 0, .range ⟨some ⟨"reading.unit", .string⟩, some splitMicro⟩⟩

/-- `reading.unit[0:1,1:] == µs` -/
def unitIsMicro : Node :=
  ⟨some .test, 0, .test ⟨some (.relation .eq), some splitUnit,
    some ⟨some .string, 0, .value (.string "µs")⟩⟩⟩

/-- The first character has two bytes, and the cut is between them. -/
theorem evaluate_tiled_unitIsMicro :
    Slice.Tiles (Text.utf8Bytes "µs").length 0 [.withLength 0 1, .toTheEnd 1] ∧
      FieldRange.sliced? ⟨"reading.unit", .string⟩ splitMicro (.string "µs") =
        some (.string "µs") ∧
      (evaluate (.standard .standard) twoUnits unitIsMicro).result = .ok true := by
  have tiles : Slice.Tiles 3 0 [.withLength 0 1, .toTheEnd 1] :=
    .next (by decide) .length (.next (by decide) (.toTheEnd rfl) .done)
  have kinds : ∀ value ∈ twoUnits ⟨"reading.unit", .string⟩, value.kind = .string := by decide
  have made : SliceSeries.ofSlices [.withLength 0 1, .toTheEnd 1] = .ok splitMicro := rfl
  have content : splitUnit.content = .range ⟨some ⟨"reading.unit", .string⟩, some splitMicro⟩ := rfl
  obtain ⟨-, whole⟩ := evaluate_tiled (.registerAll (.empty .standard false)) (.inr rfl) rfl kinds
    (by decide) tiles made content
  obtain ⟨same, equal⟩ := whole (.string "µs") _ rfl rfl
  exact ⟨tiles, same, equal (by decide) _ _ rfl rfl⟩

end PacketFilter
