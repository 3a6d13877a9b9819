/-
This file proves that comparing values of a kind puts them in order. Which of two values comes first
is found by asking whether they are equal, whether the first one is less and whether it is greater;
the answers fit together, and so do those of the other comparisons. With its sides exchanged a
comparison comes out as its mirror image does, also where it does not come out at all.
-/

import PacketFilter.Proofs.Eval.Typing
import PacketFilter.Proofs.Value.Comparison
import PacketFilter.Proofs.Value.Order

namespace PacketFilter

/-! ### Comparing by order -/

/-- Exchanging two values turns their order round. -/
theorem Value.order_swap (left right : Value) :
    right.order left = (left.order right).map .swap := by
  cases left with
  | integer left =>
    cases right with
    | integer right => exact congrArg some Std.OrientedOrd.eq_swap
    | _ => rfl
  | double left =>
    cases right with
    | double right =>
      simp only [order, Binary64.order, Bool.or_comm right.isNaN]
      split
      · rfl
      · exact congrArg some Std.OrientedOrd.eq_swap
    | _ => rfl
  | string left =>
    cases right with
    | string right =>
      simp only [order, eq_comm (a := right)]
      split <;> rfl
    | _ => rfl
  | bytes left =>
    cases right with
    | bytes right => exact congrArg some Std.OrientedCmp.eq_swap
    | _ => rfl
  | absoluteTime left =>
    cases right with
    | absoluteTime right => exact congrArg some Std.OrientedCmp.eq_swap
    | _ => rfl
  | relativeTime left =>
    cases right with
    | relativeTime right => exact congrArg some Std.OrientedCmp.eq_swap
    | _ => rfl

namespace Descriptor

variable {descriptor : Descriptor} {comparison : Comparison} {left right : Value}

/-- A comparison comes out exactly if it is supported and both values are of the kind, and then as
the order of the values says. -/
theorem compare_eq_ok_iff {result : Bool} :
    descriptor.compare comparison left right = .ok result ↔
      descriptor.supports comparison = true ∧
        (left.kind = descriptor.kind ∧ right.kind = descriptor.kind) ∧
          comparison.holds (left.order right) = result := by
  unfold compare
  cases supported : descriptor.supports comparison with
  | false => simp
  | true =>
    by_cases kinds : left.kind = descriptor.kind ∧ right.kind = descriptor.kind
    · simp [kinds]
    · simp [kinds, ← not_and_or]

theorem supports_mirror (descriptor : Descriptor) (comparison : Comparison) :
    descriptor.supports comparison.mirror = descriptor.supports comparison := by
  obtain ⟨kind⟩ := descriptor
  cases kind <;> cases comparison <;> rfl

/-- The three questions find the order of two values of a kind that supports them. -/
theorem ordering_eq (supported : ∀ comparison, descriptor.supports comparison = true)
    (leftKind : left.kind = descriptor.kind) (rightKind : right.kind = descriptor.kind) :
    descriptor.ordering left right = .ok (left.order right) := by
  have answers (comparison : Comparison) : descriptor.compare comparison left right =
      .ok (comparison.holds (left.order right)) :=
    compare_eq_ok_iff.mpr ⟨supported comparison, ⟨leftKind, rightKind⟩, rfl⟩
  unfold ordering
  simp only [answers]
  match left.order right with
  | none => rfl
  | some .lt => rfl
  | some .eq => rfl
  | some .gt => rfl

/-! ### The laws of an order -/

section

variable {Member : Type}

/-- Comparing puts some values of a kind in order: any two of them stand in an order, which is
equality for those that count as the same, is turned round with the values and is handed on from one
pair to the next; and every comparison is decided by it. -/
structure IsOrder (descriptor : Descriptor) (value : Member → Value)
    (same : Member → Member → Prop) : Prop where
  total : ∀ left right, ∃ order, descriptor.ordering (value left) (value right) = .ok (some order)
  equal : ∀ left right,
    descriptor.ordering (value left) (value right) = .ok (some .eq) ↔ same left right
  swap : ∀ left right order, descriptor.ordering (value left) (value right) = .ok (some order) →
    descriptor.ordering (value right) (value left) = .ok (some order.swap)
  trans : ∀ left middle right first second,
    descriptor.ordering (value left) (value middle) = .ok (some first) → first ≠ .gt →
    descriptor.ordering (value middle) (value right) = .ok (some second) → second ≠ .gt →
      descriptor.ordering (value left) (value right) = .ok (some (first.then second))
  compare : ∀ comparison left right order,
    descriptor.ordering (value left) (value right) = .ok (some order) →
      ∃ holds, descriptor.compare comparison (value left) (value right) = .ok holds ∧
        (holds = true ↔ comparison.Admits order)

variable (order : Member → Member → Ordering) [Std.TransCmp order]

/-- An order that is handed on is the one of the first pair, and that of the second pair where the
first pair is equal. -/
theorem order_then {left middle right : Member} (first : order left middle ≠ .gt)
    (second : order middle right ≠ .gt) :
    order left right = (order left middle).then (order middle right) := by
  cases below : order left middle with
  | gt => exact absurd below first
  | eq => rw [Std.TransCmp.congr_left below, Ordering.eq_then]
  | lt =>
    rw [Ordering.lt_then]
    exact Std.TransCmp.lt_of_lt_of_isLE below (Ordering.isLE_iff_ne_gt.mpr second)

/-- Values of a kind that supports every comparison are put in order if their order is one. -/
theorem isOrder_of_order {kind : Kind} {value : Member → Value} {same : Member → Member → Prop}
    (supported : ∀ comparison, supports ⟨kind⟩ comparison = true)
    (kinds : ∀ member, (value member).kind = kind)
    (ordered : ∀ left right, (value left).order (value right) = some (order left right))
    (equal : ∀ left right, order left right = .eq ↔ same left right) :
    IsOrder ⟨kind⟩ value same := by
  have found (left right : Member) :
      ordering ⟨kind⟩ (value left) (value right) = .ok (some (order left right)) :=
    (ordering_eq supported (kinds left) (kinds right)).trans (congrArg _ (ordered left right))
  constructor
  case total => exact fun left right => ⟨_, found left right⟩
  case equal =>
    intro left right
    rw [found, Except.ok.injEq, Option.some.injEq, equal]
  case swap =>
    intro left right _ isOrder
    rw [found] at isOrder
    cases isOrder
    have swapped : order right left = (order left right).swap := Std.OrientedCmp.eq_swap
    rw [found, swapped]
  case trans =>
    intro left middle right _ _ isFirst first isSecond second
    rw [found] at isFirst isSecond
    cases isFirst
    cases isSecond
    rw [found, order_then order first second]
  case compare =>
    intro comparison left right _ isOrder
    rw [found] at isOrder
    cases isOrder
    refine ⟨comparison.holds (some (order left right)), ?_, comparison.holds_iff_admits _⟩
    exact compare_eq_ok_iff.mpr
      ⟨supported comparison, ⟨kinds left, kinds right⟩, congrArg _ (ordered left right)⟩

end

/-! ### The kinds whose values are ordered -/

theorem isOrder_integer : IsOrder ⟨.integer⟩ Value.integer (· = ·) :=
  isOrder_of_order (compareOn UInt32.toNat) (fun _ => rfl) (fun _ => rfl) (fun _ _ => rfl)
    fun _ _ => Std.LawfulEqOrd.compare_eq_iff_eq.trans UInt32.toNat_inj

theorem isOrder_bytes : IsOrder ⟨.bytes⟩ Value.bytes (· = ·) :=
  isOrder_of_order Bytes.order (fun _ => rfl) (fun _ => rfl) (fun _ _ => rfl)
    fun _ _ => Bytes.order_eq_iff

theorem isOrder_absoluteTime : IsOrder ⟨.absoluteTime⟩ Value.absoluteTime (· = ·) :=
  isOrder_of_order NanoTime.order (fun _ => rfl) (fun _ => rfl) (fun _ _ => rfl)
    fun _ _ => NanoTime.order_eq_iff

theorem isOrder_relativeTime : IsOrder ⟨.relativeTime⟩ Value.relativeTime (· = ·) :=
  isOrder_of_order NanoTime.order (fun _ => rfl) (fun _ => rfl) (fun _ _ => rfl)
    fun _ _ => NanoTime.order_eq_iff

/-- Floating-point values are ordered unless they are not numbers, and the zeros are equal. -/
theorem isOrder_double :
    IsOrder ⟨.double⟩ (fun number : { number : Binary64 // number.isNaN = false } => .double number)
      fun left right => left = right ∨ left.1.isZero = true ∧ right.1.isZero = true := by
  refine isOrder_of_order (compareOn fun number => Binary64.key number.1) (fun _ => rfl)
    (fun _ => rfl) (fun left right => ?_) fun left right => ?_
  · simp only [Value.order, Binary64.order, left.2, right.2]
    rfl
  · rw [Subtype.ext_iff, ← Binary64.key_eq_iff]
    exact Std.LawfulEqOrd.compare_eq_iff_eq

/-- What is not a number stands in no order, and only differs. -/
theorem ordering_double_eq_none_iff {left right : Binary64} :
    ordering ⟨.double⟩ (.double left) (.double right) = .ok none ↔
      left.isNaN = true ∨ right.isNaN = true := by
  have found : ordering ⟨.double⟩ (.double left) (.double right) = .ok (left.order right) :=
    ordering_eq (fun _ => rfl) rfl rfl
  rw [found, Except.ok.injEq, Binary64.order, ← Bool.or_eq_true]
  split <;> simp_all

theorem compare_double_of_isNaN {left right : Binary64}
    (isNaN : left.isNaN = true ∨ right.isNaN = true) (comparison : Comparison) :
    compare ⟨.double⟩ comparison (.double left) (.double right) =
      .ok (decide (comparison = .ne)) := by
  have unordered : Value.order (.double left) (.double right) = none :=
    if_pos (Bool.or_eq_true _ _ ▸ isNaN)
  rw [← comparison.holds_none, ← unordered]
  exact compare_eq_ok_iff.mpr ⟨rfl, ⟨rfl, rfl⟩, rfl⟩

end Descriptor

/-! ### Comparing in a registry -/

namespace Registry

variable {registry : Registry}

/-- A comparison of a live kind comes out exactly if the kind supports it and the other value is of
the kind as well. -/
theorem Built.compare_eq_ok_iff (built : registry.Built) {comparison : Comparison}
    {left right : Value} (live : registry.isRegistered left.kind = true) {result : Bool} :
    registry.compare comparison left right = .ok result ↔
      Descriptor.supports ⟨left.kind⟩ comparison = true ∧ left.kind = right.kind ∧
        comparison.holds (left.order right) = result := by
  unfold Registry.compare
  rw [built.lookup_of_isRegistered live]
  show Except.mapError _ (Descriptor.compare _ _ _ _) = _ ↔ _
  rw [mapError_eq_ok, Descriptor.compare_eq_ok_iff, and_iff_right rfl, eq_comm (a := right.kind)]

/-- A comparison comes out as its mirror image does with the sides exchanged. -/
theorem Built.compare_mirror (built : registry.Built)
    (live : ∀ kind, registry.isRegistered kind = true) (comparison : Comparison)
    (left right : Value) (result : Bool) :
    registry.compare comparison left right = .ok result ↔
      registry.compare comparison.mirror right left = .ok result := by
  rw [built.compare_eq_ok_iff (live _), built.compare_eq_ok_iff (live _),
    Descriptor.supports_mirror, left.order_swap, comparison.holds_mirror,
    eq_comm (a := right.kind)]
  refine and_congr_left ?_
  rintro ⟨kinds, -⟩
  rw [kinds]

/-- Comparing puts the values of a kind in order: byte strings by their length first and then byte
by byte, and floating-point values apart from those that are not numbers, which only differ. Where
every kind is live, a comparison comes out exactly for two values of one kind that supports it,
and its mirror image with the sides exchanged comes out alike. -/
theorem compare_isOrder (built : registry.Built)
    (live : ∀ kind, registry.isRegistered kind = true) :
    (Descriptor.IsOrder ⟨.integer⟩ Value.integer (· = ·) ∧
      Descriptor.IsOrder ⟨.bytes⟩ Value.bytes (· = ·) ∧
      Descriptor.IsOrder ⟨.absoluteTime⟩ Value.absoluteTime (· = ·) ∧
      Descriptor.IsOrder ⟨.relativeTime⟩ Value.relativeTime (· = ·)) ∧
    (∀ left right : Bytes,
      Descriptor.ordering ⟨.bytes⟩ (.bytes left) (.bytes right) = .ok (some .lt) ↔
        left.length < right.length ∨
          left.length = right.length ∧ Bytes.DiffersBelow left right) ∧
    (∀ left right : Binary64,
      (Descriptor.ordering ⟨.double⟩ (.double left) (.double right) = .ok none ↔
        left.isNaN = true ∨ right.isNaN = true) ∧
      (left.isNaN = true ∨ right.isNaN = true → ∀ comparison,
        Descriptor.compare ⟨.double⟩ comparison (.double left) (.double right) =
          .ok (decide (comparison = .ne)))) ∧
    Descriptor.IsOrder ⟨.double⟩
      (fun number : { number : Binary64 // number.isNaN = false } => .double number)
      (fun left right => left = right ∨ left.1.isZero = true ∧ right.1.isZero = true) ∧
    ∀ comparison left right,
      (∀ result, registry.compare comparison left right = .ok result ↔
        registry.compare comparison.mirror right left = .ok result) ∧
      ((∃ result, registry.compare comparison left right = .ok result) ↔
        left.kind = right.kind ∧ Descriptor.supports ⟨left.kind⟩ comparison = true) := by
  refine ⟨⟨Descriptor.isOrder_integer, Descriptor.isOrder_bytes, Descriptor.isOrder_absoluteTime,
    Descriptor.isOrder_relativeTime⟩, fun left right => ?_,
    fun left right => ⟨Descriptor.ordering_double_eq_none_iff, Descriptor.compare_double_of_isNaN⟩,
    Descriptor.isOrder_double,
    fun comparison left right => ⟨built.compare_mirror live comparison left right, ?_⟩⟩
  · have found : Descriptor.ordering ⟨.bytes⟩ (.bytes left) (.bytes right) =
        .ok (some (Bytes.order left right)) :=
      Descriptor.ordering_eq (fun _ => rfl) rfl rfl
    rw [found, Except.ok.injEq, Option.some_inj, Bytes.order_eq_lt_iff]
  · constructor
    · rintro ⟨result, compared⟩
      obtain ⟨supported, kinds, -⟩ := (built.compare_eq_ok_iff (live _)).mp compared
      exact ⟨kinds, supported⟩
    · rintro ⟨kinds, supported⟩
      exact ⟨_, (built.compare_eq_ok_iff (live _)).mpr ⟨supported, kinds, rfl⟩⟩

/-- In the registry of all kinds a single high byte comes before two low ones, the zeros are equal,
what is not a number differs from itself, and an integer is not compared with a text. -/
theorem compare_isOrder_standard :
    (standard .standard).Built ∧ (∀ kind, (standard .standard).isRegistered kind = true) ∧
      Descriptor.ordering ⟨.bytes⟩ (.bytes [0xff]) (.bytes [0, 0]) = .ok (some .lt) ∧
      Descriptor.ordering ⟨.double⟩ (.double .zero) (.double (.ofMagnitude true 0)) =
        .ok (some .eq) ∧
      Binary64.notANumber.isNaN = true ∧
      Descriptor.compare ⟨.double⟩ .ne (.double .notANumber) (.double .notANumber) = .ok true ∧
      ¬∃ result, (standard .standard).compare .eq (.integer 1) (.string "1") = .ok result := by
  have built : (standard .standard).Built := .registerAll (.empty _ _)
  have live : ∀ kind, (standard .standard).isRegistered kind = true := by
    intro kind
    cases kind <;> rfl
  obtain ⟨-, bytes, notNumber, double, registered⟩ := compare_isOrder built live
  refine ⟨built, live, (bytes _ _).mpr (.inl (by decide)), ?_, rfl, ?_, fun compared => ?_⟩
  · exact (double.equal ⟨.zero, rfl⟩ ⟨.ofMagnitude true 0, rfl⟩).mpr (.inr ⟨rfl, rfl⟩)
  · exact (notNumber .notANumber .notANumber).2 (.inl rfl) .ne
  · cases ((registered .eq (.integer 1) (.string "1")).2.mp compared).1

end Registry

end PacketFilter
