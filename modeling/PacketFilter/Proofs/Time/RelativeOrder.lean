/-
This file says what comparing relative times compares: the numbers of seconds that they are written
as, fraction and sign included. Times are compared by their seconds first and then by their
nanoseconds. This is the order of the numbers because both parts of a time that is read have its
sign, and its nanoseconds make up less than a second.
-/

import Mathlib.Tactic.Linarith
import Mathlib.Tactic.NormNum
import Mathlib.Tactic.Ring
import PacketFilter.Proofs.Registry.Comparing
import PacketFilter.Proofs.Time.RelativeText

namespace PacketFilter

open Text

/-! ### The numbers of a literal and of a time -/

namespace RelativeForm

/-- The number that a form is written as: the seconds, a fraction if there is one, and the sign. -/
def number (form : RelativeForm) : ℚ :=
  let size := form.seconds + (form.fraction?.map fractionNumber).getD 0
  if form.negative then -size else size

/-- Whether a text is a literal of the given form. -/
def Spells (form : RelativeForm) (text : String) : Prop :=
  form.IsLiteral ∧ form.letters = text.toList

/-- The nanoseconds of a literal are those of its fraction. -/
theorem nanoseconds_div {form : RelativeForm} (literal : form.IsLiteral) :
    (form.nanoseconds : ℚ) / 1000000000 = (form.fraction?.map fractionNumber).getD 0 := by
  unfold nanoseconds
  cases fraction : form.fraction? with
  | none => norm_num
  | some digits =>
    obtain ⟨short, -⟩ := literal.fraction digits fraction
    have scale : (10 : ℚ) ^ (9 - digits.length) * 10 ^ digits.length = 1000000000 := by
      rw [← pow_add, Nat.sub_add_cancel short]
      norm_num
    simp only [Option.map_some, Option.getD_some, NanoTime.fractionNanoseconds, fractionNumber]
    rw [div_eq_div_iff (by norm_num) (by positivity), ← scale]
    push_cast [Nat.pow_eq]
    ring

end RelativeForm

namespace NanoTime

/-- The number of seconds that a time is. -/
def number (time : NanoTime) : ℚ :=
  time.seconds.toInt + time.nanoseconds.toInt / 1000000000

theorem number_ofParts {form : RelativeForm} (literal : form.IsLiteral) :
    (ofParts form.negative form.seconds form.nanoseconds).number = form.number := by
  obtain ⟨seconds, nanoseconds⟩ := toInt_ofParts literal
  unfold number RelativeForm.number
  rw [seconds, nanoseconds, ← RelativeForm.nanoseconds_div literal]
  unfold RelativeForm.signed
  split
  · push_cast
    ring
  · push_cast
    ring

/-! ### Order -/

section

variable {left right : NanoTime} (leftSigned : left.IsSigned) (rightSigned : right.IsSigned)

include leftSigned rightSigned

/-- A time that comes before another one is a smaller number: as long as the nanoseconds have the
sign of the seconds and make up less than one, they do not outweigh a difference in the seconds. -/
theorem number_lt_of_order (before : left.order right = .lt) : left.number < right.number := by
  have ordered : left.seconds.toInt * 1000000000 + left.nanoseconds.toInt <
      right.seconds.toInt * 1000000000 + right.nanoseconds.toInt := by
    have leftSmall := leftSigned.nanoseconds
    have rightSmall := rightSigned.nanoseconds
    have leftSign := leftSigned.notMixed
    have rightSign := rightSigned.notMixed
    rcases order_eq_lt_iff.mp before with seconds | ⟨seconds, nanoseconds⟩
    · omega
    · omega
  have cast : (left.seconds.toInt : ℚ) * 1000000000 + left.nanoseconds.toInt <
      right.seconds.toInt * 1000000000 + right.nanoseconds.toInt := by exact_mod_cast ordered
  unfold number
  linarith

/-- The order of two times whose parts have one sign each is the one of their numbers. -/
theorem order_compares : (left.order right).Compares left.number right.number := by
  cases order : left.order right with
  | lt => exact number_lt_of_order leftSigned rightSigned order
  | eq => exact congrArg number (order_eq_iff.mp order)
  | gt => exact number_lt_of_order rightSigned leftSigned (Std.OrientedCmp.gt_iff_lt.mp order)

end

/-! ### Comparing literals -/

/-- The value of a relative time literal is what is read in its place. -/
theorem readLiteral_relativeTime {registry : Registry} (built : registry.Built)
    (live : registry.isRegistered .relativeTime = true) {zone : Zone} {text : String}
    {value : Value} :
    registry.readLiteral zone .relativeTime text = .ok value ↔
      ∃ time, readRelative text = .ok time ∧ value = .relativeTime time := by
  unfold Registry.readLiteral
  rw [built.lookup_of_isRegistered live]
  show Except.mapError _ ((readRelative text).map Value.relativeTime) = _ ↔ _
  rw [mapError_eq_ok, map_eq_ok]
  exact exists_congr fun time => and_congr_right fun _ => eq_comm

/-- A text that is read spells a form, and each form that it spells has the number of the time. -/
theorem spells_of_readRelative {text : String} {time : NanoTime}
    (read : readRelative text = .ok time) :
    (∃ form : RelativeForm, form.Spells text) ∧
      ∀ form : RelativeForm, form.Spells text → time.number = form.number := by
  rw [readRelative_eq_ok_iff] at read
  obtain ⟨form, literal, letters, -⟩ := ofRelativeText?_eq_some_iff.mp read
  refine ⟨⟨form, literal, letters⟩, fun other spells => ?_⟩
  have again := ofRelativeText?_eq_some_iff.mpr ⟨other, spells.1, spells.2, rfl⟩
  rw [Option.some.inj (read.symm.trans again), number_ofParts spells.1]

/-- Two relative time literals are compared, in each of the six ways and for their order, as the
numbers that they are written as. -/
theorem compare_readLiteral {registry : Registry} (built : registry.Built)
    (live : registry.isRegistered .relativeTime = true) {zone : Zone}
    {leftText rightText : String} {left right : Value}
    (leftRead : registry.readLiteral zone .relativeTime leftText = .ok left)
    (rightRead : registry.readLiteral zone .relativeTime rightText = .ok right) :
    (∃ form : RelativeForm, form.Spells leftText) ∧
    (∃ form : RelativeForm, form.Spells rightText) ∧
    ∀ leftForm rightForm : RelativeForm, leftForm.Spells leftText → rightForm.Spells rightText →
      (∀ comparison, ∃ holds, registry.compare comparison left right = .ok holds ∧
        (holds = true ↔ comparison.Relates leftForm.number rightForm.number)) ∧
      ∃ order, Descriptor.ordering ⟨.relativeTime⟩ left right = .ok (some order) ∧
        order.Compares leftForm.number rightForm.number := by
  obtain ⟨leftTime, isLeft, rfl⟩ := (readLiteral_relativeTime built live).mp leftRead
  obtain ⟨rightTime, isRight, rfl⟩ := (readLiteral_relativeTime built live).mp rightRead
  obtain ⟨leftForms, leftNumber⟩ := spells_of_readRelative isLeft
  obtain ⟨rightForms, rightNumber⟩ := spells_of_readRelative isRight
  refine ⟨leftForms, rightForms, fun leftForm rightForm leftSpells rightSpells => ?_⟩
  have compares : (leftTime.order rightTime).Compares leftForm.number rightForm.number := by
    rw [← leftNumber leftForm leftSpells, ← rightNumber rightForm rightSpells]
    exact order_compares (isSigned_of_readRelative isLeft) (isSigned_of_readRelative isRight)
  refine ⟨fun comparison => ⟨_, ?_, comparison.holds_iff_relates compares⟩, _, ?_, compares⟩
  · have leftLive : registry.isRegistered (Value.relativeTime leftTime).kind = true := live
    exact (built.compare_eq_ok_iff leftLive).mpr ⟨rfl, rfl, rfl⟩
  · exact Descriptor.ordering_eq (fun _ => rfl) rfl rfl

/-- The parts of a literal with a fraction only, and those of one without a fraction. -/
def halfBeforeForm : RelativeForm :=
  ⟨true, [], some ['5']⟩

def secondBeforeForm : RelativeForm :=
  ⟨true, ['1'], none⟩

theorem spells_halfBeforeForm : halfBeforeForm.Spells "-.5" where
  left :=
    { whole := nofun
      fraction := by
        rintro digits ⟨⟩
        decide
      notEmpty := fun _ => rfl
      seconds_le := by decide }
  right := by decide

theorem spells_secondBeforeForm : secondBeforeForm.Spells "-1" where
  left :=
    { whole := by decide
      fraction := nofun
      notEmpty := nofun
      seconds_le := by decide }
  right := by decide

/-- Half a second before zero comes after a whole second before zero. -/
theorem compare_readLiteral_halfBefore :
    (Registry.standard .standard).readLiteral .utc .relativeTime "-.5" =
        .ok (.relativeTime ⟨0, -500000000⟩) ∧
      (Registry.standard .standard).readLiteral .utc .relativeTime "-1" =
        .ok (.relativeTime ⟨-1, 0⟩) ∧
      halfBeforeForm.Spells "-.5" ∧ secondBeforeForm.Spells "-1" ∧
      (Registry.standard .standard).compare .gt (.relativeTime ⟨0, -500000000⟩)
        (.relativeTime ⟨-1, 0⟩) = .ok true := by
  have built : (Registry.standard .standard).Built := .registerAll (.empty _ _)
  have live : (Registry.standard .standard).isRegistered .relativeTime = true := rfl
  have half : (Registry.standard .standard).readLiteral .utc .relativeTime "-.5" =
      .ok (.relativeTime ⟨0, -500000000⟩) :=
    (readLiteral_relativeTime built live).mpr
      ⟨_, readRelative_eq_ok_iff.mpr (by decide +kernel), rfl⟩
  have whole : (Registry.standard .standard).readLiteral .utc .relativeTime "-1" =
      .ok (.relativeTime ⟨-1, 0⟩) :=
    (readLiteral_relativeTime built live).mpr
      ⟨_, readRelative_eq_ok_iff.mpr (by decide +kernel), rfl⟩
  obtain ⟨-, -, compared⟩ := compare_readLiteral built live half whole
  obtain ⟨holds, isCompared, related⟩ :=
    (compared _ _ spells_halfBeforeForm spells_secondBeforeForm).1 .gt
  have numbers : secondBeforeForm.number < halfBeforeForm.number := by
    have five : Nat.ofDigitChars 10 ['5'] 0 = 5 := by decide
    have one : Nat.ofDigitChars 10 ['1'] 0 = 1 := by decide
    norm_num [RelativeForm.number, RelativeForm.seconds, fractionNumber,
      halfBeforeForm, secondBeforeForm, five, one]
  rw [related.mpr numbers] at isCompared
  exact ⟨half, whole, spells_halfBeforeForm, spells_secondBeforeForm, isCompared⟩

end NanoTime

end PacketFilter
