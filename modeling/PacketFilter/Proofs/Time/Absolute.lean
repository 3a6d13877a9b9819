/-
This file shows what becomes of an absolute time that is written as a date and read again: its
parts are found in the text, and what is left to the zone is which instant the local time of the
text denotes. In a zone with a fixed offset that is the instant that was written.
-/

import PacketFilter.Proofs.Time.Fraction
import PacketFilter.Proofs.Time.WallClock
import PacketFilter.Time.Absolute

namespace PacketFilter

open Text

namespace Zone

/-! ### Covered instants -/

/-- Whether an instant lies in a covered year both by universal and by local time. -/
structure Covers (zone : Zone) (instant : Int) : Prop where
  universal : isCoveredInstant instant = true
  byClock : isCoveredInstant (instant + zone.offsetAt instant) = true

/-- The covered years lie within nine million million seconds. -/
theorem lt_of_isCoveredInstant {instant : Int} (covered : isCoveredInstant instant = true) :
    -9000000000000 < instant ∧ instant < 9000000000000 := by
  rw [isCoveredInstant] at covered
  obtain ⟨atLeast, atMost⟩ := Calendar.isCovered_iff.mp covered
  have begun := Calendar.firstDayOfYear_yearOfDay_le (instant / 86400)
  have ended := Calendar.lt_firstDayOfYear_yearOfDay_succ (instant / 86400)
  have least := Calendar.firstDayOfYear_le atLeast
  have greatest := Calendar.firstDayOfYear_le (Int.add_le_add_right atMost 1)
  have leastDay : Calendar.firstDayOfYear (-262143) = -96465292 := by decide
  have greatestDay : Calendar.firstDayOfYear (262142 + 1) = 95026237 := by decide
  rw [yearOf] at least greatest
  omega

/-! ### Looking up a local time -/

variable {zone : Zone} {instant : Int}

theorem instantsOf_of_localOffsets_eq_singleton {offset : Int}
    (only : zone.localOffsets (instant + offset) = [offset])
    (covered : isCoveredInstant instant = true) :
    zone.instantsOf (instant + offset) = .unique instant := by
  simp only [instantsOf, only, List.map_cons, List.map_nil, Int.add_sub_cancel, covered, if_true]

theorem instantsOf_of_localOffsets_eq_pair {seconds first second : Int}
    (both : zone.localOffsets seconds = [seconds - first, seconds - second])
    (firstCovered : isCoveredInstant first = true)
    (secondCovered : isCoveredInstant second = true) :
    zone.instantsOf seconds = .ambiguous first second := by
  have back (instant : Int) : seconds - (seconds - instant) = instant := by omega
  simp only [instantsOf, both, List.map_cons, List.map_nil, back, firstCovered, secondCovered,
    Bool.and_self, if_true]

end Zone

/-! ### Choosing an instant -/

/-- In a zone with a fixed offset, every policy chooses the only instant there is. -/
theorem LocalTimePolicy.choose_fixed (policy : LocalTimePolicy) (text : String) (offset : Int)
    {instant : Int} (covered : Zone.isCoveredInstant instant = true) :
    policy.choose text ((Zone.fixed offset).instantsOf
      (instant + (Zone.fixed offset).offsetAt instant)) = .ok instant := by
  have only : (Zone.fixed offset).localOffsets
      (instant + (Zone.fixed offset).offsetAt instant) = [offset] := rfl
  rw [Zone.instantsOf_of_localOffsets_eq_singleton only covered]
  rfl

/-- The offset with which a policy reads a local time, out of the ones that are offered. -/
inductive LocalTimePolicy.Takes (offset : Int) : LocalTimePolicy → List Int → Prop
  | only (policy : LocalTimePolicy) : Takes offset policy [offset]
  | first (other : Int) : Takes offset .earliest [offset, other]
  | second (other : Int) : Takes offset .latest [other, offset]

theorem LocalTimePolicy.Takes.mem {policy : LocalTimePolicy} {offset : Int} {offsets : List Int}
    (takes : policy.Takes offset offsets) : offset ∈ offsets := by
  cases takes with
  | only => exact List.mem_cons_self
  | first => exact List.mem_cons_self
  | second => exact List.mem_cons_of_mem _ List.mem_cons_self

/-- An instant is chosen because the policy takes its offset, and only if it is covered. -/
theorem LocalTimePolicy.takes_of_choose {policy : LocalTimePolicy} {text : String} {zone : Zone}
    {seconds instant : Int} (chosen : policy.choose text (zone.instantsOf seconds) = .ok instant) :
    policy.Takes (seconds - instant) (zone.localOffsets seconds) ∧
      Zone.isCoveredInstant instant = true := by
  have back (offset : Int) : seconds - (seconds - offset) = offset := by omega
  unfold Zone.instantsOf at chosen
  rcases offsets : zone.localOffsets seconds with _ | ⟨offset, _ | ⟨other, _ | ⟨more, rest⟩⟩⟩
  · rw [offsets] at chosen
    cases chosen
  · simp only [offsets, List.map_cons, List.map_nil] at chosen
    split at chosen
    · cases chosen
      rw [back]
      exact ⟨.only policy, ‹_›⟩
    · cases chosen
  · simp only [offsets, List.map_cons, List.map_nil] at chosen
    split at chosen
    · rename_i covered
      rw [Bool.and_eq_true] at covered
      cases policy with
      | reject => cases chosen
      | earliest =>
        cases chosen
        rw [back]
        exact ⟨.first other, covered.1⟩
      | latest =>
        cases chosen
        rw [back]
        exact ⟨.second offset, covered.2⟩
    · cases chosen
  · rw [offsets] at chosen
    cases chosen

namespace NanoTime

/-! ### Times that are written as dates -/

/-- Times that are written as the date of a whole second and its nanoseconds, in a covered year by
universal and by local time. -/
structure IsDated (zone : Zone) (time : NanoTime) : Prop where
  nonneg : 0 ≤ time.nanoseconds.toInt
  lt : time.nanoseconds.toInt < 1000000000
  covered : zone.Covers time.seconds.toInt

variable {zone : Zone} {time : NanoTime}

theorem absoluteText_of_isDated (dated : time.IsDated zone) :
    absoluteText zone time =
      (zone.wallClockAt time.seconds.toInt).text ++ "."
        ++ paddedText 9 time.nanoseconds.toInt.natAbs := by
  have possible : ¬(!Zone.isCoveredInstant time.seconds.toInt
      || decide (time.nanoseconds.toInt < 0)) = true := by
    rw [dated.covered.universal, Bool.not_true, Bool.false_or, decide_eq_true_eq]
    exact Int.not_lt.mpr dated.nonneg
  unfold absoluteText dateText?
  simp only []
  rw [if_neg possible, if_pos dated.lt]

/-! ### Reading what is written -/

/-- Nanoseconds are written with nine digits and read back from them. -/
theorem readFraction?_paddedDigits {nanoseconds : Nat} (lt : nanoseconds < 1000000000) :
    readFraction? (paddedDigits 9 nanoseconds) = some nanoseconds := by
  have length : (paddedDigits 9 nanoseconds).length = 9 := length_paddedDigits (by decide) lt
  rw [readFraction?, length, if_pos (Nat.le_refl 9), natOfDigits?_paddedDigits, Option.map_some]
  exact congrArg some (Nat.mul_one nanoseconds)

theorem readAbsoluteParts?_append {clock : WallClock} (valid : clock.isValid = true)
    {nanoseconds : Nat} (lt : nanoseconds < 1000000000) :
    readAbsoluteParts? (clock.text ++ "." ++ paddedText 9 nanoseconds) =
      some (clock, nanoseconds) := by
  have letters : (clock.text ++ "." ++ paddedText 9 nanoseconds).toList =
      clock.text.toList ++ '.' :: paddedDigits 9 nanoseconds := by
    simp [paddedText]
  rw [readAbsoluteParts?, letters, splitFirst_of_not_mem clock.point_not_mem_text]
  simp only [WallClock.read?_text valid, readFraction?_paddedDigits lt, Option.bind_eq_bind,
    Option.bind_some, Option.pure_def]

theorem ofNat_natAbs_of_nonneg {nanoseconds : Int32} (nonneg : 0 ≤ nanoseconds.toInt) :
    Int32.ofNat nanoseconds.toInt.natAbs = nanoseconds := by
  rw [← Int32.ofInt_eq_ofNat, Int.natAbs_of_nonneg nonneg, Int32.ofInt_toInt]

/-- A time that was written as a date is looked up by the local time of its instant. -/
theorem readAbsolute_absoluteText (dated : time.IsDated zone) (policy : LocalTimePolicy) :
    readAbsolute zone policy (absoluteText zone time) =
      (policy.choose (absoluteText zone time)
          (zone.instantsOf (time.seconds.toInt + zone.offsetAt time.seconds.toInt))).map
        fun instant => ⟨Int64.ofInt instant, time.nanoseconds⟩ := by
  have fraction : time.nanoseconds.toInt.natAbs < 1000000000 := by
    have := dated.nonneg
    have := dated.lt
    omega
  have valid : (zone.wallClockAt time.seconds.toInt).isValid = true :=
    WallClock.isValid_ofSeconds dated.covered.byClock
  have parts : readAbsoluteParts? (absoluteText zone time) =
      some (zone.wallClockAt time.seconds.toInt, time.nanoseconds.toInt.natAbs) := by
    rw [absoluteText_of_isDated dated, readAbsoluteParts?_append valid fraction]
  have extra : (zone.wallClockAt time.seconds.toInt).second / 60 = 0 :=
    Nat.div_eq_of_lt (WallClock.second_ofSeconds_lt _)
  have clock : (zone.wallClockAt time.seconds.toInt).seconds =
      time.seconds.toInt + zone.offsetAt time.seconds.toInt := WallClock.seconds_ofSeconds _
  simp only [readAbsolute, parts, extra, clock, Int.natCast_zero, Int.sub_zero, Int.add_zero,
    ofNat_natAbs_of_nonneg dated.nonneg]
  cases policy.choose (absoluteText zone time)
    (zone.instantsOf (time.seconds.toInt + zone.offsetAt time.seconds.toInt)) <;> rfl

/-- If the policy takes the instant that was written, the time is read back. -/
theorem readAbsolute_absoluteText_of_choose (dated : time.IsDated zone) {policy : LocalTimePolicy}
    (taken : policy.choose (absoluteText zone time)
      (zone.instantsOf (time.seconds.toInt + zone.offsetAt time.seconds.toInt)) =
        .ok time.seconds.toInt) :
    readAbsolute zone policy (absoluteText zone time) = .ok time := by
  rw [readAbsolute_absoluteText dated, taken]
  show Except.ok (NanoTime.mk (Int64.ofInt time.seconds.toInt) time.nanoseconds) = _
  rw [Int64.ofInt_toInt]

/-! ### What is read -/

/-- The seconds that are added to the instant of the local time in a text: one for second 60. -/
def extraSeconds (text : String) : Nat :=
  match readAbsoluteParts? text with
  | some (clock, _) => clock.second / 60
  | none => 0

theorem readAbsoluteParts?_spec {text : String} {clock : WallClock} {nanoseconds : Nat}
    (read : readAbsoluteParts? text = some (clock, nanoseconds)) :
    clock.isValid = true ∧ nanoseconds < 1000000000 := by
  simp only [readAbsoluteParts?, Option.bind_eq_bind, Option.bind_eq_some_iff] at read
  obtain ⟨date, isDate, read⟩ := read
  have valid := (Option.filter_eq_some_iff.mp isDate).2
  split at read
  · cases read
    exact ⟨valid, by decide⟩
  · obtain ⟨fraction, isFraction, same⟩ := Option.bind_eq_some_iff.mp read
    cases same
    exact ⟨valid, readFraction?_lt isFraction⟩

/-- Only second 60 adds a second. -/
theorem second_div_le_of_isValid {clock : WallClock} (valid : clock.isValid = true) :
    clock.second / 60 ≤ 1 := by
  have := (WallClock.isValid_iff.mp valid).2.2.second
  omega

/-- The seconds of a time have room for every covered instant and the second after it. -/
theorem toInt_ofInt_of_covered {instant : Int} {extra : Nat}
    (covered : Zone.isCoveredInstant instant = true) (atMost : extra ≤ 1) :
    (Int64.ofInt (instant + extra)).toInt = instant + extra := by
  have ⟨above, below⟩ := Zone.lt_of_isCoveredInstant covered
  exact Int64.toInt_ofInt_of_le (by omega) (by omega)

/-- What is read is the instant that the policy chooses for a local time, and up to one second
more; its nanoseconds are less than a second. -/
theorem exists_of_readAbsolute_eq_ok {policy : LocalTimePolicy} {text : String}
    (read : readAbsolute zone policy text = .ok time) :
    ∃ seconds instant : Int, policy.choose text (zone.instantsOf seconds) = .ok instant ∧
      time.seconds.toInt = instant + extraSeconds text ∧ extraSeconds text ≤ 1 ∧
      0 ≤ time.nanoseconds.toInt ∧ time.nanoseconds.toInt < 1000000000 := by
  unfold readAbsolute at read
  rcases parts : readAbsoluteParts? text with _ | ⟨clock, nanoseconds⟩
  · rw [parts] at read
    cases read
  · obtain ⟨valid, small⟩ := readAbsoluteParts?_spec parts
    have extra : extraSeconds text = clock.second / 60 := by rw [extraSeconds, parts]
    simp only [parts, ← extra] at read
    split at read
    · cases read
    · rename_i instant chosen
      cases read
      have atMost : extraSeconds text ≤ 1 := extra ▸ second_div_le_of_isValid valid
      have seconds := toInt_ofInt_of_covered (LocalTimePolicy.takes_of_choose chosen).2 atMost
      have nanos : (Int32.ofNat nanoseconds).toInt = nanoseconds :=
        Int32.toInt_ofNat_of_lt (Nat.lt_trans small (by decide))
      refine ⟨_, instant, chosen, seconds, atMost, ?_, ?_⟩
      · rw [nanos]
        omega
      · rw [nanos]
        omega

/-! ### Zones with a fixed offset -/

/-- In a zone with a fixed offset, a time that was written as a date is read back. -/
theorem readAbsolute_absoluteText_fixed (offset : Int) (policy : LocalTimePolicy)
    {time : NanoTime} (dated : time.IsDated (.fixed offset)) :
    readAbsolute (.fixed offset) policy (absoluteText (.fixed offset) time) = .ok time :=
  readAbsolute_absoluteText_of_choose dated
    (policy.choose_fixed _ offset dated.covered.universal)

theorem readAbsolute_absoluteText_fixed_beforeZero :
    absoluteText (.fixed (-12345)) ⟨-99999999999, 999999999⟩ =
        "Feb 15, -1199 10:47:36.999999999" ∧
      readAbsolute (.fixed (-12345)) .reject
          (absoluteText (.fixed (-12345)) ⟨-99999999999, 999999999⟩) =
        .ok ⟨-99999999999, 999999999⟩ :=
  have dated : IsDated (.fixed (-12345)) ⟨-99999999999, 999999999⟩ :=
    { nonneg := by decide, lt := by decide, covered := ⟨by decide, by decide⟩ }
  ⟨by decide, readAbsolute_absoluteText_fixed (-12345) .reject dated⟩

end NanoTime

end PacketFilter
