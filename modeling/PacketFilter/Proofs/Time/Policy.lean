/-
This file compares what the policies for local times make of one text. They part ways only where
the zone offers two instants, which is while the clocks are set back; there `reject` refuses the
text, and the other two read times that are as far apart as the clocks are set back. The zone
offers the lower offset first, which is that of standard time as a rule, and by the lower offset a
local time comes later: `earliest`, which takes the first instant, reads the later time, and
`latest` the earlier one.
-/

import PacketFilter.Proofs.Time.Daylight

namespace PacketFilter

open Text

/-- The count of seconds for which a clock is looked up: its own, or for second 60 that of the
second before it. -/
def WallClock.lookupSeconds (clock : WallClock) : Int :=
  clock.seconds - (clock.second / 60 : Nat)

namespace NanoTime

/-! ### Malformed fractions -/

/-- Whatever date stands in front of it, a text with a malformed fraction has no parts. -/
theorem readAbsoluteParts?_of_not_isFraction {text : String} {date fraction : List Char}
    (letters : text.toList = date ++ '.' :: fraction) (noPoint : '.' ∉ date)
    (malformed : ¬IsFraction fraction) : readAbsoluteParts? text = none := by
  have unread : readFraction? fraction = none :=
    Option.eq_none_iff_forall_ne_some.mpr fun _ read => malformed (isFraction_of_readFraction? read)
  rw [readAbsoluteParts?, letters, splitFirst_of_not_mem noPoint]
  simp only [unread, Option.bind_eq_bind, Option.bind_none, Option.bind_fun_none]

/-! ### The policies compared -/

variable {zone : Zone} {text : String}

/-- Without its parts a text is refused, whatever the policy. -/
theorem readAbsolute_of_unread (unread : readAbsoluteParts? text = none)
    (policy : LocalTimePolicy) :
    readAbsolute zone policy text = .error (.invalidAbsoluteTime text) := by
  rw [readAbsolute, unread]

/-- With its parts a text is looked up, and the policy chooses. -/
theorem readAbsolute_of_parts {clock : WallClock} {nanoseconds : Nat}
    (parts : readAbsoluteParts? text = some (clock, nanoseconds)) (policy : LocalTimePolicy) :
    readAbsolute zone policy text =
      (policy.choose text (zone.instantsOf clock.lookupSeconds)).map fun instant =>
        ⟨Int64.ofInt (instant + (clock.second / 60 : Nat)), Int32.ofNat nanoseconds⟩ := by
  simp only [readAbsolute, parts, WallClock.lookupSeconds]
  cases policy.choose text (zone.instantsOf (clock.seconds - (clock.second / 60 : Nat))) <;> rfl

/-- All policies read a text alike, or refuse it alike: for not being a time, or for a local time
that there never was. What they blame is the whole of the text. -/
def ReadsAlike (zone : Zone) (text : String) : Prop :=
  (∃ time, ∀ policy, readAbsolute zone policy text = .ok time) ∨
    (∀ policy, readAbsolute zone policy text = .error (.invalidAbsoluteTime text)) ∨
      ∀ policy, readAbsolute zone policy text = .error (.nonexistentLocalTime text)

/-- The policies part ways over a text: its local time is passed twice, `reject` refuses it for
that, and the others read times that are as far apart as the clocks are set back. -/
structure ReadsApart (zone : Zone) (text : String) (first second : NanoTime) : Prop where
  inFold : ∃ clock nanoseconds, readAbsoluteParts? text = some (clock, nanoseconds) ∧
    zone.IsInFold clock.lookupSeconds
  reject : readAbsolute zone .reject text = .error (.ambiguousLocalTime text)
  earliest : readAbsolute zone .earliest text = .ok first
  latest : readAbsolute zone .latest text = .ok second
  nanoseconds : first.nanoseconds = second.nanoseconds
  seconds : first.seconds.toInt = second.seconds.toInt + zone.gain

/-- Two instants of one local time are read as two times. -/
theorem readsApart_of_ambiguous {clock : WallClock} {nanoseconds : Nat}
    (parts : readAbsoluteParts? text = some (clock, nanoseconds)) {first second : Int}
    (both : zone.instantsOf clock.lookupSeconds = .ambiguous first second) :
    ∃ first second, ReadsApart zone text first second := by
  have reads (policy : LocalTimePolicy) : readAbsolute zone policy text = _ :=
    readAbsolute_of_parts parts policy
  simp only [both] at reads
  obtain ⟨inFold, apart⟩ := Zone.isInFold_of_instantsOf_eq_ambiguous both
  obtain ⟨-, firstCovered, secondCovered⟩ := Zone.localOffsets_of_instantsOf_eq_ambiguous both
  have atMost := second_div_le_of_isValid (readAbsoluteParts?_spec parts).1
  refine ⟨_, _,
    { inFold := ⟨clock, nanoseconds, parts, inFold⟩
      reject := reads .reject
      earliest := reads .earliest
      latest := reads .latest
      nanoseconds := rfl
      seconds := ?_ }⟩
  rw [toInt_ofInt_of_covered firstCovered atMost, toInt_ofInt_of_covered secondCovered atMost]
  omega

theorem exists_readsApart (unlike : ¬ReadsAlike zone text) :
    ∃ first second, ReadsApart zone text first second := by
  rcases parts : readAbsoluteParts? text with _ | ⟨clock, nanoseconds⟩
  · exact absurd (.inr (.inl (readAbsolute_of_unread parts))) unlike
  · have reads (policy : LocalTimePolicy) : readAbsolute zone policy text = _ :=
      readAbsolute_of_parts parts policy
    cases instants : zone.instantsOf clock.lookupSeconds with
    | unique instant =>
      simp only [instants] at reads
      exact absurd (.inl ⟨_, reads⟩) unlike
    | ambiguous first second => exact readsApart_of_ambiguous parts instants
    | nonexistent =>
      simp only [instants] at reads
      exact absurd (.inr (.inr reads)) unlike

/-- Either the policies read a text alike, or they part ways over it. A malformed fraction is
refused as such before the zone is asked. -/
theorem readsAlike_or_readsApart (zone : Zone) (text : String) :
    (ReadsAlike zone text ∨ ∃ first second, ReadsApart zone text first second) ∧
      ∀ date fraction : List Char, text.toList = date ++ '.' :: fraction → '.' ∉ date →
        ¬IsFraction fraction →
          ∀ policy, readAbsolute zone policy text = .error (.invalidAbsoluteTime text) :=
  ⟨Classical.or_iff_not_imp_left.mpr exists_readsApart, fun _ _ letters noPoint malformed =>
    readAbsolute_of_unread (readAbsoluteParts?_of_not_isFraction letters noPoint malformed)⟩

/-- The fraction has ten digits, and the time of day occurred twice. -/
theorem readsAlike_or_readsApart_tenDigits :
    (readAbsoluteParts? "Nov 7, 2021 01:30:00").isSome = true ∧
      readAbsolute newYork .reject "Nov 7, 2021 01:30:00" =
        .error (.ambiguousLocalTime "Nov 7, 2021 01:30:00") ∧
      ∀ policy, readAbsolute newYork policy "Nov 7, 2021 01:30:00.0123456789" =
        .error (.invalidAbsoluteTime "Nov 7, 2021 01:30:00.0123456789") := by
  refine ⟨by decide, rfl, ?_⟩
  exact (readsAlike_or_readsApart newYork "Nov 7, 2021 01:30:00.0123456789").2
    "Nov 7, 2021 01:30:00".toList "0123456789".toList (by decide) (by decide)
    fun fraction => absurd fraction.2.1 (by decide)

/-! ### Earlier and later -/

/-- Of the two times of a local time that is passed twice, `latest` reads the earlier one and
`earliest` the later one: standard time is offered first. -/
theorem latest_before_earliest {standard summer : Int} (gains : standard < summer)
    {starts ends : YearlyChange} {text : String}
    (refused : readAbsolute (.daylight standard summer starts ends) .reject text =
      .error (.ambiguousLocalTime text)) :
    ∃ earlier later,
      readAbsolute (.daylight standard summer starts ends) .latest text = .ok earlier ∧
      readAbsolute (.daylight standard summer starts ends) .earliest text = .ok later ∧
      earlier.order later = .lt ∧
      later.seconds.toInt - earlier.seconds.toInt = summer - standard := by
  have unlike : ¬ReadsAlike (.daylight standard summer starts ends) text := by
    rintro (⟨time, read⟩ | invalid | nonexistent)
    · cases (read .reject).symm.trans refused
    · cases (invalid .reject).symm.trans refused
    · cases (nonexistent .reject).symm.trans refused
  obtain ⟨later, earlier, apart⟩ := exists_readsApart unlike
  have difference : later.seconds.toInt = earlier.seconds.toInt + (summer - standard) := by
    have isGain := apart.seconds
    rwa [Zone.gain, Int.max_eq_right (Int.le_of_lt gains), Int.min_eq_left (Int.le_of_lt gains)]
      at isGain
  have before : compare earlier.seconds.toInt later.seconds.toInt = .lt :=
    Int.compare_eq_lt.mpr (by omega)
  refine ⟨earlier, later, apart.latest, apart.earliest, ?_, by omega⟩
  rw [order, before]
  rfl

/-- Second 60 of the last minute that is passed twice. -/
theorem latest_before_earliest_newYork :
    readAbsolute newYork .reject "nov 7,2021 1:59:60.5" =
        .error (.ambiguousLocalTime "nov 7,2021 1:59:60.5") ∧
      ∃ earlier later, readAbsolute newYork .latest "nov 7,2021 1:59:60.5" = .ok earlier ∧
        readAbsolute newYork .earliest "nov 7,2021 1:59:60.5" = .ok later ∧
        earlier.order later = .lt ∧
        later.seconds.toInt - earlier.seconds.toInt = -14400 - -18000 := by
  have refused : readAbsolute newYork .reject "nov 7,2021 1:59:60.5" =
      .error (.ambiguousLocalTime "nov 7,2021 1:59:60.5") := rfl
  exact ⟨refused, latest_before_earliest (by decide) refused⟩

/-- At half past one on the day on which the clocks of New York are set back, `earliest` reads the
later one of the two times. -/
theorem earliest_not_before_latest :
    ¬ ∀ (standard summer : Int) (starts ends : YearlyChange) (text : String)
        (first second : NanoTime), standard < summer →
      readAbsolute (.daylight standard summer starts ends) .reject text =
        .error (.ambiguousLocalTime text) →
      readAbsolute (.daylight standard summer starts ends) .earliest text = .ok first →
      readAbsolute (.daylight standard summer starts ends) .latest text = .ok second →
        first.order second = .lt := by
  intro general
  have refused : readAbsolute newYork .reject "Nov 7, 2021 01:30:00" =
      .error (.ambiguousLocalTime "Nov 7, 2021 01:30:00") := rfl
  have earliest : readAbsolute newYork .earliest "Nov 7, 2021 01:30:00" =
      .ok ⟨1636266600, 0⟩ := rfl
  have latest : readAbsolute newYork .latest "Nov 7, 2021 01:30:00" = .ok ⟨1636263000, 0⟩ := rfl
  have before := general _ _ _ _ _ _ _ (by decide) refused earliest latest
  exact absurd before (by decide)

end NanoTime

end PacketFilter
