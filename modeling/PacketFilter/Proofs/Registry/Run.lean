/-
This file runs sequences of registrations and says what the table and its log hold after them. A
kind is made live by a call of its own or together with all that are still missing. A call that
violates the contract leaves the table and the log as they were. Whatever the calls and their
order, a kind is live as soon as one of them brings it, it stays live with its own descriptor, and
the log announces it exactly once.
-/

import Mathlib.Data.List.Induction
import PacketFilter.Proofs.Registry.Filling

namespace PacketFilter

/-! ### Registrations -/

/-- A call that makes kinds live. -/
inductive Registration where
  /-- Registers a descriptor in the place of a kind. -/
  | one (kind : Kind) (descriptor : Descriptor)
  /-- Registers every kind that is missing. -/
  | allMissing

namespace Registration

/-- What becomes of a table, with the kinds that become live, unless the contract is violated. -/
def perform (registry : Registry) : Registration → Except Fault (Registry × List Kind)
  | .one kind descriptor => registry.register kind descriptor
  | .allMissing => .ok registry.registerAll

/-- Whether a call brings a kind, with the descriptor that belongs to it. -/
def Brings (kind : Kind) : Registration → Prop
  | .one registered descriptor => registered = kind ∧ descriptor.kind = kind
  | .allMissing => True

theorem fills_of_perform {registry filled : Registry} {kinds : List Kind}
    {registration : Registration}
    (performed : registration.perform registry = .ok (filled, kinds)) :
    registry.Fills kinds filled := by
  cases registration with
  | one kind descriptor => exact Registry.fills_of_register performed
  | allMissing =>
    have fills := Registry.fills_registerAll registry
    rwa [show registry.registerAll = (filled, kinds) from Except.ok.inj performed] at fills

end Registration

/-! ### A step and a run -/

/-- A table, and all that was announced while it was filled. -/
structure LoggedRegistry where
  registry : Registry
  log : List LogRecord

namespace LoggedRegistry

/-- The table and the log after a call. -/
def after (logged : LoggedRegistry) (registration : Registration) : LoggedRegistry :=
  match registration.perform logged.registry with
  | .ok (filled, kinds) => ⟨filled, logged.log ++ filled.announce kinds⟩
  | .error _ => logged

/-- The table and the log after a sequence of calls, the first of them on a table without any live
kind. -/
def run (settings : Settings) (keepsLog : Bool) (registrations : List Registration) :
    LoggedRegistry :=
  registrations.foldl after ⟨.empty settings keepsLog, []⟩

section

variable {logged later : LoggedRegistry} {registration : Registration} {kind : Kind}

/-- Kinds have come into a table, and each of them was announced when it came. -/
def Grows (logged : LoggedRegistry) (kinds : List Kind) (later : LoggedRegistry) : Prop :=
  logged.registry.Fills kinds later.registry ∧
    later.log = logged.log ++ logged.registry.announce kinds

theorem Grows.refl (logged : LoggedRegistry) : logged.Grows [] logged :=
  ⟨.refl _, by rw [Registry.announce_nil, List.append_nil]⟩

theorem Grows.trans {middle : LoggedRegistry} {kinds others : List Kind}
    (first : logged.Grows kinds middle) (second : middle.Grows others later) :
    logged.Grows (kinds ++ others) later := by
  refine ⟨first.1.trans second.1, ?_⟩
  rw [second.2, first.2, Registry.announce_append first.1.keepsLog_eq, List.append_assoc]

theorem after_of_ok {filled : Registry} {kinds : List Kind}
    (performed : registration.perform logged.registry = .ok (filled, kinds)) :
    logged.after registration = ⟨filled, logged.log ++ filled.announce kinds⟩ := by
  unfold after
  rw [performed]

theorem grows_after {filled : Registry} {kinds : List Kind}
    (performed : registration.perform logged.registry = .ok (filled, kinds)) :
    logged.Grows kinds (logged.after registration) := by
  have fills := Registration.fills_of_perform performed
  rw [after_of_ok performed]
  refine ⟨fills, ?_⟩
  show logged.log ++ filled.announce kinds = _
  unfold Registry.announce
  rw [fills.keepsLog_eq]

/-- A refused call leaves the table and the log as they were. -/
theorem after_of_error {fault : Fault}
    (refused : registration.perform logged.registry = .error fault) :
    logged.after registration = logged := by
  unfold after
  rw [refused]

/-- A call lets the table and the log grow by the same kinds. -/
theorem exists_grows_after (logged : LoggedRegistry) (registration : Registration) :
    ∃ kinds, logged.Grows kinds (logged.after registration) := by
  cases performed : registration.perform logged.registry with
  | error fault =>
    rw [after_of_error performed]
    exact ⟨[], .refl logged⟩
  | ok outcome => exact ⟨outcome.2, grows_after performed⟩

/-- Calls let the table and the log grow by the same kinds. -/
theorem exists_grows_foldl (logged : LoggedRegistry) (registrations : List Registration) :
    ∃ kinds, logged.Grows kinds (registrations.foldl after logged) := by
  induction registrations generalizing logged with
  | nil => exact ⟨[], .refl logged⟩
  | cons registration rest inductionHypothesis =>
    obtain ⟨kinds, first⟩ := exists_grows_after logged registration
    obtain ⟨others, second⟩ := inductionHypothesis (logged.after registration)
    exact ⟨kinds ++ others, first.trans second⟩

theorem grows_after_allMissing (logged : LoggedRegistry) :
    logged.Grows logged.registry.registerAll.2 (logged.after .allMissing) := by
  rcases outcome : logged.registry.registerAll with ⟨filled, kinds⟩
  exact grows_after (congrArg Except.ok outcome)

/-- A call makes exactly the kinds live that it brings. -/
theorem isRegistered_after_iff :
    (logged.after registration).registry.isRegistered kind = true ↔
      logged.registry.isRegistered kind = true ∨ registration.Brings kind := by
  cases registration with
  | allMissing =>
    exact iff_of_true (Registry.isRegistered_registerAll logged.registry kind) (.inr trivial)
  | one registered descriptor =>
    cases performed : Registration.perform logged.registry (.one registered descriptor) with
    | ok outcome =>
      obtain ⟨rfl, -, -, named⟩ := Registry.register_eq_ok performed
      rw [(grows_after performed).1.isRegistered_iff, named, List.mem_singleton, or_comm]
      exact or_congr_right ⟨fun same => ⟨same.symm, same.symm⟩, fun brings => brings.1.symm⟩
    | error fault =>
      rw [after_of_error performed]
      refine ⟨.inl, fun live => live.elim id ?_⟩
      rintro ⟨rfl, own⟩
      exact (Registry.exists_register_eq_error_iff.mp ⟨fault, performed⟩).resolve_left
        (not_not_intro own)

/-- A table in which every kind is live is not changed, and nothing more is announced. -/
theorem after_of_isRegistered (live : ∀ kind, logged.registry.isRegistered kind = true)
    (registration : Registration) : logged.after registration = logged := by
  cases registration with
  | one kind descriptor =>
    obtain ⟨fault, refused⟩ := Registry.exists_register_eq_error_iff.mpr (.inr (live kind))
    exact after_of_error refused
  | allMissing =>
    have complete : logged.registry.registerAll = (logged.registry, []) :=
      Registry.registerMissing_of_isRegistered fun kind _ => live kind
    have performed : Registration.perform logged.registry .allMissing = .ok (logged.registry, []) :=
      congrArg Except.ok complete
    rw [after_of_ok performed, Registry.announce_nil, List.append_nil]

theorem foldl_after_of_isRegistered (live : ∀ kind, logged.registry.isRegistered kind = true)
    (registrations : List Registration) : registrations.foldl after logged = logged := by
  induction registrations with
  | nil => rfl
  | cons registration rest inductionHypothesis =>
    rw [List.foldl_cons, after_of_isRegistered live, inductionHypothesis]

end

section

variable {settings : Settings} {keepsLog : Bool} {registrations : List Registration}

theorem run_append (later : List Registration) :
    run settings keepsLog (registrations ++ later) =
      later.foldl after (run settings keepsLog registrations) :=
  List.foldl_append

/-- What is in the table after a run came into it one kind after the other and was announced
then. -/
theorem exists_grows_run (settings : Settings) (keepsLog : Bool)
    (registrations : List Registration) :
    ∃ named, Grows ⟨.empty settings keepsLog, []⟩ named (run settings keepsLog registrations) :=
  exists_grows_foldl _ registrations

/-- A kind is live as soon as a call has brought it, whatever the other calls are. -/
theorem isRegistered_run_iff {kind : Kind} :
    (run settings keepsLog registrations).registry.isRegistered kind = true ↔
      ∃ registration ∈ registrations, registration.Brings kind := by
  induction registrations using List.reverseRecOn with
  | nil => simp [run, Registry.isRegistered, Registry.empty]
  | append_singleton registrations registration inductionHypothesis =>
    rw [run_append, List.foldl_cons, List.foldl_nil, isRegistered_after_iff, inductionHypothesis]
    simp [or_and_right, exists_or]

theorem isProper_run : (run settings keepsLog registrations).registry.IsProper := by
  obtain ⟨named, fills, -⟩ := exists_grows_run settings keepsLog registrations
  intro kind descriptor found
  rw [fills.descriptor?_eq] at found
  split at found
  · exact (Option.some.inj found).symm
  · cases found

theorem descriptor?_run_append {kind : Kind} {descriptor : Descriptor}
    (found : (run settings keepsLog registrations).registry.descriptor? kind = some descriptor)
    (later : List Registration) :
    (run settings keepsLog (registrations ++ later)).registry.descriptor? kind =
      some descriptor := by
  obtain ⟨kinds, fills, -⟩ := exists_grows_foldl (run settings keepsLog registrations) later
  rw [run_append]
  exact fills.descriptor?_of_some found

/-- The log of a run announces the live kinds, each of them once. -/
theorem exists_log_run_eq (settings : Settings) (keepsLog : Bool)
    (registrations : List Registration) :
    ∃ named : List Kind, named.Nodup ∧
      (∀ kind, kind ∈ named ↔
        (run settings keepsLog registrations).registry.isRegistered kind = true) ∧
      (run settings keepsLog registrations).log =
        if keepsLog then named.map Registry.announcement else [] := by
  obtain ⟨named, fills, log⟩ := exists_grows_run settings keepsLog registrations
  refine ⟨named, fills.nodup, fun kind => ?_, log⟩
  rw [fills.isRegistered_iff]
  exact ⟨.inl, fun live => live.elim id nofun⟩

theorem nodup_log_run : (run settings keepsLog registrations).log.Nodup := by
  obtain ⟨named, nodup, -, log⟩ := exists_log_run_eq settings keepsLog registrations
  rw [log]
  split
  · exact nodup.map Registry.announcement_injective
  · exact List.nodup_nil

theorem mem_log_run_iff {record : LogRecord} :
    record ∈ (run settings true registrations).log ↔
      ∃ kind, (run settings true registrations).registry.isRegistered kind = true ∧
        Registry.announcement kind = record := by
  obtain ⟨named, -, live, log⟩ := exists_log_run_eq settings true registrations
  rw [log, if_pos rfl, List.mem_map]
  exact exists_congr fun kind => and_congr_left' (live kind)

/-- Registering what is missing announces the missing kinds in their order. -/
theorem exists_log_run_allMissing (settings : Settings) (keepsLog : Bool)
    (registrations : List Registration) :
    ∃ missing : List Kind,
      (missing.Pairwise fun first second => first.index < second.index) ∧
      (∀ kind, kind ∈ missing ↔
        (run settings keepsLog registrations).registry.isRegistered kind = false) ∧
      (run settings keepsLog (registrations ++ [.allMissing])).log =
        (run settings keepsLog registrations).log ++
          (run settings keepsLog registrations).registry.announce missing := by
  refine ⟨_, Kind.pairwise_index_all.sublist (Registry.sublist_registerMissing _ _),
    Registry.mem_registerAll_iff _, ?_⟩
  rw [run_append]
  exact (grows_after_allMissing _).2

/-- Once all missing kinds were registered, no call changes anything. -/
theorem run_append_of_mem_allMissing (complete : .allMissing ∈ registrations)
    (later : List Registration) :
    run settings keepsLog (registrations ++ later) = run settings keepsLog registrations := by
  rw [run_append]
  exact foldl_after_of_isRegistered
    (fun _ => isRegistered_run_iff.mpr ⟨.allMissing, complete, trivial⟩) later

end

/-- What a table and its log hold after a sequence of registrations. A kind that a call has brought
stays live with its own descriptor, and no other kind is live. A registration is refused exactly if
the descriptor belongs to another kind or the kind is live. The live kinds are listed in their
order. The log announces each of them once, and nothing else. Registering all that is missing
announces in their order the kinds that were missing; after that, nothing changes any more. -/
theorem table_and_log_run (settings : Settings) (keepsLog : Bool)
    (registrations : List Registration) :
    let filled := run settings keepsLog registrations
    (∀ kind descriptor, filled.registry.descriptor? kind = some descriptor →
      descriptor = ⟨kind⟩ ∧ ∀ later,
        (run settings keepsLog (registrations ++ later)).registry.descriptor? kind =
          some descriptor) ∧
    (∀ kind, filled.registry.isRegistered kind = true ↔
      ∃ registration ∈ registrations, registration.Brings kind) ∧
    (∀ kind descriptor, (∃ fault, filled.registry.register kind descriptor = .error fault) ↔
      descriptor.kind ≠ kind ∨ filled.registry.isRegistered kind = true) ∧
    (filled.registry.descriptors.Pairwise fun first second =>
      first.kind.index < second.kind.index) ∧
    (∀ descriptor, descriptor ∈ filled.registry.descriptors ↔
      ∃ kind, filled.registry.descriptor? kind = some descriptor) ∧
    (keepsLog = true → filled.log.Nodup ∧ ∀ record, record ∈ filled.log ↔
      ∃ kind, filled.registry.isRegistered kind = true ∧ Registry.announcement kind = record) ∧
    (∃ missing : List Kind,
      (missing.Pairwise fun first second => first.index < second.index) ∧
      (∀ kind, kind ∈ missing ↔ filled.registry.isRegistered kind = false) ∧
      (run settings keepsLog (registrations ++ [.allMissing])).log =
        filled.log ++ filled.registry.announce missing) ∧
    (.allMissing ∈ registrations → ∀ later,
      run settings keepsLog (registrations ++ later) = filled) := by
  intro filled
  refine ⟨fun kind descriptor found => ⟨isProper_run kind descriptor found,
      descriptor?_run_append found⟩,
    fun kind => isRegistered_run_iff, fun kind descriptor => Registry.exists_register_eq_error_iff,
    isProper_run.pairwise_descriptors, fun descriptor => Registry.mem_descriptors_iff, ?_,
    exists_log_run_allMissing settings keepsLog registrations, run_append_of_mem_allMissing⟩
  rintro rfl
  exact ⟨nodup_log_run, fun record => mem_log_run_iff⟩

/-- Two kinds registered by themselves, a descriptor of another kind and a kind registered twice
between them, and then all that is missing. -/
def mixedRegistrations : List Registration :=
  [.one .bytes ⟨.bytes⟩, .one .double ⟨.integer⟩, .one .bytes ⟨.bytes⟩, .one .test ⟨.test⟩,
    .allMissing]

/-- The two kinds are announced first, and the other seven in their order behind them. -/
theorem table_and_log_run_mixedRegistrations :
    (run .standard true mixedRegistrations).log =
        [Kind.bytes, .test, .integer, .double, .string, .absoluteTime, .relativeTime, .pointer,
          .range].map Registry.announcement ∧
      (run .standard true mixedRegistrations).log.Nodup ∧
      (run .standard true (mixedRegistrations ++ [.one .range ⟨.range⟩])).registry.descriptor?
        .bytes = some ⟨.bytes⟩ ∧
      run .standard true (mixedRegistrations ++ [.allMissing]) =
        run .standard true mixedRegistrations := by
  obtain ⟨kept, -, -, -, -, announced, -, complete⟩ :=
    table_and_log_run .standard true mixedRegistrations
  exact ⟨rfl, (announced rfl).1, (kept .bytes ⟨.bytes⟩ rfl).2 _,
    complete (by simp [mixedRegistrations]) _⟩

end LoggedRegistry

end PacketFilter
