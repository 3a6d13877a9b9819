/-
This file says how registering fills a table. Kinds only come into it: those that were missing,
each of them once and with its own descriptor. It also says when a registration is refused, and in
which order a table lists its kinds.
-/

import Mathlib.Data.List.Basic
import Mathlib.Data.List.Nodup
import PacketFilter.Proofs.Registry.Built

namespace PacketFilter

/-! ### The order of the kinds -/

namespace Kind

theorem index_injective : Function.Injective index := by
  intro first second same
  have found := congrArg ofIndex? same
  rw [ofIndex?_index, ofIndex?_index] at found
  exact Option.some.inj found

theorem pairwise_index_all : all.Pairwise fun first second => first.index < second.index := by
  decide

end Kind

namespace Registry

/-! ### Filling a table -/

/-- A table that has got more kinds, named in the order in which they came. None of them was in it
before. -/
structure Fills (registry : Registry) (kinds : List Kind) (filled : Registry) : Prop where
  nodup : kinds.Nodup
  missing : ∀ kind ∈ kinds, registry.isRegistered kind = false
  descriptor?_eq : ∀ kind, filled.descriptor? kind =
    if kind ∈ kinds then some ⟨kind⟩ else registry.descriptor? kind
  keepsLog_eq : filled.keepsLog = registry.keepsLog

section

variable {registry middle filled : Registry} {kind : Kind} {kinds others : List Kind}

theorem Fills.refl (registry : Registry) : registry.Fills [] registry :=
  ⟨List.nodup_nil, nofun, fun _ => rfl, rfl⟩

theorem Fills.isRegistered_iff (fills : registry.Fills kinds filled) (kind : Kind) :
    filled.isRegistered kind = true ↔ kind ∈ kinds ∨ registry.isRegistered kind = true := by
  unfold isRegistered
  rw [fills.descriptor?_eq]
  by_cases member : kind ∈ kinds <;> simp [member]

theorem Fills.not_mem (fills : registry.Fills kinds filled)
    (live : registry.isRegistered kind = true) : kind ∉ kinds := by
  intro member
  rw [fills.missing kind member] at live
  cases live

/-- What is in a table stays there when the table is filled. -/
theorem Fills.descriptor?_of_some (fills : registry.Fills kinds filled) {descriptor : Descriptor}
    (found : registry.descriptor? kind = some descriptor) :
    filled.descriptor? kind = some descriptor := by
  have live : registry.isRegistered kind = true := Option.isSome_of_eq_some found
  rw [fills.descriptor?_eq, if_neg (fills.not_mem live), found]

theorem Fills.trans (first : registry.Fills kinds middle) (second : middle.Fills others filled) :
    registry.Fills (kinds ++ others) filled where
  -- What is live in the middle, from before or from the first kinds, does not come once more.
  nodup := List.nodup_append'.mpr ⟨first.nodup, second.nodup, fun kind old =>
    second.not_mem ((first.isRegistered_iff kind).mpr (.inl old))⟩
  missing := by
    intro kind member
    rcases List.mem_append.mp member with old | new
    · exact first.missing kind old
    · exact Bool.eq_false_iff.mpr fun live =>
        second.not_mem ((first.isRegistered_iff kind).mpr (.inr live)) new
  descriptor?_eq := by
    intro kind
    rw [second.descriptor?_eq, first.descriptor?_eq]
    by_cases new : kind ∈ others <;> by_cases old : kind ∈ kinds <;> simp [new, old]
  keepsLog_eq := second.keepsLog_eq.trans first.keepsLog_eq

theorem fills_insert (missing : registry.isRegistered kind = false) :
    registry.Fills [kind] (registry.insert kind ⟨kind⟩) where
  nodup := List.nodup_singleton kind
  missing := List.forall_mem_singleton.mpr missing
  descriptor?_eq := by
    intro other
    unfold insert
    by_cases same : other = kind <;> simp [same]
  keepsLog_eq := rfl

theorem fills_of_register {descriptor : Descriptor}
    (registered : registry.register kind descriptor = .ok (filled, kinds)) :
    registry.Fills kinds filled := by
  obtain ⟨-, missing, rfl, rfl⟩ := register_eq_ok registered
  exact fills_insert missing

/-! ### Filling a table with what is missing -/

theorem fills_registerMissing (registry : Registry) (kinds : List Kind) :
    registry.Fills (registry.registerMissing kinds).2 (registry.registerMissing kinds).1 := by
  induction kinds generalizing registry with
  | nil => exact .refl registry
  | cons kind rest inductionHypothesis =>
    unfold registerMissing
    split
    · exact inductionHypothesis registry
    · rename_i missing
      exact (fills_insert (Bool.eq_false_iff.mpr missing)).trans (inductionHypothesis _)

/-- The kinds that are missing are registered in their order. -/
theorem sublist_registerMissing (registry : Registry) (kinds : List Kind) :
    (registry.registerMissing kinds).2.Sublist kinds := by
  induction kinds generalizing registry with
  | nil => exact List.Sublist.refl []
  | cons kind rest inductionHypothesis =>
    unfold registerMissing
    split
    · exact (inductionHypothesis registry).cons kind
    · exact (inductionHypothesis _).cons_cons kind

theorem isRegistered_registerMissing (registry : Registry) (member : kind ∈ kinds) :
    (registry.registerMissing kinds).1.isRegistered kind = true := by
  induction kinds generalizing registry with
  | nil => cases member
  | cons other rest inductionHypothesis =>
    unfold registerMissing
    rcases List.mem_cons.mp member with rfl | inRest
    · split
      · rename_i live
        exact ((fills_registerMissing registry rest).isRegistered_iff kind).mpr (.inr live)
      · rename_i missing
        have live := ((fills_insert (Bool.eq_false_iff.mpr missing)).isRegistered_iff kind).mpr
          (.inl List.mem_cons_self)
        exact ((fills_registerMissing _ rest).isRegistered_iff kind).mpr (.inr live)
    · split
      · exact inductionHypothesis registry inRest
      · exact inductionHypothesis _ inRest

theorem fills_registerAll (registry : Registry) :
    registry.Fills registry.registerAll.2 registry.registerAll.1 :=
  fills_registerMissing registry Kind.all

theorem isRegistered_registerAll (registry : Registry) (kind : Kind) :
    registry.registerAll.1.isRegistered kind = true :=
  isRegistered_registerMissing registry (Kind.mem_all kind)

theorem mem_registerAll_iff (registry : Registry) (kind : Kind) :
    kind ∈ registry.registerAll.2 ↔ registry.isRegistered kind = false := by
  have fills := fills_registerAll registry
  refine ⟨fills.missing kind, fun missing => ?_⟩
  rcases (fills.isRegistered_iff kind).mp (isRegistered_registerAll registry kind) with new | old
  · exact new
  · rw [missing] at old
    cases old

theorem registerMissing_of_isRegistered
    (live : ∀ kind ∈ kinds, registry.isRegistered kind = true) :
    registry.registerMissing kinds = (registry, []) := by
  induction kinds with
  | nil => rfl
  | cons kind rest inductionHypothesis =>
    obtain ⟨liveFirst, liveRest⟩ := List.forall_mem_cons.mp live
    unfold registerMissing
    rw [if_pos liveFirst]
    exact inductionHypothesis liveRest

end

/-! ### Refused registrations -/

/-- A registration is refused for a descriptor of another kind, and otherwise for a kind that is
live already. -/
theorem register_eq_error_iff {registry : Registry} {kind : Kind} {descriptor : Descriptor}
    {fault : Fault} :
    registry.register kind descriptor = .error fault ↔
      descriptor.kind ≠ kind ∧ fault = .foreignDescriptor descriptor.kind kind ∨
      descriptor.kind = kind ∧ registry.isRegistered kind = true ∧
        fault = .registeredTwice kind := by
  unfold register
  by_cases own : descriptor.kind = kind
  · rw [if_neg (not_not_intro own)]
    cases live : registry.isRegistered kind with
    | false => simp [own]
    | true =>
      rw [if_pos rfl, Except.error.injEq]
      exact ⟨fun same => .inr ⟨own, rfl, same.symm⟩, fun refused =>
        ((refused.resolve_left fun foreign => foreign.1 own).2.2).symm⟩
  · rw [if_pos own, Except.error.injEq]
    exact ⟨fun same => .inl ⟨own, same.symm⟩, fun refused =>
      ((refused.resolve_right fun twice => own twice.1).2).symm⟩

theorem exists_register_eq_error_iff {registry : Registry} {kind : Kind}
    {descriptor : Descriptor} :
    (∃ fault, registry.register kind descriptor = .error fault) ↔
      descriptor.kind ≠ kind ∨ registry.isRegistered kind = true := by
  constructor
  · rintro ⟨fault, refused⟩
    rcases register_eq_error_iff.mp refused with ⟨foreign, -⟩ | ⟨-, live, -⟩
    · exact .inl foreign
    · exact .inr live
  · intro refused
    by_cases own : descriptor.kind = kind
    · have live := refused.resolve_left (not_not_intro own)
      exact ⟨_, register_eq_error_iff.mpr (.inr ⟨own, live, rfl⟩)⟩
    · exact ⟨_, register_eq_error_iff.mpr (.inl ⟨own, rfl⟩)⟩

/-! ### The list of the live kinds -/

theorem mem_descriptors_iff {registry : Registry} {descriptor : Descriptor} :
    descriptor ∈ registry.descriptors ↔ ∃ kind, registry.descriptor? kind = some descriptor := by
  unfold descriptors
  rw [List.mem_filterMap]
  exact exists_congr fun kind => and_iff_right (Kind.mem_all kind)

/-- The descriptors stand in the order of their kinds, so that none stands there twice. -/
theorem IsProper.pairwise_descriptors {registry : Registry} (proper : registry.IsProper) :
    registry.descriptors.Pairwise fun first second => first.kind.index < second.kind.index := by
  unfold descriptors
  rw [List.pairwise_filterMap]
  refine Kind.pairwise_index_all.imp fun {first second} before => ?_
  intro firstDescriptor foundFirst secondDescriptor foundSecond
  rw [proper first firstDescriptor foundFirst, proper second secondDescriptor foundSecond]
  exact before

/-! ### Announcements -/

theorem announcement_injective : Function.Injective announcement := by
  intro first second same
  simp only [announcement, LogRecord.mk.injEq, List.cons.injEq, Prod.mk.injEq,
    Json.integer.injEq, Int.natCast_inj] at same
  exact Kind.index_injective same.2.1.2

theorem announce_nil (registry : Registry) : registry.announce [] = [] := by
  unfold announce
  split <;> rfl

theorem announce_append {registry filled : Registry} {kinds others : List Kind}
    (same : filled.keepsLog = registry.keepsLog) :
    registry.announce (kinds ++ others) = registry.announce kinds ++ filled.announce others := by
  unfold announce
  rw [same]
  cases registry.keepsLog <;> simp

end Registry

end PacketFilter
