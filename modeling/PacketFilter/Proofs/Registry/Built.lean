/-
This file describes the tables that registering kinds can fill, and proves what all of them have
in common: whatever stands in the place of a kind is the descriptor of that kind.
-/

import PacketFilter.Registry

namespace PacketFilter.Registry

/-- A table that was empty once and has only been filled by registering kinds. -/
inductive Built : Registry → Prop
  | empty (settings : Settings) (keepsLog : Bool) : (Registry.empty settings keepsLog).Built
  | register {registry filled : Registry} {kind : Kind} {descriptor : Descriptor}
      {kinds : List Kind} (before : registry.Built)
      (registered : registry.register kind descriptor = .ok (filled, kinds)) : filled.Built
  | registerAll {registry : Registry} (before : registry.Built) : registry.registerAll.1.Built

/-- Every kind in the table has its own descriptor. -/
def IsProper (registry : Registry) : Prop :=
  ∀ kind descriptor, registry.descriptor? kind = some descriptor → descriptor = ⟨kind⟩

theorem isProper_insert {registry : Registry} (proper : registry.IsProper) (kind : Kind) :
    (registry.insert kind ⟨kind⟩).IsProper := by
  intro other descriptor found
  simp only [insert] at found
  by_cases same : other = kind
  · rw [if_pos same] at found
    rw [same]
    exact (Option.some.inj found).symm
  · rw [if_neg same] at found
    exact proper other descriptor found

theorem isProper_registerMissing {registry : Registry} (proper : registry.IsProper)
    (kinds : List Kind) : (registry.registerMissing kinds).1.IsProper := by
  induction kinds generalizing registry with
  | nil => exact proper
  | cons kind rest inductionHypothesis =>
    unfold registerMissing
    split
    · exact inductionHypothesis proper
    · exact inductionHypothesis (isProper_insert proper kind)

/-- Registering a kind either fails or fills the place of the kind with its own descriptor. -/
theorem register_eq_ok {registry filled : Registry} {kind : Kind} {descriptor : Descriptor}
    {kinds : List Kind} (registered : registry.register kind descriptor = .ok (filled, kinds)) :
    descriptor = ⟨kind⟩ ∧ registry.isRegistered kind = false ∧
      filled = registry.insert kind ⟨kind⟩ ∧ kinds = [kind] := by
  unfold register at registered
  obtain ⟨described⟩ := descriptor
  by_cases own : described = kind
  · subst own
    rw [if_neg (not_not_intro rfl)] at registered
    cases live : registry.isRegistered described with
    | true => rw [live] at registered; cases registered
    | false =>
      rw [live] at registered
      cases registered
      exact ⟨rfl, rfl, rfl, rfl⟩
  · rw [if_pos own] at registered
    cases registered

theorem Built.isProper {registry : Registry} (built : registry.Built) : registry.IsProper := by
  induction built with
  | empty settings keepsLog => intro kind descriptor found; cases found
  | register before registered inductionHypothesis =>
    obtain ⟨-, -, rfl, -⟩ := register_eq_ok registered
    exact isProper_insert inductionHypothesis _
  | registerAll before inductionHypothesis =>
    exact isProper_registerMissing inductionHypothesis _

/-- Looking up a live kind gives its own descriptor. -/
theorem Built.lookup_eq_ok {registry : Registry} (built : registry.Built) {kind : Kind}
    {descriptor : Descriptor} (found : registry.lookup kind = .ok descriptor) :
    descriptor = ⟨kind⟩ := by
  unfold lookup at found
  split at found
  · rename_i stored present
    obtain rfl := Except.ok.inj found
    exact built.isProper kind stored present
  · cases found

theorem Built.lookup_of_isRegistered {registry : Registry} (built : registry.Built)
    {kind : Kind} (live : registry.isRegistered kind = true) :
    registry.lookup kind = .ok ⟨kind⟩ := by
  obtain ⟨descriptor, found⟩ := Option.isSome_iff_exists.mp live
  unfold lookup
  rw [found, built.isProper kind descriptor found]

end PacketFilter.Registry
