/-
This file takes computations that may fail apart: what is known of a computation whose outcome is
known, when it is put together from others that are done one after the other or from one that is
repeated along a list.
-/

namespace PacketFilter

section

variable {Cause Other First Second : Type} {outcome : Except Cause First}

/-! ### One after the other -/

theorem map_eq_ok {change : First → Second} {result : Second} :
    outcome.map change = .ok result ↔ ∃ first, outcome = .ok first ∧ change first = result := by
  cases outcome <;> simp [Except.map]

theorem map_eq_error {change : First → Second} {cause : Cause} :
    outcome.map change = .error cause ↔ outcome = .error cause := by
  cases outcome <;> simp [Except.map]

theorem mapError_eq_ok {change : Cause → Other} {result : First} :
    outcome.mapError change = .ok result ↔ outcome = .ok result := by
  cases outcome with
  | error cause => exact ⟨nofun, nofun⟩
  | ok first => exact ⟨fun same => congrArg _ (Except.ok.inj same),
      fun same => congrArg _ (Except.ok.inj same)⟩

theorem mapError_eq_error {change : Cause → Other} {cause : Other} :
    outcome.mapError change = .error cause ↔
      ∃ before, outcome = .error before ∧ change before = cause := by
  constructor
  · intro failed
    cases outcome with
    | error before => exact ⟨before, rfl, Except.error.inj failed⟩
    | ok first => cases failed
  · rintro ⟨before, rfl, rfl⟩
    rfl

theorem bind_eq_ok {next : First → Except Cause Second} {result : Second} :
    outcome.bind next = .ok result ↔ ∃ first, outcome = .ok first ∧ next first = .ok result := by
  cases outcome <;> simp [Except.bind]

theorem bind_eq_error {next : First → Except Cause Second} {cause : Cause} :
    outcome.bind next = .error cause ↔
      outcome = .error cause ∨ ∃ first, outcome = .ok first ∧ next first = .error cause := by
  cases outcome <;> simp [Except.bind]

end

/-! ### Along a list -/

/-- A list is read member by member. -/
theorem mapM_cons_eq_some {Member Result : Type} {read : Member → Option Result} {member : Member}
    {rest : List Member} {results : List Result} :
    (member :: rest).mapM read = some results ↔
      ∃ first others, read member = some first ∧ rest.mapM read = some others ∧
        first :: others = results := by
  cases first : read member with
  | none => simp [List.mapM_cons, first]
  | some result => cases others : rest.mapM read <;> simp [List.mapM_cons, first, others]

section

variable {Member Cause : Type} {test : Member → Except Cause Bool} {members : List Member}

/-- The first member of a list decides a search, or leaves it to the others. -/
theorem anyM_cons {member : Member} {rest : List Member} :
    (member :: rest).anyM test =
      (test member).bind fun holds => if holds then .ok true else rest.anyM test := by
  rw [List.anyM]
  refine congrArg (Except.bind (test member)) (funext fun holds => ?_)
  cases holds <;> rfl

/-- A search that comes out at every member comes out. -/
theorem exists_anyM_eq_ok (defined : ∀ member ∈ members, ∃ holds, test member = .ok holds) :
    ∃ found, members.anyM test = .ok found := by
  induction members with
  | nil => exact ⟨false, rfl⟩
  | cons member rest inductionHypothesis =>
    obtain ⟨holds, first⟩ := defined member List.mem_cons_self
    obtain ⟨found, others⟩ :=
      inductionHypothesis fun other inRest => defined other (List.mem_cons_of_mem _ inRest)
    rw [anyM_cons, first]
    cases holds with
    | true => exact ⟨true, rfl⟩
    | false => exact ⟨found, others⟩

/-- A search comes out positive only if it does so at some member. -/
theorem exists_mem_of_anyM (found : members.anyM test = .ok true) :
    ∃ member ∈ members, test member = .ok true := by
  induction members with
  | nil => cases found
  | cons member rest inductionHypothesis =>
    rw [anyM_cons] at found
    obtain ⟨holds, first, others⟩ := bind_eq_ok.mp found
    cases holds with
    | true => exact ⟨member, List.mem_cons_self, first⟩
    | false =>
      obtain ⟨other, inRest, holdsThere⟩ := inductionHypothesis others
      exact ⟨other, List.mem_cons_of_mem _ inRest, holdsThere⟩

/-- A search comes out negative only if it does so at every member. -/
theorem forall_mem_of_anyM (found : members.anyM test = .ok false) :
    ∀ member ∈ members, test member = .ok false := by
  induction members with
  | nil => exact nofun
  | cons member rest inductionHypothesis =>
    rw [anyM_cons] at found
    obtain ⟨holds, first, others⟩ := bind_eq_ok.mp found
    cases holds with
    | true => cases others
    | false => exact List.forall_mem_cons.mpr ⟨first, inductionHypothesis others⟩

/-- A search fails only if it does so at some member. -/
theorem exists_mem_of_anyM_eq_error {cause : Cause} (failed : members.anyM test = .error cause) :
    ∃ member ∈ members, test member = .error cause := by
  induction members with
  | nil => cases failed
  | cons member rest inductionHypothesis =>
    rw [anyM_cons] at failed
    rcases bind_eq_error.mp failed with first | ⟨holds, first, others⟩
    · exact ⟨member, List.mem_cons_self, first⟩
    · cases holds with
      | true => cases others
      | false =>
        obtain ⟨other, inRest, failsThere⟩ := inductionHypothesis others
        exact ⟨other, List.mem_cons_of_mem _ inRest, failsThere⟩

end

end PacketFilter
