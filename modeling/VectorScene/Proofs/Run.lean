import Mathlib.Data.List.Forall2
import VectorScene.Run

/-!
# Successes and failures

What a sequence of operations says about its parts when it has a result, and when
it has none.  Runs carry their warnings along.
-/

namespace VectorScene

section Outcomes

variable {ε α β : Type}

theorem ok_bind (value : α) (next : α → Except ε β) :
    (Except.ok value >>= next) = next value := rfl

@[simp] theorem bind_eq_ok {first : Except ε α} {next : α → Except ε β} {result : β} :
    first >>= next = .ok result ↔ ∃ value, first = .ok value ∧ next value = .ok result := by
  cases first <;> simp [bind, Except.bind]

@[simp] theorem exceptBind_eq_ok {first : Except ε α} {next : α → Except ε β} {result : β} :
    first.bind next = .ok result ↔ ∃ value, first = .ok value ∧ next value = .ok result :=
  bind_eq_ok

@[simp] theorem map_eq_ok {first : Except ε α} {convert : α → β} {result : β} :
    first.map convert = .ok result ↔ ∃ value, first = .ok value ∧ convert value = result := by
  cases first <;> simp [Except.map]

@[simp] theorem pure_eq_ok {value result : α} :
    (pure value : Except ε α) = .ok result ↔ value = result := by
  simp [pure, Except.pure]

/-- Two operations in sequence fail with the first one or, after its success, with the second. -/
theorem bind_eq_error {first : Except ε α} {next : α → Except ε β} {fault : ε} :
    first >>= next = .error fault ↔
      first = .error fault ∨ ∃ value, first = .ok value ∧ next value = .error fault := by
  cases first <;> simp [bind, Except.bind]

theorem exists_of_isOk {outcome : Except ε α} (succeeds : outcome.isOk = true) :
    ∃ result, outcome = .ok result := by
  cases outcome with
  | error fault => cases succeeds
  | ok result => exact ⟨result, rfl⟩

theorem pure_ne_error {value : α} {fault : ε} : (pure value : Except ε α) ≠ .error fault := by
  rintro ⟨⟩

/-- A list is converted if and only if each of its members is. -/
theorem mapM_eq_ok {convert : α → Except ε β} {values : List α} {results : List β} :
    values.mapM convert = .ok results ↔
      List.Forall₂ (fun value result => convert value = .ok result) values results := by
  induction values generalizing results with
  | nil =>
      rw [List.mapM_nil, pure_eq_ok, List.forall₂_nil_left_iff]
      exact eq_comm
  | cons value rest ih =>
      rw [List.mapM_cons, bind_eq_ok, List.forall₂_cons_left_iff]
      constructor
      · rintro ⟨result, head, tail⟩
        rw [bind_eq_ok] at tail
        obtain ⟨others, converted, same⟩ := tail
        exact ⟨result, others, head, ih.1 converted, (pure_eq_ok.1 same).symm⟩
      · rintro ⟨result, others, head, tail, rfl⟩
        refine ⟨result, head, ?_⟩
        rw [bind_eq_ok]
        exact ⟨others, ih.2 tail, rfl⟩

/-- A list is converted when each of its members can be. -/
theorem exists_mapM_eq_ok {convert : α → Except ε β} {values : List α}
    (all : ∀ value ∈ values, ∃ result, convert value = .ok result) :
    ∃ results, values.mapM convert = .ok results := by
  induction values with
  | nil => exact ⟨[], rfl⟩
  | cons value rest ih =>
      rw [List.forall_mem_cons] at all
      obtain ⟨result, head⟩ := all.1
      obtain ⟨results, tail⟩ := ih all.2
      refine ⟨result :: results, ?_⟩
      rw [mapM_eq_ok] at tail ⊢
      exact .cons head tail

/-- A list is not converted when one of its members is not, and the fault is the
only one there is. -/
theorem mapM_eq_error {convert : α → Except ε β} {values : List α} {fault : ε}
    (only : ∀ value ∈ values, ∀ other, convert value = .error other → other = fault)
    (fails : ∃ value ∈ values, convert value = .error fault) :
    values.mapM convert = .error fault := by
  induction values with
  | nil =>
      obtain ⟨value, member, -⟩ := fails
      cases member
  | cons value rest ih =>
      rw [List.forall_mem_cons] at only
      rw [List.mapM_cons]
      cases head : convert value with
      | error other =>
          rw [only.1 other head]
          rfl
      | ok result =>
          obtain ⟨failing, member, failed⟩ := fails
          rcases List.mem_cons.1 member with rfl | later
          · rw [head] at failed
            cases failed
          · rw [ih only.2 ⟨failing, later, failed⟩]
            rfl

/-- A list that is not converted has a member with the fault. -/
theorem exists_of_mapM_eq_error {convert : α → Except ε β} {values : List α} {fault : ε}
    (failed : values.mapM convert = .error fault) :
    ∃ value ∈ values, convert value = .error fault := by
  induction values with
  | nil => cases failed
  | cons value rest ih =>
      rw [List.mapM_cons] at failed
      rcases bind_eq_error.1 failed with here | ⟨result, -, later⟩
      · exact ⟨value, List.mem_cons_self, here⟩
      · rcases bind_eq_error.1 later with tail | ⟨results, -, impossible⟩
        · obtain ⟨other, member, fails⟩ := ih tail
          exact ⟨other, List.mem_cons_of_mem _ member, fails⟩
        · exact absurd impossible pure_ne_error

/-- Related lists agree on what related members agree on. -/
theorem forall_iff {related : α → β → Prop} {values : List α} {results : List β}
    (all : List.Forall₂ related values results) {before : α → Prop} {after : β → Prop}
    (agree : ∀ value result, related value result → (before value ↔ after result)) :
    (∀ value ∈ values, before value) ↔ ∀ result ∈ results, after result := by
  induction all with
  | nil => exact iff_of_true (List.forall_mem_nil _) (List.forall_mem_nil _)
  | cons head _ ih => rw [List.forall_mem_cons, List.forall_mem_cons, agree _ _ head, ih]

/-- What follows from a relation holds of all members of the second list. -/
theorem forall_right {related : α → β → Prop} {values : List α} {results : List β}
    (all : List.Forall₂ related values results) {known : β → Prop}
    (follows : ∀ value result, related value result → known result) :
    ∀ result ∈ results, known result := by
  induction all with
  | nil => exact List.forall_mem_nil _
  | cons head _ ih => exact List.forall_mem_cons.2 ⟨follows _ _ head, ih⟩

theorem forall_left {related : α → β → Prop} {values : List α} {results : List β}
    (all : List.Forall₂ related values results) {known : α → Prop}
    (follows : ∀ value result, related value result → known value) :
    ∀ value ∈ values, known value :=
  forall_right all.flip fun result value => follows value result

/-- Two lists related through a conversion are related to one list that is converted. -/
theorem forall₂_map_eq {γ : Type} {related : α → β → Prop} {convert : β → γ}
    {values : List α} {results : List γ} :
    List.Forall₂ (fun value result => ∃ middle, related value middle ∧ convert middle = result)
        values results ↔
      ∃ middles, List.Forall₂ related values middles ∧ middles.map convert = results := by
  constructor
  · intro all
    induction all with
    | nil => exact ⟨[], .nil, rfl⟩
    | cons head _ ih =>
        obtain ⟨middle, matched, rfl⟩ := head
        obtain ⟨middles, others, rfl⟩ := ih
        exact ⟨middle :: middles, .cons matched others, rfl⟩
  · rintro ⟨middles, all, rfl⟩
    rw [List.forall₂_map_right_iff]
    exact all.imp fun _ middle matched => ⟨middle, matched, rfl⟩

/-- Lists that are related through a third one are related by what follows for their members. -/
theorem forall₂_trans {γ : Type} {first : α → β → Prop} {second : β → γ → Prop}
    {related : α → γ → Prop} {values : List α} {middles : List β} {results : List γ}
    (all : List.Forall₂ first values middles) (further : List.Forall₂ second middles results)
    (follows : ∀ value ∈ values, ∀ middle result, first value middle → second middle result →
      related value result) : List.Forall₂ related values results := by
  induction all generalizing results with
  | nil =>
      cases further
      exact .nil
  | cons head _ ih =>
      cases further with
      | cons next later =>
          rw [List.forall_mem_cons] at follows
          exact .cons (follows.1 _ _ head next) (ih later follows.2)

/-- A member of one of two related lists is related to a member of the other. -/
theorem exists_left {related : α → β → Prop} {values : List α} {results : List β}
    (all : List.Forall₂ related values results) {result : β} (member : result ∈ results) :
    ∃ value ∈ values, related value result := by
  induction all with
  | nil => cases member
  | cons head _ ih =>
      rcases List.mem_cons.1 member with rfl | later
      · exact ⟨_, List.mem_cons_self, head⟩
      · obtain ⟨value, inside, matched⟩ := ih later
        exact ⟨value, List.mem_cons_of_mem _ inside, matched⟩

theorem exists_right {related : α → β → Prop} {values : List α} {results : List β}
    (all : List.Forall₂ related values results) {value : α} (member : value ∈ values) :
    ∃ result ∈ results, related value result :=
  exists_left all.flip member

end Outcomes

/-! ## Runs -/

deriving instance DecidableEq for Run

namespace Run

variable {α β : Type}

@[simp] theorem pure_eq (result : α) : (pure result : Run α) = ⟨[], .ok result⟩ := rfl

@[simp] theorem ofExcept_ok_bind (result : α) (next : α → Run β) :
    Run.ofExcept (.ok result) >>= next = next result := rfl

@[simp] theorem ofExcept_error_bind (fault : Fault) (next : α → Run β) :
    Run.ofExcept (.error fault) >>= next = ⟨[], .error fault⟩ := rfl

@[simp] theorem warn_bind (warning : Warning) (next : Unit → Run β) :
    Run.warn warning >>= next = ⟨warning :: (next ()).warnings, (next ()).outcome⟩ := rfl

@[simp] theorem mk_ok_bind (warnings : List Warning) (result : α) (next : α → Run β) :
    (Run.mk warnings (.ok result) >>= next) =
      ⟨warnings ++ (next result).warnings, (next result).outcome⟩ := rfl

@[simp] theorem outcome_ofExcept (outcome : Except Fault α) :
    (Run.ofExcept outcome).outcome = outcome := rfl

instance : LawfulMonad Run := by
  refine LawfulMonad.mk' Run ?_ (fun _ _ => rfl) ?_
  · rintro α ⟨warnings, outcome⟩
    cases outcome with
    | ok result => exact congrArg (Run.mk · (.ok result)) (List.append_nil warnings)
    | error fault => rfl
  · rintro α β γ ⟨warnings, outcome⟩ first second
    cases outcome with
    | error fault => rfl
    | ok result =>
        change (Run.bind _ first).bind second = Run.bind _ fun value => (first value).bind second
        simp only [Run.bind]
        cases (first result).outcome with
        | ok next => simp only [List.append_assoc]
        | error fault => rfl

/-- Converting the result of a run leaves its warnings. -/
theorem bind_pure (run : Run α) (convert : α → β) :
    (run >>= fun result => pure (convert result)) = ⟨run.warnings, run.outcome.map convert⟩ := by
  obtain ⟨warnings, outcome⟩ := run
  cases outcome with
  | ok result => rw [mk_ok_bind, pure_eq, List.append_nil]; rfl
  | error fault => rfl

/-- A run of two parts succeeds when both do, and has the warnings of both. -/
theorem bind_eq_ok {run : Run α} {next : α → Run β} {warnings : List Warning} {result : β} :
    run >>= next = ⟨warnings, .ok result⟩ ↔
      ∃ first value second, run = ⟨first, .ok value⟩ ∧ next value = ⟨second, .ok result⟩ ∧
        warnings = first ++ second := by
  obtain ⟨before, outcome⟩ := run
  cases outcome with
  | error fault =>
      constructor
      · nofun
      · rintro ⟨first, value, second, same, -⟩
        cases same
  | ok value =>
      rw [mk_ok_bind]
      constructor
      · intro same
        obtain ⟨rfl, ended⟩ := Run.mk.inj same
        exact ⟨before, value, (next value).warnings, rfl, congrArg (Run.mk _) ended, rfl⟩
      · rintro ⟨first, value, second, same, follows, rfl⟩
        cases same
        rw [follows]

/-- A run of two parts fails with the first one or, after its success, with the second. -/
theorem bind_eq_error {run : Run α} {next : α → Run β} {warnings : List Warning} {fault : Fault} :
    run >>= next = ⟨warnings, .error fault⟩ ↔
      run = ⟨warnings, .error fault⟩ ∨
      ∃ first value second, run = ⟨first, .ok value⟩ ∧ next value = ⟨second, .error fault⟩ ∧
        warnings = first ++ second := by
  obtain ⟨before, outcome⟩ := run
  cases outcome with
  | error other =>
      constructor
      · rintro ⟨⟩
        exact .inl rfl
      · rintro (same | ⟨first, value, second, same, -⟩)
        · cases same
          rfl
        · cases same
  | ok value =>
      rw [mk_ok_bind]
      constructor
      · intro same
        obtain ⟨rfl, ended⟩ := Run.mk.inj same
        exact .inr ⟨before, value, (next value).warnings, rfl, congrArg (Run.mk _) ended, rfl⟩
      · rintro (same | ⟨first, value, second, same, follows, rfl⟩)
        · cases same
        · cases same
          rw [follows]

theorem mk_nil_eq_ok {related : β → α → Prop} {warnings others : List Warning}
    {results : List α} :
    (Run.mk warnings (.ok [])) = ⟨others, .ok results⟩ ↔
      others = warnings ∧ List.Forall₂ related [] results := by
  rw [List.forall₂_nil_left_iff]
  constructor
  · rintro ⟨⟩
    exact ⟨rfl, rfl⟩
  · rintro ⟨rfl, rfl⟩
    rfl

theorem ofExcept_eq_ok {outcome : Except Fault α} {warnings : List Warning} {result : α} :
    ofExcept outcome = ⟨warnings, .ok result⟩ ↔ outcome = .ok result ∧ warnings = [] := by
  rw [ofExcept, Run.mk.injEq, and_comm, eq_comm (a := [])]

theorem ofExcept_eq_error {outcome : Except Fault α} {warnings : List Warning} {fault : Fault} :
    ofExcept outcome = ⟨warnings, .error fault⟩ ↔ outcome = .error fault ∧ warnings = [] := by
  rw [ofExcept, Run.mk.injEq, and_comm, eq_comm (a := [])]

/-- The outcome of a run does not depend on warnings. -/
@[simp] theorem outcome_bind (first : Run α) (next : α → Run β) :
    (first >>= next).outcome = first.outcome >>= fun result => (next result).outcome := by
  change (Run.bind first next).outcome = _
  rw [Run.bind]
  cases first.outcome <;> rfl

end Run

end VectorScene
