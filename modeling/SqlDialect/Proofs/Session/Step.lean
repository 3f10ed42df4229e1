import SqlDialect.Proofs.Except
import SqlDialect.Session.Basic

/-! Steps on a connection, put together: each goes on from the state that the one before it has
left, until one fails. -/

set_option autoImplicit false

namespace SqlDialect.Step

variable {σ α β : Type}

theorem outcome_get (s : σ) : (get : Step σ σ).outcome s = (.ok s, s) := rfl

theorem outcome_set (t s : σ) : (set t : Step σ PUnit).outcome s = (.ok ⟨⟩, t) := rfl

theorem outcome_bind (step : Step σ α) (next : α → Step σ β) (s : σ) :
    (step >>= next).outcome s =
      match step.outcome s with
      | (.ok a, t) => (next a).outcome t
      | (.error failure, t) => (.error failure, t) := by
  change ExceptT.bindCont next (step.outcome s).1 (step.outcome s).2 = _
  rcases step.outcome s with ⟨_ | a, t⟩ <;> rfl

theorem outcome_get_bind (next : σ → Step σ β) (s : σ) :
    (get >>= next).outcome s = (next s).outcome s := rfl

theorem outcome_ofExcept (e : Except Fault α) (s : σ) :
    (ofExcept e : Step σ α).outcome s = (e.mapError .fault, s) := by
  cases e <;> rfl

theorem outcome_ofAnswer (answer : σ → Except Fault α × σ) (s : σ) :
    (ofAnswer answer).outcome s = ((answer s).1.mapError .fault, (answer s).2) := by
  unfold ofAnswer
  rw [outcome_bind, outcome_get]
  simp only [outcome_bind, outcome_set, outcome_ofExcept]

theorem outcome_ofAnswer_eq_ok {answer : σ → Except Fault α × σ} {a : α} {s t : σ} :
    (ofAnswer answer).outcome s = (.ok a, t) ↔ answer s = (.ok a, t) := by
  rw [outcome_ofAnswer, Prod.mk.injEq, mapError_eq_ok, Prod.ext_iff]

theorem exists_of_outcome_ofAnswer_eq_error {answer : σ → Except Fault α × σ} {failure : Failure}
    {s t : σ} (ran : (ofAnswer answer).outcome s = (.error failure, t)) :
    ∃ fault, answer s = (.error fault, t) := by
  rw [outcome_ofAnswer] at ran
  rcases answered : answer s with ⟨fault | a, u⟩ <;> rw [answered] at ran <;> cases ran
  exact ⟨fault, rfl⟩

/-- From a state with the first property, a step that succeeds leads to one with the second, and a
step that fails to one with the third. -/
def Ensures (before : σ → Prop) (step : Step σ α) (after failed : σ → Prop) : Prop :=
  ∀ s, before s →
    match step.outcome s with
    | (.ok _, t) => after t
    | (.error _, t) => failed t

variable {before between after failed : σ → Prop}

theorem Ensures.weaken {after' failed' : σ → Prop} {step : Step σ α}
    (ensures : Ensures before step after failed) (succeeded : ∀ t, after t → after' t)
    (refused : ∀ t, failed t → failed' t) : Ensures before step after' failed' := by
  intro s start
  have reached := ensures s start
  rcases ran : step.outcome s with ⟨failure | a, t⟩ <;> rw [ran] at reached
  · exact refused t reached
  · exact succeeded t reached

theorem Ensures.reaches {step : Step σ α} {s : σ} (ensures : Ensures before step after failed)
    (weaker : ∀ t, after t → failed t) (start : before s) : failed (step.outcome s).2 := by
  have reached := ensures s start
  rcases ran : step.outcome s with ⟨failure | a, t⟩ <;> rw [ran] at reached
  · exact reached
  · exact weaker t reached

theorem Ensures.bind_of_outcome {step : Step σ α} {next : α → Step σ β}
    (first : Ensures before step between failed)
    (second : ∀ a, (∃ s t, step.outcome s = (.ok a, t)) → Ensures between (next a) after failed) :
    Ensures before (step >>= next) after failed := by
  intro s start
  have reached := first s start
  rw [outcome_bind]
  rcases ran : step.outcome s with ⟨failure | a, t⟩ <;> rw [ran] at reached
  · exact reached
  · exact second a ⟨s, t, ran⟩ t reached

theorem Ensures.bind {step : Step σ α} {next : α → Step σ β}
    (first : Ensures before step between failed)
    (second : ∀ a, Ensures between (next a) after failed) :
    Ensures before (step >>= next) after failed :=
  first.bind_of_outcome fun a _ => second a

theorem ensures_pure (a : α) : Ensures before (pure a) before failed := fun _ start => start

theorem ensures_ofExcept (e : Except Fault α) (weaker : ∀ s, before s → failed s) :
    Ensures before (ofExcept e) before failed := by
  intro s start
  cases e with
  | ok a => exact start
  | error fault => exact weaker s start

theorem ensures_ofOption (o : Option α) (weaker : ∀ s, before s → failed s) :
    Ensures before (ofOption o) before failed := by
  intro s start
  cases o with
  | some a => exact start
  | none => exact weaker s start

theorem ensures_mapM {step : α → Step σ β} (each : ∀ a, Ensures before (step a) before failed)
    (items : List α) : Ensures before (items.mapM step) before failed := by
  induction items with
  | nil => exact ensures_pure []
  | cons a items ih =>
    rw [List.mapM_cons]
    exact (each a).bind fun _ => ih.bind fun _ => ensures_pure _

end SqlDialect.Step
