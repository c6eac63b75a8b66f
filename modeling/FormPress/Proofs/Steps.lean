/-
  FormPress.Proofs.Steps

  Steps that move a state on and may fail.  Making a document, printing it and
  running a job are all steps of this kind over different states, so the
  equations here open each of them: a failure skips what follows it and keeps
  the state that it left behind.  A step over a state with more in it may do
  all that another one does (`Follows`), and a step may come out alike in all
  states that are alike to it (`Respects`).
-/
import FormPress.Failure

namespace FormPress

section

variable {τ α β : Type}

/-- A step after another one is taken in the state that the first one left, unless that failed. -/
theorem bind_apply (x : ExceptT Failure (StateM τ) α) (f : α → ExceptT Failure (StateM τ) β)
    (t : τ) :
    (x >>= f) t = match x t with
      | (.ok a, t') => f a t'
      | (.error e, t') => (.error e, t') := by
  simp only [bind, ExceptT.bind, ExceptT.mk, StateT.bind, ExceptT.bindCont]
  rcases x t with ⟨_ | _, _⟩ <;> rfl

/-- Both of two steps in a row that succeed have succeeded. -/
theorem bind_ok {x : ExceptT Failure (StateM τ) α} {f : α → ExceptT Failure (StateM τ) β}
    {t t' : τ} {b : β} (h : (x >>= f) t = (.ok b, t')) :
    ∃ a t₁, x t = (.ok a, t₁) ∧ f a t₁ = (.ok b, t') := by
  rw [bind_apply] at h
  -- If the first step had failed, its failure would be the result.
  rcases hx : x t with ⟨e | a, t₁⟩
  · rw [hx] at h
    cases h
  · rw [hx] at h
    exact ⟨a, t₁, rfl, h⟩

/-- What answers a failure starts in the state that the failure left. -/
theorem tryCatch_apply (x : ExceptT Failure (StateM τ) α)
    (answer : Failure → ExceptT Failure (StateM τ) α) (t : τ) :
    (tryCatch x answer) t = match x t with
      | (.ok a, t') => (.ok a, t')
      | (.error e, t') => answer e t' := by
  simp only [tryCatch, tryCatchThe, MonadExceptOf.tryCatch, ExceptT.tryCatch, ExceptT.mk, bind,
    StateT.bind]
  rcases x t with ⟨_ | _, _⟩ <;> rfl

/-- A step that only gives a result leaves the state. -/
theorem pure_apply (a : α) (t : τ) : (pure a : ExceptT Failure (StateM τ) α) t = (.ok a, t) := rfl

/-- A step that fails leaves the state. -/
theorem throw_apply (e : Failure) (t : τ) :
    (throw e : ExceptT Failure (StateM τ) α) t = (.error e, t) := rfl

/-- The state is looked at without moving it on. -/
theorem get_apply (t : τ) : (get : ExceptT Failure (StateM τ) τ) t = (.ok t, t) := rfl

/-- A result that needs no state is found without moving it on. -/
theorem lift_apply (x : Except Failure α) (t : τ) :
    (liftM x : ExceptT Failure (StateM τ) α) t = (x, t) := by
  cases x <;> rfl

end

/-! ## Steps over a state with more in it -/

section

variable {τ υ α β : Type} {view : υ → τ}

/-- In view of a smaller state, the first step comes out as the second and leaves the same. -/
def Follows (view : υ → τ) (x : ExceptT Failure (StateM υ) α) (y : ExceptT Failure (StateM τ) α) :
    Prop :=
  ∀ u, y (view u) = ((x u).1, view (x u).2)

namespace Follows

theorem pure (a : α) : Follows view (Pure.pure a) (Pure.pure a) := fun _ => rfl

theorem throw (e : Failure) :
    Follows view (MonadExcept.throw e : ExceptT Failure (StateM υ) α) (MonadExcept.throw e) :=
  fun _ => rfl

theorem lift (x : Except Failure α) : Follows view (liftM x) (liftM x) := by
  intro u
  rw [lift_apply, lift_apply]

/-- Steps in a row follow each other if each of them does, whatever the results are. -/
theorem bind {x : ExceptT Failure (StateM υ) α} {y : ExceptT Failure (StateM τ) α}
    {f : α → ExceptT Failure (StateM υ) β} {g : α → ExceptT Failure (StateM τ) β}
    (hxy : Follows view x y) (hfg : ∀ a, Follows view (f a) (g a)) :
    Follows view (x >>= f) (y >>= g) := by
  intro u
  rw [bind_apply, bind_apply, hxy u]
  rcases x u with ⟨e | a, u'⟩
  · rfl
  · exact hfg a u'

end Follows

end

/-! ## Steps in states that are alike -/

section

variable {τ α β : Type} {R : τ → τ → Prop}

/-- In two states that are alike, a step comes out the same and leaves states that are alike. -/
def Respects (R : τ → τ → Prop) (x : ExceptT Failure (StateM τ) α) : Prop :=
  ∀ s t, R s t → (x s).1 = (x t).1 ∧ R (x s).2 (x t).2

namespace Respects

theorem pure (a : α) : Respects R (Pure.pure a) := fun _ _ h => ⟨rfl, h⟩

theorem throw (e : Failure) : Respects R (MonadExcept.throw e : ExceptT Failure (StateM τ) α) :=
  fun _ _ h => ⟨rfl, h⟩

theorem lift (x : Except Failure α) : Respects R (liftM x) := by
  intro s t h
  rw [lift_apply, lift_apply]
  exact ⟨rfl, h⟩

/-- Steps in a row come out alike if each of them does. -/
theorem bind {x : ExceptT Failure (StateM τ) α} {f : α → ExceptT Failure (StateM τ) β}
    (hx : Respects R x) (hf : ∀ a, Respects R (f a)) : Respects R (x >>= f) := by
  intro s t h
  obtain ⟨hresult, hstate⟩ := hx s t h
  rw [bind_apply, bind_apply]
  rcases hs : x s with ⟨result, s'⟩
  rcases ht : x t with ⟨result', t'⟩
  rw [hs, ht] at hresult hstate
  -- Both have the same result, so the second step is the same in both states, or in neither.
  obtain rfl : result = result' := hresult
  cases result with
  | error e => exact ⟨rfl, hstate⟩
  | ok a => exact hf a s' t' hstate

/-- A step with an answer to its failure comes out alike if the step and the answer do. -/
theorem tryCatch {x : ExceptT Failure (StateM τ) α}
    {answer : Failure → ExceptT Failure (StateM τ) α} (hx : Respects R x)
    (hanswer : ∀ e, Respects R (answer e)) : Respects R (tryCatch x answer) := by
  intro s t h
  obtain ⟨hresult, hstate⟩ := hx s t h
  rw [tryCatch_apply, tryCatch_apply]
  rcases hs : x s with ⟨result, s'⟩
  rcases ht : x t with ⟨result', t'⟩
  rw [hs, ht] at hresult hstate
  obtain rfl : result = result' := hresult
  cases result with
  | error e => exact hanswer e s' t' hstate
  | ok a => exact ⟨rfl, hstate⟩

/-- A step may look at the state as far as it is the same in states that are alike. -/
theorem getThen {f : τ → ExceptT Failure (StateM τ) α} (hsame : ∀ s t, R s t → f s = f t)
    (hf : ∀ s, Respects R (f s)) : Respects R (get >>= f) := by
  intro s t h
  rw [bind_apply, bind_apply]
  simp only [get_apply]
  rw [hsame s t h]
  exact hf t s t h

end Respects

end

end FormPress
