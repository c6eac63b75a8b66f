/-
  FormPress.Proofs.Document.Assembly

  Printing a document asks the backend for one pass of the cover and, unless
  that fails, for one pass of the body.  What is done with a pass once it is
  printed leaves the backend alone, and a pass that fails is the failure of the
  whole.
-/
import FormPress.Document.Assembly
import FormPress.Proofs.Steps

namespace FormPress

variable {σ : Type}

/-! ## One pass -/

namespace Printing

variable {α : Type} {b : Backend σ} {html : String} {options : PrintOptions}
  {f : PageRange → Printing σ α} {state : σ} {log : List LogEntry}

/-- What is done with a pass once it is printed leaves the backend as the pass did. -/
theorem pass_bind_state (hf : ∀ range t, (f range t).2.1 = t.1) :
    ((pass b html options >>= f) (state, log)).2.1 = (b.print html options state).state := by
  rw [bind_apply, pass]
  rcases (b.print html options state).result with e | range
  · rfl
  · exact hf range _

/-- A pass that fails is the failure of what it is printed for. -/
theorem pass_bind_error {e : Failure} (h : (b.print html options state).result = .error e) :
    ((pass b html options >>= f) (state, log)).1 = .error e := by
  simp only [bind_apply, pass, h]

end Printing

namespace DocumentPlan

variable (plan : DocumentPlan) (b : Backend σ) (state : σ) (log : List LogEntry)

/-- Printing the cover leaves the backend as its pass does. -/
theorem printCover_state :
    (plan.printCover b (state, log)).2.1 =
      (b.print plan.coverHtml plan.coverOptions state).state := by
  apply Printing.pass_bind_state
  intro cover t
  -- Whether the cover is too long or not, only the log may get a line.
  by_cases hmany : 1 < cover.pageCount
  · simp only [if_pos hmany, bind_apply, Printing.note, lift_apply]
  · simp only [if_neg hmany, pure_apply]

/-- Printing the body leaves the backend as its pass does. -/
theorem printBody_state :
    (plan.printBody b (state, log)).2.1 = (b.print plan.bodyHtml plan.bodyOptions state).state := by
  apply Printing.pass_bind_state
  intro body t
  by_cases hfew : body.pageCount < plan.expectedPages
  · simp only [if_pos hfew, bind_apply, Printing.note, pure_apply]
  · simp only [if_neg hfew, pure_apply]

variable {plan b state}

theorem printCover_error {e : Failure}
    (h : (b.print plan.coverHtml plan.coverOptions state).result = .error e) :
    (plan.printCover b (state, log)).1 = .error e := Printing.pass_bind_error h

theorem printBody_error {e : Failure}
    (h : (b.print plan.bodyHtml plan.bodyOptions state).result = .error e) :
    (plan.printBody b (state, log)).1 = .error e := Printing.pass_bind_error h

end DocumentPlan

/-! ## Both passes -/

/-- Ranges that cannot be joined fail with a failure of the engine's own. -/
theorem merge_isOwn {ranges : List PageRange} {e : Failure}
    (h : PageRange.merge ranges = .error e) : e.isOwn := by
  induction ranges with
  | nil => cases h
  | cons range rest ih =>
      rw [PageRange.merge] at h
      -- Either this range cannot be read, or the failure is one of those behind it.
      cases hpdf : range.pdf with
      | unreadable =>
          rw [hpdf] at h
          cases h
          rfl
      | pages widths =>
          rw [hpdf] at h
          rcases hrest : PageRange.merge rest with d | (_ | _)
          · rw [hrest] at h
            cases h
            exact ih hrest
          · rw [hrest] at h
            cases h
          · rw [hrest] at h
            cases h

/-- What a backend is asked for: markup, and the options to print it with. -/
abbrev PrintCall := String × PrintOptions

/-- The backend that prints by a function and keeps account of what it was asked for. -/
def Backend.ofFunction (f : String → PrintOptions → Except Failure PageRange) :
    Backend (List PrintCall) where
  print html options calls := ⟨f html options, [], calls ++ [(html, options)]⟩

namespace DocumentPlan

/-- Printing a document step by step. -/
theorem print_apply (plan : DocumentPlan) (b : Backend σ) (t : σ × List LogEntry) :
    plan.print b t = match plan.printCover b t with
      | (.error e, t₁) => (.error e, t₁)
      | (.ok cover, t₁) => match plan.printBody b t₁ with
        | (.error e, t₂) => (.error e, t₂)
        | (.ok body, t₂) => (PageRange.merge [cover, body], t₂) := by
  simp only [print, bind_apply, lift_apply]
  rcases plan.printCover b t with ⟨e | cover, t₁⟩
  · rfl
  rcases hbody : plan.printBody b t₁ with ⟨e | body, t₂⟩
  · simp only [hbody]
  · simp only [hbody]

variable {f : String → PrintOptions → Except Failure PageRange} {plan : DocumentPlan}
  {log : List LogEntry} {call : PrintCall} {e : Failure}

/-- A pass of the body that fails after a cover that was printed. -/
theorem printBody_error_of_call (log : List LogEntry)
    (hcover : call ≠ (plan.coverHtml, plan.coverOptions))
    (hcall : call ∈
      (plan.printBody (.ofFunction f) ([(plan.coverHtml, plan.coverOptions)], log)).2.1)
    (hf : f call.1 call.2 = .error e) :
    (plan.printBody (.ofFunction f) ([(plan.coverHtml, plan.coverOptions)], log)).1 = .error e := by
  rw [printBody_state] at hcall
  rcases List.mem_append.mp hcall with hmem | hmem
  · exact absurd (List.mem_singleton.mp hmem) hcover
  · obtain rfl := List.mem_singleton.mp hmem
    exact printBody_error log hf

/-- A pass that fails is the failure of the document. -/
theorem print_error (hcall : call ∈ (plan.print (.ofFunction f) ([], log)).2.1)
    (hf : f call.1 call.2 = .error e) : (plan.print (.ofFunction f) ([], log)).1 = .error e := by
  have hcalls := plan.printCover_state (.ofFunction f) [] log
  have hfailed : call = (plan.coverHtml, plan.coverOptions) →
      (plan.printCover (.ofFunction f) ([], log)).1 = .error e := by
    rintro rfl
    exact printCover_error log hf
  rw [print_apply] at hcall ⊢
  rcases hcover : plan.printCover (.ofFunction f) ([], log) with ⟨d | cover, calls, log₁⟩
  · simp only [hcover] at hcall hcalls hfailed ⊢
    obtain rfl : calls = [(plan.coverHtml, plan.coverOptions)] := hcalls
    rw [Except.error.inj (hfailed (List.mem_singleton.mp hcall))]
  simp only [hcover] at hcall hcalls hfailed ⊢
  obtain rfl : calls = [(plan.coverHtml, plan.coverOptions)] := hcalls
  -- The cover was printed, so the call that failed is the one for the body.
  have hne : call ≠ (plan.coverHtml, plan.coverOptions) := fun h => nomatch hfailed h
  have hbodyFailed := fun h => printBody_error_of_call log₁ hne h hf
  rcases hbody : plan.printBody (.ofFunction f) ([(plan.coverHtml, plan.coverOptions)], log₁) with
    ⟨d | body, calls, log₂⟩
  · simp only [hbody] at hcall hbodyFailed ⊢
    rw [Except.error.inj (hbodyFailed hcall)]
  · simp only [hbody] at hcall hbodyFailed
    exact nomatch hbodyFailed hcall

end DocumentPlan

end FormPress
