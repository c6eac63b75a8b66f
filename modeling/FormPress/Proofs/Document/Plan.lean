/-
  FormPress.Proofs.Document.Plan

  Making a plan takes two looks for logos and is otherwise a function of the
  snapshot (`plan_eq`): the crest of the form is looked for twice, once for the
  cover and once for the running header, and nothing else can fail.
-/
import FormPress.Document.Plan
import FormPress.Proofs.Steps

namespace FormPress.DocumentMaker

variable (maker : DocumentMaker)

/-- The cover with a crest. -/
def coverWith (s : Snapshot) (crest : Option String) : Cover :=
  .compose s.form (.ofSnapshot s) maker.profile.cover crest

/-- The pages of the body of a snapshot. -/
def pagesOf (s : Snapshot) : List BodyPage :=
  (maker.pages (.ofSnapshot s) (PageGroup.plan s.steps)).1

/-- The plan of a document whose logos have been found. -/
def planWith (s : Snapshot) (crest : Option String) (header : RunningHeader) : DocumentPlan :=
  { cover := maker.coverWith s crest
    coverHtml := (maker.coverWith s crest).html maker.profile.organisation
    coverOptions := maker.coverOptions
    bodyHtml := Html.renderAll (Html.documentBody maker.profile.intro (maker.pagesOf s))
    bodyOptions := maker.bodyOptions header (.compose s.form (.ofSnapshot s))
    pages := maker.pagesOf s
    introPageCount := 1 }

/-- The cover is made before the rest of the plan. -/
theorem plan_eq_assemble (s : Snapshot) :
    maker.plan s = (do
      let cover ← maker.cover s (.ofSnapshot s)
      maker.assemble s (.ofSnapshot s) (maker.pagesOf s) cover) := rfl

/-- The crest and the header are all that a plan has to be looked for. -/
theorem plan_eq (s : Snapshot) :
    maker.plan s = (do
      let crest ← maker.crest s.form
      let header ← maker.header s
      return maker.planWith s crest header) := by
  rw [plan_eq_assemble]
  simp only [cover, assemble, bind_assoc, pure_bind]
  rfl

/-- The running header depends on a snapshot only through its form. -/
theorem header_eq {s t : Snapshot} (h : s.form = t.form) : maker.header s = maker.header t := by
  rw [header, h, header]

/-- Without assets a form that brings no crest has a plan without logos. -/
theorem plan_default {s : Snapshot} (h : s.form.headerImage = none) :
    (default : DocumentMaker).plan s (default, []) =
      (.ok ((default : DocumentMaker).planWith s none ⟨none, none⟩), (default, [])) := by
  -- Both looks for the crest find nothing, and neither does the one for the header.
  have hcrest : (default : DocumentMaker).crest s.form (default, []) =
      (.ok none, (default, [])) := by
    rw [crest, h]
    rfl
  have hheader : (default : DocumentMaker).header s (default, []) =
      (.ok ⟨none, none⟩, (default, [])) := by
    rw [header, bind_apply, hcrest]
    rfl
  rw [plan_eq, bind_apply, hcrest]
  simp only [bind_apply, hheader, pure_apply]

end FormPress.DocumentMaker
