/-
  FormPress.Proofs.Markup.Document

  Answers cannot inject markup: two snapshots of one form whose signatures have
  pictures in the same places give plans with the same markup characters.  The
  outline of a fragment is that of its blank view, and books that sign alike
  give the same blank view (`fragment_outline`); cover and footer show answers
  as text only.
-/
import FormPress.Proofs.Document.Plan
import FormPress.Proofs.Markup.Agreement
import FormPress.Proofs.Pages.Fragments

namespace FormPress

/-! ## Fragments and pages -/

/-- A section has the same outline for books that sign alike. -/
theorem fragment_outline {n : SectionNode} {a b : AnswerBook} (p : Profile)
    (number : Option Int) (c : SectionContext) (hs : List Html)
    (h : SignAlike a b n.questions) :
    Html.outline ((SectionFragment.ofSection n a p number c).content :: hs) =
      Html.outline ((SectionFragment.ofSection n b p number c).content :: hs) := by
  have hview : Html.outline (SectionView.ofSection n a p c).body =
      Html.outline (SectionView.ofSection n b p c).body := by
    rw [← SectionView.outline_blank, SectionView.blank_ofSection p c h, SectionView.outline_blank]
  simp only [SectionFragment.ofSection, Html.outline_element, Html.outline_append, hview]

/-- The sections of a page have the same outline for books that sign alike. -/
theorem fragments_outline {a b : AnswerBook} (p : Profile)
    (xs : List (SectionNode × SectionContext)) (numbers : List (Option Int))
    (h : ∀ x ∈ xs, SignAlike a b x.1.questions) :
    Html.outline ((List.zipWith (fragmentUnder a p) xs numbers).flatMap
        fun f => [f.content, Html.eol]) =
      Html.outline ((List.zipWith (fragmentUnder b p) xs numbers).flatMap
        fun f => [f.content, Html.eol]) := by
  induction xs generalizing numbers with
  | nil => simp only [List.zipWith_nil_left, List.flatMap_nil]
  | cons x xs ih =>
      cases numbers with
      | nil => simp only [List.zipWith_nil_right, List.flatMap_nil]
      | cons number numbers =>
          have hx := h x (List.mem_cons_self ..)
          have hxs := ih numbers fun y hy => h y (List.mem_cons_of_mem _ hy)
          simp only [List.zipWith_cons_cons, List.flatMap_cons, Html.outline_append, hxs]
          rw [fragmentUnder, fragmentUnder, fragment_outline p number x.2 _ hx]

/-- Pages made with books that sign alike have the same outline. -/
theorem bodyPagesFrom_outline {a b : AnswerBook} (p : Profile) (groups : List PageGroup)
    (numbers : List (Option Int))
    (h : ∀ x ∈ p.placed (groups.flatMap PageGroup.steps), SignAlike a b x.1.questions) :
    Html.outline ((bodyPagesFrom a p groups numbers).flatMap Html.bodyPage) =
      Html.outline ((bodyPagesFrom b p groups numbers).flatMap Html.bodyPage) := by
  induction groups generalizing numbers with
  | nil => simp only [bodyPagesFrom]
  | cons g groups ih =>
      rw [List.flatMap_cons, placed_append] at h
      have hpage := fragments_outline p (p.placed g.steps) numbers
        fun x hx => h x (List.mem_append_left _ hx)
      -- The numbers that a page has used up are gone for the ones behind it, in both books.
      have hrest := ih (numbers.drop (p.placed g.steps).length)
        fun x hx => h x (List.mem_append_right _ hx)
      rw [bodyPagesFrom, bodyPagesFrom, fragmentsOf_eq, fragmentsOf_eq]
      simp only [List.flatMap_cons, Html.outline_append, Html.bodyPage, Html.outline_block]
      -- `bodyPagesFrom` spells `placed` out.
      rw [Profile.placed] at hpage hrest
      rw [hpage, hrest]

/-! ## Whole documents -/

/-- The outline of a page is settled by the outline of its content. -/
theorem page_outline {xs ys : List Html} (h : Html.outline xs = Html.outline ys) :
    Html.outline (Html.page xs) = Html.outline (Html.page ys) := by
  simp only [Html.page, Html.outline_cons Html.doctype, Html.outline_eol, Html.outline_spanning,
    Html.outline_append, Html.outline_block, h]

/-- A cover has the outline of any other one with the same pictures. -/
theorem cover_outline {c d : Cover} (o : OrganisationProfile) (hcrest : c.crest = d.crest)
    (hpicture : c.picture = d.picture) :
    Html.outline (c.page o) = Html.outline (d.page o) := by
  apply page_outline
  simp only [Html.coverBody, Html.studentRow, Html.outline_block, Html.outline_append,
    Html.outline_line, Html.outline_element, Html.outline_text, Html.outline_leaf, hcrest,
    hpicture]

/-- All footers have the same outline. -/
theorem footer_outline (f g : RunningFooter) :
    markupOf (Html.runningFooter f).render = markupOf (Html.runningFooter g).render := by
  have hf : markupOf (Html.runningFooter f).render = Html.outline [Html.runningFooter f] := by
    rw [Html.outline_cons, Html.outline_nil, List.append_nil]
  have hg : markupOf (Html.runningFooter g).render = Html.outline [Html.runningFooter g] := by
    rw [Html.outline_cons, Html.outline_nil, List.append_nil]
  rw [hf, hg]
  simp only [Html.runningFooter, Html.outline_spanning, Html.outline_append, Html.outline_leaf]

namespace DocumentPlan

/-- Two plans whose cover, body and running footer have the same markup characters. -/
structure SameMarkup (p q : DocumentPlan) : Prop where
  cover : markupOf p.coverHtml = markupOf q.coverHtml
  body : markupOf p.bodyHtml = markupOf q.bodyHtml
  footer : markupOf p.bodyOptions.footer = markupOf q.bodyOptions.footer

end DocumentPlan

namespace DocumentMaker

variable (maker : DocumentMaker)

/-- The pages of two snapshots of one form have the same outline if they sign alike. -/
theorem pagesOf_outline {s t : Snapshot} (hsteps : s.steps = t.steps)
    (hsigned : SignAlike (.ofSnapshot s) (.ofSnapshot t) s.questions) :
    Html.outline ((maker.pagesOf s).flatMap Html.bodyPage) =
      Html.outline ((maker.pagesOf t).flatMap Html.bodyPage) := by
  rw [pagesOf, pages, bodyPages, pagesOf, pages, bodyPages, ← hsteps]
  apply bodyPagesFrom_outline
  intro x hx
  rw [plan_steps] at hx
  exact hsigned.mono (placed_questions hx)

/-- With the same logos, snapshots of one form that sign alike have plans with the same markup. -/
theorem planWith_sameMarkup {s t : Snapshot} (hform : s.form = t.form)
    (hsteps : s.steps = t.steps)
    (hsigned : SignAlike (.ofSnapshot s) (.ofSnapshot t) s.questions)
    (crest : Option String) (header : RunningHeader) :
    (maker.planWith s crest header).SameMarkup (maker.planWith t crest header) where
  cover := by
    apply cover_outline
    · rfl
    · -- The picture of the cover is taken from the form.
      simp only [coverWith, Cover.compose, hform]
  body := by
    apply page_outline
    rw [Html.outline_cons, maker.pagesOf_outline hsteps hsigned, Html.outline_cons]
  footer := footer_outline _ _

/-- The answers of a snapshot have no influence on the markup characters of its document, the
    pictures of signatures apart: with the same logos at hand, two snapshots of one form either have
    plans with the same markup or fail for the same reason. -/
theorem plan_markup_independent_of_answers (s t : Snapshot) (shelf : Shelf)
    (log : List LogEntry) (hform : s.form = t.form) (hsteps : s.steps = t.steps)
    (hsigned : SignAlike (.ofSnapshot s) (.ofSnapshot t) s.questions) :
    match (maker.plan s (shelf, log)).1, (maker.plan t (shelf, log)).1 with
    | .ok p, .ok q => p.SameMarkup q
    | .error e, .error e' => e = e'
    | _, _ => False := by
  rw [plan_eq, plan_eq, maker.header_eq hform, hform]
  simp only [bind_apply, pure_apply]
  rcases maker.crest t.form (shelf, log) with ⟨e | crest, looked⟩
  · rfl
  -- The crest is the same for both, so the header is looked for in the same state.
  simp only
  rcases maker.header t looked with ⟨e | header, looked'⟩
  · rfl
  exact maker.planWith_sameMarkup hform hsteps hsigned crest header

/-- A section with a remark and a signature below it. -/
def signedSection : SectionNode :=
  let remark : Question :=
    { (default : Question) with id := 1, kind := .longText, label := "Remark" }
  let mark : Question := { (default : Question) with id := 2, kind := .signature, label := "Signed" }
  ⟨default, [⟨remark, [], []⟩, ⟨mark, [], []⟩]⟩

/-- A snapshot with a remark and the picture of a signature. -/
def signedSnapshot (remark picture : String) : Snapshot :=
  { instanceId := 1
    form := default
    steps := [⟨default, [signedSection]⟩]
    answers := [
      { (default : Answer) with questionId := 1, valueText := some remark },
      { (default : Answer) with questionId := 2, valueText := some picture }] }

/-- Two snapshots whose answers are full of markup have plans with the same markup. -/
theorem plan_markup_of_signed_remarks :
    let s := signedSnapshot "<b class='x'>\"hi\"</b>" "data:image/png;base64,AA"
    let t := signedSnapshot "fine" "data:text/html,<img src=''>"
    SignAlike (.ofSnapshot s) (.ofSnapshot t) s.questions ∧
      match ((default : DocumentMaker).plan s (default, [])).1,
        ((default : DocumentMaker).plan t (default, [])).1 with
      | .ok p, .ok q => p.SameMarkup q
      | .error e, .error e' => e = e'
      | _, _ => False := by
  intro s t
  have hsigned : SignAlike (.ofSnapshot s) (.ofSnapshot t) s.questions := by decide
  exact ⟨hsigned, plan_markup_independent_of_answers default s t default [] rfl rfl hsigned⟩

end DocumentMaker

end FormPress
