/-
  FormPress.Proofs.Document.Containers

  One page container for each group of steps.  What is written of the cover, the
  introduction and the sections opens no container of its own, so the containers in
  a document are those of its pages: the one of the introduction first, then one
  for each group with the sections of the group in it, and one on the cover.  The
  main statement is `plan_containers`.
-/
import FormPress.Proofs.Document.Inner
import FormPress.Proofs.Document.Plan
import FormPress.Proofs.Pages.Fragments

namespace FormPress

/-! ## The text of a document -/

/-- The tag of the container of the introduction. -/
def introTag : String := "<div class=\"step-page intro-page\" data-page=\"intro\">"

/-- The tag of the container of a page of the body. -/
def bodyTag : String := "<div class=\"step-page\" data-page=\"body\">"

/-- The tag of the container of the cover. -/
def coverTag : String := "<div class=\"cover-page\" data-page=\"cover\">"

/-- What stands in the container of a page of the body: each of its fragments on a line. -/
def BodyPage.inner (p : BodyPage) : String :=
  "\n" ++ String.join (p.fragments.map fun f => f.html ++ "\n")

/-- A page of the body as it is written. -/
def BodyPage.html (p : BodyPage) : String := bodyTag ++ p.inner ++ "</div>\n"

/-- The end of a document. -/
def documentEnd : String := "</body>\n</html>"

/-- What a document reads from some pages on. -/
def pagesText (pages : List BodyPage) : String :=
  String.join (pages.map BodyPage.html) ++ documentEnd

/-- What a document reads from each of its pages on. -/
def pageTexts : List BodyPage → List String
  | [] => []
  | page :: pages => pagesText (page :: pages) :: pageTexts pages

theorem pageTexts_length (pages : List BodyPage) : (pageTexts pages).length = pages.length := by
  induction pages with
  | nil => rfl
  | cons page pages ih => rw [pageTexts, List.length_cons, ih, List.length_cons]

/-- A document reads on from its first page. -/
theorem pagesText_cons (page : BodyPage) (pages : List BodyPage) :
    pagesText (page :: pages) = bodyTag ++ (page.inner ++ "</div>\n" ++ pagesText pages) := by
  simp only [pagesText, List.map_cons, String.join_cons, BodyPage.html, String.append_assoc]

/-! ## Sites of containers -/

namespace Text

theorem sites_empty (needle : String) : sites "" needle = [] := rfl

/-- A neutral text is passed over. -/
theorem sites_neutral {x : String} (hx : Neutral x) {name : String} (hname : name ∈ containerClasses)
    (t : String) : sites (x ++ t) (containerMark name) = sites t (containerMark name) := by
  rw [sites, sites, String.toList_append, hx name hname]

/-- The tag of a container is a place of its mark, and there is no other one in it. -/
theorem sites_container {name : String} (hname : name ∈ containerClasses) {rest : String}
    (hrest : Plain rest) (t : String) :
    sites (containerMark name ++ rest ++ t) (containerMark name) =
      (containerMark name ++ rest ++ t) :: sites t (containerMark name) := by
  have hmark := containerMark_toList name
  have hplain : '<' ∉ divClass ++ name.toList ++ rest.toList := by
    rw [List.mem_append]
    exact fun h => h.elim (containerClasses_plain hname) hrest
  have htag := sitesOf_tag hplain (List.prefix_append (divClass ++ name.toList) rest.toList) t.toList
  have hchars : (containerMark name ++ rest ++ t).toList =
      '<' :: (divClass ++ name.toList ++ rest.toList) ++ t.toList := by
    rw [String.toList_append, String.toList_append, hmark]
    rfl
  rw [sites, hchars, hmark, htag, ← hchars, List.map_cons, String.ofList_toList, sites, hmark]

/-- Whether a text begins with another one. -/
def begins (needle t : String) : Bool := needle.toList.isPrefixOf t.toList

/-- A text begins with its front. -/
theorem begins_append (needle rest : String) : begins needle (needle ++ rest) = true := by
  rw [begins, String.toList_append, List.isPrefixOf_iff_prefix]
  exact List.prefix_append ..

/-- A text does not begin with one that differs from its front. -/
theorem begins_eq_false {needle other : String} (h : Differ needle.toList other.toList)
    (rest : String) : begins needle (other ++ rest) = false := by
  rw [begins, String.toList_append, Bool.eq_false_iff, Ne, List.isPrefixOf_iff_prefix]
  exact h.not_begins _

/-- The places of a longer text are those of its beginning that go on with it. -/
theorem sites_append (s p q : String) : sites s (p ++ q) = (sites s p).filter (begins (p ++ q)) := by
  have hbegins : begins (p ++ q) ∘ String.ofList = (p.toList ++ q.toList).isPrefixOf := by
    funext t
    rw [Function.comp_apply, begins, String.toList_append, String.toList_ofList]
  rw [sites, sites, String.toList_append, sitesOf_append, List.filter_map, hbegins]

end Text

/-! ## Pages as they are written -/

theorem neutral_break : Neutral "\n" := .of_plain (.of_chars rfl (by decide))

namespace Html

theorem render_spanning_zero (tag : String) (attrs : List Attr) (children : List Html) :
    (spanning 0 tag attrs children).render =
      "<" ++ tag ++ renderAttrs attrs ++ ">" ++
        ("\n" ++ renderAll children ++ ("</" ++ tag ++ ">")) := by
  have hpad : (pad 0).render = "" := rfl
  have heol : eol.render = "\n" := rfl
  simp only [spanning, render, renderAll, renderAll_append, List.cons_append, hpad, heol,
    String.append_assoc, String.append_empty]

theorem renderAll_singleton (h : Html) : renderAll [h] = h.render := by
  rw [renderAll, renderAll, String.append_empty]

theorem renderAll_block_zero (tag : String) (attrs : List Attr) (children : List Html) :
    renderAll (block 0 tag attrs children) = (spanning 0 tag attrs children).render ++ "\n" := by
  have hpad : (pad 0).render = "" := rfl
  have heol : eol.render = "\n" := rfl
  simp only [block, line, renderAll, List.cons_append, List.nil_append, hpad, heol,
    String.append_empty, String.empty_append]

/-- What stands in front of the content of a page. -/
def pageStart : String :=
  "<!DOCTYPE html>" ++ "\n" ++ "<html>" ++ "\n" ++ renderAll pageHead ++ "<body>" ++ "\n"

theorem htmlTag_eq : "<" ++ "html" ++ renderAttrs [] ++ ">" = "<html>" := by decide

theorem bodyElementTag_eq : "<" ++ "body" ++ renderAttrs [] ++ ">" = "<body>" := by decide

/-- Nothing in front of the content of a page opens a container. -/
theorem neutral_pageStart : Neutral pageStart := by
  have hclose : Plain ">" := .of_chars rfl (by decide)
  have hhtml := (OtherTag.bare rfl (by decide) : OtherTag "html" []).neutral hclose
  have hbody := (OtherTag.bare rfl (by decide) : OtherTag "body" []).neutral hclose
  rw [htmlTag_eq] at hhtml
  rw [bodyElementTag_eq] at hbody
  exact (((((neutral_doctype.append neutral_break).append hhtml).append neutral_break).append
    neutral_pageHead).append hbody).append neutral_break

/-- A page is written as what stands in front of its content, the content and the end. -/
theorem renderAll_page (content : List Html) :
    renderAll (page content) = pageStart ++ (renderAll content ++ documentEnd) := by
  have hend : documentEnd = "</" ++ "body" ++ ">" ++ "\n" ++ ("</" ++ "html" ++ ">") := by decide
  have heol : eol.render = "\n" := rfl
  rw [page, renderAll, renderAll, renderAll_singleton, render_spanning_zero, renderAll_append,
    renderAll_block_zero, render_spanning_zero, htmlTag_eq, bodyElementTag_eq, hend]
  unfold pageStart
  simp only [render, heol, String.append_assoc]

/-- A page of the body is written as its container with its fragments. -/
theorem renderAll_bodyPage (p : BodyPage) : renderAll (bodyPage p) = p.html := by
  have htag : "<" ++ "div" ++ renderAttrs [attr "class" "step-page", attr "data-page" "body"] ++ ">" =
      bodyTag := by decide
  have hend : "</" ++ "div" ++ ">" ++ "\n" = "</div>\n" := by decide
  -- Each fragment stands on a line of its own.
  have hlines (fs : List SectionFragment) :
      renderAll (fs.flatMap fun f => [f.content, eol]) =
        String.join (fs.map fun f => f.html ++ "\n") := by
    induction fs with
    | nil => rfl
    | cons f fs ih =>
        rw [List.flatMap_cons, renderAll_append, ih, List.map_cons, String.join_cons]
        rfl
  rw [bodyPage, renderAll_block_zero, render_spanning_zero, htag, hlines, BodyPage.html,
    BodyPage.inner, ← hend]
  simp only [String.append_assoc]

/-- A body is written as the introduction and its pages. -/
theorem renderAll_documentBody (i : IntroProfile) (pages : List BodyPage) :
    renderAll (documentBody i pages) =
      pageStart ++ ((introPage i).render ++ pagesText pages) := by
  have hpages : renderAll (pages.flatMap bodyPage) = String.join (pages.map BodyPage.html) := by
    induction pages with
    | nil => rfl
    | cons page pages ih =>
        rw [List.flatMap_cons, renderAll_append, renderAll_bodyPage, ih, List.map_cons,
          String.join_cons]
  rw [documentBody, renderAll_page, renderAll, hpages, pagesText, String.append_assoc]

end Html

/-! ## Containers as they are written -/

theorem bodyTag_eq : bodyTag = containerMark "step-page" ++ "\" data-page=\"body\">" := by decide

theorem introTag_eq :
    introTag = containerMark "step-page" ++ " intro-page\" data-page=\"intro\">" := by decide

theorem coverTag_eq : coverTag = containerMark "cover-page" ++ "\" data-page=\"cover\">" := by
  decide

theorem mem_containerClasses_step : "step-page" ∈ containerClasses := List.mem_cons_self ..

theorem mem_containerClasses_cover : "cover-page" ∈ containerClasses :=
  List.mem_cons_of_mem _ (List.mem_cons_self ..)

theorem neutral_divEnd : Neutral ("</" ++ "div" ++ ">") := .closing (.of_chars rfl (by decide))

theorem neutral_documentEnd : Neutral documentEnd := by
  have hend : documentEnd = "</" ++ "body" ++ ">" ++ "\n" ++ ("</" ++ "html" ++ ">") := by decide
  rw [hend]
  exact ((Neutral.closing (.of_chars rfl (by decide))).append neutral_break).append
    (.closing (.of_chars rfl (by decide)))

/-- Fragments that open no container open none together. -/
theorem BodyPage.neutral_inner {p : BodyPage} (h : ∀ f ∈ p.fragments, Neutral f.html) :
    Neutral p.inner := by
  have hlines (fs : List SectionFragment) (hfs : ∀ f ∈ fs, Neutral f.html) :
      Neutral (String.join (fs.map fun f => f.html ++ "\n")) := by
    induction fs with
    | nil => exact .of_plain (.of_markupOf rfl)
    | cons f fs ih =>
        obtain ⟨hf, hfs⟩ := List.forall_mem_cons.mp hfs
        rw [List.map_cons, String.join_cons]
        exact (hf.append neutral_break).append (ih hfs)
  exact neutral_break.append (hlines p.fragments h)

/-- The containers of the body are those of its pages. -/
theorem sites_pagesText {pages : List BodyPage} (h : ∀ page ∈ pages, Neutral page.inner) :
    Text.sites (pagesText pages) (containerMark "step-page") = pageTexts pages := by
  induction pages with
  | nil =>
      have hend := Text.sites_neutral neutral_documentEnd mem_containerClasses_step ""
      rw [String.append_empty, Text.sites_empty] at hend
      rw [pagesText, List.map_nil, String.join_nil, String.empty_append, hend, pageTexts]
  | cons page pages ih =>
      -- The tag of the page is one site, and up to the next page there is no other.
      obtain ⟨hpage, hpages⟩ := List.forall_mem_cons.mp h
      have hdiv : "</div>\n" = "</" ++ "div" ++ ">" ++ "\n" := by decide
      have hinner : Neutral (page.inner ++ "</div>\n") := by
        rw [hdiv]
        exact hpage.append (neutral_divEnd.append neutral_break)
      rw [pageTexts, pagesText_cons, bodyTag_eq,
        Text.sites_container mem_containerClasses_step (.of_chars rfl (by decide)),
        Text.sites_neutral hinner mem_containerClasses_step, ih hpages]

/-- An element that is a container with neutral content has one container, at its beginning. -/
theorem sites_spanning {name rest : String} {attrs : List Attr} {content : List Html}
    (hname : name ∈ containerClasses)
    (htag : "<" ++ "div" ++ renderAttrs attrs ++ ">" = containerMark name ++ rest)
    (hrest : Plain rest) (hcontent : Neutral (Html.renderAll content)) (t : String) :
    Text.sites ((Html.spanning 0 "div" attrs content).render ++ t) (containerMark name) =
      ((Html.spanning 0 "div" attrs content).render ++ t) :: Text.sites t (containerMark name) := by
  have hinner := (neutral_break.append hcontent).append neutral_divEnd
  rw [Html.render_spanning_zero, htag, String.append_assoc, Text.sites_container hname hrest,
    Text.sites_neutral hinner hname]

theorem introAttrs_eq :
    "<" ++ "div" ++ renderAttrs [Html.attr "class" "step-page intro-page",
      Html.attr "data-page" "intro"] ++ ">" = introTag := by decide

theorem coverAttrs_eq :
    "<" ++ "div" ++ renderAttrs [Html.attr "class" "cover-page", Html.attr "data-page" "cover"] ++
      ">" = coverTag := by decide

/-- The introduction has one container, at its beginning. -/
theorem sites_introPage (i : IntroProfile) (t : String) :
    Text.sites ((Html.introPage i).render ++ t) (containerMark "step-page") =
      ((Html.introPage i).render ++ t) :: Text.sites t (containerMark "step-page") := by
  obtain ⟨content, heq, hcontent⟩ := Html.introPage_eq i
  rw [heq]
  exact sites_spanning mem_containerClasses_step (introAttrs_eq.trans introTag_eq)
    (.of_chars rfl (by decide)) hcontent t

/-- The container of the introduction begins with its tag. -/
theorem introPage_render (i : IntroProfile) : ∃ rest, (Html.introPage i).render = introTag ++ rest := by
  obtain ⟨content, heq, -⟩ := Html.introPage_eq i
  rw [heq, Html.render_spanning_zero, introAttrs_eq]
  exact ⟨_, rfl⟩

/-- A cover has one container. -/
theorem sites_cover (c : Cover) (o : OrganisationProfile) :
    ∃ rest, Text.sites (c.html o) (containerMark "cover-page") = [coverTag ++ rest] := by
  obtain ⟨content, heq, hcontent⟩ := Html.coverBody_eq c o
  have hend := Text.sites_neutral (neutral_break.append neutral_documentEnd)
    mem_containerClasses_cover ""
  rw [String.append_empty, Text.sites_empty] at hend
  rw [Cover.html, Cover.page, Html.renderAll_page, heq, Html.renderAll_block_zero,
    String.append_assoc, Text.sites_neutral Html.neutral_pageStart mem_containerClasses_cover,
    sites_spanning mem_containerClasses_cover (coverAttrs_eq.trans coverTag_eq)
      (.of_chars rfl (by decide)) hcontent, hend, Html.render_spanning_zero, coverAttrs_eq,
    String.append_assoc]
  exact ⟨_, rfl⟩

/-! ## Containers by their whole tags -/

/-- The tags of the introduction and of the pages of the body differ right after the class that they
    share. -/
theorem tags_differ : Text.Differ introTag.toList bodyTag.toList := by
  rw [introTag_eq, bodyTag_eq, String.toList_append, String.toList_append]
  have hintro : " intro-page\" data-page=\"intro\">".toList =
      ' ' :: "intro-page\" data-page=\"intro\">".toList := rfl
  have hbody : "\" data-page=\"body\">".toList = '"' :: " data-page=\"body\">".toList := rfl
  rw [hintro, hbody]
  exact (Text.Differ.of_head (by decide)).append_left _

/-- What a document reads from a page on begins with the tag of the page. -/
theorem pageTexts_begin {pages : List BodyPage} {t : String} (h : t ∈ pageTexts pages) :
    ∃ rest, t = bodyTag ++ rest := by
  induction pages with
  | nil => cases h
  | cons page pages ih =>
      rw [pageTexts, List.mem_cons] at h
      obtain rfl | h := h
      · exact ⟨_, pagesText_cons page pages⟩
      · exact ih h

/-- Where the containers are those of an introduction and of pages, their tags tell them apart. -/
theorem sites_of_containers {s intro : String} {pages : List BodyPage}
    (hintro : ∃ rest, intro = introTag ++ rest)
    (h : Text.sites s (containerMark "step-page") = intro :: pageTexts pages) :
    Text.sites s introTag = [intro] ∧ Text.sites s bodyTag = pageTexts pages := by
  obtain ⟨rest, rfl⟩ := hintro
  constructor
  · -- The tags of pages are not the tag of the introduction, nor the other way round.
    have hnone : (pageTexts pages).filter (Text.begins introTag) = [] := by
      rw [List.filter_eq_nil_iff]
      intro t ht
      obtain ⟨rest, rfl⟩ := pageTexts_begin ht
      rw [Text.begins_eq_false tags_differ]
      exact Bool.false_ne_true
    rw [introTag_eq, Text.sites_append, h, ← introTag_eq,
      List.filter_cons_of_pos (Text.begins_append introTag rest), hnone]
  · have hall : (pageTexts pages).filter (Text.begins bodyTag) = pageTexts pages := by
      rw [List.filter_eq_self]
      intro t ht
      obtain ⟨rest, rfl⟩ := pageTexts_begin ht
      exact Text.begins_append bodyTag rest
    have hintro := Text.begins_eq_false tags_differ.symm rest
    rw [bodyTag_eq, Text.sites_append, h, ← bodyTag_eq,
      List.filter_cons_of_neg (Bool.eq_false_iff.mp hintro), hall]

/-! ## Documents -/

/-- The trusted texts that the sections of a document print. -/
def DocumentPlan.trusted (p : DocumentPlan) : List String :=
  p.pages.flatMap fun page => page.fragments.flatMap fun f => f.content.trusted

/-- What the body of a document reads from the introduction on. -/
def DocumentPlan.introText (p : DocumentPlan) (i : IntroProfile) : String :=
  (Html.introPage i).render ++ pagesText p.pages

/-- One page container for each group of steps. -/
structure DocumentPlan.OneContainerEach (p : DocumentPlan) (i : IntroProfile)
    (groups : List PageGroup) : Prop where
  /-- the pages are those of the groups, each with the sections of its group in order -/
  pages : p.pages.map (fun page => (page.titles, page.fragments.map (·.sectionId))) =
    groups.map fun g => (g.titles, (sectionsOf g.steps).map (·.2.header.id))
  /-- the containers of the body, first to last: that of the introduction, then those of the pages;
      each reads its page to the end of the container before the next one begins -/
  containers : Text.sites p.bodyHtml (containerMark "step-page") =
    p.introText i :: pageTexts p.pages
  intro : Text.sites p.bodyHtml introTag = [p.introText i]
  body : Text.sites p.bodyHtml bodyTag = pageTexts p.pages
  body_count : (Text.sites p.bodyHtml bodyTag).length = groups.length
  cover : ∃ rest, Text.sites p.coverHtml coverTag = [coverTag ++ rest]

/-- The fragments of some placed sections are those sections in order. -/
theorem fragments_sectionIds (answers : AnswerBook) (p : Profile) (steps : List StepNode)
    {numbers : List (Option Int)} (h : (p.placed steps).length ≤ numbers.length) :
    (List.zipWith (fragmentUnder answers p) (p.placed steps) numbers).map (·.sectionId) =
      (sectionsOf steps).map (·.2.header.id) := by
  simp only [List.map_zipWith, fragmentUnder_sectionId]
  rw [zipWith_fst (fun x : SectionNode × SectionContext => x.1.header.id) _ _ h]
  have hids := congrArg (List.map (·.header.id)) (placed_fst p steps)
  rwa [List.map_map, List.map_map] at hids

/-- Pages that are given enough numbers are those of the groups. -/
theorem bodyPagesFrom_pages (answers : AnswerBook) (p : Profile) (groups : List PageGroup)
    (numbers : List (Option Int))
    (h : (p.placed (groups.flatMap PageGroup.steps)).length ≤ numbers.length) :
    (bodyPagesFrom answers p groups numbers).map
        (fun page => (page.titles, page.fragments.map (·.sectionId))) =
      groups.map fun g => (g.titles, (sectionsOf g.steps).map (·.2.header.id)) := by
  induction groups generalizing numbers with
  | nil => rfl
  | cons g groups ih =>
      -- A page takes as many numbers as it has sections, which leaves enough for the others.
      rw [List.flatMap_cons, placed_append, List.length_append] at h
      have hhere : (p.placed g.steps).length ≤ numbers.length := by omega
      have hrest : (p.placed (groups.flatMap PageGroup.steps)).length ≤
          (numbers.drop (p.placed g.steps).length).length := by
        rw [List.length_drop]
        omega
      rw [bodyPagesFrom, fragmentsOf_eq, List.map_cons, List.map_cons]
      refine congr (congrArg List.cons (Prod.ext rfl ?_)) (ih _ hrest)
      exact fragments_sectionIds answers p g.steps hhere

namespace DocumentMaker

variable (maker : DocumentMaker)

/-- The pages of a document are those of its groups of steps. -/
theorem pagesOf_pages (s : Snapshot) :
    (maker.pagesOf s).map (fun page => (page.titles, page.fragments.map (·.sectionId))) =
      (PageGroup.plan s.steps).map fun g =>
        (g.titles, (sectionsOf g.steps).map (·.2.header.id)) := by
  rw [pagesOf, pages, bodyPages]
  apply bodyPagesFrom_pages
  exact Nat.le_of_eq <| by
    rw [headingNumbers_length, numberedSections_flatMap, List.length_map, placed_length]

/-- Every fragment of a document is that of a section of the snapshot. -/
theorem mem_pagesOf {s : Snapshot} {page : BodyPage} (hpage : page ∈ maker.pagesOf s)
    {f : SectionFragment} (hf : f ∈ page.fragments) :
    ∃ n ∈ s.sections, ∃ number c,
      f = .ofSection n (.ofSnapshot s) maker.profile number c := by
  have hmem : f ∈ (maker.pagesOf s).flatMap (·.fragments) := List.mem_flatMap.mpr ⟨page, hpage, hf⟩
  rw [pagesOf, pages, bodyPages_fragments, plan_steps] at hmem
  obtain ⟨k, hk⟩ := List.mem_iff_getElem?.mp hmem
  obtain ⟨x, number, hx, -, rfl⟩ := List.getElem?_zipWith_eq_some.mp hk
  exact ⟨x.1, placed_mem_sections (List.mem_of_getElem? hx), number, x.2, rfl⟩

/-- What a plan that was made says. -/
theorem plan_ok {s : Snapshot} {found found' : Shelf × List LogEntry} {p : DocumentPlan}
    (h : maker.plan s found = (.ok p, found')) :
    ∃ crest header, p = maker.planWith s crest header := by
  rw [plan_eq] at h
  obtain ⟨crest, looked, -, h⟩ := bind_ok h
  obtain ⟨header, looked', -, h⟩ := bind_ok h
  cases h
  exact ⟨crest, header, rfl⟩

/-- What a document prints as trusted markup comes from descriptions and help texts of its sections. -/
theorem trusted_comesFrom (s : Snapshot) (crest : Option String) (header : RunningHeader) :
    ∀ t ∈ (maker.planWith s crest header).trusted,
      ∃ n ∈ s.sections, ComesFrom n.trustedFields t := by
  intro t ht
  obtain ⟨page, hpage, ht⟩ := List.mem_flatMap.mp ht
  obtain ⟨f, hf, ht⟩ := List.mem_flatMap.mp ht
  obtain ⟨n, hn, number, c, rfl⟩ := maker.mem_pagesOf hpage hf
  exact ⟨n, hn, SectionFragment.trusted_comesFrom ht⟩

/-- The pages of a document open no container inside of their own. -/
theorem pagesOf_neutral {s : Snapshot} {crest : Option String} {header : RunningHeader}
    (h : ∀ t ∈ (maker.planWith s crest header).trusted, Html.NoContainerIn t) :
    ∀ page ∈ maker.pagesOf s, Neutral page.inner := by
  intro page hpage
  refine BodyPage.neutral_inner fun f hf => ?_
  have htrusted : ∀ t ∈ f.content.trusted, Html.NoContainerIn t := fun t ht =>
    h t (List.mem_flatMap.mpr ⟨page, hpage, List.mem_flatMap.mpr ⟨f, hf, ht⟩⟩)
  obtain ⟨n, -, number, c, rfl⟩ := maker.mem_pagesOf hpage hf
  exact (SectionFragment.inner_content n _ _ number c).neutral htrusted

/-- The plan of a document has one container for each group of steps. -/
theorem planWith_containers (s : Snapshot) (crest : Option String) (header : RunningHeader)
    (h : ∀ t ∈ (maker.planWith s crest header).trusted, Html.NoContainerIn t) :
    (maker.planWith s crest header).OneContainerEach maker.profile.intro
      (PageGroup.plan s.steps) := by
  have hpages := maker.pagesOf_pages s
  -- All containers share the beginning of their tags; what follows it tells the pages apart.
  have hall : Text.sites (maker.planWith s crest header).bodyHtml (containerMark "step-page") =
      (maker.planWith s crest header).introText maker.profile.intro ::
        pageTexts (maker.planWith s crest header).pages := by
    rw [planWith, Html.renderAll_documentBody,
      Text.sites_neutral Html.neutral_pageStart mem_containerClasses_step, sites_introPage,
      sites_pagesText (maker.pagesOf_neutral h)]
    rfl
  have hintro : ∃ rest,
      (maker.planWith s crest header).introText maker.profile.intro = introTag ++ rest := by
    obtain ⟨rest, hrest⟩ := introPage_render maker.profile.intro
    exact ⟨_, by rw [DocumentPlan.introText, hrest, String.append_assoc]⟩
  obtain ⟨hintroTag, hbodyTag⟩ := sites_of_containers hintro hall
  refine ⟨hpages, hall, hintroTag, hbodyTag, ?_, ?_⟩
  · have hlength := congrArg List.length hpages
    rw [List.length_map, List.length_map] at hlength
    rw [hbodyTag, pageTexts_length]
    exact hlength
  · obtain ⟨rest, hcover⟩ := sites_cover (maker.coverWith s crest) maker.profile.organisation
    refine ⟨rest, ?_⟩
    rw [coverTag_eq, Text.sites_append, planWith, hcover, ← coverTag_eq,
      List.filter_cons_of_pos (Text.begins_append coverTag rest), List.filter_nil]

/-- Every document has one container for the introduction, first, and one for each group of steps,
    and its cover has one, if no text that is printed as trusted markup holds the beginning of such
    a container's tag. None does if no field holds it that such texts come from, which are
    descriptions and help texts of the form; answers, titles, labels and the texts of the profile
    have no part in it. -/
theorem plan_containers (s : Snapshot) (found found' : Shelf × List LogEntry) (p : DocumentPlan)
    (hplan : maker.plan s found = (.ok p, found')) :
    ((∀ n ∈ s.sections, ∀ field ∈ n.trustedFields, Html.NoContainerIn field) →
      ∀ t ∈ p.trusted, Html.NoContainerIn t) ∧
    ((∀ t ∈ p.trusted, Html.NoContainerIn t) →
      p.OneContainerEach maker.profile.intro (PageGroup.plan s.steps)) := by
  obtain ⟨crest, header, rfl⟩ := maker.plan_ok hplan
  refine ⟨fun hfields t ht => ?_, maker.planWith_containers s crest header⟩
  obtain ⟨n, hn, hfrom⟩ := maker.trusted_comesFrom s crest header t ht
  exact hfrom.noContainerIn (hfields n hn)

/-- A snapshot of two steps that share a page, with a section in each. -/
def sharedPageSnapshot (description : String) : Snapshot :=
  let described : Section := { (default : Section) with description := some description }
  let first : Step := { (default : Step) with title := "Student and Trainer" }
  let second : Step := { (default : Step) with title := "Qualification" }
  { instanceId := 1
    form := default
    steps := [⟨first, [⟨described, []⟩]⟩, ⟨second, [⟨described, []⟩]⟩]
    answers := [] }

/-- A description with other markup in it leaves a document with one container for the introduction
    and one for its only page. -/
theorem plan_containers_of_description :
    let s := sharedPageSnapshot "Read <b>all</b>\n"
    ∃ p, (default : DocumentMaker).plan s (default, []) = (.ok p, (default, [])) ∧
      (∀ n ∈ s.sections, ∀ field ∈ n.trustedFields, Html.NoContainerIn field) ∧
      p.OneContainerEach (default : DocumentMaker).profile.intro (PageGroup.plan s.steps) := by
  intro s
  have hplan : (default : DocumentMaker).plan s (default, []) =
      (.ok ((default : DocumentMaker).planWith s none ⟨none, none⟩), (default, [])) :=
    plan_default rfl
  -- The description is taken apart once, and its characters are compared with the two marks.
  have hdescription : Html.NoContainerIn "Read <b>all</b>\n" := by
    intro name hname
    have hchars : "Read <b>all</b>\n".toList = ['R', 'e', 'a', 'd', ' ', '<', 'b', '>', 'a', 'l', 'l',
        '<', '/', 'b', '>', '\n'] := String.toList_ofList
    have hnone : ∀ l ∈ containerChars, ¬ '<' :: (divClass ++ l) <:+: ['R', 'e', 'a', 'd', ' ', '<',
        'b', '>', 'a', 'l', 'l', '<', '/', 'b', '>', '\n'] := by decide
    rw [containerMark_toList, hchars]
    exact hnone _ (toList_mem_containerChars hname)
  have hsections : ∀ n ∈ s.sections,
      n.questions = [] ∧ n.header.description = some "Read <b>all</b>\n" := by
    simp [s, sharedPageSnapshot, Snapshot.sections]
  have hfields : ∀ n ∈ s.sections, ∀ field ∈ n.trustedFields, Html.NoContainerIn field := by
    intro n hn
    obtain ⟨hquestions, hheader⟩ := hsections n hn
    rw [SectionNode.trustedFields_of_nil hquestions, hheader]
    exact List.forall_mem_singleton.mpr hdescription
  obtain ⟨htrusted, hcontainers⟩ := plan_containers default s _ _ _ hplan
  exact ⟨_, hplan, hfields, hcontainers (htrusted hfields)⟩

end DocumentMaker

end FormPress
