/-
  FormPress.Proofs.Document.Balance

  The tags of whole documents.  All that stands around the sections is markup whose
  tags are read as they are meant, without any trusted text; so if the trusted texts
  of the sections are balanced as they are printed, then every text of a plan is
  (`DocumentMaker.plan_wellFormed`), the cover with or without its style sheet.
-/
import FormPress.Proofs.Document.Containers
import FormPress.Proofs.Markup.Balance
import FormPress.Proofs.Pages.Numbering
import FormPress.Proofs.Section.Starts

namespace FormPress

-- A tag of a template is checked by taking it apart down to its names and fixed texts.
attribute [local simp] Start.sound_iff Start.isEnded voidNames isNameChar Attr.staysInTag Html.cls
  Html.attr Html.attrOf

namespace Html

/-! ## Pages -/

/-- A page with any style sheet; a `page` is one with that of the printed pages. -/
def pageWith (sheet : String) (content : List Html) : List Html :=
  [doctype, eol, spanning 0 "html" []
    (block 0 "head" []
        (line 0 [lone "meta" [attr "charset" "UTF-8"] .plain] ++ line 0 [style sheet]) ++
      block 0 "body" [] content)]

/-- What stands in front of the style sheet of a page. -/
def sheetStart : String := "<!DOCTYPE html>\n<html>\n<head>\n<meta charset=\"UTF-8\">\n<style>\n"

/-- What stands between the style sheet of a page and its content. -/
def sheetEnd : String := "</style>\n</head>\n<body>\n"

/-- A page is its style sheet with what stands in front of it and behind it. -/
theorem renderAll_pageWith (sheet : String) (content : List Html) :
    renderAll (pageWith sheet content) =
      sheetStart ++ sheet ++ (sheetEnd ++ renderAll content ++ documentEnd) := by
  have hstart : sheetStart = "<!DOCTYPE html>" ++ "\n" ++ "<html>" ++ "\n" ++ "<head>" ++ "\n" ++
      ("<" ++ "meta" ++ renderAttrs [attr "charset" "UTF-8"] ++ ">") ++ "\n" ++ "<style>\n" := by
    decide
  have hmiddle : sheetEnd = "</style>" ++ "\n" ++ ("</" ++ "head" ++ ">") ++ "\n" ++ "<body>" ++
      "\n" := by decide
  have hend : documentEnd = "</" ++ "body" ++ ">" ++ "\n" ++ ("</" ++ "html" ++ ">") := by decide
  have hhead : "<" ++ "head" ++ renderAttrs [] ++ ">" = "<head>" := by decide
  have heol : eol.render = "\n" := rfl
  have hpad : (pad 0).render = "" := rfl
  rw [pageWith, renderAll, renderAll, renderAll_singleton, render_spanning_zero, renderAll_append,
    renderAll_block_zero, renderAll_block_zero, render_spanning_zero, render_spanning_zero,
    htmlTag_eq, bodyElementTag_eq, hhead, hstart, hmiddle, hend]
  simp only [line, renderAll, render, LoneEnd.render, heol, hpad, List.cons_append,
    List.nil_append, String.append_assoc, String.empty_append, String.append_empty]

/-- The tags of a page are read as they are meant if those of its content are. -/
theorem sound_pageWith {sheet : String} {content : List Html} (hsheet : Plain sheet)
    (hcontent : EachAll Start.Sound content) : EachAll Start.Sound (pageWith sheet content) := by
  have hstyle : (style sheet).Each Start.Sound := (each_style sheet).mpr hsheet
  simp [pageWith, hstyle, hcontent]

/-- A page trusts what its content does. -/
theorem trustedAll_pageWith (sheet : String) (content : List Html) :
    trustedAll (pageWith sheet content) = trustedAll content := by
  have hstyle : trustedAll [style sheet] = [] := rfl
  have hdoctype (hs : List Html) : trustedAll (doctype :: hs) = trustedAll hs := rfl
  simp [pageWith, spanning, hstyle, hdoctype]

/-- A page is balanced, whatever its style sheet says. -/
theorem balanced_pageWith {sheet : String} {content : List Html} (hsheet : Plain sheet)
    (hcontent : EachAll Start.Sound content)
    (htrusted : ∀ t ∈ trustedAll content, Balanced (richText t)) :
    Balanced (renderAll (pageWith sheet content)) := by
  refine (sound_pageWith hsheet hcontent).balanced fun t ht => htrusted t ?_
  rwa [trustedAll_pageWith] at ht

/-! ## Headings of any level -/

/-- Numerals may stand in the name of a tag. -/
theorem isNameChar_natText (n : Nat) : (toString n).toList.all FormPress.isNameChar = true := by
  rw [List.all_eq_true]
  intro c hc
  rw [Nat.toString_eq_repr, Nat.repr, String.toList_ofList] at hc
  have hdigit : c.isDigit = true := Nat.isDigit_of_mem_toDigits (by decide) (by decide) hc
  rw [FormPress.isNameChar, hdigit, Bool.or_true, Bool.true_or]

/-- Numerals with a sign may stand in the name of a tag too. -/
theorem isNameChar_intText (k : Int) : (toString k).toList.all FormPress.isNameChar = true := by
  cases k with
  | ofNat n => exact isNameChar_natText n
  | negSucc n =>
      have hchars : (toString (Int.negSucc n)).toList = '-' :: (toString (n + 1)).toList :=
        String.toList_append
      rw [hchars, List.all_cons, isNameChar_natText, Bool.and_true]
      decide

/-- A heading of any level has a tag that is read as it is meant. -/
theorem sound_headingTag (level : Int) : (⟨"h" ++ toString level, [], none⟩ : Start).Sound := by
  have hchars : ("h" ++ toString level).toList = 'h' :: (toString level).toList :=
    String.toList_append
  have hnames : voidNames.contains ("h" ++ toString level) = false := by
    rw [List.contains_eq_mem, decide_eq_false_iff_not]
    intro hmem
    -- No element without content has a name that begins like that of a heading.
    have hfirst : ∀ name ∈ voidNames, name.toList.head? ≠ some 'h' := by decide
    exact hfirst _ hmem (by rw [hchars, List.head?_cons])
  refine ⟨?_, ?_, rfl, ?_⟩
  · intro hnil
    rw [← String.toList_eq_nil_iff, hchars] at hnil
    cases hnil
  · rw [hchars, List.all_cons, isNameChar_intText, Bool.and_true]
    decide
  · rw [Start.isEnded, hnames]
    rfl

/-! ## What stands around the sections -/

/-- The introduction has tags that are read as they are meant. -/
theorem sound_introPage (i : IntroProfile) : (introPage i).Each Start.Sound := by
  have hblock (b : IntroBlock) : EachAll Start.Sound (introBlock b) := by
    simp only [introBlock, eachAll_append, eachAll_given, eachAll_leaf, eachAll_flatMap]
    exact ⟨⟨fun _ => sound_headingTag b.level, by simp⟩, by simp [maybeBullets]⟩
  simp [introPage, hblock]

/-- The introduction trusts nothing. -/
theorem trusted_introPage (i : IntroProfile) : (introPage i).trusted = [] := by
  have hblock (b : IntroBlock) : trustedAll (introBlock b) = [] := by
    simp [introBlock, maybeBullets]
  simp [introPage, spanning, trusted, hblock]

/-- The body has tags that are read as they are meant if its sections have. -/
theorem sound_bodyContent {i : IntroProfile} {pages : List BodyPage}
    (h : ∀ page ∈ pages, ∀ f ∈ page.fragments, f.content.Each Start.Sound) :
    EachAll Start.Sound (introPage i :: pages.flatMap bodyPage) := by
  rw [eachAll_cons, eachAll_flatMap]
  exact ⟨sound_introPage i, fun page hpage => by simpa [bodyPage] using h page hpage⟩

/-- The body trusts what its sections do. -/
theorem trustedAll_bodyContent (i : IntroProfile) (pages : List BodyPage) :
    trustedAll (introPage i :: pages.flatMap bodyPage) =
      pages.flatMap fun page => page.fragments.flatMap fun f => f.content.trusted := by
  have heol : eol.trusted = [] := rfl
  simp [trustedAll, trusted_introPage, bodyPage, heol]

/-- A picture, if the fixed texts given stay in its tag. -/
theorem sound_picture (address : Option String) {substitute : List AttrPart} {look : List Attr}
    (hsubstitute : (⟨"alt", substitute⟩ : Attr).staysInTag = true)
    (hlook : look.all Attr.staysInTag = true) :
    EachAll Start.Sound (picture address substitute look) := by
  cases address with
  | none => exact eachAll_nil
  | some s =>
      have hnamed : "img" ≠ "" := by decide
      have hchars : "img".toList.all FormPress.isNameChar = true := by decide
      have hsrc : (attrOf "src" s).staysInTag = true := by simp
      rw [picture, eachAll_given, eachAll_cons, each_lone]
      refine fun _ => ⟨⟨hnamed, hchars, ?_, rfl⟩, eachAll_nil⟩
      rw [List.all_append, hlook, List.all_cons, List.all_cons, hsrc, hsubstitute]
      rfl

/-- A long fixed text is not taken apart: its characters are given. -/
theorem staysInTag_attr {name value : String} {l : List Char} (hname : '>' ∉ name.toList)
    (hvalue : value = .ofList l) (h : '>' ∉ l) : (attr name value).staysInTag = true := by
  rw [hvalue]
  simpa using ⟨hname, h⟩

theorem sound_coverWave : EachAll Start.Sound coverWave := by
  rw [coverWave, eachAll_block, eachAll_block, eachAll_line, eachAll_cons, each_lone]
  refine ⟨by simp, by simp, ⟨by decide, by decide, ?_, rfl⟩, eachAll_nil⟩
  rw [List.all_cons, List.all_cons, staysInTag_attr (by decide) rfl (by decide),
    staysInTag_attr (by decide) rfl (by decide)]
  rfl

theorem sound_coverBody (c : Cover) (o : OrganisationProfile) :
    EachAll Start.Sound (coverBody c o) := by
  have hcrest : EachAll Start.Sound (picture c.crest [.value o.name] []) :=
    sound_picture c.crest (by simp) rfl
  have hpicture : (coverPicture c.picture).all Attr.staysInTag = true := by
    cases c.picture with
    | none => rfl
    | some s => by_cases hs : s = "" <;> simp [coverPicture, hs]
  simp [coverBody, sound_coverWave, studentRow, hcrest, hpicture]

theorem trustedAll_coverBody (c : Cover) (o : OrganisationProfile) :
    trustedAll (coverBody c o) = [] := by
  have hcrest : trustedAll (picture c.crest [.value o.name] []) = [] := by
    cases c.crest <;> simp [picture]
  simp [coverBody, coverWave, studentRow, hcrest]

/-! ## What runs through the body -/

theorem staysInTag_look {rules : String} {l : List Char} (hrules : rules = .ofList l)
    (h : '>' ∉ l) : (look rules).staysInTag = true := staysInTag_attr (by decide) hrules h

/-- The tag of an element with a fixed look. -/
theorem sound_look {tag rules : String} {l : List Char} (htag : (⟨tag, [], none⟩ : Start).Sound)
    (hrules : rules = .ofList l) (h : '>' ∉ l) : (⟨tag, [look rules], none⟩ : Start).Sound := by
  refine ⟨htag.named, htag.chars, ?_, htag.ended⟩
  rw [List.all_cons, staysInTag_look hrules h]
  rfl

theorem sound_div : (⟨"div", [], none⟩ : Start).Sound := by simp

theorem sound_span : (⟨"span", [], none⟩ : Start).Sound := by simp

theorem sound_brand (h : RunningHeader) (o : OrganisationProfile) :
    EachAll Start.Sound (brand h o) := by
  have hname : EachAll Start.Sound (brandName o) := by
    rw [brandName, eachAll_block, eachAll_append, eachAll_leaf, eachAll_leaf]
    exact ⟨sound_look sound_div rfl (by decide), sound_look sound_span rfl (by decide),
      sound_look sound_span rfl (by decide)⟩
  have hlogo : EachAll Start.Sound
      (picture h.textLogo [.value o.brandTitle, .fixed " ", .value o.brandSubtitle]
        [look "height:100px;width:auto;object-fit:contain;display:block;"]) := by
    refine sound_picture h.textLogo (by simp) ?_
    rw [List.all_cons, staysInTag_look rfl (by decide)]
    rfl
  rw [brand]
  split
  · exact hname
  · rwa [eachAll_line]

theorem trustedAll_brand (h : RunningHeader) (o : OrganisationProfile) :
    trustedAll (brand h o) = [] := by
  have hname : trustedAll (brandName o) = [] := by simp [brandName]
  have hlogo (substitute : List AttrPart) (look : List Attr) :
      trustedAll (picture h.textLogo substitute look) = [] := by
    cases h.textLogo <;> simp [picture]
  rw [brand]
  split
  · exact hname
  · rw [trustedAll_line, hlogo]

theorem sound_address (o : OrganisationProfile) : EachAll Start.Sound (address o) := by
  have hlink : (⟨"a", [⟨"href", [.fixed "mailto:", .value o.email]⟩,
      look "color:#2563eb;text-decoration:underline;"], none⟩ : Start).Sound := by
    simp [look]
  simp only [address, eachAll_append, eachAll_flatMap, eachAll_given, eachAll_cons, each_element]
  refine ⟨⟨by simp, fun _ => ⟨by simp, ⟨hlink, by simp⟩, by simp⟩⟩, by simp⟩

-- The fixed looks are long lists of characters.
set_option maxRecDepth 1000 in
theorem sound_runningHeader (h : RunningHeader) (o : OrganisationProfile) :
    (runningHeader h o).Each Start.Sound := by
  have hcrest : EachAll Start.Sound (picture h.crest [.value o.name]
      [look "width:210px;height:165px;object-fit:contain;display:block;"]) := by
    refine sound_picture h.crest (by simp) ?_
    rw [List.all_cons, staysInTag_look rfl (by decide)]
    rfl
  simp only [runningHeader, each_spanning, eachAll_append, eachAll_block, eachAll_line,
    eachAll_cons, each_element, eachAll_nil, and_true]
  refine ⟨?_, ⟨⟨⟨?_, ?_⟩, ?_, hcrest⟩, ?_, sound_brand h o⟩, ?_, sound_address o⟩
  all_goals exact sound_look sound_div rfl (by decide)

theorem trusted_runningHeader (h : RunningHeader) (o : OrganisationProfile) :
    (runningHeader h o).trusted = [] := by
  have hcrest (look : List Attr) : trustedAll (picture h.crest [.value o.name] look) = [] := by
    cases h.crest <;> simp [picture]
  simp [runningHeader, spanning, trusted, hcrest, trustedAll_brand, address]

set_option maxRecDepth 1000 in
theorem sound_runningFooter (f : RunningFooter) : (runningFooter f).Each Start.Sound := by
  rw [runningFooter, each_spanning]
  exact ⟨sound_look sound_div rfl (by decide), by simp⟩

theorem trusted_runningFooter (f : RunningFooter) : (runningFooter f).trusted = [] := by
  simp [runningFooter, spanning, trusted]

end Html

/-! ## Documents -/

/-- Every text that a document is printed from has its tags in matching order. -/
structure DocumentPlan.WellFormed (p : DocumentPlan) : Prop where
  fragments : ∀ page ∈ p.pages, ∀ f ∈ page.fragments, Balanced f.html
  body : Balanced p.bodyHtml
  cover : Balanced p.coverHtml
  /-- the style sheet has no part in it -/
  cover_cut : ∃ before after,
    p.coverHtml = before ++ styleSheet ++ after ∧ Balanced (before ++ after)
  header : Balanced p.bodyOptions.header
  footer : Balanced p.bodyOptions.footer

namespace DocumentMaker

variable (maker : DocumentMaker)

/-- Every fragment of a document is that of a section of the snapshot; one on reasonable adjustment
    is made without a number. -/
theorem mem_pagesOf_unnumbered {s : Snapshot} {page : BodyPage} (hpage : page ∈ maker.pagesOf s)
    {f : SectionFragment} (hf : f ∈ page.fragments) :
    ∃ n ∈ s.sections, ∃ number c, f = .ofSection n (.ofSnapshot s) maker.profile number c ∧
      (n.header.mode = .reasonableAdjustment → number = none) := by
  have hmem : f ∈ (maker.pagesOf s).flatMap (·.fragments) := List.mem_flatMap.mpr ⟨page, hpage, hf⟩
  obtain ⟨i, hi⟩ := List.mem_iff_getElem?.mp hmem
  obtain ⟨x, c, hx, heq⟩ := bodyPages_fragment_ofSection _ _ _ _ hi
  -- The number of a fragment is that of its place in the pass over all sections.
  have hnumber : ((maker.pagesOf s).flatMap (·.fragments)).map (·.headingNumber) =
      (maker.profile.numbersOf ((PageGroup.plan s.steps).flatMap PageGroup.steps) 1).1 :=
    bodyPages_headingNumbers ..
  have hat := congrArg (·[i]?) hnumber
  simp only [List.getElem?_map, hi, numbersOf_eq, headingNumbers_getElem?, hx, Option.map_some,
    Option.some_inj] at hat
  rw [plan_steps] at hx
  have hsection : x.2 ∈ s.sections := by
    obtain ⟨step, hstep, hn⟩ := List.mem_flatMap.mp (List.mem_of_getElem? hx)
    obtain ⟨n, hmem, rfl⟩ := List.mem_map.mp hn
    exact List.mem_flatMap.mpr ⟨step, hstep, hmem⟩
  refine ⟨x.2, hsection, f.headingNumber, c, heq, fun hmode => ?_⟩
  rw [hat, Profile.showsNumber, hmode, bne_self_eq_false, Bool.and_false]
  rfl

/-- What a document prints as trusted markup is blank or a text of one of its sections for it. -/
theorem trusted_printed (s : Snapshot) (crest : Option String) (header : RunningHeader) :
    ∀ t ∈ (maker.planWith s crest header).trusted,
      t = "" ∨ ∃ n ∈ s.sections, t ∈ n.richTexts maker.profile := by
  intro t ht
  -- What the document trusts stands in a section of one of its pages.
  obtain ⟨page, hpage, ht⟩ := List.mem_flatMap.mp ht
  obtain ⟨f, hf, ht⟩ := List.mem_flatMap.mp ht
  obtain ⟨n, hn, number, c, rfl, hnumber⟩ := maker.mem_pagesOf_unnumbered hpage hf
  exact (SectionFragment.trusted_printed hnumber ht).imp_right fun ht => ⟨n, hn, ht⟩

/-- The tags of a section in a document are read as they are meant. -/
theorem sound_content {s : Snapshot} {page : BodyPage} (hpage : page ∈ maker.pagesOf s)
    {f : SectionFragment} (hf : f ∈ page.fragments) : f.content.Each Start.Sound := by
  obtain ⟨n, -, number, c, rfl⟩ := maker.mem_pagesOf hpage hf
  exact (SectionFragment.content_tags n _ _ number c).1

/-- A document is well formed if what it trusts is balanced. -/
theorem planWith_wellFormed (s : Snapshot) (crest : Option String) (header : RunningHeader)
    (h : ∀ t ∈ (maker.planWith s crest header).trusted, Balanced (richText t)) :
    (maker.planWith s crest header).WellFormed := by
  have hcover (sheet : String) (hsheet : Plain sheet) :
      Balanced (Html.renderAll (Html.pageWith sheet
        (Html.coverBody (maker.coverWith s crest) maker.profile.organisation))) := by
    refine Html.balanced_pageWith hsheet (Html.sound_coverBody _ _) fun t ht => ?_
    rw [Html.trustedAll_coverBody] at ht
    cases ht
  constructor
  case fragments =>
    intro page hpage f hf
    refine (maker.sound_content hpage hf).balanced fun t ht => h t ?_
    exact List.mem_flatMap.mpr ⟨page, hpage, List.mem_flatMap.mpr ⟨f, hf, ht⟩⟩
  case body =>
    refine Html.balanced_pageWith styleSheet_plain
      (Html.sound_bodyContent fun page hpage f hf => maker.sound_content hpage hf) fun t ht => h t ?_
    rwa [Html.trustedAll_bodyContent] at ht
  case cover => exact hcover styleSheet styleSheet_plain
  case cover_cut =>
    -- The same page with an empty style sheet is the page with the style sheet cut.
    have hcut := hcover "" (.of_chars rfl (by decide))
    rw [Html.renderAll_pageWith, String.append_empty] at hcut
    exact ⟨_, _, Html.renderAll_pageWith styleSheet _, hcut⟩
  case header =>
    refine (Html.sound_runningHeader header maker.profile.organisation).balanced fun t ht => ?_
    rw [Html.trusted_runningHeader] at ht
    cases ht
  case footer =>
    refine (Html.sound_runningFooter (.compose s.form (.ofSnapshot s))).balanced fun t ht => ?_
    rw [Html.trusted_runningFooter] at ht
    cases ht

/-- Every document is well formed if each text that it prints as trusted markup is balanced as it is
    printed, whatever answers, titles, labels, addresses and the profile say. These texts are if the
    descriptions and help texts of the form are; of a description on reasonable adjustment it is the
    two parts that have to be. -/
theorem plan_wellFormed (s : Snapshot) (found found' : Shelf × List LogEntry) (p : DocumentPlan)
    (hplan : maker.plan s found = (.ok p, found')) :
    ((∀ n ∈ s.sections, ∀ t ∈ n.richTexts maker.profile, Balanced (richText t)) →
      ∀ t ∈ p.trusted, Balanced (richText t)) ∧
    ((∀ t ∈ p.trusted, Balanced (richText t)) → p.WellFormed) := by
  obtain ⟨crest, header, rfl⟩ := maker.plan_ok hplan
  refine ⟨fun hfields t ht => ?_, maker.planWith_wellFormed s crest header⟩
  obtain rfl | ⟨n, hn, hmem⟩ := maker.trusted_printed s crest header t ht
  · decide
  · exact hfields n hn t hmem

/-- A document in which two descriptions hold markup of their own. -/
theorem plan_wellFormed_of_description :
    let s := sharedPageSnapshot "Read <b>all</b>\n"
    ∃ p, (default : DocumentMaker).plan s (default, []) = (.ok p, (default, [])) ∧
      (∀ n ∈ s.sections, ∀ t ∈ n.richTexts (default : DocumentMaker).profile,
        Balanced (richText t)) ∧ p.WellFormed := by
  intro s
  have hplan : (default : DocumentMaker).plan s (default, []) =
      (.ok ((default : DocumentMaker).planWith s none ⟨none, none⟩), (default, [])) :=
    plan_default rfl
  have hsections : ∀ n ∈ s.sections, n.questions = [] ∧ n.header.mode = .normal ∧
      n.header.description = some "Read <b>all</b>\n" := by
    simp only [s, sharedPageSnapshot, Snapshot.sections]
    decide
  have htexts : ∀ n ∈ s.sections, ∀ t ∈ n.richTexts (default : DocumentMaker).profile,
      Balanced (richText t) := by
    intro n hn
    obtain ⟨hquestions, hmode, hdescription⟩ := hsections n hn
    rw [SectionNode.richTexts, if_neg (by rw [hmode]; decide),
      SectionNode.trustedFields_of_nil hquestions, hdescription]
    exact List.forall_mem_singleton.mpr (by decide)
  obtain ⟨htrusted, hformed⟩ := plan_wellFormed default s _ _ _ hplan
  exact ⟨_, hplan, htexts, hformed (htrusted htexts)⟩

end DocumentMaker

end FormPress
