/-
  FormPress.Proofs.Document.Inner

  What stands around the page containers of a document and in those of the
  introduction and the cover: the head with its style sheet, the blocks of the
  introduction, and all that a cover says.  None of it opens a container, and none
  of it is trusted markup.
-/
import FormPress.Document.Body
import FormPress.Document.Cover
import FormPress.Proofs.Section.Inner
import FormPress.Proofs.Section.Trusted

namespace FormPress

/-! ## The style sheet -/

/-- Texts without brackets have none when they are joined. -/
theorem Plain.intercalate {separator : String} {ss : List String} (hseparator : Plain separator)
    (h : ∀ s ∈ ss, Plain s) : Plain (separator.intercalate ss) := by
  induction ss with
  | nil => exact .of_markupOf rfl
  | cons s ss ih =>
      obtain ⟨hs, hss⟩ := List.forall_mem_cons.mp h
      cases ss with
      | nil => rwa [String.intercalate_singleton]
      | cons t ss =>
          rw [String.intercalate_cons_cons]
          exact (hs.append hseparator).append (ih hss)

/-- A rule without opening brackets. -/
def StyleRule.IsPlain (r : StyleRule) : Prop :=
  Plain r.selector ∧ ∀ p ∈ r.properties, Plain p.1 ∧ Plain p.2

/-- A rule without brackets is written without any. -/
theorem StyleRule.plain_text {r : StyleRule} (h : r.IsPlain) : Plain r.text := by
  have hproperties : Plain (String.join (r.properties.map fun p => p.1 ++ ": " ++ p.2 ++ "; ")) :=
    .join fun s hs => by
      obtain ⟨p, hp, rfl⟩ := List.mem_map.mp hs
      obtain ⟨hname, hvalue⟩ := h.2 p hp
      exact ((hname.append (.of_chars rfl (by decide))).append hvalue).append
        (.of_chars rfl (by decide))
  exact ((h.1.append (.of_chars rfl (by decide))).append hproperties).append
    (.of_chars rfl (by decide))

theorem styleRules_plain : ∀ rules ∈ styleGroups, ∀ r ∈ rules, r.IsPlain := by
  simp only [styleGroups, StyleRule.IsPlain, List.forall_mem_cons, List.not_mem_nil, false_imp_iff,
    implies_true, and_true]
  and_intros
  all_goals exact .of_chars rfl (by decide)

/-- The style sheet has no brackets. -/
theorem styleSheet_plain : Plain styleSheet := by
  -- First the groups are joined, then the rules of each.
  refine .intercalate (.of_chars rfl (by decide)) fun s hs => ?_
  obtain ⟨rules, hrules, rfl⟩ := List.mem_map.mp hs
  refine .intercalate (.of_chars rfl (by decide)) fun s hs => ?_
  obtain ⟨r, hr, rfl⟩ := List.mem_map.mp hs
  exact StyleRule.plain_text (styleRules_plain rules hrules r hr)

namespace Html

theorem inner_pageHead : InnerAll pageHead := by
  refine .block (.bare rfl (by decide)) (.append (.line (.single (.lone ?_ _))) ?_)
  · exact .of_head rfl (by decide) (.attr rfl rfl (by decide) .nil)
  · exact .line (.single (.style styleSheet_plain))

/-- The head of a page opens no container. -/
theorem neutral_pageHead : Neutral (renderAll pageHead) :=
  inner_pageHead.neutral fun t ht => by simp [pageHead, trustedAll, trusted] at ht

/-! ## The introduction -/

/-- Numbers have no brackets. -/
theorem plain_intText (k : Int) : Plain (toString k) := by
  cases k with
  | ofNat n => exact .natText n
  | negSucc n => exact .append (.of_chars rfl (by decide) : Plain "-") (.natText (n + 1))

theorem inner_introBlock (b : IntroBlock) : InnerAll (introBlock b) := by
  have hheading : OtherTag ("h" ++ toString b.level) [] := by
    have hchars : ("h" ++ toString b.level).toList = 'h' :: (toString b.level).toList := by
      rw [String.toList_append]
      rfl
    exact .of_toList hchars (by decide) (.append (.of_chars rfl (by decide)) (plain_intText _)) .nil
  refine .append (.append (.given _ (.leaf hheading)) (.flatMap fun s _ => ?_)) ?_
  · exact .leaf (.bare rfl (by decide))
  · exact inner_maybeBullets 1 b.bullets

/-- What stands in the container of the introduction opens none itself. -/
theorem introPage_eq (i : IntroProfile) :
    ∃ content, introPage i =
        spanning 0 "div" [attr "class" "step-page intro-page", attr "data-page" "intro"] content ∧
      Neutral (renderAll content) := by
  refine ⟨_, rfl, InnerAll.neutral ?_ fun t ht => ?_⟩
  · exact .append (.leaf (.cls rfl (by decide) rfl (by decide)))
      (.flatMap fun b _ => inner_introBlock b)
  · simp [introBlock, maybeBullets] at ht

/-! ## The cover -/

theorem inner_coverWave : InnerAll coverWave := by
  refine .block (.divCls rfl (by decide)) (.block ?_ (.line (.single (.lone ?_ _))))
  · exact .of_head rfl (by decide) (.attr rfl rfl (by decide) (.attr rfl rfl (by decide) .nil))
  · exact .of_head rfl (by decide) (.attr rfl rfl (by decide) (.attr rfl rfl (by decide) .nil))

theorem inner_studentRow (label value : String) : InnerAll (studentRow label value) := by
  refine .block (.bare rfl (by decide)) (.append (.leaf ?_) (.line (.single (.holding ?_ ?_))))
  · exact .cls rfl (by decide) rfl (by decide)
  · exact .bare rfl (by decide)
  · exact .single (.holding (.cls rfl (by decide) rfl (by decide)) (.single (.text value)))

theorem plainAttrs_coverPicture (address : Option String) : PlainAttrs (coverPicture address) := by
  cases address with
  | none => exact .nil
  | some s =>
      rw [coverPicture]
      split
      · exact .nil
      · refine .cons (.of_chars rfl (by decide)) (fun part hpart => ?_) .nil
        simp only [List.mem_cons, List.not_mem_nil, or_false] at hpart
        obtain rfl | rfl | rfl := hpart
        · exact (.of_chars rfl (by decide) : Plain "background-image:url('")
        · exact .escape s
        · exact (.of_chars rfl (by decide) : Plain "')")

theorem inner_picture (address : Option String) (substitute : String) :
    InnerAll (picture address [.value substitute] []) := by
  cases address with
  | none => exact .nil
  | some s =>
      refine .given _ (.single (.lone (.of_head rfl (by decide) ?_) _))
      exact .attrOf _ rfl (by decide) (.attrOf substitute rfl (by decide) .nil)

/-- What stands in the container of the cover opens none itself. -/
theorem coverBody_eq (c : Cover) (o : OrganisationProfile) :
    ∃ content, coverBody c o =
        block 0 "div" [attr "class" "cover-page", attr "data-page" "cover"] content ∧
      Neutral (renderAll content) := by
  refine ⟨_, rfl, InnerAll.neutral ?_ fun t ht => ?_⟩
  · refine .append (.append (.append (.append (.append (.append ?_ ?_) ?_) ?_) inner_coverWave) ?_)
      ?_
    · refine .line (.single (.empty ?_))
      exact .div rfl (by decide) nofun (plainAttrs_coverPicture c.picture)
    · exact .block (.divCls rfl (by decide)) (inner_picture c.crest o.name)
    · refine .line (.single (.holding (.divCls rfl (by decide)) (.single ?_)))
      exact .holding (.bare rfl (by decide)) (.single (.text _))
    · exact .line (.single (.empty (.divCls rfl (by decide))))
    · exact .block (.divCls rfl (by decide)) (.leaf (.divCls rfl (by decide)))
    · refine .block (.divCls rfl (by decide)) (.block (.cls rfl (by decide) rfl (by decide)) ?_)
      exact .append (inner_studentRow _ _) (inner_studentRow _ _)
  · have hpicture : t ∉ trustedAll (picture c.crest [.value o.name] []) := by
      cases c.crest <;> simp [picture]
    simp [coverWave, studentRow, hpicture] at ht

end Html

end FormPress
