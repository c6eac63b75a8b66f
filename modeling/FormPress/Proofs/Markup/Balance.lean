/-
  FormPress.Proofs.Markup.Balance

  Texts whose tags open and close in matching order.  A tag reaches from an opening
  bracket to the next closing one (`tagsFrom`); the elements that it leaves open are
  a stack (`settle`).  Balanced texts leave any stack as it is, so they may be put
  one after the other and between the two tags of an element (`Balanced.append`,
  `Balanced.enclosed`).  A tree whose tags are read as they are meant is written as a
  balanced text if its trusted texts are (`Html.Each.balanced`).
-/
import FormPress.Proofs.Markup.Inner
import FormPress.Proofs.Markup.Starts

namespace FormPress

/-! ## Reading tags -/

/-- The tags of a text, without their brackets.  What has been read of the tag at the front is
    given, last character first.  An opening bracket without a closing one after it begins a tag
    that does not end; such a text has no tags in order, for in a document what comes after it
    would be read as part of that tag. -/
def tagsFrom : Option (List Char) → List Char → Option (List (List Char))
  | none, [] => some []
  | some _, [] => none
  | none, c :: s => if c = '<' then tagsFrom (some []) s else tagsFrom none s
  | some read, c :: s =>
    if c = '>' then (tagsFrom none s).map (read.reverse :: ·) else tagsFrom (some (c :: read)) s

/-- What a tag does to the elements that are open. -/
inductive TagRole where
  | opens (name : List Char)
  | closes (name : List Char)
  | neither
  deriving Repr, DecidableEq

/-- The name in a tag, in small letters. -/
def tagName (tag : List Char) : List Char :=
  let named := match tag with
    | '/' :: rest => rest
    | _ => tag
  (named.takeWhile fun c => !c.isWhitespace && c != '/').map Char.toLower

/-- Whether a tag stands alone: the document type, a tag that closes itself, one without content. -/
def standsAlone (tag : List Char) : Bool :=
  (tag.take 8).map Char.toLower == "!doctype".toList || tag.getLast? == some '/' ||
    voidNames.any fun name => name.toList == tagName tag

/-- What a tag does. -/
def tagRole (tag : List Char) : TagRole :=
  if standsAlone tag then .neither
  else if tag.head? = some '/' then .closes (tagName tag)
  else .opens (tagName tag)

/-- The elements open after a tag; a tag that closes another element than the last one opened is
    out of order. -/
def TagRole.onto : TagRole → List (List Char) → Option (List (List Char))
  | neither, stack => some stack
  | opens name, stack => some (name :: stack)
  | closes name, top :: stack => if name = top then some stack else none
  | closes _, [] => none

/-- The elements open after some tags. -/
def settle : List (List Char) → List (List Char) → Option (List (List Char))
  | [], stack => some stack
  | tag :: tags, stack => ((tagRole tag).onto stack).bind (settle tags)

/-- A text whose tags open and close in matching order. -/
def Balanced (s : String) : Prop := (tagsFrom none s.toList).bind (settle · []) = some []

instance (s : String) : Decidable (Balanced s) :=
  inferInstanceAs (Decidable (_ = _))

/-! ## Putting texts together -/

/-- The tags of two texts are those of the first and those of the second. -/
theorem tagsFrom_append {inside : Option (List Char)} {s : List Char} {tags : List (List Char)}
    (h : tagsFrom inside s = some tags) (t : List Char) :
    tagsFrom inside (s ++ t) = (tagsFrom none t).map (tags ++ ·) := by
  -- The text ends outside of a tag, so what follows it is read from the beginning.
  induction s generalizing inside tags with
  | nil =>
      cases inside with
      | none =>
          cases h
          rw [List.nil_append]
          cases tagsFrom none t <;> rfl
      | some read => cases h
  | cons c s ih =>
      rw [List.cons_append]
      cases inside with
      | none =>
          rw [tagsFrom] at h ⊢
          by_cases hc : c = '<'
          · rw [if_pos hc] at h ⊢
            exact ih h
          · rw [if_neg hc] at h ⊢
            exact ih h
      | some read =>
          rw [tagsFrom] at h ⊢
          by_cases hc : c = '>'
          · rw [if_pos hc] at h ⊢
            obtain ⟨rest, hrest, rfl⟩ := Option.map_eq_some_iff.mp h
            rw [ih hrest, Option.map_map]
            rfl
          · rw [if_neg hc] at h ⊢
            exact ih h

/-- Tags are settled one after the other. -/
theorem settle_append (xs ys stack : List (List Char)) :
    settle (xs ++ ys) stack = (settle xs stack).bind (settle ys) := by
  induction xs generalizing stack with
  | nil => rfl
  | cons x xs ih =>
      rw [List.cons_append, settle, settle, Option.bind_assoc]
      exact congrArg _ (funext ih)

/-- A tag does the same with other elements open below. -/
theorem TagRole.onto_append {role : TagRole} {stack stack' : List (List Char)}
    (h : role.onto stack = some stack') (below : List (List Char)) :
    role.onto (stack ++ below) = some (stack' ++ below) := by
  cases role with
  | neither =>
      cases h
      rfl
  | opens name =>
      cases h
      rfl
  | closes name =>
      cases stack with
      | nil => cases h
      | cons top stack =>
          rw [TagRole.onto] at h
          rw [List.cons_append, TagRole.onto]
          by_cases hname : name = top
          · rw [if_pos hname] at h ⊢
            cases h
            rfl
          · rw [if_neg hname] at h
            cases h

/-- Elements that are open before some tags make no difference to them. -/
theorem settle_below {tags stack stack' : List (List Char)} (h : settle tags stack = some stack')
    (below : List (List Char)) : settle tags (stack ++ below) = some (stack' ++ below) := by
  induction tags generalizing stack with
  | nil =>
      cases h
      rfl
  | cons tag tags ih =>
      rw [settle] at h ⊢
      obtain ⟨next, hnext, hrest⟩ := Option.bind_eq_some_iff.mp h
      -- Each tag only touches the top of the stack.
      rw [TagRole.onto_append hnext below]
      exact ih hrest

/-- A balanced text has its tags in order and leaves open what was open before it. -/
theorem Balanced.exists_tags {s : String} (h : Balanced s) :
    ∃ tags, tagsFrom none s.toList = some tags ∧ ∀ stack, settle tags stack = some stack := by
  obtain ⟨tags, htags, hsettle⟩ := Option.bind_eq_some_iff.mp h
  exact ⟨tags, htags, settle_below hsettle⟩

theorem Balanced.of_tags {s : String} {tags : List (List Char)}
    (htags : tagsFrom none s.toList = some tags) (hsettle : settle tags [] = some []) :
    Balanced s := by
  rw [Balanced, htags]
  exact hsettle

/-- Balanced texts in a row are balanced. -/
theorem Balanced.append {s t : String} (hs : Balanced s) (ht : Balanced t) : Balanced (s ++ t) := by
  obtain ⟨xs, hxs, hsettle⟩ := hs.exists_tags
  obtain ⟨ys, hys, hsettle'⟩ := ht.exists_tags
  -- The first text ends outside of its tags, so the second one is read from its beginning.
  have htags : tagsFrom none (s ++ t).toList = some (xs ++ ys) := by
    rw [String.toList_append, tagsFrom_append hxs, hys]
    rfl
  refine .of_tags htags ?_
  rw [settle_append, hsettle]
  exact hsettle' []

/-- A text without opening brackets is balanced. -/
theorem Balanced.of_plain {s : String} (h : Plain s) : Balanced s := by
  have hnone {l : List Char} (hl : '<' ∉ l) : tagsFrom none l = some [] := by
    induction l with
    | nil => rfl
    | cons c l ih =>
        rw [List.mem_cons, not_or] at hl
        rw [tagsFrom, if_neg (Ne.symm hl.1), ih hl.2]
  exact .of_tags (hnone h) rfl

/-- The tag at the front of a text goes on to the first closing bracket. -/
theorem tagsFrom_tag {tag : List Char} (htag : '>' ∉ tag) (s : List Char) :
    tagsFrom none ('<' :: tag ++ '>' :: s) = (tagsFrom none s).map (tag :: ·) := by
  -- What has been read of the tag grows by one character at each step.
  have hread (read tag : List Char) (htag : '>' ∉ tag) :
      tagsFrom (some read) (tag ++ '>' :: s) =
        (tagsFrom none s).map ((read.reverse ++ tag) :: ·) := by
    induction tag generalizing read with
    | nil => rw [List.nil_append, tagsFrom, if_pos rfl, List.append_nil]
    | cons c tag ih =>
        rw [List.mem_cons, not_or] at htag
        rw [List.cons_append, tagsFrom, if_neg (Ne.symm htag.1), ih _ htag.2, List.reverse_cons,
          List.append_assoc, List.singleton_append]
  rw [List.cons_append, tagsFrom, if_pos rfl, hread [] tag htag, List.reverse_nil, List.nil_append]

/-- The characters of a tag in its brackets. -/
theorem toList_bracketed (tag : String) : ("<" ++ tag ++ ">").toList = '<' :: tag.toList ++ ['>'] := by
  rw [String.toList_append, String.toList_append]
  rfl

/-- A tag in its brackets is the only one of the text. -/
theorem tags_bracketed {tag : String} (htag : '>' ∉ tag.toList) :
    tagsFrom none ("<" ++ tag ++ ">").toList = some [tag.toList] := by
  rw [toList_bracketed, tagsFrom_tag htag]
  rfl

/-- A tag that stands alone is balanced. -/
theorem Balanced.alone {tag : String} (htag : '>' ∉ tag.toList)
    (halone : standsAlone tag.toList = true) : Balanced ("<" ++ tag ++ ">") := by
  refine .of_tags (tags_bracketed htag) ?_
  rw [settle, tagRole, if_pos halone]
  rfl

/-- A balanced text between a tag and the one that closes it is balanced with them. -/
theorem Balanced.enclosed {tag stop inner : String} {name : List Char} (htag : '>' ∉ tag.toList)
    (hopens : tagRole tag.toList = .opens name) (hstop : '>' ∉ stop.toList)
    (hcloses : tagRole stop.toList = .closes name) (hinner : Balanced inner) :
    Balanced ("<" ++ tag ++ ">" ++ inner ++ ("<" ++ stop ++ ">")) := by
  obtain ⟨tags, htags, hsettle⟩ := hinner.exists_tags
  have hall : tagsFrom none ("<" ++ tag ++ ">" ++ inner ++ ("<" ++ stop ++ ">")).toList =
      some (tag.toList :: tags ++ [stop.toList]) := by
    rw [String.toList_append, String.toList_append, List.append_assoc,
      tagsFrom_append (tags_bracketed htag), tagsFrom_append htags, tags_bracketed hstop]
    rfl
  refine .of_tags hall ?_
  -- The first tag leaves its element open, the text inside does not touch it, and the last tag
  -- closes it.
  rw [settle_append, settle, hopens, TagRole.onto, Option.bind_some, hsettle, Option.bind_some,
    settle, hcloses, TagRole.onto, if_pos rfl]
  rfl

-- An opening bracket that no closing one follows takes the end of the element with it.
example : ¬ Balanced ("<" ++ "p" ++ ">" ++ "1 < 2" ++ ("<" ++ "/p" ++ ">")) := by decide

/-! ## Tags of trees -/

/-- The characters of names are none of those that end or mark a tag. -/
theorem isNameChar_ne {c d : Char} (h : isNameChar c = true) (hd : isNameChar d = false) :
    c ≠ d := by
  rintro rfl
  rw [h] at hd
  cases hd

theorem isNameChar_isWhitespace {c : Char} (h : isNameChar c = true) : c.isWhitespace = false := by
  rw [Bool.eq_false_iff]
  intro hblank
  have hcases : c = ' ' ∨ c = '\t' ∨ c = '\r' ∨ c = '\n' := by
    simpa [Char.isWhitespace, or_assoc] using hblank
  obtain rfl | rfl | rfl | rfl := hcases <;> exact absurd h (by decide)

/-- Names are written in small letters. -/
theorem isNameChar_toLower {c : Char} (h : isNameChar c = true) : c.toLower = c := by
  rw [isNameChar, Bool.or_eq_true, Bool.or_eq_true, beq_iff_eq] at h
  refine dif_neg ?_
  rintro ⟨hlow, hhigh⟩
  have hlow : 65 ≤ c.toNat := UInt32.le_iff_toNat_le.mp hlow
  have hhigh : c.toNat ≤ 90 := UInt32.le_iff_toNat_le.mp hhigh
  -- hdigit) | A small letter lies above the capital ones, a digit and the hyphen below them.
  obtain (hletter | hdigit) | rfl := h
  · have hletter : 97 ≤ c.toNat :=
      UInt32.le_iff_toNat_le.mp (of_decide_eq_true (Bool.and_eq_true_iff.mp hletter).1)
    omega
  · have hdigit : c.toNat ≤ 57 :=
      UInt32.le_iff_toNat_le.mp (of_decide_eq_true (Bool.and_eq_true_iff.mp hdigit).2)
    omega
  · exact absurd hlow (by decide)

/-- A character that is in no part is not in the joined text. -/
theorem not_mem_join {c : Char} {ss : List String} (h : ∀ s ∈ ss, c ∉ s.toList) :
    c ∉ (String.join ss).toList := by
  induction ss with
  | nil => exact List.not_mem_nil
  | cons s ss ih =>
      obtain ⟨hs, hss⟩ := List.forall_mem_cons.mp h
      rw [String.join_cons, String.toList_append, List.mem_append, not_or]
      exact ⟨hs, ih hss⟩

/-- An escaped text has no closing bracket. -/
theorem not_mem_escape (s : String) : '>' ∉ (escape s).toList := by
  intro hmem
  have hnone := markupOf_escape s
  rw [markupOf, List.filter_eq_nil_iff] at hnone
  exact hnone _ hmem rfl

/-- An attribute does not end the tag that it stands in. -/
theorem Attr.staysInTag_render {a : Attr} (h : a.staysInTag = true) : '>' ∉ a.render.toList := by
  rw [staysInTag, Bool.and_eq_true, Bool.not_eq_true', List.contains_eq_mem, decide_eq_false_iff_not,
    List.all_eq_true] at h
  have hvalue : '>' ∉ (String.join (a.parts.map AttrPart.render)).toList := by
    refine not_mem_join (List.forall_mem_map.mpr fun part hpart => ?_)
    have hstays := h.2 part hpart
    -- What the program writes has no closing bracket, and what was given is escaped.
    cases part with
    | fixed s => simpa [AttrPart.render] using hstays
    | value s => exact not_mem_escape s
  have hspace : '>' ∉ " ".toList := by decide
  have hopen : '>' ∉ "=\"".toList := by decide
  have hclose : '>' ∉ "\"".toList := by decide
  simp only [render, String.toList_append, List.mem_append, not_or]
  exact ⟨⟨⟨⟨hspace, h.1⟩, hopen⟩, hvalue⟩, hclose⟩

/-- The attributes of a tag are none, or begin with a space and end with a quote. -/
theorem renderAttrs_ends (attrs : List Attr) :
    (renderAttrs attrs).toList = [] ∨
      ∃ inner, (renderAttrs attrs).toList = ' ' :: (inner ++ ['"']) := by
  induction attrs with
  | nil => exact .inl rfl
  | cons a attrs ih =>
      have hfirst : ∃ inner, a.render.toList = ' ' :: (inner ++ ['"']) := by
        refine ⟨(a.name ++ "=\"" ++ String.join (a.parts.map AttrPart.render)).toList, ?_⟩
        simp only [Attr.render, String.toList_append]
        simp
      obtain ⟨inner, hinner⟩ := hfirst
      have hcons : (renderAttrs (a :: attrs)).toList =
          a.render.toList ++ (renderAttrs attrs).toList := by
        rw [renderAttrs, List.map_cons, String.join_cons, String.toList_append, renderAttrs]
      rw [hcons, hinner]
      -- The last attribute gives the end, the first one the beginning.
      obtain hnil | ⟨rest, hrest⟩ := ih
      · exact .inr ⟨inner, by rw [hnil, List.append_nil]⟩
      · refine .inr ⟨inner ++ '"' :: ' ' :: rest, ?_⟩
        rw [hrest]
        simp

/-- What is written of a tag up to its end. -/
def Start.text (s : Start) : String := s.name ++ renderAttrs s.attrs

namespace Start.Sound

variable {s : Start}

theorem nameChar (h : s.Sound) {c : Char} (hc : c ∈ s.name.toList) : isNameChar c = true :=
  List.all_eq_true.mp h.chars c hc

theorem toList_ne_nil (h : s.Sound) : s.name.toList ≠ [] := fun hnil =>
  h.named (String.toList_eq_nil_iff.mp hnil)

theorem text_toList (s : Start) : s.text.toList = s.name.toList ++ (renderAttrs s.attrs).toList :=
  String.toList_append

/-- A tag that is read as it is meant goes on to its own end. -/
theorem text_stays (h : s.Sound) : '>' ∉ s.text.toList := by
  rw [text_toList, List.mem_append, not_or]
  constructor
  · exact fun hmem => absurd (h.nameChar hmem) (by decide)
  · refine not_mem_join (List.forall_mem_map.mpr fun a ha => ?_)
    exact Attr.staysInTag_render (List.all_eq_true.mp h.attrs a ha)

/-- A name is read up to what does not belong to it. -/
theorem takeName (h : s.Sound) {rest : List Char}
    (hrest : rest = [] ∨ ∃ tail, rest = ' ' :: tail) :
    ((s.name.toList ++ rest).takeWhile fun c => !c.isWhitespace && c != '/').map Char.toLower =
      s.name.toList := by
  have hall : ∀ c ∈ s.name.toList, (!c.isWhitespace && c != '/') = true := by
    intro c hc
    rw [isNameChar_isWhitespace (h.nameChar hc), Bool.not_false, Bool.true_and, bne_iff_ne]
    exact isNameChar_ne (h.nameChar hc) (by decide)
  have hlower : s.name.toList.map Char.toLower = s.name.toList :=
    (List.map_congr_left fun c hc => isNameChar_toLower (h.nameChar hc)).trans (List.map_id' _)
  -- Behind the name comes a space, or nothing.
  have hnone : rest.takeWhile (fun c => !c.isWhitespace && c != '/') = [] := by
    obtain rfl | ⟨tail, rfl⟩ := hrest
    · rfl
    · rfl
  rw [List.takeWhile_append_of_pos hall, hnone, List.append_nil, hlower]

/-- The attributes of a tag are none, or begin with a space. -/
theorem attrs_front (s : Start) :
    (renderAttrs s.attrs).toList = [] ∨ ∃ tail, (renderAttrs s.attrs).toList = ' ' :: tail :=
  (renderAttrs_ends s.attrs).imp_right fun ⟨inner, hinner⟩ => ⟨inner ++ ['"'], hinner⟩

/-- What is written of a tag begins with a character of a name. -/
theorem text_head (h : s.Sound) (rest : List Char) :
    ∃ c tail, s.name.toList ++ rest = c :: tail ∧ isNameChar c = true := by
  obtain ⟨c, cs, hchars⟩ := List.exists_cons_of_ne_nil h.toList_ne_nil
  refine ⟨c, cs ++ rest, by rw [hchars, List.cons_append], h.nameChar ?_⟩
  rw [hchars]
  exact List.mem_cons_self ..

/-- The name in a tag is that of its element. -/
theorem tagName_text (h : s.Sound) : tagName s.text.toList = s.name.toList := by
  obtain ⟨c, tail, hfront, hc⟩ := h.text_head (renderAttrs s.attrs).toList
  rw [text_toList, tagName]
  · exact h.takeName (attrs_front s)
  · intro rest hslash
    rw [hfront] at hslash
    exact isNameChar_ne hc (by decide) (List.cons.inj hslash).1

theorem tagName_closing (h : s.Sound) : tagName ('/' :: s.name.toList) = s.name.toList := by
  have hname := h.takeName (.inl rfl)
  rwa [List.append_nil] at hname

/-- A tag with content behind it, and the one that closes it, do not stand alone. -/
theorem not_standsAlone (h : s.Sound) (hended : s.ending = none) {tag : List Char}
    (hname : tagName tag = s.name.toList) (hfirst : ∀ c, tag.head? = some c → c.toLower ≠ '!')
    (hlast : tag.getLast? ≠ some '/') : standsAlone tag = false := by
  -- An element with content has no name of those that never have any.
  have hvoid : voidNames.contains s.name = false := by
    have hended' := h.ended
    rw [Start.isEnded, hended] at hended'
    simpa using hended'
  have hdoctype : ((tag.take 8).map Char.toLower == "!doctype".toList) = false := by
    rw [beq_eq_false_iff_ne]
    intro heq
    cases tag with
    | nil => exact absurd heq (by decide)
    | cons c tag =>
        exact hfirst c rfl (List.cons.inj heq).1
  have hnames : (voidNames.any fun name => name.toList == tagName tag) = false := by
    rw [List.any_eq_false]
    intro name hmem heq
    rw [beq_iff_eq, hname, String.toList_inj] at heq
    rw [List.contains_eq_mem, decide_eq_false_iff_not] at hvoid
    exact hvoid (heq ▸ hmem)
  rw [standsAlone, hdoctype, hnames, beq_eq_false_iff_ne.mpr hlast]
  rfl

/-- A tag does not end with a slash unless one is written behind its attributes. -/
theorem text_getLast? (h : s.Sound) : s.text.toList.getLast? ≠ some '/' := by
  intro hlast
  rw [text_toList] at hlast
  -- The last character belongs to the name, or it is the quote of the last attribute.
  obtain hnil | ⟨inner, hinner⟩ := renderAttrs_ends s.attrs
  · rw [hnil, List.append_nil] at hlast
    exact absurd (h.nameChar (List.mem_of_getLast? hlast)) (by decide)
  · rw [hinner, ← List.cons_append, ← List.append_assoc, List.getLast?_concat] at hlast
    exact absurd hlast (by decide)

/-- The tag of an element with content opens it. -/
theorem opens (h : s.Sound) (hended : s.ending = none) :
    tagRole s.text.toList = .opens s.name.toList := by
  obtain ⟨c, tail, hfront, hc⟩ := h.text_head (renderAttrs s.attrs).toList
  have hhead : s.text.toList.head? = some c := by rw [text_toList, hfront, List.head?_cons]
  have hfirst : ∀ d, s.text.toList.head? = some d → d.toLower ≠ '!' := by
    intro d hd
    obtain rfl : c = d := Option.some.inj (hhead.symm.trans hd)
    rw [isNameChar_toLower hc]
    exact isNameChar_ne hc (by decide)
  have hslash : s.text.toList.head? ≠ some '/' := by
    rw [hhead, ne_eq, Option.some_inj]
    exact isNameChar_ne hc (by decide)
  rw [tagRole, h.not_standsAlone hended h.tagName_text hfirst h.text_getLast?,
    if_neg Bool.false_ne_true, if_neg hslash, h.tagName_text]

/-- The end of an element closes it. -/
theorem closes (h : s.Sound) (hended : s.ending = none) :
    tagRole ("/" ++ s.name).toList = .closes s.name.toList := by
  have hchars : ("/" ++ s.name).toList = '/' :: s.name.toList := String.toList_append
  have hfirst : ∀ d, ('/' :: s.name.toList).head? = some d → d.toLower ≠ '!' := by
    rintro d hd
    obtain rfl : '/' = d := Option.some.inj hd
    decide
  have hlast : ('/' :: s.name.toList).getLast? ≠ some '/' := by
    obtain ⟨c, cs, hname⟩ := List.exists_cons_of_ne_nil h.toList_ne_nil
    intro hlast
    rw [hname, List.getLast?_cons_cons, ← hname] at hlast
    exact absurd (h.nameChar (List.mem_of_getLast? hlast)) (by decide)
  rw [hchars, tagRole, h.not_standsAlone hended h.tagName_closing hfirst hlast,
    if_neg Bool.false_ne_true, List.head?_cons, if_pos rfl, h.tagName_closing]

end Start.Sound

/-! ## Trees -/

namespace Html

theorem balanced_charRef (code : Nat) : Balanced (charRef code).render := by
  have hopen : Plain "&#" := .of_chars rfl (by decide)
  have hclose : Plain ";" := .of_chars rfl (by decide)
  rw [render]
  exact .of_plain ((hopen.append (.natText code)).append hclose)

theorem balanced_doctype : Balanced doctype.render := by
  have hrender : doctype.render = "<" ++ "!DOCTYPE html" ++ ">" := rfl
  rw [hrender]
  exact .alone (by decide) (by decide)

theorem balanced_style {sheet : String} (h : Plain sheet) : Balanced (style sheet).render := by
  have hbreak : Plain "\n" := .of_chars rfl (by decide)
  have hopens : tagRole "style".toList = .opens "style".toList := by decide
  have hcloses : tagRole "/style".toList = .closes "style".toList := by decide
  have hall := Balanced.enclosed (by decide) hopens (by decide) hcloses (.of_plain (hbreak.append h))
  have hopen : "<style>\n" = "<" ++ "style" ++ ">" ++ "\n" := rfl
  have hclose : "</style>" = "<" ++ "/style" ++ ">" := rfl
  simpa only [render, hopen, hclose, String.append_assoc] using hall

/-- A tag that ends with a slash stands alone, and so does one without content. -/
theorem balanced_lone {tag : String} {attrs : List Attr} {ending : LoneEnd}
    (h : (⟨tag, attrs, some ending⟩ : Start).Sound) : Balanced (lone tag attrs ending).render := by
  have hstays : '>' ∉ (tag ++ renderAttrs attrs).toList := h.text_stays
  have hslash (stop : String) (hstop : '>' ∉ stop.toList) (hlast : stop.toList.getLast? = some '/') :
      Balanced ("<" ++ (tag ++ renderAttrs attrs ++ stop) ++ ">") := by
    refine .alone ?_ ?_
    · rw [String.toList_append, List.mem_append, not_or]
      exact ⟨hstays, hstop⟩
    · rw [standsAlone, String.toList_append, List.getLast?_append, hlast]
      simp
  cases ending with
  | plain =>
      -- Without a slash it is the name that tells.
      have hvoid : standsAlone (tag ++ renderAttrs attrs).toList = true := by
        have hended : voidNames.contains tag = true := h.ended
        have hname : tagName (tag ++ renderAttrs attrs).toList = tag.toList := h.tagName_text
        have hnames : (voidNames.any fun name => name.toList == tag.toList) = true := by
          rw [List.any_eq_true]
          exact ⟨tag, List.mem_of_elem_eq_true hended, beq_self_eq_true _⟩
        rw [standsAlone, hname, hnames, Bool.or_true]
      have hall := Balanced.alone hstays hvoid
      simpa only [render, LoneEnd.render, String.append_assoc] using hall
  | slash =>
      have hall := hslash "/" (by decide) (by decide)
      have hstop : "/>" = "/" ++ ">" := rfl
      simpa only [render, LoneEnd.render, hstop, String.append_assoc] using hall
  | spacedSlash =>
      have hall := hslash " /" (by decide) (by decide)
      have hstop : " />" = " /" ++ ">" := rfl
      simpa only [render, LoneEnd.render, hstop, String.append_assoc] using hall

/-- An element is balanced if its content is. -/
theorem balanced_element {tag : String} {attrs : List Attr} {children : List Html}
    (h : (⟨tag, attrs, none⟩ : Start).Sound) (hinner : Balanced (renderAll children)) :
    Balanced (element tag attrs children).render := by
  have hstop : '>' ∉ ("/" ++ tag).toList := by
    rw [String.toList_append, List.mem_append, not_or]
    exact ⟨by decide, fun hmem => absurd (h.nameChar hmem) (by decide)⟩
  have hall := Balanced.enclosed h.text_stays (h.opens rfl) hstop (h.closes rfl) hinner
  have hslash : "</" = "<" ++ "/" := rfl
  simpa only [render, Start.text, hslash, String.append_assoc] using hall

mutual

/-- Markup whose tags are read as they are meant is balanced if its trusted texts are. -/
theorem Each.balanced : ∀ {h : Html}, h.Each Start.Sound →
    (∀ t ∈ h.trusted, Balanced (richText t)) → Balanced h.render
  | text s, _, _ => .of_plain (.escape s)
  | charRef code, _, _ => balanced_charRef code
  | rich s, _, htrusted => htrusted s (List.mem_singleton_self s)
  | doctype, _, _ => balanced_doctype
  | style _, h, _ => balanced_style h
  | lone .., h, _ => balanced_lone h
  | element .., ⟨hstart, hchildren⟩, htrusted =>
      balanced_element hstart (hchildren.balanced htrusted)

theorem EachAll.balanced : ∀ {hs : List Html}, EachAll Start.Sound hs →
    (∀ t ∈ trustedAll hs, Balanced (richText t)) → Balanced (renderAll hs)
  | [], _, _ => .of_plain (.of_chars rfl (by decide))
  | h :: hs, ⟨hfirst, hrest⟩, htrusted => by
      rw [renderAll]
      exact (hfirst.balanced fun t ht => htrusted t (List.mem_append_left _ ht)).append
        (hrest.balanced fun t ht => htrusted t (List.mem_append_right _ ht))

end

end Html

end FormPress
