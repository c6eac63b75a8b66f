/-
  FormPress.Proofs.Markup.Inner

  Markup that opens no page container of its own (`Html.Inner`): its tags are not
  those of containers, and trusted texts stand alone in their elements.  When it is
  written out, a container can begin in it only inside a trusted text
  (`Html.Inner.neutral`), whatever is escaped in it.
-/
import FormPress.Proofs.Markup.Outline
import FormPress.Proofs.Markup.Sites

namespace FormPress

/-! ## Texts without opening brackets -/

/-- A text without opening brackets. -/
def Plain (s : String) : Prop := '<' ∉ s.toList

namespace Plain

variable {s t : String}

/-- A text is plain if its characters are; they are given so that the text need not be taken apart. -/
theorem of_chars {l : List Char} (hs : s = .ofList l) (h : '<' ∉ l) : Plain s := by
  rwa [Plain, hs, String.toList_ofList]

/-- Plain texts in a row are plain. -/
theorem append (hs : Plain s) (ht : Plain t) : Plain (s ++ t) := by
  rw [Plain, String.toList_append, List.mem_append]
  exact fun h => h.elim hs ht

/-- A text without markup characters is plain. -/
theorem of_markupOf (h : markupOf s = []) : Plain s := by
  intro hmem
  rw [markupOf, List.filter_eq_nil_iff] at h
  -- An opening bracket would be a markup character.
  exact h '<' hmem rfl

theorem escape (s : String) : Plain (escape s) := of_markupOf (markupOf_escape s)

theorem natText (n : Nat) : Plain (toString n) := of_markupOf (markupOf_natText n)

/-- Plain texts are plain when they are joined. -/
theorem join {ss : List String} (h : ∀ s ∈ ss, Plain s) : Plain (String.join ss) := by
  induction ss with
  | nil => exact of_markupOf rfl
  | cons s ss ih =>
      rw [String.join_cons]
      exact (h s (List.mem_cons_self ..)).append (ih fun t ht => h t (List.mem_cons_of_mem _ ht))

end Plain

/-- Attributes whose names and fixed parts are plain. -/
def PlainAttrs (attrs : List Attr) : Prop := Plain (renderAttrs attrs)

namespace PlainAttrs

variable {attrs : List Attr}

theorem nil : PlainAttrs [] := .of_markupOf rfl

/-- An attribute in front, whose name and parts are plain. -/
theorem cons {name : String} {parts : List AttrPart} (hname : Plain name)
    (hparts : ∀ part ∈ parts, Plain part.render) (hattrs : PlainAttrs attrs) :
    PlainAttrs (⟨name, parts⟩ :: attrs) := by
  have hvalue : Plain (String.join (parts.map AttrPart.render)) :=
    .join fun s hs => by
      obtain ⟨part, hpart, rfl⟩ := List.mem_map.mp hs
      exact hparts part hpart
  have hspace : Plain " " := .of_chars rfl (by decide)
  have hopen : Plain "=\"" := .of_chars rfl (by decide)
  have hclose : Plain "\"" := .of_chars rfl (by decide)
  rw [PlainAttrs, renderAttrs, List.map_cons, String.join_cons, Attr.render]
  exact ((((hspace.append hname).append hopen).append hvalue).append hclose).append hattrs

/-- A fixed attribute in front. -/
theorem attr {name value : String} {n v : List Char} (hn : name = .ofList n)
    (hv : value = .ofList v) (h : '<' ∉ n ∧ '<' ∉ v) (hattrs : PlainAttrs attrs) :
    PlainAttrs (Html.attr name value :: attrs) :=
  .cons (.of_chars hn h.1) (fun part hpart => by
    rw [List.mem_singleton.mp hpart]
    exact .of_chars hv h.2) hattrs

/-- An attribute with a value in front. -/
theorem attrOf {name : String} (value : String) {n : List Char} (hn : name = .ofList n)
    (h : '<' ∉ n) (hattrs : PlainAttrs attrs) : PlainAttrs (Html.attrOf name value :: attrs) :=
  .cons (.of_chars hn h) (fun part hpart => by
    rw [List.mem_singleton.mp hpart]
    exact .escape value) hattrs

end PlainAttrs

/-! ## Containers -/

/-- The classes of page containers. -/
def containerClasses : List String := ["step-page", "cover-page"]

/-- How the tag of a page container begins. -/
def containerMark (name : String) : String := "<div class=\"" ++ name

/-- The characters of a container's tag between its bracket and its class. -/
def divClass : List Char := ['d', 'i', 'v', ' ', 'c', 'l', 'a', 's', 's', '=', '"']

/-- The mark of a container begins with the bracket of its tag. -/
theorem containerMark_toList (name : String) :
    (containerMark name).toList = '<' :: (divClass ++ name.toList) := by
  have h : "<div class=\"".toList = '<' :: divClass := String.toList_ofList
  rw [containerMark, String.toList_append, h]
  rfl

/-- The classes of page containers, character by character. -/
def containerChars : List (List Char) :=
  [['s', 't', 'e', 'p', '-', 'p', 'a', 'g', 'e'],
    ['c', 'o', 'v', 'e', 'r', '-', 'p', 'a', 'g', 'e']]

theorem containerClasses_eq : containerClasses = containerChars.map .ofList := rfl

theorem toList_mem_containerChars {name : String} (h : name ∈ containerClasses) :
    name.toList ∈ containerChars := by
  rw [containerClasses_eq] at h
  obtain ⟨l, hl, rfl⟩ := List.mem_map.mp h
  rwa [String.toList_ofList]

/-- Behind its bracket the mark of a container has no other one. -/
theorem containerClasses_plain {name : String} (h : name ∈ containerClasses) :
    '<' ∉ divClass ++ name.toList := by
  have hall : ∀ l ∈ containerChars, '<' ∉ divClass ++ l := by decide
  exact hall _ (toList_mem_containerChars h)

/-- A text in which no page container begins, whatever follows it. -/
def Neutral (x : String) : Prop :=
  ∀ name ∈ containerClasses, Text.Passes (containerMark name).toList x.toList

namespace Neutral

variable {x y : String}

/-- Neutral texts in a row are neutral. -/
theorem append (hx : Neutral x) (hy : Neutral y) : Neutral (x ++ y) := by
  intro name hname
  rw [String.toList_append]
  exact (hx name hname).append (hy name hname)

/-- A plain text is neutral: without a bracket nothing begins. -/
theorem of_plain (h : Plain x) : Neutral x := by
  intro name _
  rw [containerMark_toList]
  exact .of_plain h

/-- No container begins in a tag that is not one of theirs. -/
theorem tag (hx : Plain x) (h : ∀ name ∈ containerClasses,
    Text.Differ (divClass ++ name.toList) x.toList) : Neutral ("<" ++ x) := by
  intro name hname
  have hopen : "<".toList = ['<'] := String.toList_ofList
  -- Both begin with the bracket, so they must differ behind it.
  rw [containerMark_toList, String.toList_append, hopen]
  exact .tag hx (h name hname)

/-- Tags that do not begin with the first letter of `div` are not those of containers. -/
theorem tag_of_head {c : Char} {l : List Char} (hx : Plain x) (hchars : x.toList = c :: l)
    (hc : 'd' ≠ c) : Neutral ("<" ++ x) := by
  refine .tag hx fun name _ => ?_
  rw [hchars]
  exact .of_head hc

/-- A closing tag is neutral. -/
theorem closing {tag : String} (h : Plain tag) : Neutral ("</" ++ tag ++ ">") := by
  have hslash : "</" = "<" ++ "/" := rfl
  have hchars : ("/" ++ (tag ++ ">")).toList = '/' :: (tag ++ ">").toList := by
    rw [String.toList_append]
    rfl
  rw [hslash, String.append_assoc, String.append_assoc]
  exact .tag_of_head (.append (.of_chars rfl (by decide)) (h.append (.of_chars rfl (by decide))))
    hchars (by decide)

end Neutral

/-! ## Tags of other elements -/

/-- A tag that is not that of a page container. -/
structure OtherTag (tag : String) (attrs : List Attr) : Prop where
  tag_plain : Plain tag
  attrs_plain : PlainAttrs attrs
  differ : ∀ name ∈ containerClasses,
    Text.Differ (divClass ++ name.toList) (tag ++ renderAttrs attrs).toList

namespace OtherTag

variable {tag : String} {attrs : List Attr}

/-- The tag of an element whose name does not begin like `div`. -/
theorem of_toList {c : Char} {l : List Char} (htag : tag.toList = c :: l) (hc : 'd' ≠ c)
    (hplain : Plain tag) (hattrs : PlainAttrs attrs) : OtherTag tag attrs where
  tag_plain := hplain
  attrs_plain := hattrs
  differ := by
    intro name _
    rw [String.toList_append, htag]
    exact .of_head hc

/-- The tag of an element whose characters are given. -/
theorem of_head {c : Char} {l : List Char} (htag : tag = .ofList (c :: l))
    (h : 'd' ≠ c ∧ '<' ∉ c :: l) (hattrs : PlainAttrs attrs) : OtherTag tag attrs :=
  .of_toList (by rw [htag, String.toList_ofList]) h.1 (.of_chars htag h.2) hattrs

/-- The tag of an element without attributes. -/
theorem bare {c : Char} {l : List Char} (htag : tag = .ofList (c :: l))
    (h : 'd' ≠ c ∧ '<' ∉ c :: l) : OtherTag tag [] := .of_head htag h .nil

/-- The tag of an element with a fixed class. -/
theorem cls {names : String} {c : Char} {l n : List Char} (htag : tag = .ofList (c :: l))
    (h : 'd' ≠ c ∧ '<' ∉ c :: l) (hnames : names = .ofList n) (hn : '<' ∉ n) :
    OtherTag tag (Html.cls names) :=
  .of_head htag h (.attr rfl hnames ⟨by decide, hn⟩ .nil)

/-- The tag of a `div` whose class begins in another way than those of containers. -/
theorem div {names : String} {n : List Char} {parts : List AttrPart} (hnames : names = .ofList n)
    (h : '<' ∉ n ∧ ∀ m ∈ containerChars, Text.Differ m n)
    (hparts : ∀ part ∈ parts, Plain part.render) (hattrs : PlainAttrs attrs) :
    OtherTag "div" (⟨"class", .fixed names :: parts⟩ :: attrs) where
  tag_plain := .of_chars rfl (by decide)
  attrs_plain := by
    refine .cons (.of_chars rfl (by decide)) (fun part hpart => ?_) hattrs
    obtain rfl | hpart := List.mem_cons.mp hpart
    · exact .of_chars hnames h.1
    · exact hparts part hpart
  differ := by
    intro name hname
    -- The class is the first attribute, so its name stands right behind that of the element.
    have hclass : "div".toList ++ " ".toList ++ "class".toList ++ "=\"".toList = divClass := rfl
    have hchars : ("div" ++ renderAttrs (⟨"class", .fixed names :: parts⟩ :: attrs)).toList =
        divClass ++ (n ++ (String.join (parts.map AttrPart.render) ++ "\"" ++
          renderAttrs attrs).toList) := by
      rw [renderAttrs, List.map_cons, String.join_cons, Attr.render, List.map_cons,
        String.join_cons, AttrPart.render, hnames]
      simp only [← String.append_assoc, String.toList_append, hclass, String.toList_ofList]
      simp only [List.append_assoc, renderAttrs]
    rw [hchars]
    exact ((h.2 _ (toList_mem_containerChars hname)).append _).append_left divClass

/-- The tag of a `div` with a fixed class that begins in another way than those of containers. -/
theorem divCls {names : String} {n : List Char} (hnames : names = .ofList n)
    (h : '<' ∉ n ∧ ∀ m ∈ containerChars, Text.Differ m n) : OtherTag "div" (Html.cls names) :=
  .div hnames h nofun .nil

/-- Another tag is passed over, however it ends. -/
theorem neutral (h : OtherTag tag attrs) {ending : String} (hending : Plain ending) :
    Neutral ("<" ++ tag ++ renderAttrs attrs ++ ending) := by
  have hopen : "<" ++ tag ++ renderAttrs attrs ++ ending =
      "<" ++ (tag ++ renderAttrs attrs ++ ending) := by simp only [String.append_assoc]
  rw [hopen]
  refine .tag ((h.tag_plain.append h.attrs_plain).append hending) fun name hname => ?_
  rw [String.toList_append]
  exact (h.differ name hname).append _

theorem closing (h : OtherTag tag attrs) : Neutral ("</" ++ tag ++ ">") := .closing h.tag_plain

end OtherTag

namespace Html

/-! ## Trusted texts -/

mutual

/-- The trusted texts in some markup, in order. -/
def trusted : Html → List String
  | rich s => [s]
  | element _ _ children => trustedAll children
  | text _ | charRef _ | doctype | style _ | lone _ _ _ => []

/-- The trusted texts in a sequence of nodes, in order. -/
def trustedAll : List Html → List String
  | [] => []
  | h :: hs => h.trusted ++ trustedAll hs

end

@[simp] theorem trustedAll_nil : trustedAll [] = [] := rfl

/-- The trusted texts of two sequences are those of the first and those of the second. -/
@[simp] theorem trustedAll_append (hs ks : List Html) :
    trustedAll (hs ++ ks) = trustedAll hs ++ trustedAll ks := by
  induction hs with
  | nil => rfl
  | cons h hs ih => rw [List.cons_append, trustedAll, ih, trustedAll, List.append_assoc]

@[simp] theorem trustedAll_flatMap {α : Type} (xs : List α) (f : α → List Html) :
    trustedAll (xs.flatMap f) = xs.flatMap fun x => trustedAll (f x) := by
  induction xs with
  | nil => rfl
  | cons x xs ih => rw [List.flatMap_cons, trustedAll_append, ih, List.flatMap_cons]

@[simp] theorem trustedAll_text (s : String) (hs : List Html) :
    trustedAll (text s :: hs) = trustedAll hs := rfl

@[simp] theorem trustedAll_pad (depth : Nat) (hs : List Html) :
    trustedAll (pad depth :: hs) = trustedAll hs := rfl

@[simp] theorem trustedAll_eol (hs : List Html) : trustedAll (eol :: hs) = trustedAll hs := rfl

@[simp] theorem trustedAll_charRef (code : Nat) (hs : List Html) :
    trustedAll (charRef code :: hs) = trustedAll hs := rfl

/-- A trusted text stands in front of those behind it. -/
@[simp] theorem trustedAll_rich (s : String) (hs : List Html) :
    trustedAll (rich s :: hs) = s :: trustedAll hs := rfl

@[simp] theorem trustedAll_lone (tag : String) (attrs : List Attr) (ending : LoneEnd)
    (hs : List Html) : trustedAll (lone tag attrs ending :: hs) = trustedAll hs := rfl

@[simp] theorem trustedAll_element (tag : String) (attrs : List Attr) (children hs : List Html) :
    trustedAll (element tag attrs children :: hs) = trustedAll children ++ trustedAll hs := rfl

@[simp] theorem trustedAll_given (c : Bool) (nodes : List Html) :
    trustedAll (given c nodes) = if c then trustedAll nodes else [] := by
  cases c <;> rfl

@[simp] theorem trustedAll_line (depth : Nat) (nodes : List Html) :
    trustedAll (line depth nodes) = trustedAll nodes := by
  simp [line]

@[simp] theorem trustedAll_block (depth : Nat) (tag : String) (attrs : List Attr)
    (children : List Html) : trustedAll (block depth tag attrs children) = trustedAll children := by
  simp [block, spanning]

@[simp] theorem trustedAll_leaf (depth : Nat) (tag : String) (attrs : List Attr) (s : String) :
    trustedAll (leaf depth tag attrs s) = [] := by
  simp [leaf]

@[simp] theorem trustedAll_cell (depth : Nat) (names s : String) :
    trustedAll (cell depth names s) = [] :=
  trustedAll_leaf ..

/-- A text in which no container begins. -/
def NoContainerIn (s : String) : Prop :=
  ∀ name ∈ containerClasses, ¬ (containerMark name).toList <:+: s.toList

/-! ## Inner markup -/

/-- Markup that opens no page container of its own. A trusted text is the only content of its
    element, so that what comes after it is a tag. -/
inductive Inner : Html → Prop
  | text (s : String) : Inner (text s)
  | charRef (code : Nat) : Inner (charRef code)
  | doctype : Inner doctype
  | style {sheet : String} (h : Plain sheet) : Inner (style sheet)
  | lone {tag : String} {attrs : List Attr} (h : OtherTag tag attrs) (ending : LoneEnd) :
      Inner (lone tag attrs ending)
  | trusted {tag : String} {attrs : List Attr} (h : OtherTag tag attrs) (s : String) :
      Inner (element tag attrs [rich s])
  | element {tag : String} {attrs : List Attr} {children : List Html} (h : OtherTag tag attrs)
      (hchildren : ∀ c ∈ children, c.Inner) : Inner (element tag attrs children)

/-- A sequence of nodes that open no page container of their own. -/
def InnerAll (hs : List Html) : Prop := ∀ h ∈ hs, h.Inner

/-- Two sequences are written one behind the other. -/
theorem renderAll_append (hs ks : List Html) :
    renderAll (hs ++ ks) = renderAll hs ++ renderAll ks := by
  induction hs with
  | nil => rw [List.nil_append, renderAll, String.empty_append]
  | cons h hs ih => rw [List.cons_append, renderAll, ih, renderAll, String.append_assoc]

/-- Nodes that are neutral are so in a row. -/
theorem neutral_renderAll {hs : List Html} (h : ∀ c ∈ hs, Neutral c.render) :
    Neutral (renderAll hs) := by
  induction hs with
  | nil => exact .of_plain (.of_chars rfl (by decide))
  | cons c hs ih =>
      rw [renderAll]
      exact (h c (List.mem_cons_self ..)).append (ih fun d hd => h d (List.mem_cons_of_mem _ hd))

/-- The trusted texts of a node are among those of its sequence. -/
theorem trusted_subset_trustedAll {c : Html} {hs : List Html} (h : c ∈ hs) :
    ∀ s ∈ c.trusted, s ∈ trustedAll hs := by
  intro s hs'
  induction hs with
  | nil => cases h
  | cons d hs ih =>
      rw [trustedAll, List.mem_append]
      obtain rfl | h := List.mem_cons.mp h
      · exact .inl hs'
      · exact .inr (ih h)

/-- A tag without content is neutral unless it is that of a container. -/
theorem neutral_lone {tag : String} {attrs : List Attr} (h : OtherTag tag attrs)
    (ending : LoneEnd) : Neutral (lone tag attrs ending).render := by
  rw [render]
  refine h.neutral ?_
  cases ending with
  | plain => exact (.of_chars rfl (by decide) : Plain ">")
  | slash => exact (.of_chars rfl (by decide) : Plain "/>")
  | spacedSlash => exact (.of_chars rfl (by decide) : Plain " />")

theorem neutral_doctype : Neutral doctype.render := by
  have hchars : "!DOCTYPE html>".toList = '!' :: "DOCTYPE html>".toList := rfl
  rw [render, show "<!DOCTYPE html>" = "<" ++ "!DOCTYPE html>" from rfl]
  exact .tag_of_head (.of_chars rfl (by decide)) hchars (by decide)

/-- A style sheet without brackets is neutral. -/
theorem neutral_style {sheet : String} (h : Plain sheet) : Neutral (style sheet).render := by
  have hchars : "style>\n".toList = 's' :: "tyle>\n".toList := rfl
  have hopen : Neutral ("<" ++ "style>\n") :=
    .tag_of_head (.of_chars rfl (by decide)) hchars (by decide)
  have hclose : Neutral ("</" ++ "style" ++ ">") := .closing (.of_chars rfl (by decide))
  rw [render, show "<style>\n" = "<" ++ "style>\n" from rfl,
    show "</style>" = "</" ++ "style" ++ ">" from rfl]
  exact (hopen.append (.of_plain h)).append hclose

theorem neutral_charRef (code : Nat) : Neutral (charRef code).render := by
  rw [render]
  have hopen : Plain "&#" := .of_chars rfl (by decide)
  have hclose : Plain ";" := .of_chars rfl (by decide)
  exact .of_plain ((hopen.append (.natText code)).append hclose)

/-- A container that begins at a trusted text begins in it: what follows is a tag. -/
theorem neutral_trusted {tag : String} {attrs : List Attr} (h : OtherTag tag attrs) {s : String}
    (hs : NoContainerIn s) : Neutral (element tag attrs [rich s]).render := by
  intro name hname t
  have hmark := containerMark_toList name
  have hopen : Neutral ("<" ++ tag ++ renderAttrs attrs ++ ">") :=
    h.neutral (.of_chars rfl (by decide))
  have hslash : "</".toList = ['<', '/'] := String.toList_ofList
  have hclosing : ("</" ++ tag ++ ">").toList = '<' :: ('/' :: tag.toList ++ ">".toList) := by
    rw [String.toList_append, String.toList_append, hslash]
    rfl
  -- Neither a line break nor the closing tag can be taken for a container.
  have hbreak : Text.Differ (divClass ++ name.toList) ['b', 'r', '/', '>'] := .of_head (by decide)
  have htext := hs name hname
  rw [hmark] at htext
  -- The opening tag, the text and the closing tag are passed over one after the other.
  calc Text.sitesOf (containerMark name).toList ((element tag attrs [rich s]).render.toList ++ t)
      = Text.sitesOf (containerMark name).toList
          (("<" ++ tag ++ renderAttrs attrs ++ ">").toList ++
            (breakLines s.toList ++ (("</" ++ tag ++ ">").toList ++ t))) := by
        simp only [render, renderAll, richText, String.toList_append, String.toList_ofList,
          String.append_empty, List.append_assoc]
    _ = Text.sitesOf (containerMark name).toList
          (breakLines s.toList ++ (("</" ++ tag ++ ">").toList ++ t)) := hopen name hname _
    _ = Text.sitesOf (containerMark name).toList (("</" ++ tag ++ ">").toList ++ t) := by
        rw [hclosing, hmark]
        exact Text.sitesOf_breakLines (containerClasses_plain hname) hbreak htext _
    _ = Text.sitesOf (containerMark name).toList t := h.closing name hname t

/-- In markup that opens no container of its own one can begin only inside a trusted text. -/
theorem Inner.neutral {h : Html} (hinner : h.Inner) (htrusted : ∀ s ∈ h.trusted, NoContainerIn s) :
    Neutral h.render := by
  induction hinner with
  | text s => rw [render]; exact .of_plain (.escape s)
  | charRef code => exact neutral_charRef code
  | doctype => exact neutral_doctype
  | style h => exact neutral_style h
  | lone h ending => exact neutral_lone h ending
  | trusted h s => exact neutral_trusted h (htrusted s (List.mem_singleton_self s))
  | element h hchildren ih =>
      have hopen := h.neutral (.of_chars rfl (by decide) : Plain ">")
      -- What is inside passes by induction; the two tags are those of another element.
      have hcontent := neutral_renderAll fun c hc =>
        ih c hc fun s hs => htrusted s (trusted_subset_trustedAll hc s hs)
      have hall := (hopen.append hcontent).append h.closing
      simpa only [render, String.append_assoc] using hall

/-- In a sequence that opens no container of its own one can begin only inside a trusted text. -/
theorem InnerAll.neutral {hs : List Html} (h : InnerAll hs)
    (htrusted : ∀ s ∈ trustedAll hs, NoContainerIn s) : Neutral (renderAll hs) :=
  neutral_renderAll fun c hc =>
    (h c hc).neutral fun s hs => htrusted s (trusted_subset_trustedAll hc s hs)

/-! ## Ways to build inner markup -/

/-- An element around inner markup is inner, unless it is a container. -/
theorem Inner.holding {tag : String} {attrs : List Attr} {children : List Html}
    (h : OtherTag tag attrs) (hchildren : InnerAll children) :
    (Html.element tag attrs children).Inner :=
  .element h hchildren

theorem Inner.empty {tag : String} {attrs : List Attr} (h : OtherTag tag attrs) :
    (Html.element tag attrs []).Inner :=
  .element h nofun

/-- An element that spans lines is inner if its content is. -/
theorem Inner.spanning {depth : Nat} {tag : String} {attrs : List Attr} {children : List Html}
    (h : OtherTag tag attrs) (hchildren : InnerAll children) :
    (spanning depth tag attrs children).Inner := by
  refine .element h fun c hc => ?_
  simp only [List.cons_append, List.mem_cons, List.mem_append, List.not_mem_nil, or_false] at hc
  obtain rfl | hc | rfl := hc
  · exact .text _
  · exact hchildren c hc
  · exact .text _

namespace InnerAll

variable {hs ks : List Html} {tag : String} {attrs : List Attr}

theorem nil : InnerAll [] := nofun

/-- A node in front of inner markup. -/
theorem cons {h : Html} (hh : h.Inner) (hhs : InnerAll hs) : InnerAll (h :: hs) :=
  List.forall_mem_cons.mpr ⟨hh, hhs⟩

theorem single {h : Html} (hh : h.Inner) : InnerAll [h] := cons hh nil

/-- Inner markup in a row is inner. -/
theorem append (hhs : InnerAll hs) (hks : InnerAll ks) : InnerAll (hs ++ ks) :=
  List.forall_mem_append.mpr ⟨hhs, hks⟩

/-- Inner markup for each of some things is inner in a row. -/
theorem flatMap {α : Type} {xs : List α} {f : α → List Html} (h : ∀ x ∈ xs, InnerAll (f x)) :
    InnerAll (xs.flatMap f) := by
  intro c hc
  obtain ⟨x, hx, hc⟩ := List.mem_flatMap.mp hc
  exact h x hx c hc

theorem given (c : Bool) (h : InnerAll hs) : InnerAll (given c hs) := by
  cases c with
  | true => exact h
  | false => exact nil

/-- Inner markup on a line of its own. -/
theorem line {depth : Nat} (h : InnerAll hs) : InnerAll (line depth hs) :=
  cons (.text _) (append h (single (.text _)))

/-- A trusted text in an element on a line of its own. -/
theorem trusted {depth : Nat} (h : OtherTag tag attrs) (s : String) :
    InnerAll (Html.line depth [element tag attrs [rich s]]) :=
  line (single (.trusted h s))

/-- The content of an element that begins and ends on lines of its own. -/
theorem lines {depth : Nat} (h : InnerAll hs) : InnerAll (eol :: hs ++ [pad depth]) :=
  cons (.text _) (append h (single (.text _)))

theorem block {depth : Nat} (h : OtherTag tag attrs) (hhs : InnerAll hs) :
    InnerAll (block depth tag attrs hs) :=
  line (single (.spanning h hhs))

/-- A text in an element is inner. -/
theorem leaf {depth : Nat} {s : String} (h : OtherTag tag attrs) :
    InnerAll (leaf depth tag attrs s) :=
  line (single (.element h (single (.text s))))

theorem cell {depth : Nat} {names s : String} {n : List Char} (hnames : names = .ofList n)
    (hn : '<' ∉ n) : InnerAll (cell depth names s) :=
  leaf (.cls rfl (by decide) hnames hn)

end InnerAll

end Html

end FormPress
