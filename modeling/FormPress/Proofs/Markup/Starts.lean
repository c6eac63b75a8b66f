/-
  FormPress.Proofs.Markup.Starts

  The tags in a tree of markup, in the order in which they are written.  What holds
  of all tags of a template is found by `simp`: the lemmas take a template apart
  into its tags, and a tag is checked by its name and its fixed texts alone
  (`Start.Sound`), since values are escaped.
-/
import FormPress.Html.Basic

namespace FormPress

/-! ## Tags -/

/-- The tag in front of an element's content, or that of an element that stands alone. -/
structure Start where
  name : String
  attrs : List Attr
  ending : Option LoneEnd
  deriving Repr, DecidableEq, Inhabited

/-- The elements that have no content and no end. -/
def voidNames : List String := ["meta", "img", "br"]

/-- The characters of which names of elements are made. -/
def isNameChar (c : Char) : Bool := c.isLower || c.isDigit || c == '-'

/-- Whether no fixed text of an attribute ends a tag. -/
def Attr.staysInTag (a : Attr) : Bool :=
  !a.name.toList.contains '>' && a.parts.all fun
    | .fixed s => !s.toList.contains '>'
    | .value _ => true

/-- Whether an element has an end of its own just where its tag needs one. -/
def Start.isEnded (s : Start) : Bool :=
  match s.ending with
  | none => !voidNames.contains s.name
  | some .plain => voidNames.contains s.name
  | some _ => true

/-- A tag that is read as it is meant: its name is one, and it goes on to its own end. -/
structure Start.Sound (s : Start) : Prop where
  named : s.name ≠ ""
  chars : s.name.toList.all isNameChar = true
  attrs : s.attrs.all Attr.staysInTag = true
  ended : s.isEnded = true

/-- What has to be checked of a tag. -/
theorem Start.sound_iff (s : Start) :
    s.Sound ↔ s.name ≠ "" ∧ s.name.toList.all isNameChar = true ∧
      s.attrs.all Attr.staysInTag = true ∧ s.isEnded = true :=
  ⟨fun h => ⟨h.named, h.chars, h.attrs, h.ended⟩, fun ⟨hn, hc, ha, he⟩ => ⟨hn, hc, ha, he⟩⟩

namespace Html

/-! ## Tags of trees -/

mutual

/-- Some markup all of whose tags are of a kind, with none in a style sheet. -/
def Each (P : Start → Prop) : Html → Prop
  | style sheet => '<' ∉ sheet.toList
  | lone tag attrs ending => P ⟨tag, attrs, some ending⟩
  | element tag attrs children => P ⟨tag, attrs, none⟩ ∧ EachAll P children
  | _ => True

/-- A sequence of nodes all of whose tags are of a kind. -/
def EachAll (P : Start → Prop) : List Html → Prop
  | [] => True
  | h :: hs => h.Each P ∧ EachAll P hs

end

variable {P : Start → Prop}

@[simp] theorem eachAll_nil : EachAll P [] := trivial

@[simp] theorem eachAll_cons (h : Html) (hs : List Html) :
    EachAll P (h :: hs) ↔ h.Each P ∧ EachAll P hs := Iff.rfl

/-- Tags are of a kind in two sequences if they are in each. -/
@[simp] theorem eachAll_append (hs ks : List Html) :
    EachAll P (hs ++ ks) ↔ EachAll P hs ∧ EachAll P ks := by
  induction hs with
  | nil => rw [List.nil_append, iff_and_self]; exact fun _ => eachAll_nil
  | cons h hs ih => rw [List.cons_append, eachAll_cons, ih, eachAll_cons, and_assoc]

/-- Tags are of a kind in the markup of some things if they are for each of them. -/
@[simp] theorem eachAll_flatMap {α : Type} (xs : List α) (f : α → List Html) :
    EachAll P (xs.flatMap f) ↔ ∀ x ∈ xs, EachAll P (f x) := by
  induction xs with
  | nil => exact ⟨fun _ => List.forall_mem_nil _, fun _ => eachAll_nil⟩
  | cons x xs ih => rw [List.flatMap_cons, eachAll_append, ih, List.forall_mem_cons]

@[simp] theorem each_text (s : String) : (text s).Each P := trivial

@[simp] theorem each_charRef (code : Nat) : (charRef code).Each P := trivial

@[simp] theorem each_rich (s : String) : (rich s).Each P := trivial

@[simp] theorem each_doctype : doctype.Each P := trivial

/-- A style sheet has no tags if it has no brackets. -/
theorem each_style (sheet : String) : (style sheet).Each P ↔ '<' ∉ sheet.toList := Iff.rfl

@[simp] theorem each_pad (depth : Nat) : (pad depth).Each P := trivial

@[simp] theorem each_eol : eol.Each P := trivial

@[simp] theorem each_lone (tag : String) (attrs : List Attr) (ending : LoneEnd) :
    (lone tag attrs ending).Each P ↔ P ⟨tag, attrs, some ending⟩ := Iff.rfl

/-- The tag of an element is of a kind, and so are those inside of it. -/
@[simp] theorem each_element (tag : String) (attrs : List Attr) (children : List Html) :
    (element tag attrs children).Each P ↔ P ⟨tag, attrs, none⟩ ∧ EachAll P children := Iff.rfl

/-- Markup that may be missing has to be of a kind only where it is there. -/
@[simp] theorem eachAll_given (c : Bool) (nodes : List Html) :
    EachAll P (given c nodes) ↔ (c = true → EachAll P nodes) := by
  cases c <;> simp [given]

@[simp] theorem eachAll_line (depth : Nat) (nodes : List Html) :
    EachAll P (line depth nodes) ↔ EachAll P nodes := by
  simp [line]

@[simp] theorem each_spanning (depth : Nat) (tag : String) (attrs : List Attr)
    (children : List Html) :
    (spanning depth tag attrs children).Each P ↔ P ⟨tag, attrs, none⟩ ∧ EachAll P children := by
  simp [spanning]

@[simp] theorem eachAll_block (depth : Nat) (tag : String) (attrs : List Attr)
    (children : List Html) :
    EachAll P (block depth tag attrs children) ↔ P ⟨tag, attrs, none⟩ ∧ EachAll P children := by
  simp [block]

@[simp] theorem eachAll_leaf (depth : Nat) (tag : String) (attrs : List Attr) (s : String) :
    EachAll P (leaf depth tag attrs s) ↔ P ⟨tag, attrs, none⟩ := by
  simp [leaf]

@[simp] theorem eachAll_cell (depth : Nat) (names s : String) :
    EachAll P (cell depth names s) ↔ P ⟨"td", cls names, none⟩ := by
  simp [cell]

mutual

/-- Tags of a kind are of a wider one. -/
theorem Each.mono {Q : Start → Prop} (hPQ : ∀ s, P s → Q s) : ∀ {h : Html}, h.Each P → h.Each Q
  | text _, _ => trivial
  | charRef _, _ => trivial
  | rich _, _ => trivial
  | doctype, _ => trivial
  | style _, hP => hP
  | lone .., hP => hPQ _ hP
  | element .., ⟨hstart, hchildren⟩ => ⟨hPQ _ hstart, hchildren.mono hPQ⟩

theorem EachAll.mono {Q : Start → Prop} (hPQ : ∀ s, P s → Q s) :
    ∀ {hs : List Html}, EachAll P hs → EachAll Q hs
  | [], _ => trivial
  | _ :: _, ⟨hfirst, hrest⟩ => ⟨hfirst.mono hPQ, hrest.mono hPQ⟩

end

end Html

end FormPress
