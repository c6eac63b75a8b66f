/-
  FormPress.Proofs.Markup.Reading

  What can be read back from written markup.  Two texts tell a fact (`Tells`) if
  they cannot begin the same text unless the fact holds, and then end at the same
  place in it; this survives putting texts one after the other, although no text
  says how long it is.  Escaped text up to a bracket tells what was escaped
  (`tells_escape`), so an element with nothing but a text in it tells the text
  (`Html.TellsAll.leaf`), and a template tells what its leaves do.
-/
import FormPress.Proofs.Markup.Inner

namespace FormPress

/-! ## Texts that tell a fact -/

/-- Two texts that begin the same text only if a fact holds, and then with the same rest. -/
def Tells (s t : String) (P : Prop) : Prop :=
  ∀ x y : List Char, s.toList ++ x = t.toList ++ y → P ∧ x = y

namespace Tells

variable {s t s' t' : String} {P Q : Prop}

/-- A text begins itself, and tells nothing. -/
theorem refl (s : String) : Tells s s True :=
  fun _ _ h => ⟨trivial, List.append_cancel_left h⟩

/-- A text tells what follows from what it tells. -/
theorem imp (hPQ : P → Q) (h : Tells s t P) : Tells s t Q :=
  fun x y heq => (h x y heq).imp_left hPQ

/-- What two texts tell is known where the texts are the same. -/
theorem of_eq (h : Tells s t P) (heq : s = t) : P :=
  (h [] [] (by rw [heq])).1

/-- Two texts in a row tell what each of them does. -/
theorem append (h : Tells s t P) (h' : Tells s' t' Q) : Tells (s ++ s') (t ++ t') (P ∧ Q) := by
  intro x y heq
  rw [String.toList_append, String.toList_append, List.append_assoc, List.append_assoc] at heq
  obtain ⟨hP, hrest⟩ := h _ _ heq
  obtain ⟨hQ, hxy⟩ := h' _ _ hrest
  exact ⟨⟨hP, hQ⟩, hxy⟩

/-- The same text in front and behind tells nothing more. -/
theorem within (front back : String) (h : Tells s t P) :
    Tells (front ++ s ++ back) (front ++ t ++ back) P :=
  (((refl front).append h).append (refl back)).imp fun hall => hall.1.2

end Tells

/-! ## Escaped texts -/

/-- The characters that are written in another way, with what is written. -/
def charEscapes : List (Char × List Char) :=
  [('&', ['&', 'a', 'm', 'p', ';']), ('<', ['&', 'l', 't', ';']), ('>', ['&', 'g', 't', ';']),
    ('\'', ['&', '#', '3', '9', ';']), ('"', ['&', '#', '3', '4', ';'])]

/-- A character is written as a reference, or as itself if it is neither an ampersand nor a bracket.
    -/
theorem escapeChar_cases (c : Char) :
    (∃ l, escapeChar c = '&' :: l ∧ (c, '&' :: l) ∈ charEscapes) ∨
      escapeChar c = [c] ∧ c ≠ '&' ∧ c ≠ '<' := by
  by_cases hc : c ∈ ['&', '<', '>', '\'', '"']
  · simp only [List.mem_cons, List.not_mem_nil, or_false] at hc
    rcases hc with rfl | rfl | rfl | rfl | rfl <;> exact .inl ⟨_, rfl, by decide⟩
  · simp only [List.mem_cons, List.not_mem_nil, or_false, not_or] at hc
    exact .inr ⟨by simp [escapeChar, hc], hc.1, hc.2.1⟩

/-- What is written for a character does not begin what is written for another one. -/
theorem eq_of_escapeChar_begins {c d : Char} (h : escapeChar c <+: escapeChar d) : c = d := by
  -- No reference begins another one.
  have hescapes : ∀ e ∈ charEscapes, ∀ f ∈ charEscapes, e.2 <+: f.2 → e.1 = f.1 := by decide
  -- A reference begins with an ampersand, which no character that stays is.
  obtain ⟨l, hc, hmem⟩ | ⟨hc, hcne, -⟩ := escapeChar_cases c
  · obtain ⟨m, hd, hmem'⟩ | ⟨hd, hdne, -⟩ := escapeChar_cases d
    · rw [hc, hd] at h
      exact hescapes _ hmem _ hmem' h
    · rw [hc, hd, List.cons_prefix_cons] at h
      exact absurd h.1.symm hdne
  · obtain ⟨m, hd, -⟩ | ⟨hd, -, -⟩ := escapeChar_cases d
    · rw [hc, hd, List.cons_prefix_cons] at h
      exact absurd h.1 hcne
    · rw [hc, hd, List.cons_prefix_cons] at h
      exact h.1

/-- From what is written the first character can be told. -/
theorem escapeChar_append_inj {c d : Char} {x y : List Char}
    (h : escapeChar c ++ x = escapeChar d ++ y) : c = d ∧ x = y := by
  have hc : escapeChar c <+: escapeChar d ++ y := ⟨x, h⟩
  have heq : c = d := by
    -- Of two beginnings of one text one begins the other.
    obtain hprefix | hprefix := List.prefix_or_prefix_of_prefix hc (List.prefix_append _ y)
    · exact eq_of_escapeChar_begins hprefix
    · exact (eq_of_escapeChar_begins hprefix).symm
  rw [heq] at h
  exact ⟨heq, List.append_cancel_left h⟩

/-- No character is written with an opening bracket in front. -/
theorem escapeChar_append_ne {c : Char} {x y : List Char} : escapeChar c ++ x ≠ '<' :: y := by
  intro h
  obtain ⟨l, hc, -⟩ | ⟨hc, -, hne⟩ := escapeChar_cases c
  · rw [hc, List.cons_append] at h
    exact absurd (List.cons.inj h).1 (by decide)
  · rw [hc, List.cons_append] at h
    exact hne (List.cons.inj h).1

/-- An escaped text that goes on to a bracket tells the text. -/
theorem tells_escape (s t : String) : Tells (escape s ++ "<") (escape t ++ "<") (s = t) := by
  intro x y h
  have hchars (s : String) (x : List Char) :
      (escape s ++ "<").toList ++ x = s.toList.flatMap escapeChar ++ '<' :: x := by
    rw [String.toList_append, escape, String.toList_ofList, List.append_assoc]
    rfl
  rw [hchars, hchars] at h
  suffices hboth : s.toList = t.toList ∧ x = y from hboth.imp_left String.toList_inj.mp
  generalize s.toList = cs at h ⊢
  generalize t.toList = ds at h ⊢
  -- Both texts are read character by character, and the bracket ends both or none.
  induction cs generalizing ds with
  | nil =>
      cases ds with
      | nil => exact ⟨rfl, (List.cons.inj h).2⟩
      | cons d ds =>
          rw [List.flatMap_cons, List.append_assoc] at h
          exact absurd h.symm escapeChar_append_ne
  | cons c cs ih =>
      rw [List.flatMap_cons, List.append_assoc] at h
      cases ds with
      | nil => exact absurd h escapeChar_append_ne
      | cons d ds =>
          rw [List.flatMap_cons, List.append_assoc] at h
          obtain ⟨rfl, hrest⟩ := escapeChar_append_inj h
          obtain ⟨rfl, hxy⟩ := ih ds hrest
          exact ⟨rfl, hxy⟩

/-! ## Markup that tells a fact -/

namespace Html

/-- Two sequences of nodes that tell a fact when they are written out. -/
def TellsAll (hs ks : List Html) (P : Prop) : Prop := Tells (renderAll hs) (renderAll ks) P

namespace TellsAll

variable {hs ks hs' ks' : List Html} {P Q : Prop}

theorem refl (hs : List Html) : TellsAll hs hs True := Tells.refl _

theorem imp (hPQ : P → Q) (h : TellsAll hs ks P) : TellsAll hs ks Q := Tells.imp hPQ h

/-- Nodes in a row tell what each of them does. -/
theorem append (h : TellsAll hs ks P) (h' : TellsAll hs' ks' Q) :
    TellsAll (hs ++ hs') (ks ++ ks') (P ∧ Q) := by
  rw [TellsAll, renderAll_append, renderAll_append]
  exact Tells.append h h'

/-- The same nodes in front and behind tell nothing more. -/
theorem within (front back : List Html) (h : TellsAll hs ks P) :
    TellsAll (front ++ hs ++ back) (front ++ ks ++ back) P :=
  (((refl front).append h).append (refl back)).imp fun hall => hall.1.2

/-- Nodes for each of some things tell what they tell of each. -/
theorem flatMap {α : Type} {f g : α → List Html} {P : α → Prop} (xs : List α)
    (h : ∀ x ∈ xs, TellsAll (f x) (g x) (P x)) :
    TellsAll (xs.flatMap f) (xs.flatMap g) (∀ x ∈ xs, P x) := by
  induction xs with
  | nil => exact (refl []).imp fun _ => List.forall_mem_nil P
  | cons x xs ih =>
      obtain ⟨hx, hxs⟩ := List.forall_mem_cons.mp h
      rw [List.flatMap_cons, List.flatMap_cons]
      exact (hx.append (ih hxs)).imp List.forall_mem_cons.mpr

theorem given (c : Bool) (h : c = true → TellsAll hs ks P) :
    TellsAll (given c hs) (given c ks) (c = true → P) := by
  cases c with
  | true => exact (h rfl).imp fun hP _ => hP
  | false => exact (refl []).imp fun _ hc => nomatch hc

/-- An element tells what its content does. -/
theorem element (tag : String) (attrs : List Attr) (h : TellsAll hs ks P) :
    TellsAll [.element tag attrs hs] [.element tag attrs ks] P := by
  have hrender (hs : List Html) : renderAll [.element tag attrs hs] =
      "<" ++ tag ++ renderAttrs attrs ++ ">" ++ renderAll hs ++ ("</" ++ tag ++ ">") := by
    simp only [renderAll, render, String.append_empty, String.append_assoc]
  rw [TellsAll, hrender, hrender]
  exact Tells.within _ _ h

/-- An element with nothing but a text in it tells the text. -/
theorem textElement (tag : String) (attrs : List Attr) (s t : String) :
    TellsAll [.element tag attrs [text s]] [.element tag attrs [text t]] (s = t) := by
  have hclose : "</" = "<" ++ "/" := rfl
  have hrender (s : String) : renderAll [.element tag attrs [text s]] =
      "<" ++ tag ++ renderAttrs attrs ++ ">" ++ (escape s ++ "<") ++ ("/" ++ tag ++ ">") := by
    simp only [renderAll, render, String.append_empty, String.append_assoc, hclose]
  rw [TellsAll, hrender, hrender]
  exact Tells.within _ _ (tells_escape s t)

theorem line (depth : Nat) (h : TellsAll hs ks P) : TellsAll (line depth hs) (line depth ks) P :=
  within [pad depth] [eol] h

/-- An element over several lines tells what its content does. -/
theorem block (depth : Nat) (tag : String) (attrs : List Attr) (h : TellsAll hs ks P) :
    TellsAll (block depth tag attrs hs) (block depth tag attrs ks) P :=
  line depth (element tag attrs (within [eol] [pad depth] h))

/-- A text in an element is told. -/
theorem leaf (depth : Nat) (tag : String) (attrs : List Attr) (s t : String) :
    TellsAll (leaf depth tag attrs s) (leaf depth tag attrs t) (s = t) :=
  line depth (textElement tag attrs s t)

theorem cell (depth : Nat) (names s t : String) :
    TellsAll (cell depth names s) (cell depth names t) (s = t) :=
  leaf depth "td" (cls names) s t

end TellsAll

end Html

end FormPress
