/-
  FormPress.Proofs.Markup.Size

  How many bytes some markup takes as it is written (`Html.size`).  A block takes as
  many more than an empty one as its content takes, so markup of which something is
  left out is shorter (`Html.size_flatMap_filter_lt`).
-/
import FormPress.Proofs.Markup.Inner

namespace FormPress.Html

/-- The number of bytes that some markup takes as it is written. -/
def size (hs : List Html) : Nat := (renderAll hs).utf8ByteSize

@[simp] theorem size_nil : size [] = 0 := rfl

@[simp] theorem size_append (hs ks : List Html) : size (hs ++ ks) = size hs + size ks := by
  rw [size, renderAll_append, String.utf8ByteSize_append]
  rfl

/-- A sequence takes the bytes of its first node and of the others. -/
theorem size_cons (h : Html) (hs : List Html) :
    size (h :: hs) = h.render.utf8ByteSize + size hs := by
  rw [size, renderAll, String.utf8ByteSize_append]
  rfl

/-- An element takes so many bytes more than an empty one as its content takes. -/
theorem size_element (tag : String) (attrs : List Attr) (children : List Html) :
    (element tag attrs children).render.utf8ByteSize =
      (element tag attrs []).render.utf8ByteSize + size children := by
  simp only [render, renderAll, size, String.utf8ByteSize_append, String.utf8ByteSize_empty]
  omega

theorem size_line (depth : Nat) (nodes : List Html) :
    size (line depth nodes) = size (line depth []) + size nodes := by
  simp only [line, List.cons_append, List.nil_append, size_cons, size_append, size_nil]
  omega

theorem size_line_pos (depth : Nat) (nodes : List Html) : 0 < size (line depth nodes) := by
  have heol : eol.render.utf8ByteSize = 1 := by decide +kernel
  simp only [line, List.cons_append, size_cons, size_append, heol]
  omega

/-- A block takes so many bytes more than an empty one as its content takes. -/
theorem size_block (depth : Nat) (tag : String) (attrs : List Attr) (children : List Html) :
    size (block depth tag attrs children) = size (block depth tag attrs []) + size children := by
  have hspanning (content : List Html) : size [spanning depth tag attrs content] =
      (element tag attrs []).render.utf8ByteSize + size [eol, pad depth] + size content := by
    rw [spanning, size_cons, size_element]
    simp only [List.cons_append, size_cons, size_append, size_nil]
    omega
  rw [block, block, size_line, size_line depth [spanning depth tag attrs []], hspanning, hspanning,
    size_nil]
  omega

/-- Members that are left out of a list take their bytes with them. -/
theorem size_flatMap_filter_le {α : Type} (keep : α → Bool) (f : α → List Html) (xs : List α) :
    size ((xs.filter keep).flatMap f) ≤ size (xs.flatMap f) := by
  induction xs with
  | nil => exact Nat.le_refl _
  | cons x xs ih =>
      rw [List.flatMap_cons, size_append]
      cases hx : keep x with
      | true =>
          rw [List.filter_cons_of_pos hx, List.flatMap_cons, size_append]
          omega
      | false =>
          rw [List.filter_cons_of_neg (by simp [hx])]
          omega

/-- Markup gets shorter when a member is left out that takes bytes. -/
theorem size_flatMap_filter_lt {α : Type} (keep : α → Bool) (f : α → List Html) {xs : List α}
    {x : α} (hx : x ∈ xs) (hdrop : keep x = false) (hsize : 0 < size (f x)) :
    size ((xs.filter keep).flatMap f) < size (xs.flatMap f) := by
  -- In front of it and behind it nothing gets longer.
  obtain ⟨before, behind, rfl⟩ := List.append_of_mem hx
  have hbefore := size_flatMap_filter_le keep f before
  have hbehind := size_flatMap_filter_le keep f behind
  simp only [List.filter_append, List.filter_cons, hdrop, List.flatMap_append, List.flatMap_cons,
    size_append, Bool.false_eq_true, if_false]
  omega

end FormPress.Html
