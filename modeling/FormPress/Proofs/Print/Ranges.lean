/-
  FormPress.Proofs.Print.Ranges

  Ranges of pages against the pages themselves.  A range carries the number of
  its pages beside them, and nothing but its maker keeps the two in step;
  `PageRange.Holds` says that they are.  Cutting keeps them in step
  (`PageRange.Holds.take`), and joining reads the pages alone (`merge_pages`).
-/
import FormPress.Print.Pdf
import Mathlib.Data.List.Forall2

namespace FormPress

namespace PageRange

variable {r : PageRange} {pages : List Int}

/-- A range that can be read, holds these pages and says how many they are. -/
structure Holds (r : PageRange) (pages : List Int) : Prop where
  readable : r.pdf = .pages pages
  counted : r.pageCount = pages.length

/-- The number that a range carries is compared as the number of its pages. -/
theorem Holds.count_le_iff (h : r.Holds pages) {n : Int} (hn : 0 ≤ n) :
    r.pageCount ≤ n ↔ pages.length ≤ n.toNat := by
  rw [h.counted]
  omega

/-- The first pages of a range that holds its pages: no other pages, and their number. -/
theorem Holds.take (h : r.Holds pages) {n : Int} (hn : 0 ≤ n) :
    ∃ r', r.take n = .ok r' ∧ r'.label = r.label ∧ r'.Holds (pages.take n.toNat) ∧
      r'.pageCount = min n pages.length := by
  by_cases hfits : r.pageCount ≤ n
  · have hlength : pages.length ≤ n.toNat := (h.count_le_iff hn).mp hfits
    refine ⟨r, if_pos hfits, rfl, ⟨?_, ?_⟩, ?_⟩
    · -- Nothing is cut off, and the range stays as it is.
      rw [List.take_of_length_le hlength, h.readable]
    · rw [List.take_of_length_le hlength, h.counted]
    · have hcounted := h.counted
      omega
  · have hlength : n.toNat < pages.length := by
      have hcounted := h.counted
      omega
    refine ⟨⟨r.label, .pages (pages.take n.toNat), n⟩, ?_, rfl, ⟨rfl, ?_⟩, ?_⟩
    · simp only [PageRange.take, if_neg hfits, h.readable, takeSigned, if_pos hn]
    · simp only [List.length_take]
      omega
    · simp only
      omega

/-- The first page of a range that has one. -/
theorem Holds.take_one {page : Int} {rest : List Int} (h : r.Holds (page :: rest)) :
    ∃ r', r.take 1 = .ok r' ∧ r'.label = r.label ∧ r'.Holds [page] := by
  obtain ⟨r', htake, hlabel, hholds, -⟩ := h.take (Int.zero_le_ofNat 1)
  exact ⟨r', htake, hlabel, hholds⟩

/-- A range whose pages cannot be read can be cut only where nothing is cut off. -/
theorem take_unreadable (h : r.pdf = .unreadable) (n : Int) :
    r.take n = if r.pageCount ≤ n then .ok r else .error (pageFailure (.cut r.label)) := by
  simp only [PageRange.take, h]

/-- Cutting a range that can be read leaves one that can be read, under its label. -/
theorem take_readable (h : r.pdf = .pages pages) (n : Int) :
    ∃ r' pages', r.take n = .ok r' ∧ r'.pdf = .pages pages' := by
  by_cases hfits : r.pageCount ≤ n
  · exact ⟨r, pages, if_pos hfits, h⟩
  · exact ⟨⟨r.label, .pages (takeSigned n pages), n⟩, takeSigned n pages,
      by simp only [PageRange.take, if_neg hfits, h], rfl⟩

/-- A range that can be read puts its pages in front of those of the ranges behind it. -/
theorem merge_cons {rest : List PageRange} {others : List Int} (h : r.pdf = .pages pages)
    (hrest : merge rest = .ok (.pages others)) :
    merge (r :: rest) = .ok (.pages (pages ++ others)) := by
  simp only [merge, h, hrest]

/-- A first range that cannot be read ends the joining. -/
theorem merge_cons_unreadable {rest : List PageRange} (h : r.pdf = .unreadable) :
    merge (r :: rest) = .error (pageFailure (.join r.label)) := by
  simp only [merge, h]

/-- Ranges that can all be read are joined to their pages in order, whatever their counts say. -/
theorem merge_pages {ranges : List PageRange} {documents : List (List Int)}
    (h : List.Forall₂ (fun r pages => r.pdf = .pages pages) ranges documents) :
    merge ranges = .ok (.pages documents.flatten) := by
  induction h with
  | nil => rfl
  | cons hpdf _ ih =>
      rw [List.flatten_cons]
      exact merge_cons hpdf ih

/-- Of the ranges to be joined, the first one that cannot be read is the failure. -/
theorem merge_unreadable {before after : List PageRange}
    (hbefore : ∀ b ∈ before, ∃ pages, b.pdf = .pages pages) (h : r.pdf = .unreadable) :
    merge (before ++ r :: after) = .error (pageFailure (.join r.label)) := by
  induction before with
  | nil => exact merge_cons_unreadable h
  | cons b before ih =>
      -- The readable ranges in front are read, and the failure comes from behind them.
      obtain ⟨⟨pages, hpages⟩, hrest⟩ := List.forall_mem_cons.mp hbefore
      rw [List.cons_append, merge, hpages, ih hrest]

end PageRange

end FormPress
