/-
  FormPress.Proofs.Markup.Sites

  The places at which a text stands in another one (`Text.sites`), for texts that
  begin like a tag.  Such a text can begin only at an opening bracket.  What has no
  bracket is passed over (`Passes.of_plain`), and so are tags that differ from it
  (`Passes.tag`) and trusted markup that does not hold it, line breaks included
  (`sitesOf_breakLines`).
-/
import FormPress.Html.Basic

namespace FormPress.Text

/-! ## Sites -/

/-- The rests of a text that begin with `needle`. -/
def sitesOf (needle : List Char) : List Char → List (List Char)
  | [] => []
  | c :: s => if needle <+: c :: s then (c :: s) :: sitesOf needle s else sitesOf needle s

/-- The places at which `needle` stands in `s`, first to last: what `s` reads from there on. -/
def sites (s needle : String) : List String :=
  (sitesOf needle.toList s.toList).map String.ofList

/-- Where the text does not begin there is no site. -/
theorem sitesOf_cons_of_not {needle s : List Char} {c : Char} (h : ¬ needle <+: c :: s) :
    sitesOf needle (c :: s) = sitesOf needle s := by
  rw [sitesOf, if_neg h]

/-- The places of a longer text are some of those of its beginning. -/
theorem sitesOf_append (p q s : List Char) :
    sitesOf (p ++ q) s = (sitesOf p s).filter (p ++ q).isPrefixOf := by
  induction s with
  | nil => rfl
  | cons c s ih =>
      -- A longer text begins at some of the places where its beginning does.
      by_cases hlong : p ++ q <+: c :: s
      · have hshort : p <+: c :: s := (List.prefix_append p q).trans hlong
        rw [sitesOf, if_pos hlong, sitesOf, if_pos hshort,
          List.filter_cons_of_pos (List.isPrefixOf_iff_prefix.mpr hlong), ih]
      · by_cases hshort : p <+: c :: s
        · rw [sitesOf_cons_of_not hlong, sitesOf, if_pos hshort, List.filter_cons_of_neg, ih]
          rwa [List.isPrefixOf_iff_prefix]
        · rw [sitesOf_cons_of_not hlong, sitesOf_cons_of_not hshort, ih]

/-! ## Texts that differ -/

/-- Two texts that differ at a place that both have. -/
def Differ (x y : List Char) : Prop := ¬ x <+: y ∧ ¬ y <+: x

instance (x y : List Char) : Decidable (Differ x y) := inferInstanceAs (Decidable (_ ∧ _))

theorem Differ.symm {x y : List Char} (h : Differ x y) : Differ y x := ⟨h.2, h.1⟩

/-- Texts that differ do so whatever follows. -/
theorem Differ.not_begins {x y : List Char} (h : Differ x y) (t : List Char) : ¬ x <+: y ++ t :=
  fun hx => (List.prefix_or_prefix_of_prefix hx (List.prefix_append y t)).elim h.1 h.2

/-- Texts that differ do so when one of them goes on. -/
theorem Differ.append {x y : List Char} (h : Differ x y) (t : List Char) : Differ x (y ++ t) :=
  ⟨h.not_begins t, fun hy => h.2 ((List.prefix_append y t).trans hy)⟩

theorem Differ.append_left {x y : List Char} (h : Differ x y) (z : List Char) :
    Differ (z ++ x) (z ++ y) :=
  ⟨fun hx => h.1 ((List.prefix_append_right_inj z).mp hx),
    fun hy => h.2 ((List.prefix_append_right_inj z).mp hy)⟩

theorem Differ.of_head {x y : List Char} {c d : Char} (h : c ≠ d) : Differ (c :: x) (d :: y) :=
  ⟨fun hx => h (List.cons_prefix_cons.mp hx).1, fun hy => h (List.cons_prefix_cons.mp hy).1.symm⟩

/-! ## Texts that are passed over -/

/-- Whatever follows `x`, the places are those in what follows. -/
def Passes (needle x : List Char) : Prop := ∀ t, sitesOf needle (x ++ t) = sitesOf needle t

namespace Passes

variable {needle m x y : List Char}

/-- Texts that are passed over are so in a row. -/
theorem append (hx : Passes needle x) (hy : Passes needle y) : Passes needle (x ++ y) := by
  intro t
  rw [List.append_assoc, hx, hy]

/-- A text that begins with a bracket does not begin in a text without one. -/
theorem of_plain (hx : '<' ∉ x) : Passes ('<' :: m) x := by
  intro t
  induction x with
  | nil => rfl
  | cons c x ih =>
      rw [List.mem_cons, not_or] at hx
      rw [List.cons_append, sitesOf_cons_of_not, ih hx.2]
      exact fun h => hx.1 (List.cons_prefix_cons.mp h).1

/-- It does not begin in another tag either. -/
theorem tag (hx : '<' ∉ x) (hother : Differ m x) : Passes ('<' :: m) ('<' :: x) := by
  intro t
  rw [List.cons_append, sitesOf_cons_of_not, of_plain hx]
  exact fun h => hother.not_begins t (List.cons_prefix_cons.mp h).2

end Passes

/-- It begins once in a tag that begins with it. -/
theorem sitesOf_tag {m x : List Char} (hx : '<' ∉ x) (h : m <+: x) (t : List Char) :
    sitesOf ('<' :: m) ('<' :: x ++ t) = ('<' :: x ++ t) :: sitesOf ('<' :: m) t := by
  have hbegins : '<' :: m <+: '<' :: (x ++ t) :=
    List.cons_prefix_cons.mpr ⟨rfl, h.trans (List.prefix_append x t)⟩
  rw [List.cons_append, sitesOf, if_pos hbegins, Passes.of_plain hx]

/-! ## Trusted markup -/

theorem lineBreak_toList : "<br/>".toList = ['<', 'b', 'r', '/', '>'] := String.toList_ofList

/-- Without a bracket only the empty text begins a tag. -/
theorem eq_nil_of_prefix_bracket {m t : List Char} (hm : '<' ∉ m) (h : m <+: '<' :: t) : m = [] := by
  cases m with
  | nil => rfl
  | cons c m => exact absurd (List.cons_prefix_cons.mp h).1.symm (List.ne_of_not_mem_cons hm)

/-- A text without brackets at the front of trusted markup with its line breaks was at its front
    before. -/
theorem prefix_of_breakLines {m s t : List Char} (hm : '<' ∉ m)
    (h : m <+: breakLines s ++ '<' :: t) : m <+: s := by
  -- A line break is written as a tag, at whose bracket only an empty text can begin.
  induction s using breakLines.induct generalizing m with
  | case1 s ih | case2 s ih =>
      rw [breakLines, lineBreak_toList] at h
      obtain rfl := eq_nil_of_prefix_bracket hm h
      exact List.nil_prefix
  | case3 c s hreturn hbreak ih =>
      rw [breakLines.eq_3 c s hreturn hbreak] at h
      cases m with
      | nil => exact List.nil_prefix
      | cons d m =>
          obtain ⟨rfl, hm'⟩ := List.cons_prefix_cons.mp h
          exact List.cons_prefix_cons.mpr ⟨rfl, ih (List.not_mem_of_not_mem_cons hm) hm'⟩
  | case4 =>
      obtain rfl := eq_nil_of_prefix_bracket hm h
      exact List.nil_prefix

/-- A tag that trusted markup does not hold does not begin in it once it has its line breaks, where
    another tag follows. -/
theorem sitesOf_breakLines {m s : List Char} (hm : '<' ∉ m)
    (hbreak : Differ m ['b', 'r', '/', '>']) (hs : ¬ '<' :: m <:+: s) (t : List Char) :
    sitesOf ('<' :: m) (breakLines s ++ '<' :: t) = sitesOf ('<' :: m) ('<' :: t) := by
  have hpasses : Passes ('<' :: m) "<br/>".toList := by
    rw [lineBreak_toList]
    exact .tag (by decide) hbreak
  -- What is not in a text is not in the rest of it.
  have hrest {x s : List Char} (h : ¬ '<' :: m <:+: x ++ s) : ¬ '<' :: m <:+: s :=
    fun hs => h (hs.trans (List.suffix_append x s).isInfix)
  induction s using breakLines.induct with
  | case1 s ih =>
      rw [breakLines, List.append_assoc, hpasses, ih (hrest (x := ['\r', '\n']) hs)]
  | case2 s ih => rw [breakLines, List.append_assoc, hpasses, ih (hrest (x := ['\n']) hs)]
  | case3 c s hreturn hbreak ih =>
      rw [breakLines.eq_3 c s hreturn hbreak, List.cons_append, sitesOf_cons_of_not,
        ih (hrest (x := [c]) hs)]
      -- A tag that began at this character would have stood in the text before.
      intro h
      obtain ⟨rfl, hm'⟩ := List.cons_prefix_cons.mp h
      exact hs (List.cons_prefix_cons.mpr ⟨rfl, prefix_of_breakLines hm hm'⟩).isInfix
  | case4 => rfl

end FormPress.Text
