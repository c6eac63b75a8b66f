/-
  FormPress.Proofs.Section.Details

  The plain table of a section as a grouping of its questions.  Rows are collected
  in a table that is updated row by row; what it holds in the end is each title
  once, in order of first occurrence, with the rows under it in their order
  (`Table.gathered_eq`).  The title of a question is the one that the profile has for
  its code up to the first point (`Profile.titleOf_eq_iff`).  So the table of a
  section neither loses a question nor shows one twice
  (`DetailView.ofSection_groups`).
-/
import FormPress.Section.Table
import Mathlib.Data.List.Basic
import Mathlib.Data.List.Induction
import Mathlib.Data.List.TakeWhile

namespace FormPress

/-! ## First occurrences -/

section

variable {α : Type} [BEq α] [LawfulBEq α]

/-- A value at the end stays if it has not occurred before. -/
theorem eraseDups_concat (xs : List α) (x : α) [Decidable (x ∈ xs)] :
    (xs ++ [x]).eraseDups = if x ∈ xs then xs.eraseDups else xs.eraseDups ++ [x] := by
  rw [List.eraseDups_append]
  by_cases hx : x ∈ xs
  · simp [List.removeAll, hx]
  · simp [List.removeAll, hx, List.eraseDups_cons]

/-- Without their repetitions values stand in the order in which they first occur. -/
theorem pairwise_eraseDups (xs : List α) :
    xs.eraseDups.Pairwise fun x y => xs.idxOf x < xs.idxOf y := by
  induction xs using List.reverseRecOn with
  | nil => exact .nil
  | append_singleton xs x ih =>
      classical
      -- What has occurred before keeps its place, and a new value comes after all of it.
      have hold : xs.eraseDups.Pairwise fun y z => (xs ++ [x]).idxOf y < (xs ++ [x]).idxOf z := by
        refine ih.imp_of_mem fun {y z} hy hz hlt => ?_
        rw [List.mem_eraseDups] at hy hz
        rwa [List.idxOf_append_of_mem hy, List.idxOf_append_of_mem hz]
      rw [eraseDups_concat]
      split
      · exact hold
      next hx =>
        refine List.pairwise_append.mpr ⟨hold, List.pairwise_singleton _ _, fun y hy z hz => ?_⟩
        rw [List.mem_eraseDups] at hy
        rw [List.mem_singleton.mp hz, List.idxOf_append_of_mem hy, List.idxOf_append_of_notMem hx]
        exact Nat.lt_add_right _ (List.idxOf_lt_length_of_mem hy)

/-- Without repetitions no value occurs twice. -/
theorem nodup_eraseDups (xs : List α) : xs.eraseDups.Nodup :=
  (pairwise_eraseDups xs).imp fun hlt heq => absurd (heq ▸ hlt) (Nat.lt_irrefl _)

end

/-- Items put apart by keys that are all different are still the same items. -/
theorem flatMap_filter_perm {α κ : Type} [DecidableEq κ] (key : α → κ) {keys : List κ}
    (hkeys : keys.Nodup) {xs : List α} (hxs : ∀ x ∈ xs, key x ∈ keys) :
    (keys.flatMap fun k => xs.filter (key · = k)).Perm xs := by
  induction keys generalizing xs with
  | nil =>
      rw [List.eq_nil_iff_forall_not_mem.mpr fun x hx => List.not_mem_nil (hxs x hx)]
      exact .nil
  | cons k keys ih =>
      obtain ⟨hk, hkeys⟩ := List.nodup_cons.mp hkeys
      have hother : ∀ x ∈ xs.filter fun x => !decide (key x = k), key x ∈ keys := by
        intro x hx
        obtain ⟨hx, hne⟩ := List.mem_filter.mp hx
        exact (List.mem_cons.mp (hxs x hx)).resolve_left (by simpa using hne)
      -- The items of the first key have none of the others, so they may be left out there.
      have hrest : (keys.flatMap fun k => xs.filter (key · = k)) =
          keys.flatMap fun j => (xs.filter fun x => !decide (key x = k)).filter (key · = j) := by
        refine List.flatMap_congr fun j hj => ?_
        rw [List.filter_filter]
        refine List.filter_congr fun x _ => ?_
        have hne : j ≠ k := fun h => hk (h ▸ hj)
        by_cases hx : key x = j
        · simp [hx, hne]
        · simp [hx]
      rw [List.flatMap_cons, hrest]
      exact ((ih hkeys hother).append_left _).trans (List.filter_append_perm _ _)

/-! ## Gathering under keys -/

namespace Table

variable {κ α : Type} [DecidableEq κ]

/-- The values of a list of pairs under their keys. -/
def gathered (rows : List (κ × α)) : Table κ (List α) :=
  rows.foldl (fun t r => update r.1 [] (· ++ [r.2]) t) []

/-- A table made of its keys has a value for each of them and for no other key. -/
theorem get?_map_keys (keys : List κ) (f : κ → α) (k : κ) :
    get? (keys.map fun j => (j, f j)) k = if k ∈ keys then some (f k) else none := by
  induction keys with
  | nil => rfl
  | cons j keys ih =>
      rw [List.map_cons, get?_cons, ih]
      by_cases hj : j = k
      · simp [hj]
      · simp [hj, Ne.symm hj]

/-- A value put under a key replaces that of the key, or goes to the end. -/
theorem put_map_keys {keys : List κ} (hkeys : keys.Nodup) (f : κ → α) (k : κ) (v : α) :
    put k v (keys.map fun j => (j, f j)) =
      if k ∈ keys then keys.map fun j => (j, if j = k then v else f j)
      else (keys.map fun j => (j, f j)) ++ [(k, v)] := by
  induction keys with
  | nil => rfl
  | cons j keys ih =>
      obtain ⟨hj, hkeys⟩ := List.nodup_cons.mp hkeys
      rw [List.map_cons, put]
      by_cases hjk : j = k
      · -- The key does not occur again, so the rest of the table stays.
        subst hjk
        have hkept : (keys.map fun i => (i, if i = j then v else f i)) =
            keys.map fun i => (i, f i) := by
          refine List.map_congr_left fun i hi => ?_
          rw [if_neg (ne_of_mem_of_not_mem hi hj)]
        simp [hkept]
      · rw [if_neg hjk, ih hkeys]
        by_cases hk : k ∈ keys
        · simp [hk, hjk]
        · simp [hk, Ne.symm hjk]

/-- A change of one value in a table that has a value for each of its keys. -/
theorem update_map {keys : List κ} (hkeys : keys.Nodup) (f : κ → α) (k : κ) (start : α)
    (g : α → α) :
    update k start g (keys.map fun j => (j, f j)) =
      if k ∈ keys then keys.map fun j => (j, if j = k then g (f j) else f j)
      else (keys.map fun j => (j, f j)) ++ [(k, g start)] := by
  rw [update, get?_map_keys, put_map_keys hkeys]
  split
  · refine List.map_congr_left fun j _ => ?_
    split
    next hj => rw [hj, Option.getD_some]
    next => rfl
  · rfl

/-- Each key has its place where it first occurs, and under it the values that stand with it. -/
theorem gathered_eq (rows : List (κ × α)) :
    gathered rows =
      (rows.map (·.1)).eraseDups.map fun k => (k, (rows.filter (·.1 = k)).map (·.2)) := by
  induction rows using List.reverseRecOn with
  | nil => rfl
  | append_singleton rows r ih =>
      rw [gathered] at ih ⊢
      rw [List.foldl_append, ih, List.foldl_cons, List.foldl_nil, update_map (nodup_eraseDups _),
        List.map_append, List.map_singleton, eraseDups_concat]
      simp only [List.mem_eraseDups]
      split
      · -- The key is there, and only its values get one more.
        refine List.map_congr_left fun k _ => ?_
        by_cases hk : k = r.1
        · simp [hk]
        · simp [hk, Ne.symm hk]
      next hnew =>
        -- The key is new, so no values stand with it yet, and the others keep theirs.
        have hnone : rows.filter (·.1 = r.1) = [] := by
          refine List.filter_eq_nil_iff.mpr fun x hx => ?_
          rw [decide_eq_true_iff]
          exact fun h => hnew (List.mem_map.mpr ⟨x, hx, h⟩)
        rw [List.map_append, List.map_singleton]
        congr 1
        · refine List.map_congr_left fun k hk => ?_
          have hne : r.1 ≠ k := fun h => hnew (h ▸ List.mem_eraseDups.mp hk)
          simp [hne]
        · simp [List.filter_append, hnone]

end Table

/-! ## Titles of questions -/

/-- A text is what stands of a code in front of its first point: all of it where it has none, and
    nothing of a missing code. -/
structure IsCodePrefix (code : Option String) (front : String) : Prop where
  pointless : '.' ∉ front.toList
  begins : code.getD "" = front ∨ ∃ rest, code.getD "" = front ++ "." ++ rest

/-- A text is all in front of its first point, or a point comes behind that. -/
theorem takeWhile_point (s : List Char) :
    s = s.takeWhile (· != '.') ∨ ∃ rest, s = s.takeWhile (· != '.') ++ '.' :: rest := by
  induction s with
  | nil => exact .inl rfl
  | cons c s ih =>
      by_cases hc : c = '.'
      · subst hc
        exact .inr ⟨s, rfl⟩
      · rw [List.takeWhile_cons_of_pos (by simpa using hc)]
        rcases ih with ih | ⟨rest, ih⟩
        · exact .inl (congrArg (c :: ·) ih)
        · exact .inr ⟨rest, congrArg (c :: ·) ih⟩

/-- A code has one prefix, and it is the one that is cut off. -/
theorem isCodePrefix_iff {code : Option String} {front : String} :
    IsCodePrefix code front ↔ codePrefix code = front := by
  rw [codePrefix]
  constructor
  · rintro ⟨hpointless, hbegins⟩
    -- No character of the front is the point at which the cutting stops.
    have hfront : ∀ c ∈ front.toList, (c != '.') = true := fun c hc =>
      bne_iff_ne.mpr fun heq => hpointless (heq ▸ hc)
    rcases hbegins with hcode | ⟨rest, hcode⟩
    · rw [hcode, List.takeWhile_eq_self_iff.mpr hfront, String.ofList_toList]
    · -- The whole front is taken, and then the point stops it.
      rw [hcode, String.toList_append, String.toList_append, List.append_assoc,
        List.takeWhile_append_of_pos hfront]
      exact (congrArg String.ofList (List.append_nil _)).trans String.ofList_toList
  · rintro rfl
    constructor
    · rw [String.toList_ofList]
      intro hpoint
      exact absurd (List.mem_takeWhile_imp hpoint) (by decide)
    · rcases takeWhile_point (code.getD "").toList with hall | ⟨rest, hrest⟩
      · exact .inl (by rw [← hall, String.ofList_toList])
      · refine .inr ⟨String.ofList rest, ?_⟩
        have hpoint : ".".toList = ['.'] := rfl
        rw [← String.toList_inj, String.toList_append, String.toList_append, hpoint,
          String.toList_ofList, String.toList_ofList, List.append_assoc]
        exact hrest

namespace Profile

variable {p : Profile}

/-- The title that a profile has for a prefix: that of the first pair with the prefix, and the
    fallback title if there is none. -/
inductive HasTitle (p : Profile) (front : String) : String → Prop where
  | paired {before after : Table String String} {title : String}
      (h : p.groupTitles = before ++ (front, title) :: after)
      (hfirst : ∀ g ∈ before, g.1 ≠ front) : HasTitle p front title
  | fallback (h : ∀ g ∈ p.groupTitles, g.1 ≠ front) : HasTitle p front p.fallbackGroupTitle

/-- The title that a profile has for a prefix is the one that is looked up. -/
theorem hasTitle_iff {front title : String} :
    p.HasTitle front title ↔ p.groupTitle front = title := by
  rw [groupTitle, Table.get?]
  constructor
  · rintro (⟨h, hfirst⟩ | h)
    · rw [h, List.find?_append, List.find?_eq_none.mpr fun g hg => by simpa using hfirst g hg]
      simp
    · rw [List.find?_eq_none.mpr fun g hg => by simpa using h g hg]
      rfl
  · rintro rfl
    cases hfound : p.groupTitles.find? fun g => decide (g.1 = front) with
    | none =>
        refine .fallback fun g hg => ?_
        simpa using List.find?_eq_none.mp hfound g hg
    | some g =>
        -- The pair that is found is the first one with the prefix.
        obtain ⟨hfront, before, after, hsplit, hbefore⟩ := List.find?_eq_some_iff_append.mp hfound
        obtain ⟨front', title⟩ := g
        obtain rfl : front' = front := of_decide_eq_true hfront
        exact .paired hsplit fun g hg => by simpa using hbefore g hg

/-- The title that a profile has for a code, by what stands in front of its first point. -/
def TitlesCode (p : Profile) (code : Option String) (title : String) : Prop :=
  ∃ front, IsCodePrefix code front ∧ p.HasTitle front title

/-- The title that a question stands under in a plain table. -/
def titleOf (p : Profile) (q : QuestionNode) : String :=
  p.groupTitle (codePrefix q.question.code)

/-- A question stands under the title that the profile has for its code. -/
theorem titleOf_eq_iff {q : QuestionNode} {title : String} :
    p.titleOf q = title ↔ p.TitlesCode q.question.code title := by
  simp only [TitlesCode, isCodePrefix_iff, hasTitle_iff, titleOf]
  exact ⟨fun h => ⟨_, rfl, h⟩, fun ⟨_, hfront, h⟩ => hfront ▸ h⟩

end Profile

/-! ## The table of a section -/

namespace DetailView

/-- The questions that have a place in the plain table of a section, each with its place among
    them. -/
def placed (questions : List QuestionNode) : List (QuestionNode × Nat) :=
  (questions.filter fun q => q.question.kind ≠ .instructions ∧ q.question.kind ≠ .pageBreak).zipIdx

/-- The row of a question at its place: it shows the answer of the first row of the question, of
    the question itself if it has no rows, and every second one is shaded. -/
def rowAt (answers : AnswerBook) (x : QuestionNode × Nat) : DetailRow where
  label := x.1.question.label
  value := answers.text x.1.question.id (x.1.rows.head?.map (·.id))
  shade := if x.2 % 2 = 0 then .plain else .alternate

/-- The questions that a table is made of are those with a place in it. -/
theorem tabled_zipIdx (questions : List QuestionNode) :
    (tabled questions).zipIdx = placed questions := by
  have hkind (k : QuestionKind) :
      (!k.skippedInTables) = decide (k ≠ .instructions ∧ k ≠ .pageBreak) := by
    rw [QuestionKind.skippedInTables, Bool.eq_iff_iff]
    simp
  simp only [tabled, placed, hkind]

/-- The rows of a table are those of its questions at their places, each with its title. -/
theorem titledRows_eq (answers : AnswerBook) (p : Profile) (i : Nat) (qs : List QuestionNode) :
    titledRows answers p i qs =
      (qs.zipIdx i).map fun x => (p.titleOf x.1, rowAt answers x) := by
  induction qs generalizing i with
  | nil => rfl
  | cons q rest ih =>
      have hshade : Shade.ofIndex i = if i % 2 = 0 then .plain else .alternate := by
        simp [Shade.ofIndex]
      rw [titledRows, ih, List.zipIdx_cons, List.map_cons, rowAt, ← hshade]
      rfl

/-- The titles of a section's questions in document order, once for each question. -/
def titles (p : Profile) (questions : List QuestionNode) : List String :=
  (placed questions).map fun x => p.titleOf x.1

/-- The groups of a plain table, title by title. -/
theorem groups_eq (n : SectionNode) (answers : AnswerBook) (p : Profile) :
    (ofSection n answers p).groups = (titles p n.questions).eraseDups.map fun t =>
      ⟨t, ((placed n.questions).filter (p.titleOf ·.1 = t)).map (rowAt answers)⟩ := by
  have hcollect (rows : List (String × DetailRow)) :
      collect rows = (Table.gathered rows).map fun g => ⟨g.1, g.2⟩ := rfl
  rw [ofSection, hcollect, Table.gathered_eq, titledRows_eq, tabled_zipIdx, List.map_map]
  simp only [titles, List.map_map, List.filter_map, Function.comp_def]

/-- The titles of a table are those of its questions without repetitions. -/
theorem groups_titles (n : SectionNode) (answers : AnswerBook) (p : Profile) :
    (ofSection n answers p).groups.map (·.title) = (titles p n.questions).eraseDups := by
  rw [groups_eq, List.map_map]
  exact List.map_id _

/-- A plain table as a grouping of the questions of its section. -/
structure Groups (v : DetailView) (n : SectionNode) (answers : AnswerBook) (p : Profile) :
    Prop where
  /-- the title of a question is the one that the profile has for its code up to the first point -/
  named : ∀ x ∈ placed n.questions, ∀ t,
    p.titleOf x.1 = t ↔ p.TitlesCode x.1.question.code t
  /-- no title stands twice -/
  distinct : (v.groups.map (·.title)).Nodup
  /-- the titles are those of the questions -/
  titles : ∀ t, t ∈ v.groups.map (·.title) ↔ ∃ x ∈ placed n.questions, p.titleOf x.1 = t
  /-- titles stand in the order in which they first occur among the questions -/
  order : (v.groups.map (·.title)).Pairwise fun s t =>
    (DetailView.titles p n.questions).idxOf s < (DetailView.titles p n.questions).idxOf t
  /-- under a title are the rows of its questions in document order -/
  rows : ∀ g ∈ v.groups,
    g.rows = ((placed n.questions).filter (p.titleOf ·.1 = g.title)).map (rowAt answers)
  /-- each question has its row under one of the titles, and only once -/
  once : (v.groups.flatMap fun g => (placed n.questions).filter (p.titleOf ·.1 = g.title)).Perm
    (placed n.questions)
  /-- the instructions are the texts of the instructions that have one, in document order -/
  instructions : v.instructions =
    ((n.questions.filter (·.question.kind = .instructions)).filterMap (·.question.helpText)).filter
      (· ≠ "")

theorem instructionTexts_eq (questions : List QuestionNode) :
    instructionTexts questions =
      ((questions.filter (·.question.kind = .instructions)).filterMap
        (·.question.helpText)).filter (· ≠ "") := by
  rw [instructionTexts, List.filterMap_filter, List.filter_filterMap]
  refine List.filterMap_congr fun q _ => ?_
  by_cases hkind : q.question.kind = .instructions
  · cases htext : q.question.helpText with
    | none => simp [hkind]
    | some s => simp [hkind, Option.filter]
  · simp [hkind]

/-- The plain table of a section groups its questions, but for instructions and page breaks, under
    the titles of their codes: no question is lost, repeated or put under another title, titles
    and rows keep the order of the document, and every second question is shaded wherever its row
    stands. -/
theorem ofSection_groups (n : SectionNode) (answers : AnswerBook) (p : Profile) :
    (ofSection n answers p).Groups n answers p where
  named _ _ _ := Profile.titleOf_eq_iff
  distinct := by
    rw [groups_titles]
    exact nodup_eraseDups _
  titles t := by
    rw [groups_titles, List.mem_eraseDups, titles, List.mem_map]
  order := by
    rw [groups_titles]
    exact pairwise_eraseDups _
  rows g hg := by
    rw [groups_eq] at hg
    obtain ⟨t, -, rfl⟩ := List.mem_map.mp hg
    rfl
  once := by
    have hkeys : ∀ x ∈ placed n.questions, p.titleOf x.1 ∈ (titles p n.questions).eraseDups :=
      fun x hx => List.mem_eraseDups.mpr (List.mem_map_of_mem hx)
    have hperm := flatMap_filter_perm (fun x : QuestionNode × Nat => p.titleOf x.1)
      (nodup_eraseDups (titles p n.questions)) hkeys
    rw [groups_eq, List.flatMap_map]
    exact hperm
  instructions := instructionTexts_eq n.questions

end DetailView

end FormPress
