/-
  FormPress.Proofs.Tables.Sorting

  Sorting that succeeds.  Among records any two of which have an order no
  comparison fails, in the runs, the insertions and the merges, so they are
  sorted (`sorted_of_comparable`).  With whole numbers as order number and id the
  order is that of pairs of numbers.  Where the ids differ it is strict, and the
  sorted list is the only one that has the records in increasing order
  (`sorted_eq_ok_iff`), however they were arranged.
-/
import FormPress.Proofs.Tables.Whole
import Mathlib.Data.List.Nodup

namespace FormPress

/-- A computation succeeds with a result of some kind. -/
def Yields {ε α : Type} (post : α → Prop) (x : Except ε α) : Prop := ∃ a, x = .ok a ∧ post a

/-- What a result is turned into has what follows from the result. -/
theorem Yields.map {ε α β : Type} {p : α → Prop} {q : β → Prop} {x : Except ε α} {f : α → β}
    (h : Yields p x) (hf : ∀ a, p a → q (f a)) : Yields q (x.map f) := by
  obtain ⟨a, rfl, ha⟩ := h
  exact ⟨f a, rfl, hf a ha⟩

namespace Record

/-! ## Comparisons that succeed -/

/-- Any two records of some kind have an order. The record without fields, which stands for an
    absent one, is of that kind. -/
structure Comparable (P : Record → Prop) : Prop where
  absent : P []
  order : ∀ r s, P r → P s → (r.order? s).isSome = true

namespace Comparable

variable {P : Record → Prop} (hP : Comparable P)
include hP

/-- Two records of the kind are compared. -/
theorem exists_comesBefore {r s : Record} (hr : P r) (hs : P s) : ∃ b, comesBefore r s = .ok b := by
  obtain ⟨o, ho⟩ := Option.isSome_iff_exists.mp (hP.order r s hr hs)
  exact ⟨o == .lt, by rw [comesBefore, ho]⟩

/-! ### Runs -/

/-- A run is taken from the front of the records, and what is left of them is behind it. -/
theorem runFrom_yields (descending : Bool) {last : Record} {acc records : List Record} (hlast : P last)
    (hacc : ∀ r ∈ acc, P r) (hrecords : ∀ r ∈ records, P r) :
    Yields (fun out => (∀ r ∈ out.1, P r) ∧ ∀ r ∈ out.2, P r)
      (runFrom descending last acc records) := by
  -- The run goes on as long as the next record stands to the last one as the run has it.
  induction records generalizing last acc with
  | nil => exact ⟨_, rfl, hacc, nofun⟩
  | cons r rest ih =>
      obtain ⟨hr, hrest⟩ := List.forall_mem_cons.mp hrecords
      obtain ⟨before, hbefore⟩ := hP.exists_comesBefore hr hlast
      simp only [runFrom, hbefore]
      split
      · exact ih hr (List.forall_mem_cons.mpr ⟨hr, hacc⟩) hrest
      · exact ⟨_, rfl, hacc, hrecords⟩

/-- The first run of records is found. -/
theorem firstRun_yields {records : List Record} (hrecords : ∀ r ∈ records, P r) :
    Yields (fun out => (∀ r ∈ out.1, P r) ∧ ∀ r ∈ out.2, P r) (firstRun records) := by
  rcases records with _ | ⟨r, _ | ⟨s, rest⟩⟩
  · exact ⟨_, rfl, hrecords, nofun⟩
  · exact ⟨_, rfl, hrecords, nofun⟩
  · obtain ⟨hr, hs, hrest⟩ : P r ∧ P s ∧ ∀ r ∈ rest, P r := by simpa using hrecords
    obtain ⟨before, hbefore⟩ := hP.exists_comesBefore hs hr
    have hboth : ∀ r' ∈ [s, r], P r' := by simp [hr, hs]
    -- A descending run is kept in reverse, so only an ascending one is turned round.
    cases before with
    | true =>
        simp only [firstRun, hbefore]
        exact hP.runFrom_yields true hs hboth hrest
    | false =>
        simp only [firstRun, hbefore]
        refine (hP.runFrom_yields false hs hboth hrest).map fun out hout => ⟨fun r hr => ?_, hout.2⟩
        exact hout.1 r (List.mem_reverse.mp hr)

/-! ### Insertions -/

/-- At every index there is a record of the kind, also behind the last one. -/
theorem getD_of_mem {records : Array Record} (hrecords : ∀ r ∈ records, P r) (i : Nat) :
    P (records.getD i []) := by
  rw [Array.getD_eq_getD_getElem?]
  cases hi : records[i]? with
  | none => exact hP.absent
  | some r => exact hrecords r (Array.mem_of_getElem? hi)

/-- A place for a record is found among others. -/
theorem exists_placeOf {r : Record} {ordered : Array Record} (hr : P r) (hordered : ∀ s ∈ ordered, P s)
    (fuel low high : Nat) : ∃ i, placeOf r ordered fuel low high = .ok i := by
  -- Each step halves the part that is left and compares with the record in its middle.
  induction fuel generalizing low high with
  | zero => exact ⟨low, rfl⟩
  | succ fuel ih =>
      rw [placeOf]
      split
      · obtain ⟨before, hbefore⟩ := hP.exists_comesBefore hr (hP.getD_of_mem hordered (low + (high - low) / 2))
        simp only [hbefore]
        cases before with
        | true => exact ih ..
        | false => exact ih ..
      · exact ⟨low, rfl⟩

/-- Records are inserted one after the other. -/
theorem insertAll_yields {ordered : Array Record} {records : List Record} (hordered : ∀ r ∈ ordered, P r)
    (hrecords : ∀ r ∈ records, P r) :
    Yields (fun out => ∀ r ∈ out, P r) (insertAll ordered records) := by
  induction records generalizing ordered with
  | nil => exact ⟨_, rfl, hordered⟩
  | cons r rest ih =>
      obtain ⟨hr, hrest⟩ := List.forall_mem_cons.mp hrecords
      obtain ⟨i, hi⟩ := hP.exists_placeOf hr hordered ordered.size 0 ordered.size
      simp only [insertAll, hi]
      refine ih (fun s hs => ?_) hrest
      -- The record is put between the two parts of those that are in order already.
      have hfrom : ∀ low high, s ∈ ordered.extract low high → P s := by
        intro low high hs
        obtain ⟨j, -, rfl⟩ := Array.mem_extract_iff_getElem.mp hs
        exact hordered _ (Array.getElem_mem _)
      rcases Array.mem_append.mp hs with hs | hs
      · rcases Array.mem_append.mp hs with hs | hs
        · exact hfrom _ _ hs
        · exact (Array.mem_singleton.mp hs) ▸ hr
      · exact hfrom _ _ hs

/-- A run that is too short is filled up with the records behind it. -/
theorem nextRun_yields (least : Nat) {records : List Record} (hrecords : ∀ r ∈ records, P r) :
    Yields (fun out => (∀ r ∈ out.1, P r) ∧ ∀ r ∈ out.2, P r) (nextRun least records) := by
  obtain ⟨⟨run, rest⟩, hfirst, hrun, hrest⟩ := hP.firstRun_yields hrecords
  simp only [nextRun, hfirst]
  refine (hP.insertAll_yields (by simpa using hrun) fun r hr => hrest r (List.mem_of_mem_take hr)).map ?_
  exact fun out hout => ⟨hout, fun r hr => hrest r (List.mem_of_mem_drop hr)⟩

/-! ### Merges -/

/-- Of two runs the one with the smaller head comes first. -/
theorem merge_yields {left right : Waiting} (hleft : P left.head) (hright : P right.head) :
    Yields (fun out => P out.head) (left.merge right) := by
  obtain ⟨before, hbefore⟩ := hP.exists_comesBefore hright hleft
  refine ⟨_, by rw [Waiting.merge, hbefore]; rfl, ?_⟩
  cases before with
  | true => exact hright
  | false => exact hleft

/-- Runs that wait are merged as long as the last ones are too short. -/
theorem settle_yields (depth fuel : Nat) {waiting : List Waiting} (hwaiting : ∀ w ∈ waiting, P w.head) :
    Yields (fun out => ∀ w ∈ out, P w.head) (settle depth waiting fuel) := by
  -- Only the heads of runs are compared, so it is enough that they are of the kind.
  induction fuel generalizing waiting with
  | zero =>
      cases waiting with
      | nil => exact ⟨_, rfl, hwaiting⟩
      | cons last rest =>
          refine ⟨{ last with depth := depth } :: rest, ?_, by simpa using hwaiting⟩
          cases rest <;> rfl
  | succ fuel ih =>
      rcases waiting with _ | ⟨right, _ | ⟨left, rest⟩⟩
      · exact ⟨_, rfl, hwaiting⟩
      · exact ⟨_, rfl, by simpa using hwaiting⟩
      · obtain ⟨hright, hleft, hrest⟩ :
            P right.head ∧ P left.head ∧ ∀ w ∈ rest, P w.head := by simpa using hwaiting
        rw [settle]
        split
        · obtain ⟨merged, hmerge, hmerged⟩ := hP.merge_yields hleft hright
          simp only [hmerge]
          exact ih (List.forall_mem_cons.mpr ⟨hmerged, hrest⟩)
        · exact ⟨_, rfl, by simpa using hwaiting⟩

theorem mergeAll_eq_ok (fuel : Nat) {waiting : List Waiting} (hwaiting : ∀ w ∈ waiting, P w.head) :
    mergeAll fuel waiting = .ok () := by
  -- The last runs are merged first, unless the third is shorter than the last.
  induction fuel generalizing waiting with
  | zero => rfl
  | succ fuel ih =>
      rcases waiting with _ | ⟨c, _ | ⟨b, _ | ⟨a, rest⟩⟩⟩
      · rfl
      · rfl
      · obtain ⟨hc, hb⟩ : P c.head ∧ P b.head := by simpa using hwaiting
        obtain ⟨merged, hmerge, -⟩ := hP.merge_yields hb hc
        rw [mergeAll, hmerge]
        rfl
      · obtain ⟨hc, hb, ha, hrest⟩ :
            P c.head ∧ P b.head ∧ P a.head ∧ ∀ w ∈ rest, P w.head := by simpa using hwaiting
        rw [mergeAll]
        split
        · obtain ⟨merged, hmerge, hmerged⟩ := hP.merge_yields ha hb
          simp only [hmerge]
          exact ih (by simpa using ⟨hc, hmerged, hrest⟩)
        · obtain ⟨merged, hmerge, hmerged⟩ := hP.merge_yields hb hc
          simp only [hmerge]
          exact ih (by simpa using ⟨hmerged, ha, hrest⟩)

/-- Runs are found and merged to the end of the records. -/
theorem mergeRuns_eq_ok (n least fuel : Nat) {waiting : List Waiting} {records : List Record}
    (hwaiting : ∀ w ∈ waiting, P w.head) (hrecords : ∀ r ∈ records, P r) :
    mergeRuns n least fuel waiting records = .ok () := by
  -- The heads of all runs that wait are records from the beginning of the list.
  induction fuel generalizing waiting records with
  | zero => exact hP.mergeAll_eq_ok _ hwaiting
  | succ fuel ih =>
      cases records with
      | nil => exact hP.mergeAll_eq_ok _ hwaiting
      | cons r rest =>
          obtain ⟨⟨run, left⟩, hnext, hrun, hleft⟩ := hP.nextRun_yields least hrecords
          simp only [mergeRuns, hnext]
          cases waiting with
          | nil => exact ih (List.forall_mem_cons.mpr ⟨hP.getD_of_mem hrun 0, nofun⟩) hleft
          | cons last others =>
              simp only
              obtain ⟨settled, hsettle, hsettled⟩ := hP.settle_yields _ _ hwaiting
              rw [hsettle]
              exact ih (List.forall_mem_cons.mpr ⟨hP.getD_of_mem hrun 0, hsettled⟩) hleft

/-! ### Sorting -/

/-- No two of the records are without an order. -/
theorem strangers_eq_none {records : List Record} (hrecords : ∀ r ∈ records, P r) :
    strangers records = none := by
  induction records with
  | nil => rfl
  | cons r rest ih =>
      obtain ⟨hr, hrest⟩ := List.forall_mem_cons.mp hrecords
      -- A stranger would be a record that the first one has no order with.
      have hnone : strangerOf r rest = none := by
        rw [strangerOf, List.find?_eq_none]
        intro s hs hstranger
        rw [Option.isNone_iff_eq_none] at hstranger
        have hsome := hP.order s r (hrest s hs) hr
        rw [hstranger] at hsome
        cases hsome
      rw [strangers, hnone]
      exact ih hrest

end Comparable

/-- Records any two of which have an order are sorted. -/
theorem sorted_of_comparable {P : Record → Prop} (hP : Comparable P) {records : List Record}
    (hrecords : ∀ r ∈ records, P r) : sorted records = .ok (records.mergeSort before) := by
  have hclash : firstClash records = none := by
    rw [firstClash, hP.mergeRuns_eq_ok _ _ _ (List.forall_mem_nil _) hrecords]
  rw [sorted, hclash, hP.strangers_eq_none hrecords]
  rfl

/-! ## Whole numbers as places -/

/-- The whole number in a field. -/
def number? (r : Record) (name : String) : Option Int :=
  match Fields.get r name with
  | .int n => some n
  | _ => none

/-- A field has a number if it holds that whole number. -/
theorem number?_eq_some_iff {r : Record} {name : String} {n : Int} :
    r.number? name = some n ↔ Fields.get r name = .int n := by
  unfold number?
  split
  · rename_i m h
    rw [h]
    simp
  · rename_i h
    constructor
    · nofun
    · intro hn
      exact absurd hn (h n)

/-- The place of a record: its order number and its id, as pairs are ordered. -/
def place (r : Record) : Int ×ₗ Int :=
  toLex ((r.number? "sort_order").getD 0, (r.number? "id").getD 0)

/-- A record is sorted by its place. -/
def IsPlaced (r : Record) : Prop := r.sortKey = (.int (ofLex r.place).1, .int (ofLex r.place).2)

theorem int_same (a b : Int) : (Value.int a).same (.int b) = decide (a = b) :=
  Value.same_whole (Value.whole?_int a) (Value.whole?_int b)

theorem IsPlaced.standsAt {r : Record} (h : r.IsPlaced) : r.StandsAt r.place := by
  rw [IsPlaced] at h
  constructor
  · rw [h]
    exact Value.whole?_int _
  · rw [h]
    exact Value.whole?_int _

theorem comparable_placed : Comparable IsPlaced where
  absent := rfl
  order r s hr hs := by rw [order?_of_standsAt hr.standsAt hs.standsAt]; rfl

/-! ## One order of distinct records -/

/-- Records with places are sorted by them. -/
theorem sorted_of_placed {records : List Record} (hplaced : ∀ r ∈ records, r.IsPlaced) :
    sorted records = .ok (records.mergeSort fun r s => decide (r.place ≤ s.place)) := by
  rw [sorted_of_comparable comparable_placed hplaced,
    mergeSort_before fun r hr => (hplaced r hr).standsAt]

/-- Records with places of their own have one increasing order, and sorting finds it. -/
theorem sorted_eq_ok_iff {records ordered : List Record}
    (hplaced : ∀ r ∈ records, r.IsPlaced) (hdistinct : (records.map place).Nodup) :
    sorted records = .ok ordered ↔
      ordered.Perm records ∧ ordered.Pairwise fun r s => r.place < s.place := by
  have hsorted := sorted_of_placed hplaced
  have hperm := List.mergeSort_perm records fun r s => decide (r.place ≤ s.place)
  have hincreasing : (records.mergeSort fun r s => decide (r.place ≤ s.place)).Pairwise
      fun r s => r.place < s.place := by
    have hle := pairwise_mergeSort fun r hr => (hplaced r hr).standsAt
    rw [mergeSort_before fun r hr => (hplaced r hr).standsAt] at hle
    -- Places that increase or stay, and are all different, increase.
    have hne := List.pairwise_map.mp ((hperm.map place).nodup_iff.mpr hdistinct)
    exact (hle.and hne).imp fun h => lt_of_le_of_ne h.1 h.2
  constructor
  · intro h
    obtain rfl := Except.ok.inj (hsorted.symm.trans h)
    exact ⟨hperm, hincreasing⟩
  · -- Two increasing lists of the same records are the same.
    rintro ⟨hsame, hpairwise⟩
    rw [hsorted]
    refine congrArg Except.ok ?_
    refine List.Perm.eq_of_pairwise ?_ hincreasing hpairwise (hperm.trans hsame.symm)
    exact fun r s _ _ h h' => absurd h' h.asymm

end Record

end FormPress
