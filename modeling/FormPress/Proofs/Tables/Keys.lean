/-
  FormPress.Proofs.Tables.Keys

  Tables with whole numbers as keys.  If every record holds a whole number as id
  and as the key of the record above it, and no id twice, then an id finds its
  record wherever that stands (`findRecord_eq`), and what is below a key are the
  records that hold it, in increasing order of their places
  (`below_eq_ok_iff`).
-/
import FormPress.Proofs.Tables.Reading
import FormPress.Proofs.Tables.Sorting

namespace FormPress

/-- Whether a value is a record with whole numbers in some fields, and as its order number if it has
    one. -/
def Value.isKeyed (names : List String) : Value → Bool
  | .object r =>
    names.all (fun name => (Record.number? r name).isSome) &&
      ((Fields.get r "sort_order").isNull || (Record.number? r "sort_order").isSome)
  | _ => false

/-- What a value has to be to be keyed: a record with a number in each of the fields. -/
theorem Value.isKeyed_iff {names : List String} {v : Value} :
    v.isKeyed names = true ↔ ∃ r : Record, v = .object r ∧
      (∀ name ∈ names, (r.number? name).isSome = true) ∧
        (Fields.get r "sort_order" = .null ∨ (r.number? "sort_order").isSome = true) := by
  -- An absent field counts as null, and so does one that holds null.
  have hnull (w : Value) : w.isNull = true ↔ w = .null := by
    unfold isNull
    split
    · simp
    · rename_i h
      exact ⟨nofun, fun hw => absurd hw h⟩
  cases v with
  | object r =>
      rw [isKeyed, Bool.and_eq_true, Bool.or_eq_true, List.all_eq_true, hnull]
      exact ⟨fun h => ⟨r, rfl, h⟩, fun ⟨_, hr, h⟩ => Value.object.inj hr ▸ h⟩
  | _ => exact ⟨nofun, fun ⟨_, hr, _⟩ => nomatch hr⟩

/-- The number of a field that may be absent, zero standing for an absent one. -/
theorem Record.orElse_zero {r : Record} {name : String}
    (h : Fields.get r name = .null ∨ (r.number? name).isSome = true) :
    (Fields.get r name).orElse (.int 0) = .int ((r.number? name).getD 0) := by
  rcases h with hnull | hsome
  · have hnone : r.number? name = none := by rw [number?, hnull]
    rw [hnull, hnone]
    rfl
  · obtain ⟨n, hn⟩ := Option.isSome_iff_exists.mp hsome
    rw [hn, number?_eq_some_iff.mp hn, Value.orElse, Value.truthy, Number.isZero]
    by_cases hzero : n = 0 <;> simp [hzero]

namespace FormTables

/-- The records of a table. -/
def records (table : List Value) : List Record :=
  table.filterMap fun
    | .object r => some r
    | _ => none

/-- A table of records with whole numbers as ids, each only once, and in the fields of some names. -/
structure IsKeyed (names : List String) (table : List Value) : Prop where
  numbers : ∀ v ∈ table, v.isKeyed ("id" :: names) = true
  distinct : ((records table).map (Record.number? · "id")).Nodup

/-- The records of a table that hold one of some keys in a field. -/
def recordsWith (field : String) (keys : List Int) (table : List Value) : List Record :=
  (records table).filter fun r => (r.number? field).any (· ∈ keys)

/-- The ids of records. -/
def ids (rs : List Record) : List Int := rs.filterMap (·.number? "id")

/-- The records of a table are its objects. -/
theorem mem_records {table : List Value} {r : Record} : r ∈ records table ↔ .object r ∈ table := by
  rw [records, List.mem_filterMap]
  constructor
  · rintro ⟨v, hv, hr⟩
    split at hr
    · exact Option.some.inj hr ▸ hv
    · cases hr
  · exact fun h => ⟨_, h, rfl⟩

/-- A record is among those with some keys if its field holds one of them. -/
theorem mem_recordsWith {field : String} {keys : List Int} {table : List Value} {r : Record} :
    r ∈ recordsWith field keys table ↔
      r ∈ records table ∧ ∃ n ∈ keys, r.number? field = some n := by
  rw [recordsWith, List.mem_filter, Option.any_eq_true]
  simp only [decide_eq_true_iff]
  exact and_congr_right fun _ => exists_congr fun n => and_comm

theorem recordsWith_congr (field : String) {keys keys' : List Int} (table : List Value)
    (h : ∀ n, n ∈ keys ↔ n ∈ keys') :
    recordsWith field keys table = recordsWith field keys' table := by
  simp only [recordsWith, h]

theorem mem_ids {rs : List Record} {n : Int} : n ∈ ids rs ↔ ∃ r ∈ rs, r.number? "id" = some n :=
  List.mem_filterMap

/-! ## Tables in another arrangement -/

/-- A table in another arrangement has the same records. -/
theorem records_perm {table table' : List Value} (h : table'.Perm table) :
    (records table').Perm (records table) := h.filterMap _

theorem recordsWith_perm {table table' : List Value} (h : table'.Perm table) (field : String)
    (keys : List Int) : (recordsWith field keys table').Perm (recordsWith field keys table) :=
  (records_perm h).filter _

namespace IsKeyed

variable {names : List String} {table table' : List Value} {r : Record}

/-- Whether a table is keyed does not depend on how it is arranged. -/
theorem perm (h : IsKeyed names table) (hperm : table'.Perm table) : IsKeyed names table' where
  numbers v hv := h.numbers v (hperm.mem_iff.mp hv)
  distinct := ((records_perm hperm).map _).nodup_iff.mpr h.distinct

/-- A keyed table, taken apart at its first record. -/
theorem cons {v : Value} (h : IsKeyed names (v :: table)) :
    ∃ r : Record, v = .object r ∧ (∀ name ∈ "id" :: names, (r.number? name).isSome = true) ∧
      r.number? "id" ∉ (records table).map (Record.number? · "id") ∧ IsKeyed names table := by
  obtain ⟨r, rfl, hr, -⟩ := Value.isKeyed_iff.mp (h.numbers v (List.mem_cons_self ..))
  obtain ⟨hnew, hrest⟩ := List.nodup_cons.mp h.distinct
  exact ⟨r, rfl, hr, hnew, fun w hw => h.numbers w (List.mem_cons_of_mem _ hw), hrest⟩

/-! ## Records of keyed tables -/

/-- Every record of a keyed table holds whole numbers. -/
theorem isKeyed (h : IsKeyed names table) (hr : r ∈ records table) :
    (∀ name ∈ "id" :: names, (r.number? name).isSome = true) ∧
      (Fields.get r "sort_order" = .null ∨ (r.number? "sort_order").isSome = true) := by
  obtain ⟨s, hs, hkeyed⟩ := Value.isKeyed_iff.mp (h.numbers _ (mem_records.mp hr))
  exact Value.object.inj hs ▸ hkeyed

/-- A record of a keyed table holds a whole number in each of the fields. -/
theorem number (h : IsKeyed names table) (hr : r ∈ records table) {name : String}
    (hname : name ∈ "id" :: names) : ∃ n, r.number? name = some n :=
  Option.isSome_iff_exists.mp ((h.isKeyed hr).1 name hname)

/-- Every record of a keyed table has a place. -/
theorem placed (h : IsKeyed names table) (hr : r ∈ records table) : r.IsPlaced :=
  Prod.ext (Record.orElse_zero (h.isKeyed hr).2)
    (Record.orElse_zero (.inr ((h.isKeyed hr).1 "id" (List.mem_cons_self ..))))

/-- Records of a keyed table have places of their own. -/
theorem places_nodup (h : IsKeyed names table) {rs : List Record}
    (hrs : rs.Sublist (records table)) : (rs.map Record.place).Nodup := by
  have hids := List.pairwise_map.mp (h.distinct.sublist (hrs.map _))
  refine List.pairwise_map.mpr (hids.imp_of_mem fun hr hs hne hplace => ?_)
  obtain ⟨a, ha⟩ := h.number (hrs.mem hr) (List.mem_cons_self ..)
  obtain ⟨b, hb⟩ := h.number (hrs.mem hs) (List.mem_cons_self ..)
  rw [ha, hb] at hne
  -- The id is the second part of the place.
  have hsecond := congrArg (fun p => (ofLex p).2) hplace
  simp only [Record.place, ha, hb, Option.getD_some, ofLex_toLex] at hsecond
  exact hne (congrArg some hsecond)

/-- Records of a keyed table have ids of their own. -/
theorem ids_nodup (h : IsKeyed names table) {rs : List Record}
    (hrs : rs.Sublist (records table)) : (ids rs).Nodup := by
  have hids := h.distinct.sublist (hrs.map (Record.number? · "id"))
  have hsome := hids.filterMap (f := id) fun a a' b ha ha' => ha.trans ha'.symm
  rwa [List.filterMap_map] at hsome

/-! ## Looking up -/

/-- An id finds its record, wherever that stands. -/
theorem findRecord_eq (h : IsKeyed names table) (hr : r ∈ records table) {id : Int}
    (hid : r.number? "id" = some id) : findRecord (.int id) table = .ok (some r) := by
  induction table with
  | nil => cases hr
  | cons v rest ih =>
      obtain ⟨first, rfl, hfirst, hnew, hrest⟩ := h.cons
      obtain ⟨n, hn⟩ := Option.isSome_iff_exists.mp (hfirst "id" (List.mem_cons_self ..))
      rw [findRecord, recordOf_eq_ok_iff.mpr rfl, ok_bind, Record.number?_eq_some_iff.mp hn,
        Record.int_same]
      -- The search goes along the table, so the record is the first one or is found behind it.
      rcases List.mem_cons.mp hr with rfl | hlater
      · rw [hid] at hn
        simp [Option.some.inj hn, Value.isNull, pure, Except.pure]
      · -- The id of a later record is not that of the first one.
        have hne : n ≠ id := by
          rintro rfl
          exact hnew (List.mem_map.mpr ⟨r, hlater, hid.trans hn.symm⟩)
        simpa [hne, Value.isNull] using ih hrest hlater

/-- The steps of a form are the records that hold its number, wherever they stand. -/
theorem stepsOf_eq (h : IsKeyed names table) (hfield : "form_id" ∈ names) (form : Int) :
    stepsOf form table = .ok (recordsWith "form_id" [form] table) := by
  induction table with
  | nil => rfl
  | cons v rest ih =>
      obtain ⟨r, rfl, hr, -, hrest⟩ := h.cons
      obtain ⟨n, hn⟩ := Option.isSome_iff_exists.mp (hr _ (List.mem_cons_of_mem _ hfield))
      rw [stepsOf, recordOf_eq_ok_iff.mpr rfl, ok_bind, ih hrest, ok_bind,
        Record.number?_eq_some_iff.mp hn, Record.int_same]
      by_cases hform : n = form <;>
        simp [hform, recordsWith, records, hn, pure, Except.pure]

/-- A keyed table can be keyed by each of its keys, and what is below one are the records that hold
    it. -/
theorem keyed_below (h : IsKeyed names table) {field : String} (hfield : field ∈ names) :
    ∃ k, keyed field table = .ok k ∧
      ∀ n, below k (.int n) = Record.sorted (recordsWith field [n] table) := by
  -- What is below a key is sorted last, so it is enough to find the records before that.
  suffices hk : ∃ k, keyed field table = .ok k ∧ ∀ n,
      (k.filter fun p => (Value.scalar p.1).same (.int n)).map (·.2) =
        recordsWith field [n] table by
    obtain ⟨k, hkeyed, hbelow⟩ := hk
    exact ⟨k, hkeyed, fun n => by rw [below, hbelow]⟩
  induction table with
  | nil => exact ⟨[], rfl, fun _ => rfl⟩
  | cons v rest ih =>
      obtain ⟨r, rfl, hr, -, hrest⟩ := h.cons
      obtain ⟨m, hm⟩ := Option.isSome_iff_exists.mp (hr _ (List.mem_cons_of_mem _ hfield))
      obtain ⟨k, hkeyed, hbelow⟩ := ih hrest
      refine ⟨(.number (.int m), r) :: k, keyed_cons_eq_ok_iff.mpr ⟨r, _, k, rfl, ?_, hkeyed, rfl⟩,
        fun n => ?_⟩
      · rw [Record.number?_eq_some_iff.mp hm]
        rfl
      · have hrecords : recordsWith field [n] (.object r :: rest) =
            if m = n then r :: recordsWith field [n] rest else recordsWith field [n] rest := by
          by_cases hmn : m = n <;> simp [recordsWith, records, hm, hmn]
        rw [List.filter_cons, Record.int_same, hrecords, ← hbelow]
        by_cases hmn : m = n <;> simp [hmn]

/-- Sorting the records with a key gives them in increasing order of their places. -/
theorem sorted_eq_ok_iff (h : IsKeyed names table) {field : String} {keys : List Int}
    {rs : List Record} :
    Record.sorted (recordsWith field keys table) = .ok rs ↔
      rs.Perm (recordsWith field keys table) ∧ rs.Pairwise fun r s => r.place < s.place :=
  Record.sorted_eq_ok_iff (fun _ hr => h.placed (mem_recordsWith.mp hr).1)
    (h.places_nodup List.filter_sublist)

end IsKeyed

end FormTables

end FormPress
