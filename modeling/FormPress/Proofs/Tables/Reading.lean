/-
  FormPress.Proofs.Tables.Reading

  Reading tables that succeeds.  A list of readings succeeds exactly if each of
  them does, item by item (`mapM_eq_ok_iff`).  What is looked up below a key are
  records of the table whose field holds that key (`mem_below`), and sorting
  only puts them in another order (`sorted_perm`).
-/
import FormPress.Tables.Load
import Mathlib.Data.List.Forall2

namespace FormPress

/-! ## Readings one after the other -/

section

variable {ε α β : Type}

theorem ok_bind (a : α) (f : α → Except ε β) : (Except.ok a >>= f) = f a := rfl

/-- Two readings in a row succeed exactly if the first one does, and the second with what it gives.
    -/
theorem bind_eq_ok_iff {x : Except ε α} {f : α → Except ε β} {b : β} :
    x >>= f = .ok b ↔ ∃ a, x = .ok a ∧ f a = .ok b := by
  cases x with
  | error e => exact ⟨nofun, fun ⟨_, h, _⟩ => nomatch h⟩
  | ok a => exact ⟨fun h => ⟨a, rfl, h⟩, fun ⟨_, ha, h⟩ => Except.ok.inj ha ▸ h⟩

theorem pure_eq_ok_iff {a b : α} : (pure a : Except ε α) = .ok b ↔ a = b :=
  ⟨Except.ok.inj, fun h => h ▸ rfl⟩

/-- A list of readings succeeds exactly if each item is read, in order. -/
theorem mapM_eq_ok_iff {f : α → Except ε β} {xs : List α} {ys : List β} :
    xs.mapM f = .ok ys ↔ List.Forall₂ (fun x y => f x = .ok y) xs ys := by
  induction xs generalizing ys with
  | nil => rw [List.mapM_nil, pure_eq_ok_iff, List.forall₂_nil_left_iff, eq_comm]
  | cons x xs ih =>
      rw [List.mapM_cons]
      simp only [bind_eq_ok_iff, pure_eq_ok_iff, ih]
      constructor
      · rintro ⟨y, hy, rest, hrest, rfl⟩
        exact .cons hy hrest
      · intro h
        obtain ⟨y, rest, hy, hrest, rfl⟩ := List.forall₂_cons_left_iff.mp h
        exact ⟨y, hy, rest, hrest, rfl⟩

/-- Readings that succeed are the same with another reader that agrees on the items read. -/
theorem mapM_ok_congr {f g : α → Except ε β} {xs : List α} {ys : List β}
    (h : xs.mapM f = .ok ys) (hfg : ∀ x ∈ xs, ∀ y ∈ ys, f x = .ok y → g x = .ok y) :
    xs.mapM g = .ok ys := by
  rw [mapM_eq_ok_iff] at h ⊢
  induction h with
  | nil => exact .nil
  | cons hy _ ih =>
      refine .cons (hfg _ (List.mem_cons_self ..) _ (List.mem_cons_self ..) hy) (ih ?_)
      intro x hx y hy
      exact hfg x (List.mem_cons_of_mem _ hx) y (List.mem_cons_of_mem _ hy)

end

namespace Value

/-- A value that can be a key is that scalar. -/
theorem eq_scalar_of_key? {v : Value} {k : Scalar} (h : v.key? = some k) : v = .scalar k := by
  unfold key? at h
  split at h
  · cases h
  · rw [Option.some.inj h]
  · cases h

end Value

/-! ## Sorting -/

/-- Sorting that succeeds is a stable sort by what comes before what. -/
theorem Record.eq_of_sorted {rs ss : List Record} (h : Record.sorted rs = .ok ss) :
    ss = rs.mergeSort before := by
  unfold Record.sorted at h
  split at h
  · cases h
  · exact (Except.ok.inj h).symm

/-- Sorting keeps the records. -/
theorem Record.sorted_perm {rs ss : List Record} (h : Record.sorted rs = .ok ss) : ss.Perm rs := by
  rw [Record.eq_of_sorted h]
  exact List.mergeSort_perm ..

/-- One record is sorted. -/
theorem Record.sorted_singleton (r : Record) : Record.sorted [r] = .ok [r] := by
  with_unfolding_all rfl

/-- Two records with an order make one run, so nothing stops them from being sorted. -/
theorem Record.firstClash_pair {r s : Record} {o : Ordering} (h : s.order? r = some o) :
    firstClash [r, s] = none := by
  obtain ⟨run, hrun⟩ : ∃ run : List Record, nextRun 2 [r, s] = .ok (run.toArray, []) := by
    cases o <;> simp [nextRun, firstRun, comesBefore, h, runFrom, insertAll, Except.map]
  simp [firstClash, leastRun, mergeRuns, mergeAll, hrun]

/-- Two records with an order are sorted by comparing them once. -/
theorem Record.sorted_pair {r s : Record} {o : Ordering} (h : s.order? r = some o) :
    Record.sorted [r, s] = .ok (if r.before s then [r, s] else [s, r]) := by
  simp [sorted, firstClash_pair h, strangers, strangerOf, h, List.mergeSort, List.merge]

namespace FormTables

/-! ## Records of tables -/

/-- A record with fields of these names. -/
def recordWith (fields : List (String × Value)) : Value :=
  .object (fields.map fun f => (.text f.1, f.2))

theorem recordOf_eq_ok_iff {v : Value} {r : Record} : recordOf v = .ok r ↔ v = .object r := by
  constructor
  · intro h
    cases v with
    | object fields => rw [Except.ok.inj h]
    | _ => cases h
  · rintro rfl
    rfl

/-- A record is keyed by what its field holds, and put in front of the others. -/
theorem keyed_cons {field : String} {r : Record} {k : Scalar}
    (hk : (Fields.get r field).key? = some k) (rest : List Value) :
    keyed field (.object r :: rest) = (keyed field rest).map ((k, r) :: ·) := by
  rw [keyed, recordOf_eq_ok_iff.mpr rfl, ok_bind]
  simp only [hk]
  cases keyed field rest <;> rfl

/-- A record whose field can be no key ends the keying of its table. -/
theorem keyed_cons_error {field : String} {r : Record} (hk : (Fields.get r field).key? = none)
    (rest : List Value) :
    keyed field (.object r :: rest) =
      .error (.misuse (.asKey (Fields.get r field).kindName)) := by
  rw [keyed, recordOf_eq_ok_iff.mpr rfl, ok_bind]
  simp only [hk]

/-- A table is keyed record by record. -/
theorem keyed_cons_eq_ok_iff {field : String} {v : Value} {rest : List Value} {t : Keyed} :
    keyed field (v :: rest) = .ok t ↔
      ∃ r k others, v = .object r ∧ (Fields.get r field).key? = some k ∧
        keyed field rest = .ok others ∧ t = (k, r) :: others := by
  constructor
  · intro h
    obtain ⟨r, hr, -⟩ := bind_eq_ok_iff.mp h
    obtain rfl := recordOf_eq_ok_iff.mp hr
    cases hk : (Fields.get r field).key? with
    | none =>
        rw [keyed_cons_error hk] at h
        cases h
    | some k =>
        rw [keyed_cons hk] at h
        cases hrest : keyed field rest with
        | error e =>
            rw [hrest] at h
            cases h
        | ok others =>
            rw [hrest] at h
            exact ⟨r, k, others, rfl, hk, rfl, (Except.ok.inj h).symm⟩
  · rintro ⟨r, k, others, rfl, hk, hothers, rfl⟩
    rw [keyed_cons hk, hothers]
    rfl

/-- A keyed record is one of the table, and its key is what its field holds. -/
theorem mem_keyed {field : String} {table : List Value} {t : Keyed}
    (h : keyed field table = .ok t) {k : Scalar} {r : Record} (hr : (k, r) ∈ t) :
    .object r ∈ table ∧ Fields.get r field = .scalar k := by
  induction table generalizing t with
  | nil =>
      obtain rfl := Except.ok.inj h
      cases hr
  | cons v rest ih =>
      obtain ⟨r', k', others, rfl, hk, hothers, rfl⟩ := keyed_cons_eq_ok_iff.mp h
      rcases List.mem_cons.mp hr with heq | hrest
      · obtain ⟨rfl, rfl⟩ := Prod.mk.inj heq
        exact ⟨List.mem_cons_self .., Value.eq_scalar_of_key? hk⟩
      · obtain ⟨hmem, hfield⟩ := ih hothers hrest
        exact ⟨List.mem_cons_of_mem _ hmem, hfield⟩

/-- The records below a key are records of the table whose field is the key. -/
theorem mem_below {field : String} {table : List Value} {t : Keyed} {key : Value}
    {rs : List Record} (ht : keyed field table = .ok t) (h : below t key = .ok rs) {r : Record}
    (hr : r ∈ rs) : .object r ∈ table ∧ (Fields.get r field).same key = true := by
  -- Sorting has only put the records below the key in another order.
  have hmem := (Record.sorted_perm h).mem_iff.mp hr
  simp only [List.mem_map, List.mem_filter] at hmem
  obtain ⟨⟨k, r'⟩, ⟨hkr, hsame⟩, rfl⟩ := hmem
  obtain ⟨hobject, hfield⟩ := mem_keyed ht hkr
  exact ⟨hobject, hfield ▸ hsame⟩

/-- The tables of parts are keyed if each of them is. -/
theorem parts_eq_ok_iff {t : FormTables} {p : Parts} :
    t.parts = .ok p ↔
      keyed "step_id" t.sections = .ok p.sections ∧
        keyed "section_id" t.questions = .ok p.questions ∧
          keyed "question_id" t.options = .ok p.options ∧
            keyed "question_id" t.rows = .ok p.rows := by
  obtain ⟨sections, questions, options, rows⟩ := p
  simp only [parts, bind_eq_ok_iff, pure_eq_ok_iff, Parts.mk.injEq]
  constructor
  · rintro ⟨_, h1, _, h2, _, h3, _, h4, rfl, rfl, rfl, rfl⟩
    exact ⟨h1, h2, h3, h4⟩
  · rintro ⟨h1, h2, h3, h4⟩
    exact ⟨_, h1, _, h2, _, h3, _, h4, rfl, rfl, rfl, rfl⟩

/-- A form of one step is loaded by reading the form and the step and sorting what is below it. -/
theorem load_of_step {t : FormTables} {id : Value} {record r : Record} {form : Form} {p : Parts}
    {step : Step} {rs : List Record} {sections : List SectionNode} {answers : List Answer} {n : Int}
    (hrecord : t.formRecord id = .ok record) (hform : readRecord .form Form.read record = .ok form)
    (hparts : t.parts = .ok p) (hsteps : stepsOf form.id t.steps = .ok [r])
    (hstep : readRecord .step Step.read r = .ok step)
    (hbelow : below p.sections (.int step.id) = .ok rs)
    (hsections : rs.mapM (sectionNode p) = .ok sections)
    (hanswers : t.answersOf id t.answers = .ok answers) (hnumber : instanceNumber id = .ok n) :
    t.load id = .ok ⟨n, form, [⟨step, sections⟩], answers⟩ := by
  have hnode : stepNode p r = .ok ⟨step, sections⟩ := by
    simp only [stepNode, hstep, hbelow, hsections, ok_bind]
    rfl
  have htree : t.tree form.id = .ok [⟨step, sections⟩] := by
    simp only [tree, hparts, hsteps, Record.sorted_singleton, ok_bind]
    exact mapM_eq_ok_iff.mpr (.cons hnode .nil)
  simp only [load, hrecord, hform, htree, hanswers, hnumber, ok_bind]
  rfl

/-- Which answers an instance has is all that its tables matter for in reading them. -/
theorem answersOf_congr {t t' : FormTables} {id : Value}
    (h : ∀ r, t.belongs id r = t'.belongs id r) (table : List Value) :
    t.answersOf id table = t'.answersOf id table := by
  induction table with
  | nil => rfl
  | cons v rest ih => simp only [answersOf, h, ih]

end FormTables

end FormPress
