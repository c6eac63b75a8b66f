/-
  FormPress.Data.Table

  Tables of keys and values in order of first appearance: writing to a present
  key replaces its value in place, writing to a new one appends. The lemmas say
  what a look-up finds after a write.
-/

namespace FormPress

/-- Pairs of a key and its value, each key once. -/
abbrev Table (κ α : Type) := List (κ × α)

namespace Table

variable {κ α : Type} [DecidableEq κ]

/-- The value of a key. -/
def get? (t : Table κ α) (k : κ) : Option α := (List.find? (fun p => p.1 = k) t).map (·.2)

/-- Writes a value. -/
def put (k : κ) (v : α) : Table κ α → Table κ α
  | [] => [(k, v)]
  | (k', v') :: t => if k' = k then (k, v) :: t else (k', v') :: put k v t

/-- Writes the change of a value, of `start` where the key is new. -/
def update (k : κ) (start : α) (f : α → α) (t : Table κ α) : Table κ α :=
  put k (f ((t.get? k).getD start)) t

@[simp] theorem get?_nil (k : κ) : get? ([] : Table κ α) k = none := rfl

theorem get?_cons (p : κ × α) (t : Table κ α) (k : κ) :
    get? (p :: t : Table κ α) k = if p.1 = k then some p.2 else get? t k := by
  by_cases h : p.1 = k <;> simp [get?, List.find?, h]

/-- A look-up after a write finds the written value under its key and the old ones elsewhere. -/
theorem get?_put (k : κ) (v : α) (t : Table κ α) (k' : κ) :
    get? (put k v t) k' = if k = k' then some v else get? t k' := by
  induction t with
  | nil => by_cases h : k = k' <;> simp [put, get?_cons, h]
  | cons p t ih =>
    obtain ⟨a, b⟩ := p
    by_cases h : a = k
    · subst h; simp only [put, if_true, get?_cons]; by_cases h' : a = k' <;> simp [h']
    · simp only [put, if_neg h, get?_cons, ih]
      by_cases h' : a = k'
      · subst h'; simp [Ne.symm h]
      · simp [h']

/-- A look-up finds what was written under its key. -/
theorem get?_put_self (k : κ) (v : α) (t : Table κ α) : get? (put k v t) k = some v := by
  rw [get?_put, if_pos rfl]

/-- A write leaves what stands under other keys. -/
theorem get?_put_of_ne {k k' : κ} (h : k ≠ k') (v : α) (t : Table κ α) :
    get? (put k v t) k' = get? t k' := by
  rw [get?_put, if_neg h]

end Table

end FormPress
