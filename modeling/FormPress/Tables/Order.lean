/-
  FormPress.Tables.Order

  Records in the order of a form: by their order number, and by their id where
  that is the same; records alike in both keep their places. A table whose
  records have no common order cannot be sorted, and the failure names the kinds
  of the two values that are compared first without having an order: sorting
  looks for the run at the beginning and inserts the records after it one by one,
  halving the ordered part. Of many records it makes several runs in this way,
  and merging begins at their first records (`Record.firstClash`).
-/
import FormPress.Failure

namespace FormPress

/-- The fields of a record. -/
abbrev Record := List (Scalar × Value)

namespace Record

/-- What a record is sorted by: its order number and its id, zero where they are not given. -/
def sortKey (r : Record) : Value × Value :=
  ((Fields.get r "sort_order").orElse (.int 0), (Fields.get r "id").orElse (.int 0))

/-- The first parts in which two keys differ, of equal keys the second ones. -/
def decidingParts (a b : Value × Value) : Value × Value :=
  if a.1.same b.1 then (a.2, b.2) else (a.1, b.1)

/-- The order of two records, if they have one. -/
def order? (a b : Record) : Option Ordering :=
  let (x, y) := decidingParts a.sortKey b.sortKey
  if x.same y then some .eq else x.order? y

/-- Whether a record may stand before another one. -/
def before (a b : Record) : Bool := a.order? b != some .gt

/-! ## Records without an order -/

mutual

/-- The kinds of the values at the first difference of two values, outer collections passed
    through. -/
def kindsAtDifference : Value → Value → String × String
  | .list xs, .list ys => kindsAtItems xs ys
  | .pair a b, .pair c d => if a.same c then kindsAtDifference b d else kindsAtDifference a c
  | a, b => (a.kindName, b.kindName)

/-- The kinds of the values at the first difference of two lists. -/
def kindsAtItems : List Value → List Value → String × String
  | x :: xs, y :: ys => if x.same y then kindsAtItems xs ys else kindsAtDifference x y
  | _, _ => ("list", "list")

end

/-- The failure to order two records. -/
def orderFailure (later earlier : Record) : Failure :=
  let (x, y) := decidingParts later.sortKey earlier.sortKey
  let (kind, other) := kindsAtDifference x y
  .misuse (.inOrder kind other)

/-- Two records that were compared and have no order. -/
abbrev Clash := Record × Record

/-- Whether a record comes before another one, or that they have no order. -/
def comesBefore (a b : Record) : Except Clash Bool :=
  match a.order? b with
  | some o => .ok (o == .lt)
  | none => .error (a, b)

/-- The run of records after `last` that all come before the one in front of them, or of those of
    which none does. The records of the run are put in front of `acc`, and those after it are
    left. -/
def runFrom (descending : Bool) (last : Record) (acc : List Record) :
    List Record → Except Clash (List Record × List Record)
  | [] => .ok (acc, [])
  | r :: rest =>
    match comesBefore r last with
    | .error clash => .error clash
    | .ok before =>
      if before == descending then runFrom descending r (r :: acc) rest else .ok (acc, r :: rest)

/-- The ordered run at the beginning, and the records after it. -/
def firstRun : List Record → Except Clash (List Record × List Record)
  | r :: s :: rest =>
    match comesBefore s r with
    | .error clash => .error clash
    | .ok true => runFrom true s [s, r] rest
    | .ok false => (runFrom false s [s, r] rest).map fun (run, left) => (run.reverse, left)
  | records => .ok (records, [])

/-- The place of a record among ordered ones, between `low` and `high`. -/
def placeOf (r : Record) (ordered : Array Record) : Nat → Nat → Nat → Except Clash Nat
  | 0, low, _ => .ok low
  | fuel + 1, low, high =>
    if low < high then
      let middle := low + (high - low) / 2
      match comesBefore r (ordered.getD middle []) with
      | .error clash => .error clash
      | .ok true => placeOf r ordered fuel low middle
      | .ok false => placeOf r ordered fuel (middle + 1) high
    else .ok low

/-- Inserts records into ordered ones. -/
def insertAll (ordered : Array Record) : List Record → Except Clash (Array Record)
  | [] => .ok ordered
  | r :: rest =>
    match placeOf r ordered ordered.size 0 ordered.size with
    | .error clash => .error clash
    | .ok i => insertAll (ordered.extract 0 i ++ #[r] ++ ordered.extract i ordered.size) rest

/-- The least length of a run among so many records; `odd` says whether halving has left a
    remainder so far. -/
def leastRun (n : Nat) (odd : Bool) : Nat :=
  if 64 ≤ n then leastRun (n / 2) (odd || n % 2 == 1) else n + (if odd then 1 else 0)
termination_by n

/-- An ordered run of at least so many records, if there are so many, and the records after it. -/
def nextRun (least : Nat) (records : List Record) : Except Clash (Array Record × List Record) :=
  match firstRun records with
  | .error clash => .error clash
  | .ok (run, rest) =>
    let missing := least - run.length
    (insertAll run.toArray (rest.take missing)).map fun run => (run, rest.drop missing)

/-- A run that waits to be merged: its first record, its place and its length. The records around
    the border to the run after it are halves of the table at that depth. -/
structure Waiting where
  head : Record
  start : Nat
  length : Nat
  depth : Nat

/-- How often the range of `n` records must be halved until a border lies between `a` and `b`, which
    count half records. -/
def borderDepth (n : Nat) : Nat → Nat → Nat → Nat
  | 0, _, _ => 1
  | fuel + 1, a, b =>
    if n ≤ a then borderDepth n fuel (2 * (a - n)) (2 * (b - n)) + 1
    else if n ≤ b then 1
    else borderDepth n fuel (2 * a) (2 * b) + 1

/-- Two neighbours merged, which begins with their first records. -/
def Waiting.merge (left right : Waiting) : Except Clash Waiting :=
  (comesBefore right.head left.head).map fun before =>
    { left with
      head := if before then right.head else left.head
      length := left.length + right.length }

/-- Merges the last runs as long as the border before the last one lies deeper than `depth`, which
    is that of the border after it. The last run comes first. -/
def settle (depth : Nat) : List Waiting → Nat → Except Clash (List Waiting)
  | right :: left :: rest, fuel + 1 =>
    if depth < left.depth then
      match left.merge right with
      | .error clash => .error clash
      | .ok merged => settle depth (merged :: rest) fuel
    else .ok ({ right with depth := depth } :: left :: rest)
  | last :: rest, _ => .ok ({ last with depth := depth } :: rest)
  | [], _ => .ok []

/-- Merges all runs, the last two first unless the one before them is shorter than the last. -/
def mergeAll : Nat → List Waiting → Except Clash Unit
  | fuel + 1, c :: b :: rest =>
    match rest with
    | a :: rest =>
      if a.length < c.length then
        match a.merge b with
        | .error clash => .error clash
        | .ok merged => mergeAll fuel (c :: merged :: rest)
      else
        match b.merge c with
        | .error clash => .error clash
        | .ok merged => mergeAll fuel (merged :: a :: rest)
    | [] => (b.merge c).map fun _ => ()
  | _, _ => .ok ()

/-- Finds the runs of the records from here on and merges them; `waiting` holds those before. -/
def mergeRuns (n least : Nat) : Nat → List Waiting → List Record → Except Clash Unit
  | 0, waiting, _ => mergeAll waiting.length waiting
  | _, waiting, [] => mergeAll waiting.length waiting
  | fuel + 1, waiting, records =>
    match nextRun least records with
    | .error clash => .error clash
    | .ok (run, rest) =>
      let settled : Except Clash (List Waiting) := match waiting with
        | [] => .ok []
        | last :: _ =>
          let middle := 2 * last.start + last.length
          settle (borderDepth n n middle (middle + last.length + run.size)) waiting waiting.length
      match settled with
      | .error clash => .error clash
      | .ok waiting =>
        mergeRuns n least fuel (⟨run.getD 0 [], n - records.length, run.size, 0⟩ :: waiting) rest

/-- The two records that are compared first without having an order, the later one first. -/
def firstClash (records : List Record) : Option Clash :=
  let n := records.length
  match mergeRuns n (leastRun n false) n [] records with
  | .error clash => some clash
  | .ok () => none

/-- The first record among some that has no order with another one. -/
def strangerOf (r : Record) (others : List Record) : Option Record :=
  others.find? fun s => (s.order? r).isNone

/-- Two records without an order, the later one first. -/
def strangers : List Record → Option Clash
  | [] => none
  | r :: rest =>
    match strangerOf r rest with
    | some s => some (s, r)
    | none => strangers rest

/-! ## Sorting -/

/-- The records in order. -/
def sorted (records : List Record) : Except Failure (List Record) :=
  match (firstClash records).orElse fun _ => strangers records with
  | some (later, earlier) => .error (orderFailure later earlier)
  | none => .ok (records.mergeSort before)

end Record

end FormPress
