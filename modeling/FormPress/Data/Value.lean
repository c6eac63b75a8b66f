/-
  FormPress.Data.Value

  The values of a data file: scalars, lists and objects, and two kinds of
  collection that are rarer. Whole numbers and doubles are kept apart, because
  they are written differently, but they are equal as keys when they have the
  same value (`Scalar.same`), and so are the truth values with one and zero. The
  order used for sorting (`Value.order?`) is defined only between values of one
  kind. A collection that holds itself has a mark at that place (`Scalar.ring`),
  and `Value.unroll` puts the collection there for as many levels as are needed.
-/
import FormPress.Data.Moment
import FormPress.Decimal.Binary

namespace FormPress

/-! ## Types -/

/-- A number as it was written: whole, or with a fraction or an exponent. -/
inductive Number where
  | int (n : Int)
  | float (x : Float)
  deriving Repr, BEq, Inhabited

/-- A value without parts. -/
inductive Scalar where
  | null
  | bool (b : Bool)
  | number (n : Number)
  | text (s : String)
  | day (d : Day)
  | moment (m : Moment)
  /-- bytes that need not be a text -/
  | bytes (bs : List UInt8)
  /-- the collection of that name once more, which this place is a part of -/
  | ring (name : String) (isList : Bool)
  deriving Repr, BEq, Inhabited

/-- A value of a data file. The fields of an object are in order of first appearance. -/
inductive Value where
  | scalar (s : Scalar)
  | list (items : List Value)
  | object (fields : List (Scalar × Value))
  /-- two values that belong together -/
  | pair (first second : Value)
  /-- scalars without an order, each once -/
  | set (items : List Scalar)
  deriving Repr, Inhabited

/-- The fields of an object. -/
abbrev Fields := List (Scalar × Value)

namespace Value

/-- Null as a value. -/
@[match_pattern] abbrev null : Value := .scalar .null
/-- A truth value as a value. -/
@[match_pattern] abbrev bool (b : Bool) : Value := .scalar (.bool b)
/-- A whole number as a value. -/
@[match_pattern] abbrev int (n : Int) : Value := .scalar (.number (.int n))
/-- A double as a value. -/
@[match_pattern] abbrev float (x : Float) : Value := .scalar (.number (.float x))
/-- A text as a value. -/
@[match_pattern] abbrev text (s : String) : Value := .scalar (.text s)

/-- Whether the value is null. -/
def isNull : Value → Bool
  | .null => true
  | _ => false

end Value

/-! ## Numeric value -/

/-- The exact value of a number: a fraction over a power of two, or none of the reals. -/
inductive Real where
  | finite (numerator : Int) (denominator : Nat)
  | infinite (negative : Bool)
  | undefined

/-- The exact value of a number. -/
def Number.real : Number → Real
  | .int n => .finite n 1
  | .float x =>
    match Decimal.Shape.ofFloat x with
    | .finite b => .finite b.signed b.denominator
    | .infinite negative => .infinite negative
    | .notANumber => .undefined

/-- The order of two exact values; an undefined one has none. -/
def Real.order? : Real → Real → Option Ordering
  | .finite a p, .finite b q => some (compare (a * q) (b * p))
  | .infinite s, .infinite t => some (compare t s)
  | .infinite s, .finite _ _ => some (if s then .lt else .gt)
  | .finite _ _, .infinite s => some (if s then .gt else .lt)
  | .undefined, _ => none
  | _, .undefined => none

/-- Whether a number is zero. -/
def Number.isZero (n : Number) : Bool :=
  match n with
  | .int n => n == 0
  | .float x =>
    match Decimal.Shape.ofFloat x with
    | .finite b => b.mantissa == 0
    | _ => false

/-- A truth value counts as one or zero. -/
def Scalar.number? : Scalar → Option Number
  | .bool b => some (.int (if b then 1 else 0))
  | .number n => some n
  | _ => none

/-- The whole number that a scalar is equal to. -/
def Scalar.whole? (s : Scalar) : Option Int :=
  match s.number?.map Number.real with
  | some (.finite n d) => if n % d == 0 then some (n / d) else none
  | _ => none

/-! ## Equality as keys -/

/-- Equality of scalars as keys: numbers and truth values by their numeric value,
    texts by their characters, null only with itself. -/
def Scalar.same (a b : Scalar) : Bool :=
  match a, b with
  | .null, .null => true
  | .text s, .text t => s == t
  | .day d, .day e => d == e
  | .moment m, .moment n => m.same n
  | .bytes bs, .bytes cs => bs == cs
  | .ring a _, .ring b _ => a == b
  | a, b =>
    match a.number?, b.number? with
    | some m, some n => m.real.order? n.real == some .eq
    | _, _ => false

/-- Whether a scalar is a number that is none of the reals. -/
def Scalar.isUndefined (s : Scalar) : Bool :=
  match s.number?.map Number.real with
  | some .undefined => true
  | _ => false

/-- Whether two scalars are one key: an undefined number is a key like others, although it is not
    even equal to itself. -/
def Scalar.sameKey (a b : Scalar) : Bool := a.same b || (a.isUndefined && b.isUndefined)

/-- The value of the first field with the given key. -/
def Fields.find? (fields : Fields) (key : Scalar) : Option Value :=
  (List.find? (fun f => f.1.sameKey key) fields).map (·.2)

/-- The value of the field with the given name. -/
def Fields.get? (fields : Fields) (name : String) : Option Value :=
  Fields.find? fields (.text name)

/-- The value of the field with the given name, null where there is none. -/
def Fields.get (fields : Fields) (name : String) : Value :=
  (Fields.get? fields name).getD .null

/-- Sets a field: a present key keeps its place, a new one goes to the end. -/
def Fields.set (fields : Fields) (key : Scalar) (value : Value) : Fields :=
  if fields.any (fun f => f.1.sameKey key) then
    fields.map (fun f => if f.1.sameKey key then (f.1, value) else f)
  else fields ++ [(key, value)]

mutual

/-- Equality of values: scalars as keys, lists item by item, objects field by field
    without regard to order. -/
def Value.same : Value → Value → Bool
  | .scalar a, .scalar b => a.same b
  | .list xs, .list ys => Value.sameItems xs ys
  | .object fs, .object gs => fs.length == gs.length && Value.sameFields fs gs
  | .pair a b, .pair c d => a.same c && b.same d
  | .set xs, .set ys => xs.length == ys.length && xs.all fun x => ys.any fun y => x.same y
  | _, _ => false

/-- Equality of lists, item by item. -/
def Value.sameItems : List Value → List Value → Bool
  | [], [] => true
  | x :: xs, y :: ys => x.same y && Value.sameItems xs ys
  | _, _ => false

/-- Whether each of the fields has an equal partner among the others. -/
def Value.sameFields : Fields → Fields → Bool
  | [], _ => true
  | (k, v) :: fs, gs =>
    (match Fields.find? gs k with
      | some w => v.same w
      | none => false) && Value.sameFields fs gs

end

/-! ## Order -/

/-- The order of bytes at their first difference. -/
def orderBytes : List UInt8 → List UInt8 → Ordering
  | [], [] => .eq
  | [], _ :: _ => .lt
  | _ :: _, [] => .gt
  | b :: bs, c :: cs => if b == c then orderBytes bs cs else compare b.toNat c.toNat

mutual

/-- The order of two values, if their kinds have one: numbers and truth values by value,
    texts by character, lists and pairs by their first difference. -/
def Value.order? : Value → Value → Option Ordering
  | .scalar (.text s), .scalar (.text t) => some (compareOfLessAndEq s t)
  | .scalar (.day d), .scalar (.day e) => some (compare d.number e.number)
  | .scalar (.moment m), .scalar (.moment n) =>
    if m.comparable n then some (compare m.instant n.instant) else none
  | .scalar (.bytes bs), .scalar (.bytes cs) => some (orderBytes bs cs)
  | .scalar a, .scalar b =>
    match a.number?, b.number? with
    | some m, some n => some ((m.real.order? n.real).getD .eq)
    | _, _ => if a.same b then some .eq else none
  | .list xs, .list ys => Value.orderItems? xs ys
  | .pair a b, .pair c d => if a.same c then b.order? d else a.order? c
  | a, b => if a.same b then some .eq else none

/-- The order of two lists at their first difference; a list comes after its beginnings. -/
def Value.orderItems? : List Value → List Value → Option Ordering
  | [], [] => some .eq
  | [], _ :: _ => some .lt
  | _ :: _, [] => some .gt
  | x :: xs, y :: ys => if x.same y then Value.orderItems? xs ys else x.order? y

end

/-! ## Truth and kinds -/

/-- Whether a value counts as given: null, no, zero, and the empty text, list and object do not. -/
def Value.truthy : Value → Bool
  | .scalar .null => false
  | .scalar (.bool b) => b
  | .scalar (.number n) => !n.isZero
  | .scalar (.text s) => s != ""
  | .scalar (.bytes bs) => !bs.isEmpty
  | .scalar _ => true
  | .list items => !items.isEmpty
  | .object fields => !fields.isEmpty
  | .pair _ _ => true
  | .set items => !items.isEmpty

/-- The value itself where it counts as given, else the other one. -/
def Value.orElse (v : Value) (other : Value) : Value := if v.truthy then v else other

/-- A value as a key: collections cannot be one. -/
def Value.key? : Value → Option Scalar
  | .scalar (.ring _ _) => none
  | .scalar s => some s
  | _ => none

/-! ## Collections that hold themselves -/

/-- The value that a mark stands for, the value itself if it is none. -/
def Value.unmark (named : List (String × Value)) (v : Value) : Value :=
  match v with
  | .scalar (.ring name _) => ((named.find? fun p => p.1 == name).map (·.2)).getD v
  | v => v

/-- The value with the collections in the place of their marks, for as many levels. -/
def Value.unroll (named : List (String × Value)) : Nat → Value → Value
  | 0, v => v.unmark named
  | levels + 1, v =>
    match v.unmark named with
    | .list items => .list (items.map (Value.unroll named levels))
    | .object fields => .object (fields.map fun f => (f.1, Value.unroll named levels f.2))
    | .pair a b => .pair (Value.unroll named levels a) (Value.unroll named levels b)
    | v => v

mutual

/-- Whether a mark of a collection that holds itself stands in the value. -/
def Value.isEndless : Value → Bool
  | .scalar (.ring _ _) => true
  | .scalar _ => false
  | .list items => Value.anyEndless items
  | .object fields => Value.anyEndlessField fields
  | .pair a b => a.isEndless || b.isEndless
  | .set _ => false

/-- Whether such a mark stands in one of the items. -/
def Value.anyEndless : List Value → Bool
  | [] => false
  | v :: vs => v.isEndless || Value.anyEndless vs

/-- Whether such a mark stands in one of the fields. -/
def Value.anyEndlessField : Fields → Bool
  | [] => false
  | (_, v) :: fs => v.isEndless || Value.anyEndlessField fs

end

end FormPress
