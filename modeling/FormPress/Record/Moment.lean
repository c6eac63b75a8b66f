/-
  FormPress.Record.Moment

  Points in time as fields of records: a number of seconds or thousandths of
  seconds since 1970, or a text of such a number, of a date, or of a date and a
  time of day. Only that there is a point in time is kept (`Read.moment`).
-/
import FormPress.Record.Field

namespace FormPress.Read

open FormPress.Json (isDigit digitsValue)

/-! ## Numbers of seconds -/

/-- Numbers beyond this one are thousandths of seconds. -/
def secondsLimit : Nat := 20000000000

/-- The first second of the year 0, counted from 1970 on. -/
def firstSecond : Int := -62167219200

/-- The first second of the year 1. -/
def firstRealSecond : Int := -62135596800

/-- The last second of the year 9999. -/
def lastSecond : Int := 253402300799

/-- The seconds since 1970 that a number stands for. -/
def secondsOf (n : Int) : Int := if secondsLimit < n.natAbs then n.fdiv 1000 else n

/-- A number of seconds, which must lie in the calendar. The year 0 is `early`, and what lies
    beyond is `far`. -/
def moments (early far : Misfit) (n : Int) : Check Unit :=
  let s := secondsOf n
  if s < firstSecond || lastSecond < s then .misfit far
  else if s < firstRealSecond then .misfit early
  else .fits ()

/-- The whole number at or below a double; none where there is no such number. -/
def floorOf? (x : Float) : Option Int :=
  match Decimal.Shape.ofFloat x with
  | .finite b => some (b.signed.fdiv b.denominator)
  | _ => none

/-! ## Texts -/

/-- The number of two digits in front, at most `limit`, and the text after them. -/
def twoDigits? (limit : Nat) : List Char → Option (Nat × List Char)
  | a :: b :: s =>
    let n := digitsValue [a, b]
    if isDigit a && isDigit b && n ≤ limit then some (n, s) else none
  | _ => none

/-- The day in front of a text, which may lie in the year 0, and the text after it. -/
def dayAt? (s : List Char) : Option (Day × List Char) := do
  let year := s.take 4
  guard (year.length == 4 && year.all isDigit)
  match s.drop 4 with
  | '-' :: s =>
    let (month, s) ← twoDigits? 12 s
    match s with
    | '-' :: s =>
      let (day, s) ← twoDigits? 31 s
      let y := digitsValue year
      guard (1 ≤ month && 1 ≤ day && day ≤ Day.daysIn y month)
      some (⟨y, month, day⟩, s)
    | _ => none
  | _ => none

/-- The text after a fraction of a second, if one starts here. -/
def afterFraction? : List Char → Option (List Char)
  | c :: s =>
    if c == '.' || c == ',' then
      let digits := s.takeWhile isDigit
      if digits.isEmpty then none else some (s.drop digits.length)
    else some (c :: s)
  | [] => some []

/-- The text after seconds, if some start here. -/
def afterSeconds? : List Char → Option (List Char)
  | ':' :: s => (twoDigits? 59 s).bind fun (_, s) => afterFraction? s
  | s => some s

/-- Whether a text is a distance from universal time, or empty. -/
def isZone : List Char → Bool
  | [] => true
  | ['Z'] => true
  | ['z'] => true
  | sign :: s =>
    let minutes (s : List Char) : Bool :=
      match twoDigits? 59 (match s with | ':' :: t => t | t => t) with
      | some (_, []) => true
      | _ => false
    (sign == '+' || sign == '-' || sign == '\u2212') &&
      (match twoDigits? 23 s with
        | some (_, s) => minutes s
        | none => false)

/-- Whether a text is a time of day. -/
def isClock (s : List Char) : Bool :=
  let rest := do
    let (_, s) ← twoDigits? 23 s
    match s with
    | ':' :: s =>
      let (_, s) ← twoDigits? 59 s
      afterSeconds? s
    | _ => none
  rest.any isZone

/-- The day of a text that is a date, or a date and a time of day. -/
def datedDay? (s : List Char) : Option Day := do
  let (day, rest) ← dayAt? s
  match rest with
  | [] => some day
  | c :: t => if ['T', 't', ' ', '_'].contains c && isClock t then some day else none

/-- The whole number at or below the one that a text writes by digits, a sign and a point. -/
def writtenFloor? (s : List Char) : Option Int := do
  let (negative, t) := Numeral.splitSign s
  let whole := t.takeWhile isDigit
  guard (!whole.isEmpty && digitsValue whole < 9223372036854775808)
  match t.drop whole.length with
  | [] => some (Numeral.negateIf negative (digitsValue whole))
  | '.' :: fraction =>
    guard (fraction.all isDigit)
    let n := digitsValue whole
    let up := if negative && fraction.any (· != '0') then 1 else 0
    some (Numeral.negateIf negative (n + up))
  | _ => none

/-- A text that is a point in time. -/
def momentText (s : List Char) : Check Unit :=
  match datedDay? s with
  | some day => if day.isReal then .fits () else .misfit .beyondCalendar
  | none =>
    match writtenFloor? s with
    | some n => moments .beyondCalendar .notMomentText n
    | none => .misfit .notMomentText

/-! ## Values -/

/-- A point in time. -/
def moment : Value → Check Unit
  | .int n => moments .beyondCalendar .beyondCalendar n
  | .float x =>
    match floorOf? x with
    | some n => moments .beyondCalendar .beyondCalendar n
    | none => .misfit .beyondCalendar
  | .bool _ => .misfit .notMoment
  | .scalar (.day _) => .fits ()
  | .scalar (.moment _) => .fits ()
  | v => (fromText .notMomentText momentText v).getD (.misfit .notMoment)

end FormPress.Read
