/-
  FormPress.Record.Check

  Reading typed records out of data values. A reading either yields a result or
  the list of everything that does not fit, in the order in which the fields
  are declared: combining two readings keeps the faults of both.
-/
import FormPress.Data.Written

namespace FormPress

/-! ## Faults -/

/-- Why a value does not fit its field. -/
inductive Misfit where
  /-- a required field is absent -/
  | missing
  /-- not a text -/
  | notText
  /-- bytes or halves of characters that make no text -/
  | notCharacters
  /-- not a whole number, and not a text of one -/
  | notWhole
  /-- a text that is no whole number -/
  | notWholeText
  /-- a number with a fraction where a whole one is needed -/
  | fractional
  /-- an infinite number where a whole one is needed -/
  | notFinite
  /-- a double without a fraction that does not fit a 64-bit word, or a text of too many digits -/
  | tooLarge
  /-- not a number, and not a text of one -/
  | notNumber
  /-- a text that is no number -/
  | notNumberText
  /-- no truth value -/
  | notTruth
  /-- a number or a text that stands for no truth value -/
  | notTruthWord
  /-- not a list -/
  | notList
  /-- not an object with fields of one kind -/
  | notObject
  /-- not an object where a record is needed -/
  | notRecord
  /-- none of the words of a choice -/
  | notChoice
  /-- not a path -/
  | notPath
  /-- not a point in time -/
  | notMoment
  /-- a text that is no point in time -/
  | notMomentText
  /-- a point in time beyond the calendar -/
  | beyondCalendar
  /-- a whole number of too many digits where its text is needed -/
  | unwritable
  /-- a field that the record does not have -/
  | unexpected
  deriving DecidableEq, Repr

/-- One step from a record to a part of it. -/
inductive PlaceStep where
  | field (name : String)
  | item (index : Nat)
  deriving DecidableEq, Repr

/-- The written form of a step. -/
def PlaceStep.text : PlaceStep → String
  | .field name => name
  | .item index => toString index

/-- A misfit and the place of the value. -/
structure Fault where
  place : List PlaceStep
  misfit : Misfit
  deriving DecidableEq, Repr

/-- The steps of the place with points between them. -/
def Fault.placeText (f : Fault) : String := ".".intercalate (f.place.map PlaceStep.text)

/-! ## Readings -/

/-- A result, or the faults of a value. -/
inductive Check (α : Type) where
  | fits (a : α)
  | faults (fs : List Fault)
  deriving Repr

namespace Check

/-- Changes the result. -/
def map {α β : Type} (f : α → β) : Check α → Check β
  | fits a => fits (f a)
  | faults fs => faults fs

/-- Applies one result to another one; the faults of both are kept, the first ones first. -/
def seq {α β : Type} : Check (α → β) → Check α → Check β
  | fits f, fits a => fits (f a)
  | fits _, faults fs => faults fs
  | faults fs, fits _ => faults fs
  | faults fs, faults gs => faults (fs ++ gs)

instance : Applicative Check where
  pure := fits
  map := map
  seq f a := seq f (a ())

/-- A reading with a single fault at the value itself. -/
def misfit {α : Type} (m : Misfit) : Check α := faults [⟨[], m⟩]

/-- Puts one step in front of the places of all faults. -/
def inside {α : Type} (step : PlaceStep) : Check α → Check α
  | fits a => fits a
  | faults fs => faults (fs.map fun f => { f with place := step :: f.place })

/-- The readings of a list from index `n` on, each fault placed at its item. -/
def items {α : Type} (read : Value → Check α) : Nat → List Value → Check (List α)
  | _, [] => fits []
  | n, v :: vs => List.cons <$> (read v).inside (.item n) <*> items read (n + 1) vs

/-- The text of a key, which may be given as bytes. -/
def keyText : Scalar → Check String
  | .text name => fits name
  | .bytes bs =>
    match String.fromUTF8? ⟨bs.toArray⟩ with
    | some name => fits name
    | none => misfit .notCharacters
  | _ => misfit .notText

/-- How a key is named in the place of a fault. -/
def keyPlace : Scalar → String
  | .text name => name
  | .bool b => if b then "1" else "0"
  | key => key.inspect

/-- The readings of the fields of an object, each fault placed at its field. -/
def entries {α : Type} (read : Value → Check α) : Fields → Check (List (String × α))
  | [] => fits []
  | (key, v) :: fs =>
    (fun name a rest => (name, a) :: rest) <$>
      inside (.field (keyPlace key)) (inside (.field "[key]") (keyText key)) <*>
      inside (.field (keyPlace key)) (read v) <*> entries read fs

end Check

/-! ## Fields of a record -/

/-- A field that may be absent; an absent one has a default. -/
def Fields.optional {α : Type} (fields : Fields) (name : String) (read : Value → Check α)
    (default : α) : Check α :=
  match Fields.get? fields name with
  | some v => (read v).inside (.field name)
  | none => .fits default

/-- A field that must be there. -/
def Fields.required {α : Type} (fields : Fields) (name : String) (read : Value → Check α) :
    Check α :=
  match Fields.get? fields name with
  | some v => (read v).inside (.field name)
  | none => (Check.misfit .missing).inside (.field name)

end FormPress
