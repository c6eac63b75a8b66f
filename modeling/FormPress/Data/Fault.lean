/-
  FormPress.Data.Fault

  Why a text could not be read as data.
-/

namespace FormPress

/-- Why a text is no data. -/
inductive DataFault where
  /-- it does not follow the grammar, or marks a value as what it is not -/
  | malformed
  /-- a number or a time has a text or parts that make none -/
  | notNumber
  /-- a number has no characters -/
  | noDigits
  /-- a truth value has another text than the words for truth and falsehood -/
  | notTruth
  /-- a time has a text of another form -/
  | notTime
  /-- a time is a collection -/
  | notScalar
  /-- a character has a number that no word holds -/
  | beyondWords
  /-- collections stand in each other too deeply -/
  | tooDeep
  deriving DecidableEq, Repr, Inhabited

end FormPress
