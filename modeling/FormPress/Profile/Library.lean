/-
  FormPress.Profile.Library

  Profiles from files. The profiles of the four paths used last are kept; a
  profile that could not be read is not.
-/
import FormPress.Profile.Read
import FormPress.Profile.Standard
import FormPress.Settings.File

namespace FormPress

namespace Profile

/-- The profile that a file's value gives. -/
def ofValue : Value → Except Failure Profile
  | .object fields => do
    let named ← Fields.named fields
    (Profile.read named).orFail .profile
  | v => .error (.misuse (.asFields v.kindName))

/-- The profile in a file. -/
def ofFile (files : Files) (path : Path) : Except Failure Profile := do
  if ← files.holds path then ofValue (← files.readYaml path)
  else .error (.file path .absent)

/-- The profile of a path, the standard one where there is no path. -/
def ofPath (files : Files) : Option Path → Except Failure Profile
  | some path => ofFile files path
  | none => .ok Profile.standard

end Profile

/-! ## Kept profiles -/

/-- The kept profiles by path, those used longest ago first. -/
abbrev ProfileLibrary := List (Path × Profile)

namespace ProfileLibrary

/-- How many profiles are kept. -/
def capacity : Nat := 4

/-- The profile of a path, kept or read now, and the kept profiles after it. -/
def load (files : Files) (path : Path) (kept : ProfileLibrary) :
    Except Failure Profile × ProfileLibrary :=
  let others := kept.filter (·.1 != path)
  match kept.find? (·.1 == path) with
  | some (_, profile) => (.ok profile, others ++ [(path, profile)])
  | none =>
    match Profile.ofFile files path with
    | .error e => (.error e, kept)
    | .ok profile =>
      let all := kept ++ [(path, profile)]
      (.ok profile, all.drop (all.length - capacity))

/-- Forgets all kept profiles and reads the one of a path. -/
def reload (files : Files) (path : Path) : Except Failure Profile × ProfileLibrary :=
  load files path []

end ProfileLibrary

end FormPress
