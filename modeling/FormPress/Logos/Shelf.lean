/-
  FormPress.Logos.Shelf

  The logos loaded so far. Of several files the first one counts that has been
  loaded before or can be loaded now; what was loaded stays, and a file that
  cannot be read is passed over with a warning. A search ends at a path where the
  system does not say whether a file stands there: one that is too long, or one
  that it refuses to look at.
-/
import FormPress.Log
import FormPress.Logos.DataUri
import FormPress.Settings.Basic

namespace FormPress

/-- The loaded logos by path. -/
abbrev Shelf := Table Path String

/-- What a search for a logo found or ended with, the logos loaded after it, and the warnings on
    the way. -/
structure Found where
  image : Except Failure (Option String)
  shelf : Shelf
  log : List LogEntry
  deriving Inhabited

/-- The warning about a file that cannot be read. -/
def unreadableLogo (path : Path) (fault : FileFault) : LogEntry :=
  .warning ("默认资源加载失败，忽略: " ++ (EngineError.asset path fault).message)

namespace Shelf

/-- The first logo of some files that is loaded or can be. -/
def first (files : Files) (shelf : Shelf) : List Path → Found
  | [] => ⟨.ok none, shelf, []⟩
  | path :: rest =>
    match shelf.get? path with
    | some image => ⟨.ok (some image), shelf, []⟩
    | none =>
      match files.hasFile path with
      | .error fault => ⟨.error (.file path fault), shelf, []⟩
      | .ok false => first files shelf rest
      | .ok true =>
        match files.read path with
        | .ok content =>
          let image := dataUri path content
          ⟨.ok (some image), shelf.put path image, []⟩
        | .error fault =>
          let found := first files shelf rest
          { found with log := unreadableLogo path fault :: found.log }

/-- The crest, by the names in order of preference. -/
def crest (files : Files) (assets : AssetSettings) (shelf : Shelf) : Found :=
  shelf.first files (assets.crestNames.map fun name => assets.folder.join (.ofText name))

/-- The text logo. -/
def textLogo (files : Files) (assets : AssetSettings) (shelf : Shelf) : Found :=
  shelf.first files [assets.folder.join (.ofText assets.textLogo)]

end Shelf

end FormPress
