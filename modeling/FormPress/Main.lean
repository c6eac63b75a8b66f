/-
  FormPress.Main

  The program: it reads the files that a command asks for, runs the command on
  them, and writes what the command leaves behind. No browser can be driven from
  here, so documents are rendered to pages of markup alone.
-/
import FormPress.Command.Count
import FormPress.Command.Render
import FormPress.Print.Scan

namespace FormPress.Main

open Command

/-! ## Files and variables -/

/-- What stands at a path that leads from the root, if anything does. What can be looked at but not
    read is an unreadable file. -/
def entryAt (path : Path) : IO (Option Entry) := do
  try
    return some (.file (← IO.FS.readBinFile path.text))
  catch e =>
    match e with
    | .noFileOrDirectory .. => return none
    | .inappropriateType .. => return some .folder
    | e =>
      try
        let _ ← ((← IO.currentDir).join path.text).metadata
        return some (.unreadable (toString e))
      catch e => return some (.barred (toString e))

/-- The files with what stands at some more paths. -/
def lookAt (files : Files) (paths : List Path) : IO Files :=
  paths.foldlM (fun files path => do
    match ← entryAt (Path.resolve files.base path) with
    | some e => return (files.put path e).toOption.getD files
    | none => return files) files

/-- The names of all variables that have a meaning. -/
def variableNames : List String :=
  let parts := "profile_path" :: settingSections.flatMap fun s =>
    s.name :: s.fields.map fun f => s.name ++ "__" ++ f
  parts.map fun part => String.ofList ((({} : VariableStyle).nameOf part).toList.map Char.toUpper)

/-- The variables that are set. -/
def environment : IO Environment := do
  let all ← variableNames.mapM fun name => do
    return (← IO.getEnv name).map fun value => (name, value)
  return all.filterMap id

/-- The paths that some settings name. -/
def pathsOf (s : Settings) : List Path :=
  s.profilePath.toList ++
    (s.assets.textLogo :: s.assets.crestNames).map fun name => s.assets.folder.join (.ofText name)

/-- The files that a request asks for. -/
def filesFor (env : Environment) (r : RenderRequest) : IO Files := do
  let base := Path.ofText (← IO.currentDir).toString
  let files ← lookAt ⟨base, []⟩ ([r.settingsPath, r.sourcePath] ++ r.folderPath.toOption.toList)
  match Settings.ofFile files env r.settingsPath with
  | .ok s => lookAt files (pathsOf s)
  | .error _ => return files

/-! ## Outcomes -/

/-- The browser that is never there. -/
def noBrowser : BrowserHost Unit where
  perform _ s := (.error "no browser can be driven", s)
  printed _ := .unreadable

/-- Writes a file and the folders above it. -/
def write (place : Place) : Written → IO Unit
  | .html s => do
    let path : Path := ⟨1, place⟩
    IO.FS.createDirAll path.parent.text
    IO.FS.writeFile path.text s
  | .pdf _ => return

/-- Writes what a command leaves behind and says how it ended. -/
def finish (o : Outcome) : IO UInt32 := do
  for (place, content) in o.written do write place content
  for line in o.lines do IO.println line
  match o.ending with
  | .done => return 0
  | .code n => return n.toUInt32
  | .failed e =>
    IO.eprintln e.message
    return 1

/-- Renders what some arguments ask for. -/
def renderArguments (args : List String) : IO UInt32 := do
  let env ← environment
  let files ← match RenderRequest.ofArguments args with
    | .ok r => filesFor env r
    | .error _ => pure ⟨default, []⟩
  finish (render files env noBrowser () args).1

/-- The document in the bytes of a file. -/
def pdfIn (content : ByteArray) : Pdf :=
  .ofFile (content.data.toList.map fun b => Char.ofNat b.toNat)

/-- Counts the pages of the document that some arguments name. -/
def countArguments (args : List String) : IO UInt32 := do
  let base := Path.ofText (← IO.currentDir).toString
  let files ← lookAt ⟨base, []⟩ (args.map Path.ofText)
  finish (count files pdfIn args)

end FormPress.Main

/-- The program counts the pages of a document, or renders form instances. -/
def main : List String → IO UInt32
  | "count" :: args => FormPress.Main.countArguments args
  | args => FormPress.Main.renderArguments args
