/-
  FormPress.Failure

  Why a run could not go on, by cause, and the text that says so
  (`Failure.message`). The engine's own errors (`EngineError`) are about forms,
  rendering and pages; all others come from data, files, settings or a
  surrounding program.
-/
import FormPress.Data.Fault
import FormPress.Files.Basic
import FormPress.Record.Check

namespace FormPress

/-! ## The engine's own errors -/

/-- What was to be rendered and is not there. -/
inductive Missing where
  | instanceOf (id : Value)
  | form (instanceId formId : Value)
  | file (path : Path)
  deriving Repr, Inhabited

/-- What failed in a rendering. -/
inductive RenderFault where
  /-- the browser did not start -/
  | start (reason : String)
  /-- a pass failed -/
  | pass (label reason : String)
  /-- a backend failed in a way of its own -/
  | backend (reason : String)
  deriving Repr, DecidableEq, Inhabited

/-- What failed with pages. -/
inductive PageFault where
  /-- they cannot be read -/
  | unreadable
  /-- a range cannot be cut -/
  | cut (label : String)
  /-- a range cannot be joined to others -/
  | join (label : String)
  /-- a reason given from outside -/
  | reported (reason : String)
  deriving Repr, DecidableEq, Inhabited

/-- An error of the engine. -/
inductive EngineError where
  | missing (what : Missing)
  | render (fault : RenderFault)
  | pages (fault : PageFault)
  | asset (path : Path) (fault : FileFault)
  | other (reason : String)
  deriving Repr, Inhabited

/-- The text about something missing. -/
def Missing.message : Missing → String
  | instanceOf id => "表单实例不存在: " ++ id.display
  | form instanceId formId =>
    "表单不存在: instance=" ++ instanceId.display ++ ", form=" ++ formId.display
  | file path => "快照文件不存在: " ++ path.text

/-- The text about a rendering. -/
def RenderFault.message : RenderFault → String
  | start reason => "浏览器启动失败: " ++ reason
  | pass label reason => "渲染失败 [" ++ label ++ "]: " ++ reason
  | backend reason => "渲染后端失败: " ++ reason

/-- The text about pages. -/
def PageFault.message : PageFault → String
  | unreadable => "PDF解析失败"
  | cut label => "页段截取失败 [" ++ label ++ "]"
  | join label => "页段读取失败 [" ++ label ++ "]"
  | reported reason => reason

/-- The text about an asset, without the system's reason. -/
def assetMessage (path : Path) : String := "资源读取失败: " ++ path.text

/-- The text of an engine's error. -/
def EngineError.message : EngineError → String
  | missing what => what.message
  | render fault => fault.message
  | pages fault => fault.message
  | asset path fault => assetMessage path ++ ": " ++ fault.text path
  | other reason => reason

/-! ## Operations without a meaning for a value -/

/-- The name of a value's kind. -/
def Value.kindName : Value → String
  | .scalar .null => "NoneType"
  | .scalar (.bool _) => "bool"
  | .scalar (.number (.int _)) => "int"
  | .scalar (.number (.float _)) => "float"
  | .scalar (.text _) => "str"
  | .scalar (.day _) => "datetime.date"
  | .scalar (.moment _) => "datetime.datetime"
  | .scalar (.bytes _) => "bytes"
  | .scalar (.ring _ isList) => if isList then "list" else "dict"
  | .list _ => "list"
  | .object _ => "dict"
  | .pair _ _ => "tuple"
  | .set _ => "set"

/-- A use of a value for which its kind has no meaning. -/
inductive Misuse where
  /-- as a list -/
  | asList (kind : String)
  /-- as a key -/
  | asKey (kind : String)
  /-- as something with fields by name -/
  | asRecord (kind : String)
  /-- as an object with one field for each part -/
  | asFields (kind : String)
  /-- as a path -/
  | asPath (kind : String)
  /-- in an order with another one -/
  | inOrder (kind other : String)
  /-- as the level of notes -/
  | asLevel (kind : String)
  /-- a field whose key is no name -/
  | fieldName
  deriving Repr, DecidableEq, Inhabited

/-- The text about a misuse. -/
def Misuse.message : Misuse → String
  | asList kind => quotedText kind ++ " object is not iterable"
  | asKey kind => "unhashable type: " ++ quotedText kind
  | asRecord kind => quotedText kind ++ " object is not subscriptable"
  | asFields kind => "argument after ** must be a mapping, not " ++ kind
  | asPath kind => "expected str, bytes or os.PathLike object, not " ++ kind
  | inOrder kind other =>
    "'<' not supported between instances of " ++ quotedText kind ++ " and " ++ quotedText other
  | asLevel kind => "Level not an integer or a valid string: " ++ kind
  | fieldName => "keywords must be strings"

/-! ## All failures -/

/-- The formats of data files. -/
inductive DataFormat where
  | json
  | yaml
  deriving Repr, DecidableEq, Inhabited

/-- The records that are read from data. -/
inductive RecordKind where
  | form
  | step
  | section
  | question
  | option
  | row
  | answer
  | snapshot
  | profile
  | settings
  | browserSettings
  | pageSettings
  | assetSettings
  | logSettings
  | passOptions
  | job
  deriving Repr, DecidableEq, Inhabited

/-- Why a run could not go on. -/
inductive Failure where
  | engine (e : EngineError)
  /-- a record does not fit its fields -/
  | invalid (record : RecordKind) (faults : List Fault)
  /-- a text is not data -/
  | data (format : DataFormat) (fault : DataFault)
  /-- a value of a kind that has no meaning there -/
  | misuse (m : Misuse)
  /-- a value without the part that is asked of it -/
  | noPart (kind part : String)
  /-- a record without a field -/
  | noField (name : String)
  /-- a file that cannot be read -/
  | file (path : Path) (fault : FileFault)
  /-- a text that has no meaning where it stands -/
  | meaningless (text : String)
  /-- something outside of a list -/
  | noItem
  /-- a setting from the environment that cannot be read -/
  | setting (name : String)
  /-- something outside the engine failed -/
  | outside (reason : String)
  deriving Repr, Inhabited

namespace Failure

/-- The text of a failure. -/
def message : Failure → String
  | engine e => e.message
  | invalid _ _ => "<ValidationError>"
  | data .json _ => "malformed JSON"
  | data .yaml _ => "malformed YAML"
  | misuse m => m.message
  | noPart kind part => quotedText kind ++ " object has no attribute " ++ quotedText part
  | noField name => quotedText name
  | file path fault => fault.text path
  | meaningless text => "no meaning in " ++ quotedText text
  | noItem => "list index out of range"
  | setting name => "error parsing value for field " ++ name
  | outside reason => reason

/-- Whether a failure is the engine's own. -/
def isOwn : Failure → Bool
  | engine _ => true
  | _ => false

end Failure

/-- The faults of a reading as a failure. -/
def Check.orFail {α : Type} (record : RecordKind) : Check α → Except Failure α
  | .fits a => .ok a
  | .faults fs => .error (.invalid record fs)

end FormPress
