import PeFacts.Bytes
import PeFacts.Settings
import PeFacts.Yaml.Document

/-!
# Settings files

Settings are kept in a file of YAML. A file that says nothing means the usual settings.
-/

namespace PeFacts

/-- Why a file can be neither read nor written. -/
inductive FileFault
  /-- There is no such file. -/
  | missing
  /-- A directory has this name. -/
  | isDirectory
  /-- Something on the way is a file and no directory. -/
  | notDirectory
  /-- Where a directory is needed there is a file. -/
  | occupied
  /-- A part of the path is longer than names can be. -/
  | longName
  /-- The path has a character that no name can have. -/
  | noName
  deriving Repr, DecidableEq

/-- Why no settings could be read. -/
inductive SettingsFault
  | file (fault : FileFault)
  /-- The file is not UTF-8. -/
  | notText
  | yaml (fault : Yaml.Fault)
  /-- The file says what is no setting. -/
  | invalid (issues : List Issue)
  deriving Repr, DecidableEq

namespace Settings

/-- The settings that a document gives. -/
def ofDocument (v : Value) : Except SettingsFault Settings :=
  match ofValue (if v.isGiven then v else .record []) with
  | .ok s => .ok s
  | .failed issues => .error (.invalid issues)

/-- How deep settings are: limits are a record in a record. -/
def depth : Nat := 2

/-- The settings that a text gives. -/
def ofYaml (text : String) : Except SettingsFault Settings :=
  match Yaml.read depth text with
  | .ok v => ofDocument v
  | .error fault => .error (.yaml fault)

/-- The settings in a file. -/
def ofFile (content : Except FileFault Bytes) : Except SettingsFault Settings :=
  match content with
  | .error fault => .error (.file fault)
  | .ok data =>
    match String.fromUTF8? ⟨data⟩ with
    | some text => ofYaml text
    | none => .error .notText

end Settings

end PeFacts
