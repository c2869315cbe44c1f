import CoSimulation.Configuration.Schema
import CoSimulation.Json.Shape
import CoSimulation.Json.Writer
import CoSimulation.Yaml.Shape
import CoSimulation.Yaml.Writer

/-!
# Loading and saving configurations

A configuration is read from JSON or YAML and checked.  The name of a file tells the
format, by what stands behind the last point in it.
-/

namespace CoSimulation

/-- Why a configuration could not be loaded. -/
inductive LoadFault where
  | defect (defect : Defect)
  | json (problem : Json.Problem)
  | yaml
  | unknownFormat (extension : String)
  | unreadable
deriving DecidableEq

namespace LoadFault

def message : LoadFault → String
  | .defect found => "Validation error: " ++ found.message
  | .json _ => "JSON parsing error"
  | .yaml => "YAML parsing error"
  | .unknownFormat extension => "Unknown file format: " ++ extension
  | .unreadable => "IO error"

end LoadFault

/-- A text format for configurations. -/
inductive TextFormat where
  | json
  | yaml
deriving DecidableEq

namespace TextFormat

/-- What stands behind the last point of a file's name, if anything stands before the
point. -/
def extension (name : List Char) : List Char :=
  let behind := name.reverse.takeWhile (· != '.')
  if name.length ≤ behind.length + 1 then [] else behind.reverse

/-- The name of the file that a path leads to; there is none behind a step up. -/
def fileName (path : String) : List Char :=
  let parts := (path.splitOn "/").filter (fun part => part ≠ "" ∧ part ≠ ".")
  match parts.getLast? with
  | some last => if last = ".." then [] else last.toList
  | none => []

/-- The format that a file's extension names, in upper or lower case.  No letter
outside of ASCII is an upper case form of one in these names. -/
def ofExtension? (extension : List Char) : Option TextFormat :=
  match String.ofList (extension.map Char.toLower) with
  | "yaml" => some yaml
  | "yml" => some yaml
  | "json" => some json
  | _ => none

end TextFormat

namespace Configuration

/-- The configuration, if it has no defect. -/
def checked (configuration : Configuration) : Except LoadFault Configuration :=
  match configuration.validate with
  | .ok _ => .ok configuration
  | .error defect => .error (.defect defect)

def ofJson (text : String) : Except LoadFault Configuration :=
  match Json.Reader.read schema text with
  | .ok configuration => configuration.checked
  | .error problem => .error (.json problem)

def ofYaml (text : String) : Except LoadFault Configuration :=
  match Yaml.Reader.read schema text with
  | some configuration => configuration.checked
  | none => .error .yaml

def ofText : TextFormat → String → Except LoadFault Configuration
  | .json => ofJson
  | .yaml => ofYaml

/-- The configuration in a file.  The format is decided before the file is looked at;
there is no content if the file cannot be read. -/
def ofFile (path : String) (content : Option String) : Except LoadFault Configuration :=
  let extension := TextFormat.extension (TextFormat.fileName path)
  match TextFormat.ofExtension? extension, content with
  | none, _ => .error (.unknownFormat (String.ofList extension))
  | some _, none => .error .unreadable
  | some format, some text => ofText format text

def toJson (configuration : Configuration) : String := configuration.document.toIndentedJson

def toYaml (configuration : Configuration) : String := configuration.document.toYaml

end Configuration

end CoSimulation
