import TapeMachine.Options.Settings

/-!
# Options documents

Settings can be given by a document whose value is a mapping.  A document
without a value gives none.  How the content of a file becomes a value is up to a
loader; the loader of this project is `Yaml.load`.
-/

namespace TapeMachine

/-- What loads the document in the content of a file.  Its failures are its own: none is
an error of the language or of the file system. -/
abbrev Loader :=
  List UInt8 -> Except Yaml.Error Value

def readBytes (files : Files.Store) (path : Path) : Except Error (List UInt8) :=
  if path.hasNull then
    .error .nullInPath
  else
    match files.read path with
    | .ok content => .ok content
    | .error failure => .error (.file failure)

def readText (files : Files.Store) (path : Path) : Except Error (List Char) :=
  match readBytes files path with
  | .error e => .error e
  | .ok content =>
      match Files.Store.textOf? content with
      | some text => .ok text
      | none => .error .undecodable

namespace Settings

def ofValue (sizeText : Option String) (path : Path) (v : Value) : Except Error Settings :=
  match v with
  | .null => initial sizeText
  | .dict entries => ofEntries sizeText entries
  | _ => .error (.configuration (.optionsNotMapping path.toString))

def load (loader : Loader) (files : Files.Store) (sizeText : Option String) (pathText : String) :
    Except Error Settings :=
  let path := Path.ofString pathText
  match files.contains path with
  | .error failure => .error (.file failure)
  | .ok false => .error (.configuration (.optionsMissing path.toString))
  | .ok true =>
      match readBytes files path with
      | .error e => .error e
      | .ok content => ((loader content).mapError .document).bind (ofValue sizeText path)

end Settings
end TapeMachine
