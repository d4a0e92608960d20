import SqlScript.Bytes.Encoding
import SqlScript.Failure
import SqlScript.Files.Tree
import SqlScript.Text.Lines
import SqlScript.Text.Word
import SqlScript.World

/-!
# Loading scripts

A script is named by a file path or as a resource of a package, written `package.name:path`.
Relative file paths start from the directory of the loader, packages are looked up in the current
directory.

* `ScriptName`, `ScriptName.ofString`: the names of scripts.
* `Loader`, `Loader.read`: the text of a script.
-/

namespace SqlScript

/-- **The name of a script**: the path of a file, or a package and a path inside it. -/
inductive ScriptName where
  | file (path : Path)
  | resource (package resource : String)
  deriving DecidableEq, Repr

namespace ScriptName

/-- Whether a text is a name: a letter or an underscore, then word characters. -/
def isIdentifier : List Char → Bool
  | [] => false
  | c :: cs => Text.isNameStart c && cs.all Text.isWord

/-- Whether a text is the name of a package: names joined by dots. -/
def isPackageName (cs : List Char) : Bool := (Text.splitAtChar '.' cs).all isIdentifier

/-- **The script that a text names.** It is a resource if it has exactly one colon, a package name
of at least two characters before it and something behind it; a single letter is no package. -/
def ofString (s : String) : ScriptName :=
  match Text.splitAtChar ':' s.toList with
  | [name, inside] =>
    if 1 < name.length ∧ isPackageName name ∧ inside ≠ [] then
      .resource (String.ofList name) (String.ofList inside)
    else .file (.ofString s)
  | _ => .file (.ofString s)

end ScriptName

/-- What a name in a package's directory can be. -/
inductive ModuleKind where
  | package (place : List String)
  | plainModule
  /-- Code that cannot be read. -/
  | unreadable (e : Fault)
  | missing

/-- The file of code at a place, if there is one, and whether it can be read. -/
def FileTree.code? (t : FileTree) (place : List String) : Option (Except Fault Unit) :=
  match t.node? place with
  | some (.file _) => some (.ok ())
  | some (.unreadable e _) => some (.error (e.fault ⟨.root, place⟩))
  | some .directory | none => none

/-- What the name of a module stands for in a directory: a directory with its marker file comes
first, then a file of code, then any directory. -/
def FileTree.module (t : FileTree) (place : List String) (name : String) : ModuleKind :=
  let inner := place ++ [name]
  let isDirectory := t.node? inner = some .directory
  let marker? := if isDirectory then t.code? (inner ++ ["__init__.py"]) else none
  match marker?, t.code? (place ++ [name ++ ".py"]) with
  | some (.ok ()), _ => .package inner
  | some (.error e), _ | none, some (.error e) => .unreadable e
  | none, some (.ok ()) => .plainModule
  | none, none => if isDirectory then .package inner else .missing

/-- The directory of a package: its names are followed one by one. `seen` are the names before. -/
def FileTree.packagePlace (t : FileTree) (whole : String) (place seen : List String) :
    List String → Except Fault (List String)
  | [] => .ok place
  | name :: names =>
    let path := ".".intercalate (seen ++ [name])
    match t.module place name with
    | .package inner => packagePlace t whole inner (seen ++ [name]) names
    | .unreadable e => .error e
    | .missing => .error (.of .missingModule s!"No module named {Text.quoted path}")
    | .plainModule =>
      match names with
      | [] => .error (.of .wrongType s!"{Text.quoted whole} is not a package")
      | next :: _ =>
        let missing := Text.quoted (path ++ "." ++ next)
        let here := Text.quoted path
        .error (.of .missingModule s!"No module named {missing}; {here} is not a package")

/-- **A loader** of scripts. -/
structure Loader where
  /-- The directory that relative paths start from, if not the current one. -/
  baseDirectory : Option Path := none
  /-- The name of the encoding of script files. -/
  encoding : String := "utf-8"

namespace Loader

/-- The path of a script file, seen from the directory of the loader. -/
def resolve (l : Loader) (p : Path) : Path :=
  match l.baseDirectory with
  | none => p
  | some base => base.join p

/-- The fault of a name that no encoding can have. -/
def nulFault : Fault := .of .value "embedded null character"

/-- The text of the file at a path. The encoding is looked up when the file is open. -/
def readFile (l : Loader) (t : FileTree) (p : Path) : Except Fault String := do
  if l.encoding.toList.contains (Char.ofNat 0) then throw nulFault
  let bytes ← t.read p
  match Bytes.Encoding.ofName? l.encoding with
  | none => throw (.of .unknownName s!"unknown encoding: {l.encoding}")
  | some encoding =>
    match encoding.decode bytes with
    | .ok cs => return String.ofList (Text.unifyNewlines cs)
    | .error e => throw (.of .undecodable e.message)

/-- The text of a resource of a package. -/
def readResource (l : Loader) (t : FileTree) (package resource : String) :
    Except Fault String := do
  let names := (Text.splitAtChar '.' package.toList).map String.ofList
  let place ← t.packagePlace package t.current [] names
  l.readFile t (Path.join ⟨.root, place⟩ (.ofString resource))

/-- A missing file is told from one that cannot be read; faults of other kinds go on as they
are. -/
def reportFile (p : Path) (e : Fault) : Fault :=
  match e with
  | .outside (.system .notFound) .. => .failure (Failure.scriptNotFound p.text e)
  | .outside (.system _) .. | .outside .undecodable .. =>
    .failure (Failure.scriptUnreadable p.text e)
  | _ => e

/-- A missing package or file is told from a file that cannot be read. -/
def reportResource (package resource : String) (e : Fault) : Fault :=
  match e with
  | .outside (.system .notFound) .. | .outside .missingModule .. | .outside .wrongType .. =>
    .failure (Failure.resourceNotFound package resource e)
  | .outside (.system _) .. | .outside .undecodable .. =>
    .failure (Failure.scriptUnreadable (package ++ ":" ++ resource) e)
  | _ => e

/-- **The text of a script**, with newlines for all line endings. -/
def read (l : Loader) (t : FileTree) : ScriptName → Except Fault String
  | .file p => (l.readFile t (l.resolve p)).mapError (reportFile (l.resolve p))
  | .resource package resource =>
    (l.readResource t package resource).mapError (reportResource package resource)

/-- What the log says before a script is read. -/
def notice (l : Loader) : ScriptName → String
  | .file p => s!"Loading SQL script from {(l.resolve p).text}"
  | .resource package resource => s!"Loading SQL script resource {resource} from package {package}"

/-- The text of a script, with a note in the log. -/
def load {κ τ : Type} (l : Loader) (t : FileTree) (name : ScriptName) :
    Action (World κ τ) String := do
  World.say .debug (l.notice name)
  Action.ofExcept (l.read t name)

end Loader

end SqlScript
