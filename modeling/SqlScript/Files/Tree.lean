import SqlScript.Fault
import SqlScript.Files.Path
import SqlScript.Text.Quoted

/-!
# File trees

A file system as it is seen by a program: directories and files under a root, and the directory
that relative paths start from.

* `FileTree`, `FileTree.find`: the tree and the look-up of a path.
* `FileTree.read`: the content of a file.
* `FileTree.makeDirectories`: a directory with all directories above it.
* `SystemError`: what can go wrong, with the wording of the operating system.
-/

namespace SqlScript

/-- The errors of file operations. -/
inductive SystemError where
  | notFound
  | inputOutput
  | noDevice
  | permissionDenied
  | alreadyExists
  | notADirectory
  | isADirectory
  | nameTooLong
  deriving DecidableEq, Repr

namespace SystemError

/-- The number of an error. -/
def number : SystemError → Nat
  | notFound => 2
  | inputOutput => 5
  | noDevice => 6
  | permissionDenied => 13
  | alreadyExists => 17
  | notADirectory => 20
  | isADirectory => 21
  | nameTooLong => 36

/-- The wording of an error. -/
def description : SystemError → String
  | notFound => "No such file or directory"
  | inputOutput => "Input/output error"
  | noDevice => "No such device or address"
  | permissionDenied => "Permission denied"
  | alreadyExists => "File exists"
  | notADirectory => "Not a directory"
  | isADirectory => "Is a directory"
  | nameTooLong => "File name too long"

/-- The kind of fault that an error is. -/
def kind : SystemError → SystemErrorKind
  | notFound => .notFound
  | alreadyExists => .alreadyExists
  | notADirectory => .notADirectory
  | isADirectory => .isADirectory
  | inputOutput | noDevice | permissionDenied | nameTooLong => .other

/-- **The fault of an error at a path.** -/
def fault (e : SystemError) (p : Path) : Fault :=
  let number := e.number
  let description := e.description
  let name := Text.quoted p.text
  .of (.system e.kind) s!"[Errno {number}] {description}: {name}"

end SystemError

/-- **The fault of a path that no file system can have**: it holds half of a surrogate pair, or the
character that ends a name. -/
def Path.fault? (p : Path) : Option Fault :=
  match Text.unencodable? Text.isByteSurrogate p.text with
  | some run => some (.of .unencodable run.message)
  | none => if p.hasNul then some (.of .value "embedded null byte") else none

/-- What stands at a place of a file tree. -/
inductive FileNode where
  | directory
  | file (content : List UInt8)
  /-- What is there but cannot be read, with the error of the attempt. -/
  | unreadable (error : SystemError) (isThere : error ≠ .notFound)
  deriving DecidableEq, Repr

/-- **A file tree**: nodes by the components of their place, and the current directory. -/
structure FileTree where
  /-- The components of the current directory. -/
  current : List String := []
  nodes : List (List String × FileNode) := []

namespace FileTree

/-- The node at a place. The root is a directory. -/
def node? (t : FileTree) (place : List String) : Option FileNode :=
  if place = [] then some .directory else (t.nodes.find? (·.1 == place)).map (·.2)

/-- Sets the node at a place. -/
def setNode (t : FileTree) (place : List String) (node : FileNode) : FileTree :=
  { t with nodes := (place, node) :: t.nodes.filter (·.1 != place) }

/-- The most bytes of one component. -/
def maxNameBytes : Nat := 255

/-- The first number of bytes that is too many for a whole path. -/
def pathBytesLimit : Nat := 4096

/-- Follows components from a place on. What is not the last component has to be a directory, and
so has the place that `..` goes up from. -/
def follow (t : FileTree) (place : List String) :
    List String → Except SystemError (List String × FileNode)
  | [] =>
    match t.node? place with
    | some node => .ok (place, node)
    | none => .error .notFound
  | part :: parts =>
    match t.node? place with
    | none => .error .notFound
    | some (.file _) | some (.unreadable ..) => .error .notADirectory
    | some .directory =>
      if part = ".." then follow t place.dropLast parts
      else if maxNameBytes < Text.nameBytes part then .error .nameTooLong
      else match t.node? (place ++ [part]) with
        | none => .error .notFound
        | some _ => follow t (place ++ [part]) parts

/-- The place where following a path starts. -/
def startPlace (t : FileTree) (p : Path) : List String :=
  if p.isAbsolute then [] else t.current

/-- **The place and node of a path.** -/
def find (t : FileTree) (p : Path) : Except SystemError (List String × FileNode) :=
  if pathBytesLimit ≤ Text.nameBytes p.text then .error .nameTooLong
  else t.follow (t.startPlace p) p.parts

/-- Whether there is a directory at a path. -/
def hasDirectory (t : FileTree) (p : Path) : Bool :=
  p.fault?.isNone && match t.find p with
    | .ok (_, .directory) => true
    | _ => false

/-- **The content of the file at a path.** -/
def read (t : FileTree) (p : Path) : Except Fault (List UInt8) :=
  match p.fault? with
  | some e => .error e
  | none => match t.find p with
    | .ok (_, .file content) => .ok content
    | .ok (_, .unreadable e _) | .error e => .error (e.fault p)
    | .ok (_, .directory) => .error (SystemError.isADirectory.fault p)

/-- The tree with a new directory, whose parent has to be there. -/
def makeDirectory (t : FileTree) (p : Path) : Except SystemError FileTree :=
  match t.find p with
  | .ok _ => .error .alreadyExists
  | .error .notFound =>
    match t.find p.parent, p.parts.getLast? with
    | .ok (place, .directory), some name =>
      .ok (t.setNode (place ++ [name]) .directory)
    | .ok (_, .file _), _ | .ok (_, .unreadable ..), _ => .error .notADirectory
    | .ok (_, .directory), none => .error .alreadyExists
    | .error e, _ => .error e
  | .error e => .error e

/-- What a failed attempt to make a directory means: nothing, if the directory is there already. -/
def excuse (t : FileTree) (p : Path) (e : SystemError) : Except Fault Unit :=
  if t.hasDirectory p then .ok () else .error (e.fault p)

/-- Makes a directory and those of the `fuel` directories above it that are missing. Those that
were made before a fault stay. -/
def makeDirectoriesFrom (p : Path) : (fuel : Nat) → FileTree → Except Fault Unit × FileTree
  | fuel, t =>
    match t.makeDirectory p with
    | .ok t => (.ok (), t)
    | .error .notFound =>
      match fuel with
      | 0 => (.error (SystemError.notFound.fault p), t)
      | fuel + 1 =>
        match makeDirectoriesFrom p.parent fuel t with
        | (.error e, t) => (.error e, t)
        | (.ok (), t) =>
          match t.makeDirectory p with
          | .ok t => (.ok (), t)
          | .error e => (t.excuse p e, t)
    | .error e => (t.excuse p e, t)

/-- **Makes a directory** and all directories above it. -/
def makeDirectories (t : FileTree) (p : Path) : Except Fault Unit × FileTree :=
  match p.fault? with
  | some e => (.error e, t)
  | none => makeDirectoriesFrom p p.parts.length t

/-- The directories above a place, the nearest one last. -/
def above (place : List String) : List (List String) :=
  (List.range place.length).map fun n => place.take n

/-- The tree with a node and all directories above it. -/
def plant (t : FileTree) (place : List String) (node : FileNode) : FileTree :=
  let t := (above place).foldl (fun t place =>
    if (t.node? place).isNone then t.setNode place .directory else t) t
  t.setNode place node

end FileTree

end SqlScript
