import RuleTree.Entries
import RuleTree.Failure
import RuleTree.Text.Split
import RuleTree.Text.Utf8

/-!
Files and folders. A path is a text with slashes between its steps; an empty step and a dot stay
where they are, two dots go up, and only a folder can be stepped into. A name has at most 255 bytes.
-/

namespace RuleTree

/-- What is found at a path: a file with its bytes, or a folder with the names in it. -/
inductive Located
  | file (bytes : List UInt8)
  | folder (names : List String)

/-- A view of a file system: what is found at each path. -/
abbrev Disk := String → Except FileFault Located

namespace Disk

def isFile (disk : Disk) (path : String) : Bool :=
  match disk path with
  | .ok (.file _) => true
  | _ => false

def isFolder (disk : Disk) (path : String) : Bool :=
  match disk path with
  | .ok (.folder _) => true
  | _ => false

def read (disk : Disk) (path : String) : Except FileFault (List UInt8) :=
  match disk path with
  | .ok (.file bytes) => .ok bytes
  | .ok (.folder _) => .error .isDirectory
  | .error fault => .error fault

def readText (disk : Disk) (path : String) : Except FileFault String := do
  match Utf8.text? (← disk.read path) with
  | some text => return text
  | none => throw .notText

def names (disk : Disk) (path : String) : Except FileFault (List String) :=
  match disk path with
  | .ok (.folder names) => .ok names
  | .ok (.file _) => .error .notDirectory
  | .error fault => .error fault

end Disk

/-- What is wrong with a path whatever files there are: it has a character that no name has, or it has
4096 bytes or more. -/
def pathFault? (path : String) : Option FileFault :=
  if path.toList.contains (Char.ofNat 0) then some .notName
  else if 4096 ≤ path.utf8ByteSize then some .tooLong
  else none

/-- The path of a name in a folder. A path from the top stands for itself. -/
def joinPath (folder name : String) : String :=
  if name.toList.head? = some '/' then name
  else if folder = "" ∨ folder.toList.getLast? = some '/' then folder ++ name
  else folder ++ "/" ++ name

def fileName (path : String) : String :=
  (piecesOf '/' path).getLast?.getD ""

namespace FileName

/-- A name before and after its last dot, if there is a dot and something before it. -/
def parts? (name : String) : Option (String × String) :=
  match (splitAt '.' name.toList).reverse with
  | after :: before :: more =>
    let front := ['.'].intercalate (before :: more).reverse
    if front.isEmpty then none else some (String.ofList front, String.ofList after)
  | _ => none

/-- The name without its extension. -/
def stem (name : String) : String :=
  (parts? name).elim name Prod.fst

/-- What stands after the last dot of a name. -/
def extension? (name : String) : Option String :=
  (parts? name).map Prod.snd

end FileName

/-- A file with its bytes, or a folder with what is in it under the names. -/
inductive FileTree
  | file (bytes : List UInt8)
  | folder (entries : List (String × FileTree))
deriving Inhabited

namespace FileTree

/-- Puts a file or folder in its place, making the folders on the way. -/
def add (node : FileTree) : List String → FileTree → FileTree
  | [], _ => node
  | name :: rest, .file _ => .folder [(name, add node rest (.folder []))]
  | name :: rest, .folder entries =>
    let inner := (Entries.get? name entries).getD (.folder [])
    .folder (Entries.insert name (add node rest inner) entries)

/-- Takes the steps of a path from a place below the given folders. -/
def walk (above : List FileTree) (here : FileTree) : List String → Except FileFault FileTree
  | [] => .ok here
  | step :: rest =>
    match here with
    | .file _ => .error .notDirectory
    | .folder entries =>
      if step = "" ∨ step = "." then walk above here rest
      else if step = ".." then
        match above with
        | [] => .error .notFound
        | up :: above => walk above up rest
      else
        match Entries.get? step entries with
        | none => .error (if 255 < step.utf8ByteSize then .tooLong else .notFound)
        | some node => walk (here :: above) node rest

def located : FileTree → Located
  | .file bytes => .file bytes
  | .folder entries => .folder (entries.map Prod.fst)

/-- The view from the top folder. Nothing is found at the empty path and outside. -/
def disk (tree : FileTree) : Disk := fun path =>
  match pathFault? path with
  | some fault => .error fault
  | none =>
    if path = "" ∨ path.toList.head? = some '/' then .error .notFound
    else (tree.walk [] (piecesOf '/' path)).map located

end FileTree

end RuleTree
