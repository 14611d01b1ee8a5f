/-
A stand-in for the file system of a host, for runs that name a file. A path is looked up one component after another, and
the first component that cannot be followed decides the error. A symbolic link is followed in place: the components of its
path come before the rest.
-/
import ScriptHost.Script.Source

namespace ScriptHost

/-- why a file cannot be read -/
inductive FileError where
  | notFound
  /-- something that is no directory stands in the middle of the path -/
  | notDirectory
  | isDirectory
  /-- more symbolic links than may be followed -/
  | tooManyLinks
  /-- a device that is not there -/
  | noDevice
  /-- the reading itself fails -/
  | inputOutput
  /-- the path or one of its components has too many bytes -/
  | nameTooLong
  /-- a path cannot hold a zero byte -/
  | zeroByte
deriving DecidableEq, Repr

def FileError.message : FileError → String
  | notFound => "No such file or directory (os error 2)"
  | notDirectory => "Not a directory (os error 20)"
  | isDirectory => "Is a directory (os error 21)"
  | tooManyLinks => "Too many levels of symbolic links (os error 40)"
  | noDevice => "No such device or address (os error 6)"
  | inputOutput => "Input/output error (os error 5)"
  | nameTooLong => "File name too long (os error 36)"
  | zeroByte => "file name contained an unexpected NUL byte"

/-- what can stand at a place below the root -/
inductive FileEntry where
  | directory
  /-- a file, with what comes of reading it -/
  | file (content : Except FileError (List UInt8))
  /-- a symbolic link, with the path that it stands for -/
  | link (target : String)

/-- the directories, files and links that there are -/
structure FileTree where
  /-- what stands where; a place is given by the components of its path from the root -/
  entries : List (List String × FileEntry)
  /-- the directory at which relative paths start -/
  workingDirectory : List String := []
  /-- the places at and below which a component can have any length -/
  unlimited : List (List String) := []

namespace FileTree

/-- the components of a path; one that ends in a slash has an empty component last -/
def components (path : String) : List String := path.splitOn "/"

/-- the number of bytes that a path cannot have -/
def pathLimit : Nat := 4096

/-- the number of bytes that a component can have at most -/
def componentLimit : Nat := 255

/-- how many symbolic links can be followed on the way -/
def linkLimit : Nat := 40

/-- where a path starts that is met in a directory -/
def start (directory : List String) (path : String) : List String :=
  if path.startsWith "/" then [] else directory

/-- does a directory accept a component of such a length? -/
def admits (tree : FileTree) (directory : List String) (component : String) : Bool :=
  component.utf8ByteSize ≤ componentLimit || tree.unlimited.any (·.isPrefixOf directory)

/-- follows the components of a path from a directory on, with a number of links that can still be followed -/
def follow (tree : FileTree) (links : Nat) (directory : List String) :
    (components : List String) → Except FileError (List UInt8)
  | [] => .error .isDirectory
  | component :: rest =>
    if component = "" ∨ component = "." then tree.follow links directory rest
    else if component = ".." then tree.follow links directory.dropLast rest
    else if !tree.admits directory component then .error .nameTooLong
    else
      match tree.entries.lookup (directory ++ [component]) with
      | none => .error .notFound
      | some .directory => tree.follow links (directory ++ [component]) rest
      | some (.file content) => if rest.isEmpty then content else .error .notDirectory
      | some (.link target) =>
        match links with
        | 0 => .error .tooManyLinks
        | links + 1 => tree.follow links (start directory target) (components target ++ rest)
termination_by components => (links, components.length)

/-- the content of the file at a path -/
def read (tree : FileTree) (path : String) : Except FileError (List UInt8) :=
  if path.contains '\x00' then .error .zeroByte
  else if pathLimit ≤ path.utf8ByteSize then .error .nameTooLong
  else if path = "" then .error .notFound
  else tree.follow linkLimit (start tree.workingDirectory path) (components path)

def source (tree : FileTree) (path : String) : Source :=
  .ofFile path ((tree.read path).mapError FileError.message)

end FileTree

end ScriptHost
