/-!
# Files

Why a file cannot be read, and files and directories that are held in memory: a list of them by
their names from the root. A path is followed name by name, so that the way through a missing
directory or through a file fails even if it leads back out.
-/
namespace ScriptFront

inductive ReadFault where
  | notFound | isDirectory | notDirectory | nameTooLong | zeroInName | invalidText
  | other (text : String)
  deriving DecidableEq, Repr

namespace ReadFault

def message : ReadFault → String
  | notFound => "No such file or directory (os error 2)"
  | isDirectory => "Is a directory (os error 21)"
  | notDirectory => "Not a directory (os error 20)"
  | nameTooLong => "File name too long (os error 36)"
  | zeroInName => "file name contained an unexpected NUL byte"
  | invalidText => "stream did not contain valid UTF-8"
  | other text => text

end ReadFault

/-- What a system says of the files that paths lead to. -/
structure FileReader where
  /-- The text of a file, or why it cannot be read. -/
  text : String → Except ReadFault String
  /-- Whether there is a regular file. That is a question of its own: some files cannot be read as
  text, and some that can be read are devices. -/
  isFile : String → Bool

/-- A reader reads. -/
instance : CoeFun FileReader fun _ => String → Except ReadFault String := ⟨FileReader.text⟩

/-- Whether a path leads from the root, wherever it is used. -/
def isAbsolute (path : String) : Bool := path.toList.head? = some '/'

/-- The path of a name in a directory. -/
def joinPath (directory name : String) : String :=
  if isAbsolute name then name
  else if directory.isEmpty || directory.toList.getLast? = some '/' then directory ++ name
  else directory ++ "/" ++ name

/-- No path may have a zero character, which ends paths for the system. -/
def hasZero (path : String) : Bool := path.toList.contains '\x00'

/-- The names between the slashes of a path. -/
def pathNames (path : String) : List String :=
  path.toList.splitOn '/' |>.map String.ofList

/-- A name that stands for the directory itself. -/
def isSelf (name : String) : Bool := name.isEmpty || name == "."

def isParent (name : String) : Bool := name == ".."

structure Entry where
  /-- The names that lead to the entry from the root. -/
  names : List String
  /-- The bytes of a file; a directory has none. -/
  bytes : Option ByteArray

/-- Files and directories in memory. -/
structure FileTree where
  /-- The name of the directory in the root from which paths lead. A path that begins with it leads
  from the root. -/
  home : String
  entries : List Entry

namespace FileTree

/-- The most bytes that a name may have. -/
def maxNameSize : Nat := 255

/-- The most bytes that a path may have. -/
def maxPathSize : Nat := 4095

/-- A directory exists also if only something inside it is listed. -/
def hasDirectory (tree : FileTree) (names : List String) : Bool :=
  names.isEmpty || names == [tree.home] || tree.entries.any fun entry =>
    entry.names == names && entry.bytes.isNone
      || names.isPrefixOf entry.names && names.length < entry.names.length

def file? (tree : FileTree) (names : List String) : Option ByteArray :=
  (tree.entries.find? fun entry => entry.names == names && entry.bytes.isSome).bind Entry.bytes

/-- Follows names from a directory. The root is above itself. -/
def follow (tree : FileTree) (directory : List String) :
    List String → Except ReadFault ByteArray
  | [] => .error .isDirectory
  | name :: rest =>
    if isSelf name then follow tree directory rest
    else if isParent name then follow tree directory.dropLast rest
    else if maxNameSize < name.utf8ByteSize then .error .nameTooLong
    else
      let here := directory ++ [name]
      match tree.file? here with
      | some bytes => if rest.isEmpty then .ok bytes else .error .notDirectory
      | none => if tree.hasDirectory here then follow tree here rest else .error .notFound

/-- The bytes of a file by its path. -/
def bytes (tree : FileTree) (path : String) : Except ReadFault ByteArray :=
  let names := pathNames path
  let start := if isAbsolute path || names.head? = some tree.home then [] else [tree.home]
  if hasZero path then .error .zeroInName
  else if path.isEmpty then .error .notFound
  else if maxPathSize < path.utf8ByteSize then .error .nameTooLong
  else tree.follow start names

/-- All files in memory are regular ones. -/
def read (tree : FileTree) : FileReader where
  text path :=
    match tree.bytes path with
    | .error fault => .error fault
    | .ok bytes =>
      match String.fromUTF8? bytes with
      | some text => .ok text
      | none => .error .invalidText
  isFile path := (tree.bytes path).isOk

end FileTree

end ScriptFront
