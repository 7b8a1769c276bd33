import DiscordRest.Text.Utf8

/-!
A folder of files in memory. Paths are walked part by part; they may lead to a file of the folder,
to a directory, or out of the folder, where nothing is known but that directories lie there.
-/

namespace DiscordRest

/-- Why a file could not be read. -/
inductive FileFault where
  /-- Nothing has the name. -/
  | notFound
  /-- The name leads to a directory. -/
  | isDirectory
  /-- The name goes on behind a file. -/
  | notDirectory
  /-- The name, or a part of it, is too long. -/
  | nameTooLong
  /-- The name cannot be one. -/
  | impossibleName
  /-- The file holds no text. -/
  | notText
  /-- Any other reason, in words. -/
  | other (words : String)
  deriving DecidableEq, Repr

/-- The words for the reason. -/
def FileFault.message : FileFault → String
  | notFound => "No such file or directory (os error 2)"
  | isDirectory => "Is a directory (os error 21)"
  | notDirectory => "Not a directory (os error 20)"
  | nameTooLong => "File name too long (os error 36)"
  | impossibleName => "file name contained an unexpected NUL byte"
  | notText => "stream did not contain valid UTF-8"
  | other words => words

/-- A file of a folder. -/
structure File where
  /-- The names that lead to the file, its own name last. -/
  path : List String
  /-- What the file holds. -/
  bytes : List UInt8
  deriving DecidableEq, Repr

/-- A folder. -/
structure Folder where
  /-- The files in the folder and in its directories. -/
  files : List File
  deriving DecidableEq, Repr

namespace Folder

/-- The greatest number of bytes in one part of a path. -/
def longestName : Nat := 255

/-- The greatest number of bytes in a path. -/
def longestPath : Nat := 4095

/-- The parts of a path between its slashes. -/
def parts (path : String) : List String :=
  path.splitOn "/"

/-- Whether a part of a path stays where it is. -/
def stays (part : String) : Bool :=
  part.isEmpty || part == "."

/-- The folder with some files, which are given by their paths. -/
def ofFiles (files : List (String × List UInt8)) : Folder :=
  ⟨files.map fun (path, bytes) => ⟨(parts path).filter fun part => !stays part, bytes⟩⟩

/-- Where a path has led. -/
inductive Place where
  /-- To a directory that does not lie in the folder. -/
  | outside
  /-- To the folder or one of its directories, by the names that lead there. -/
  | directory (path : List String)
  /-- To a file. -/
  | file (bytes : List UInt8)
  deriving DecidableEq, Repr

/-- Goes up. -/
def Place.up : Place → Place
  | .directory [] => .outside
  | .directory path => .directory path.dropLast
  | place => place

/-- Goes to a name in a place that is no file. -/
def find (folder : Folder) (name : String) : Place → Except FileFault Place
  | .directory path =>
    let path := path ++ [name]
    match folder.files.find? fun file => file.path == path with
    | some file => .ok (.file file.bytes)
    | none =>
      if folder.files.any fun file => path.isPrefixOf file.path then .ok (.directory path)
      else .error .notFound
  | _ => .error .notFound

/-- Goes on by a part of a path. -/
def enter (folder : Folder) (place : Place) (part : String) : Except FileFault Place :=
  match place with
  | .file _ => .error .notDirectory
  | place =>
    if stays part then .ok place
    else if part = ".." then .ok place.up
    else if longestName < part.utf8ByteSize then .error .nameTooLong
    else folder.find part place

/-- The place that a path leads to. -/
def locate (folder : Folder) (path : String) : Except FileFault Place :=
  if path.contains '\x00' then .error .impossibleName
  else if path.isEmpty then .error .notFound
  else if longestPath < path.utf8ByteSize then .error .nameTooLong
  else
    (parts path).foldlM folder.enter
      (if path.startsWith "/" then .outside else .directory [])

/-- Reads the bytes of a file. -/
def read (folder : Folder) (path : String) : Except FileFault (List UInt8) :=
  match folder.locate path with
  | .error fault => .error fault
  | .ok (.file bytes) => .ok bytes
  | .ok _ => .error .isDirectory

end Folder

end DiscordRest
