import ChatMemory.Failure
import ChatMemory.Store.FileTree

/-!
Paths through a tree of files: reading, writing and removing files, and creating directories. Names
and paths have limits, and a path can go up again by `..`.
-/

namespace ChatMemory

structure FileSystem where
  root : FileTree
  /-- The names of the directory that relative paths begin in. -/
  current : List String

namespace FileSystem

def nameLimit : Nat := 255

def pathLimit : Nat := 4095

def checkPath (path : String) : Except FileFault Unit :=
  if path.toList.contains '\x00' then .error .invalidName
  else if path.isEmpty then .error .missing
  else if pathLimit < path.utf8ByteSize then .error .nameTooLong
  else .ok ()

/-- The parts of a path between slashes. Empty parts and `.` stand for no name. -/
def partsOf (path : String) : List String :=
  (path.toList.splitOn '/').map String.ofList

def isNameless (part : String) : Bool :=
  part == "" || part == "."

def namesOf (path : String) : List String :=
  (partsOf path).filter (!isNameless ·)

def isAbsolute (path : String) : Bool :=
  path.toList.head? == some '/'

def joined (directory path : String) : String :=
  if isAbsolute path then path else directory ++ "/" ++ path

def startOf (files : FileSystem) (path : String) : List String :=
  if isAbsolute path then [] else files.current

/-- The names that lead from the root to where the parts of a path end, if they begin in the given
place. The root is its own parent. -/
def follow (files : FileSystem) (here : List String) : List String → Except FileFault (List String)
  | [] => .ok here
  | part :: rest =>
    match files.root.find? here with
    | none => .error .missing
    | some (.file _) => .error .notDirectory
    | some (.directory _ _) =>
      if isNameless part then files.follow here rest
      else if part == ".." then files.follow here.dropLast rest
      else if nameLimit < part.utf8ByteSize then .error .nameTooLong
      else files.follow (here ++ [part]) rest

def locate (files : FileSystem) (path : String) : Except FileFault (List String × FileTree) := do
  checkPath path
  let names ← files.follow (files.startOf path) (partsOf path)
  match files.root.find? names with
  | none => .error .missing
  | some tree => .ok (names, tree)

def find (files : FileSystem) (path : String) : Except FileFault FileTree :=
  (files.locate path).map (·.2)

def read (files : FileSystem) (path : String) : Except FileFault ByteArray := do
  match ← files.find path with
  | .file content => .ok content
  | .directory _ _ => .error .isDirectory

def hasDirectory (files : FileSystem) (path : String) : Bool :=
  match files.find path with
  | .ok (.directory _ _) => true
  | _ => false

/-- Puts an entry at the end of a path into a directory that is there. What stands there makes way
if it is of the right kind, and else it is a clash. -/
def putEntry (files : FileSystem) (here parts : List String) (entry : FileTree)
    (makesWay : FileTree → Bool) (clash : FileFault) : Except FileFault FileSystem := do
  let around ← files.follow here (parts.dropLast ++ ["."])
  let name := parts.getLast?.getD "."
  if isNameless name || name == ".." then .error clash
  else if nameLimit < name.utf8ByteSize then .error .nameTooLong
  else
    let names := around ++ [name]
    let changed := { files with root := files.root.put entry names }
    match files.root.find? names, files.root.find? around with
    | some found, _ => if makesWay found then .ok changed else .error clash
    | none, some (.directory true _) => .ok changed
    | none, _ => .error .missing

def createDirectory (files : FileSystem) (path : String) : Except FileFault FileSystem := do
  checkPath path
  let parts := ((partsOf path).reverse.dropWhile (· == "")).reverse
  files.putEntry (files.startOf path) parts .empty (fun _ => false) .occupied

/-- Writes a file in a directory that is there. It replaces a file at the same path. -/
def writeFile (files : FileSystem) (path : String) (content : ByteArray) :
    Except FileFault FileSystem := do
  checkPath path
  files.putEntry (files.startOf path) (partsOf path) (.file content)
    (· matches .file _) .isDirectory

def removeFile (files : FileSystem) (path : String) : Except FileFault FileSystem := do
  match ← files.locate path with
  | (names, .file _) => .ok { files with root := files.root.erase names }
  | (_, .directory _ _) => .error .isDirectory

def replace (files : FileSystem) (path : String) (entry : Option FileTree) : FileSystem :=
  match files.follow (files.startOf path) (partsOf path), entry with
  | .error _, _ => files
  | .ok names, some entry => { files with root := files.root.put entry names }
  | .ok names, none => { files with root := files.root.erase names }

def ancestorsOf (path : String) : List String :=
  let names := namesOf path
  let mark := if isAbsolute path then "/" else ""
  let paths := (List.range names.length).reverse.map fun count =>
    mark ++ String.intercalate "/" (names.take count)
  paths.filter (!·.isEmpty)

/-- Creates the first of the directories, the later ones being those around it. It may be there. -/
def createFirst (files : FileSystem) : List String → Except FileFault FileSystem
  | [] => .ok files
  | path :: around =>
    let accept (files : FileSystem) : Except FileFault FileSystem → Except FileFault FileSystem
      | .ok created => .ok created
      | .error fault => if files.hasDirectory path then .ok files else .error fault
    match files.createDirectory path with
    | .error .missing =>
      match files.createFirst around with
      | .error fault => .error fault
      | .ok files => accept files (files.createDirectory path)
    | outcome => accept files outcome

def createDirectories (files : FileSystem) (path : String) : Except FileFault FileSystem :=
  if path.isEmpty then .ok files else files.createFirst (path :: ancestorsOf path)

def orUnchanged (files : FileSystem) (outcome : Except FileFault FileSystem) : FileSystem :=
  outcome.toOption.getD files

def ensureDirectory (files : FileSystem) (path : String) : FileSystem :=
  files.orUnchanged (files.createDirectories path)

def ensureFile (files : FileSystem) (content : ByteArray) (path : String) : FileSystem :=
  let files := ((ancestorsOf path).head?.map files.ensureDirectory).getD files
  files.orUnchanged (files.writeFile path content)

/-- A file system with the given entries in the current directory, and with what is found on any
machine: devices, and directories about processes and hardware in which nothing can be created. -/
def withEntries (entries : List (String × FileTree)) : FileSystem where
  root := .directory true
    [("dev", .directory true
        (["null", "zero", "full", "random", "urandom", "stdin", "stdout", "stderr"].map
          fun name => (name, .file .empty))),
      ("etc", .directory true [("passwd", .file "root:x:0:0:".toUTF8)]),
      ("home", .directory true entries),
      ("proc", .directory false [("self", .directory false [])]),
      ("sys", .directory false [])]
  current := ["home"]

example : ((withEntries []).createDirectories "a/../b").isOk = true := by decide

example : ((withEntries []).createDirectories "a/.").isOk = false := by decide

example : ((withEntries []).createDirectories "/proc/a").isOk = false := by decide

example : (((withEntries []).ensureFile .empty "a/../b").find "b").isOk = true := by decide

example : (((withEntries []).ensureFile .empty "a/../b").find "a").isOk = true := by decide

example : ((withEntries []).removeFile "/etc/../etc/passwd").isOk = true := by decide

example : (((withEntries []).removeFile "/etc") matches .error .isDirectory) = true := by
  decide

end FileSystem

end ChatMemory
