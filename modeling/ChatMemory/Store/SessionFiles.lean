import ChatMemory.Format.Blake3
import ChatMemory.Session.Document
import ChatMemory.Store.Backend
import ChatMemory.Store.Directory
import ChatMemory.Store.FileSystem

/-!
A directory with one JSON document for each session. Files are named by a hash of the session id, so
any id will do. A document is written beside its place and then moved there, so that a file is never
half written.
-/

namespace ChatMemory

structure SessionFiles where
  path : String
  place : Place
  /-- The file system that the path leads through. What it has at the path itself may be old. -/
  around : FileSystem

namespace SessionFiles

def ofFileSystem (around : FileSystem) (path : String) : SessionFiles where
  path
  place := .ofTree? (around.find path).toOption
  around

def stemOf (id : SessionId) : String :=
  String.ofList (hexDigits ((Blake3.hash id.toUTF8.toList).take 16))

def fileName (id : SessionId) : String :=
  stemOf id ++ ".json"

def temporaryName (id : SessionId) : String :=
  stemOf id ++ ".json.tmp"

def isDocumentName (name : String) : Bool :=
  ".json".toList.isSuffixOf name.toList && decide (5 < name.length)

def items (files : SessionFiles) : List (String × FileTree) :=
  match files.place with
  | .directory items => items.toList
  | _ => []

def create (files : SessionFiles) : Except Failure SessionFiles :=
  match files.place with
  | .missing => .ok { files with place := .directory ∅ }
  | .file _ => .error FileFault.occupied.failure
  | .directory _ => .ok files

/-- The record in a document, or nothing if it holds none. Bytes that are no text are a failure. -/
def readItem (item : FileTree) : Except Failure (Option SessionRecord) :=
  match item with
  | .directory _ _ => .error FileFault.isDirectory.failure
  | .file content =>
    match String.fromUTF8? content with
    | none => .error FileFault.notText.failure
    | some document => .ok (SessionRecord.ofDocument? document)

def readItems : List (String × FileTree) → Except Failure (List SessionRecord)
  | [] => .ok []
  | (name, item) :: rest =>
    if isDocumentName name then
      match readItem item with
      | .error failure => .error failure
      | .ok record => (readItems rest).map (record.toList ++ ·)
    else readItems rest

def records (files : SessionFiles) : Except Failure (List SessionRecord) :=
  match files.place with
  | .missing => .error FileFault.missing.failure
  | .file _ => .error FileFault.notDirectory.failure
  | .directory items =>
    (readItems items.toList).map fun records =>
      records.mergeSort fun first second => decide (first.id ≤ second.id)

def writeFile (items : Std.ExtTreeMap String FileTree) (name : String) (content : ByteArray) :
    Except FileFault (Std.ExtTreeMap String FileTree) :=
  match items[name]? with
  | some (.directory _ _) => .error .isDirectory
  | _ => .ok (items.insert name (.file content))

def moveFile (items : Std.ExtTreeMap String FileTree) (source target : String) :
    Except FileFault (Std.ExtTreeMap String FileTree) :=
  match items[source]?, items[target]? with
  | none, _ => .error .missing
  | _, some (.directory _ _) => .error .isDirectory
  | some item, _ => .ok ((items.erase source).insert target item)

def save (files : SessionFiles) (record : SessionRecord) : Except Failure Unit × SessionFiles :=
  match files.place with
  | .missing => (.error FileFault.missing.failure, files)
  | .file _ => (.error FileFault.notDirectory.failure, files)
  | .directory items =>
    match writeFile items (temporaryName record.id) record.toDocument.toUTF8 with
    | .error fault => (.error fault.failure, files)
    | .ok written =>
      match moveFile written (temporaryName record.id) (fileName record.id) with
      | .error fault =>
        (.error ⟨.storage, files.path ++ "/" ++ fileName record.id ++ ": " ++ fault.describe⟩,
          { files with place := .directory written })
      | .ok moved => (.ok (), { files with place := .directory moved })

/-- Deletes the file of a session. It need not be there. -/
def delete (files : SessionFiles) (id : SessionId) : Except Failure Unit × SessionFiles :=
  match files.place with
  | .missing => (.ok (), files)
  | .file _ => (.error FileFault.notDirectory.failure, files)
  | .directory items =>
    match items[fileName id]? with
    | some (.directory _ _) => (.error FileFault.isDirectory.failure, files)
    | _ => (.ok (), { files with place := .directory (items.erase (fileName id)) })

def fileSystem (files : SessionFiles) : FileSystem :=
  files.around.replace files.path files.place.toTree?

def edit (files : SessionFiles) (change : FileSystem → FileSystem) : SessionFiles :=
  .ofFileSystem (change files.fileSystem) files.path

/-- Removes a file by its path from the directory. The answer is whether it worked. -/
def removeFile (files : SessionFiles) (path : String) : Bool × SessionFiles :=
  match files.fileSystem.removeFile (FileSystem.joined files.path path) with
  | .ok changed => (true, .ofFileSystem changed files.path)
  | .error _ => (false, files)

/-- Removes the directory with all that is in it. The answer is whether there was one. -/
def removeAll (files : SessionFiles) : Bool × SessionFiles :=
  match files.place with
  | .directory _ => (true, { files with place := .missing })
  | _ => (false, files)

instance : Backend SessionFiles where
  load files := (files.records, files)
  write request files :=
    match request with
    | .save record => files.save record
    | .delete id => files.delete id
  flush files := (.ok (), files)

end SessionFiles

end ChatMemory
