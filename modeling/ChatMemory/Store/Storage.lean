import ChatMemory.Settings
import ChatMemory.Store.FileSystem
import ChatMemory.Store.SessionFiles

/-!
The storage that settings ask for: session files if they name a directory, and otherwise only the
memory of the program.
-/

namespace ChatMemory

inductive Storage
  | archive (archive : Archive)
  | files (files : SessionFiles)

namespace Storage

def within {α β : Type _} (wrap : β → Storage) (outcome : Except Failure α × β) :
    Except Failure α × Storage :=
  (outcome.1, wrap outcome.2)

instance : Backend Storage where
  load
    | .archive records => within .archive (Backend.load records)
    | .files directory => within .files (Backend.load directory)
  write request
    | .archive records => within .archive (Backend.write request records)
    | .files directory => within .files (Backend.write request directory)
  flush
    | .archive records => within .archive (Backend.flush records)
    | .files directory => within .files (Backend.flush directory)

/-- Prepares the storage that the settings ask for. A directory that is missing is created. -/
def ofSettings (settings : StorageSettings) (files : FileSystem) : Except Failure Storage :=
  match settings.dataDirectory with
  | none => .ok (.archive .empty)
  | some path =>
    match files.createDirectories path with
    | .error fault => .error fault.failure
    | .ok files =>
      match files.find path with
      | .error fault => .error fault.failure
      | .ok _ => .ok (.files (.ofFileSystem files path))

end Storage

end ChatMemory
