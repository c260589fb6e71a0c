import ChatMemory.Engine
import ChatMemory.Store.Storage

/-!
Starting a memory on the storage that its settings ask for.
-/

namespace ChatMemory.Engine

def launch (settings : Settings) (files : FileSystem) : Except Failure (Engine Storage) :=
  match Storage.ofSettings settings.storage files with
  | .error failure => .error failure
  | .ok storage => (start settings storage).1

end ChatMemory.Engine
