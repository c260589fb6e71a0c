import ChatMemory.Store.FileTree
import Std.Data.ExtTreeMap

/-!
What stands at a path, seen from outside: a file, or a directory with its entries.
-/

namespace ChatMemory

inductive Place
  | missing
  | file (content : ByteArray)
  | directory (items : Std.ExtTreeMap String FileTree)

namespace Place

def ofTree? : Option FileTree → Place
  | none => .missing
  | some (.file content) => .file content
  | some (.directory _ entries) => .directory (.ofList entries)

def toTree? : Place → Option FileTree
  | .missing => none
  | .file content => some (.file content)
  | .directory items => some (.directory true items.toList)

end Place

end ChatMemory
