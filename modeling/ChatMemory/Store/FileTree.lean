/-!
Files and directories as a tree. What is in the tree is found by the names that lead to it from the
root. Main statement: what has been put at a place is found there.
-/

namespace ChatMemory

/-- A file, or a directory with named entries. Nothing can be created in a directory that is not
open. -/
inductive FileTree
  | file (content : ByteArray)
  | directory (isOpen : Bool) (entries : List (String × FileTree))

namespace FileTree

def empty : FileTree := .directory true []

def child? (name : String) : FileTree → Option FileTree
  | .file _ => none
  | .directory _ entries => entries.lookup name

def find? : FileTree → List String → Option FileTree
  | tree, [] => some tree
  | tree, name :: rest => (tree.child? name).bind (·.find? rest)

/-- Puts an entry into a directory, in place of the one that has its name. A file makes way for a
directory with the entry. -/
def putChild (tree : FileTree) (name : String) (entry : FileTree) : FileTree :=
  match tree with
  | .file _ => .directory true [(name, entry)]
  | .directory isOpen entries =>
    .directory isOpen ((name, entry) :: entries.filter (·.1 != name))

/-- Puts an entry where the names lead to, with the directories that are missing on the way. -/
def put (tree : FileTree) (entry : FileTree) : List String → FileTree
  | [] => entry
  | name :: rest => tree.putChild name (((tree.child? name).getD .empty).put entry rest)

def erase : FileTree → List String → FileTree
  | .file content, _ => .file content
  | tree, [] => tree
  | .directory isOpen entries, [name] => .directory isOpen (entries.filter (·.1 != name))
  | tree, name :: rest =>
    match tree.child? name with
    | none => tree
    | some child => tree.putChild name (child.erase rest)

@[simp] theorem child?_putChild {tree : FileTree} {name : String} {entry : FileTree} :
    (tree.putChild name entry).child? name = some entry := by
  cases tree <;> simp [putChild, child?]

@[simp] theorem find?_put {tree entry : FileTree} {names : List String} :
    (tree.put entry names).find? names = some entry := by
  induction names generalizing tree with
  | nil => rfl
  | cons name rest ih => simp [put, find?, child?_putChild, ih]

end FileTree

end ChatMemory
