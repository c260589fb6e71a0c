import ChatMemory.Unicode.Span

/-!
White space, and the two things that are done with it: trimming and cutting a text into pieces.
-/

namespace ChatMemory.Unicode

def blankSpans : List Span :=
  [⟨0x9, 0xD⟩, ⟨0x20, 0x20⟩,
    ⟨0x85, 0x85⟩, ⟨0xA0, 0xA0⟩, ⟨0x1680, 0x1680⟩, ⟨0x2000, 0x200A⟩, ⟨0x2028, 0x2029⟩,
    ⟨0x202F, 0x202F⟩, ⟨0x205F, 0x205F⟩, ⟨0x3000, 0x3000⟩]

def isBlank (character : Char) : Bool :=
  inSpans blankSpans character

@[simp] theorem isBlank_space : isBlank ' ' = true := rfl

def trimBlanks (text : List Char) : List Char :=
  ((text.dropWhile isBlank).reverse.dropWhile isBlank).reverse

/-- The maximal pieces without white space, in order. `pending` holds the piece being read, last
character first. -/
def blankFreePiecesFrom (pending : List Char) : List Char → List (List Char)
  | [] => if pending.isEmpty then [] else [pending.reverse]
  | character :: rest =>
    if isBlank character then
      if pending.isEmpty then blankFreePiecesFrom [] rest
      else pending.reverse :: blankFreePiecesFrom [] rest
    else blankFreePiecesFrom (character :: pending) rest

def blankFreePieces (text : List Char) : List (List Char) :=
  blankFreePiecesFrom [] text

example : blankFreePieces " a\t bc ".toList = [['a'], ['b', 'c']] := by decide

example : trimBlanks "\u3000 a b\n".toList = ['a', ' ', 'b'] := by decide

def isAllBlank (text : String) : Bool :=
  text.toList.all isBlank

def trim (text : String) : String :=
  String.ofList (trimBlanks text.toList)

end ChatMemory.Unicode
