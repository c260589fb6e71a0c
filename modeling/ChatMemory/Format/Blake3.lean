import ChatMemory.Format.Hexadecimal

/-!
The BLAKE3 hash. A text of bytes is cut into chunks of 1024 bytes and each chunk into blocks of 64;
chunks are hashed block by block and joined pairwise into a tree.
-/

namespace ChatMemory.Blake3

abbrev Chaining := Vector UInt32 8

/-- Sixteen words: a block of input, or the state of the compression. -/
abbrev Block := Vector UInt32 16

def initial : Chaining :=
  #v[0x6A09E667, 0xBB67AE85, 0x3C6EF372, 0xA54FF53A, 0x510E527F, 0x9B05688C, 0x1F83D9AB, 0x5BE0CD19]

def permutation : Vector (Fin 16) 16 :=
  #v[2, 6, 3, 10, 7, 0, 4, 13, 1, 11, 12, 5, 9, 14, 15, 8]

def permute (block : Block) : Block :=
  permutation.map (block[·])

def rotateRight (word count : UInt32) : UInt32 :=
  (word >>> count) ||| (word <<< (32 - count))

def mix (state : Block) (a b c d : Fin 16) (x y : UInt32) : Block :=
  let state := state.set a (state[a] + state[b] + x)
  let state := state.set d (rotateRight (state[d] ^^^ state[a]) 16)
  let state := state.set c (state[c] + state[d])
  let state := state.set b (rotateRight (state[b] ^^^ state[c]) 12)
  let state := state.set a (state[a] + state[b] + y)
  let state := state.set d (rotateRight (state[d] ^^^ state[a]) 8)
  let state := state.set c (state[c] + state[d])
  state.set b (rotateRight (state[b] ^^^ state[c]) 7)

def round (state block : Block) : Block :=
  let state := mix state 0 4 8 12 block[0] block[1]
  let state := mix state 1 5 9 13 block[2] block[3]
  let state := mix state 2 6 10 14 block[4] block[5]
  let state := mix state 3 7 11 15 block[6] block[7]
  let state := mix state 0 5 10 15 block[8] block[9]
  let state := mix state 1 6 11 12 block[10] block[11]
  let state := mix state 2 7 8 13 block[12] block[13]
  mix state 3 4 9 14 block[14] block[15]

def rounds : Nat → Block → Block → Block
  | 0, state, _ => state
  | count + 1, state, block => rounds count (round state block) (permute block)

def chunkStart : UInt32 := 1

def chunkEnd : UInt32 := 2

def parent : UInt32 := 4

def root : UInt32 := 8

structure Node where
  chaining : Chaining
  block : Block
  counter : UInt64
  length : UInt32
  flags : UInt32

def Node.compress (node : Node) (extra : UInt32) : Block :=
  let chaining := node.chaining
  let state : Block :=
    #v[chaining[0], chaining[1], chaining[2], chaining[3],
      chaining[4], chaining[5], chaining[6], chaining[7],
      initial[0], initial[1], initial[2], initial[3],
      node.counter.toUInt32, (node.counter >>> 32).toUInt32, node.length, node.flags ||| extra]
  rounds 7 state node.block

def Node.output (node : Node) (extra : UInt32) : Chaining :=
  let state := node.compress extra
  Vector.ofFn fun (index : Fin 8) => state[index.val] ^^^ state[index.val + 8]

def wordOf (bytes : List UInt8) : UInt32 :=
  bytes.foldr (fun byte word => (word <<< 8) ||| byte.toUInt32) 0

def blockOf (bytes : List UInt8) : Block :=
  Vector.ofFn fun (index : Fin 16) => wordOf ((bytes.drop (4 * index)).take 4)

/-- Cuts a list into pieces of the given size. The first number bounds how many there can be. -/
def pieces {α : Type _} (size : Nat) : Nat → List α → List (List α)
  | 0, _ => []
  | count + 1, list =>
    if list.length ≤ size then [list] else list.take size :: pieces size count (list.drop size)

def chunkNode (counter : UInt64) (chaining : Chaining) (flags : UInt32) :
    List (List UInt8) → Node
  | [] => ⟨chaining, blockOf [], counter, 0, flags ||| chunkEnd⟩
  | [bytes] => ⟨chaining, blockOf bytes, counter, bytes.length.toUInt32, flags ||| chunkEnd⟩
  | bytes :: rest =>
    let node : Node := ⟨chaining, blockOf bytes, counter, bytes.length.toUInt32, flags⟩
    chunkNode counter (node.output 0) 0 rest

def parentNode (left right : Chaining) : Node :=
  ⟨initial, (left ++ right).cast rfl, 0, 64, parent⟩

def splitPoint : Nat → Nat → Nat
  | 0, _ => 1
  | fuel + 1, count => if count ≤ 2 then 1 else 2 * splitPoint fuel ((count + 1) / 2)

/-- The top of the tree over the chunks. The left part is the largest full one that leaves something
for the right. The first number bounds the height. -/
def treeNode : Nat → UInt64 → List (List UInt8) → Node
  | 0, counter, _ => chunkNode counter initial chunkStart []
  | _ + 1, counter, [] => chunkNode counter initial chunkStart []
  | _ + 1, counter, [chunk] => chunkNode counter initial chunkStart (pieces 64 16 chunk)
  | height + 1, counter, chunks =>
    let left := splitPoint chunks.length chunks.length
    parentNode ((treeNode height counter (chunks.take left)).output 0)
      ((treeNode height (counter + left.toUInt64) (chunks.drop left)).output 0)

def wordBytes (word : UInt32) : List UInt8 :=
  [word.toUInt8, (word >>> 8).toUInt8, (word >>> 16).toUInt8, (word >>> 24).toUInt8]

def hash (bytes : List UInt8) : List UInt8 :=
  let chunks := pieces 1024 (bytes.length + 1) bytes
  ((treeNode (chunks.length + 1) 0 chunks).output root).toList.flatMap wordBytes

example : hexDigits ((hash []).take 4) = "af1349b9".toList := by decide +kernel

end ChatMemory.Blake3
