/-!
# The BLAKE3 hash of a text

The state of the compression function is a square of sixteen words, held as four rows. A round
mixes the columns and then the diagonals, which are the columns of the square whose rows are
turned by one, two and three places. A text is cut into chunks of 1024 bytes, each chunk into
blocks of 64; the chunks are the leaves of a binary tree whose nodes are chained in pairs, and
the root is compressed once more under its own flag. `hex` is the first 32 bytes of the root in
lower-case hexadecimal.
-/

set_option autoImplicit false
set_option relaxedAutoImplicit false

namespace StepSequencer.Digest.Blake3

/-! ### Words and rows -/

/-- Four words of the state. -/
structure Row where
  w0 : UInt32
  w1 : UInt32
  w2 : UInt32
  w3 : UInt32
deriving DecidableEq

/-- The row of a function applied place by place. -/
def Row.zipWith (f : UInt32 → UInt32 → UInt32) (x y : Row) : Row :=
  ⟨f x.w0 y.w0, f x.w1 y.w1, f x.w2 y.w2, f x.w3 y.w3⟩

/-- The row with every word rotated right by `places` bits. -/
def Row.rotateBits (places : UInt32) (x : Row) : Row :=
  let rotate : UInt32 → UInt32 := fun w ↦ (w >>> places) ||| (w <<< (32 - places))
  ⟨rotate x.w0, rotate x.w1, rotate x.w2, rotate x.w3⟩

/-- The row turned left by one place. -/
def Row.turn (x : Row) : Row :=
  ⟨x.w1, x.w2, x.w3, x.w0⟩

/-- The eight words that pass from one block to the next. -/
structure Chaining where
  upper : Row
  lower : Row
deriving DecidableEq

/-- The words every chunk starts from. -/
def initial : Chaining where
  upper := ⟨0x6A09E667, 0xBB67AE85, 0x3C6EF372, 0xA54FF53A⟩
  lower := ⟨0x510E527F, 0x9B05688C, 0x1F83D9AB, 0x5BE0CD19⟩

/-- The state inside a compression. -/
structure State where
  a : Row
  b : Row
  c : Row
  d : Row

/-! ### Mixing -/

/-- Half a mixing step on all four columns, with its two rotation amounts. -/
def State.mixHalf (s : State) (words : Row) (first second : UInt32) : State :=
  let a := Row.zipWith (· + ·) (Row.zipWith (· + ·) s.a s.b) words
  let d := (Row.zipWith (· ^^^ ·) s.d a).rotateBits first
  let c := Row.zipWith (· + ·) s.c d
  let b := (Row.zipWith (· ^^^ ·) s.b c).rotateBits second
  ⟨a, b, c, d⟩

/-- A mixing step on all four columns. -/
def State.mix (s : State) (x y : Row) : State :=
  (s.mixHalf x 16 12).mixHalf y 8 7

/-- The square whose columns are the diagonals. -/
def State.slant (s : State) : State :=
  ⟨s.a, s.b.turn, s.c.turn.turn, s.d.turn.turn.turn⟩

/-- Turns the rows back after a diagonal step. -/
def State.upright (s : State) : State :=
  ⟨s.a, s.b.turn.turn.turn, s.c.turn.turn, s.d.turn⟩

/-- The message words at four positions. -/
def wordsAt (message : List UInt32) (i j k l : Nat) : Row :=
  ⟨message.getD i 0, message.getD j 0, message.getD k 0, message.getD l 0⟩

/-- One round: the columns, then the diagonals. -/
def State.round (s : State) (message : List UInt32) : State :=
  let columns := s.mix (wordsAt message 0 2 4 6) (wordsAt message 1 3 5 7)
  (columns.slant.mix (wordsAt message 8 10 12 14) (wordsAt message 9 11 13 15)).upright

/-- The order in which the next round reads the message words of this one. -/
def permutation : List Nat :=
  [2, 6, 3, 10, 7, 0, 4, 13, 1, 11, 12, 5, 9, 14, 15, 8]

/-- The message of the next round. -/
def permute (message : List UInt32) : List UInt32 :=
  permutation.map fun i ↦ message.getD i 0

/-- The given number of rounds. -/
def State.rounds : Nat → State → List UInt32 → State
  | 0, s, _ => s
  | n + 1, s, message => (s.round message).rounds n (permute message)

/-! ### Nodes of the tree -/

/-- All that one compression reads. -/
structure Node where
  chaining : Chaining
  message : List UInt32
  counter : Nat
  length : Nat
  flags : UInt32

/-- The chaining words that compressing a node gives. -/
def Node.compress (node : Node) : Chaining :=
  let start : State :=
    ⟨node.chaining.upper, node.chaining.lower, initial.upper,
      ⟨node.counter.toUInt32, (node.counter / 0x100000000).toUInt32, node.length.toUInt32,
        node.flags⟩⟩
  let s := start.rounds 7 node.message
  ⟨Row.zipWith (· ^^^ ·) s.a s.c, Row.zipWith (· ^^^ ·) s.b s.d⟩

/-- Marks the first block of a chunk. -/
def chunkStart : UInt32 := 1

/-- Marks the last block of a chunk. -/
def chunkEnd : UInt32 := 2

/-- Marks a node with two children. -/
def parent : UInt32 := 4

/-- Marks the root of the tree. -/
def root : UInt32 := 8

/-- A word from up to four bytes, the lowest first. -/
def wordOfBytes (bytes : List UInt8) : UInt32 :=
  bytes.foldr (fun byte word ↦ (word <<< 8) ||| byte.toUInt32) 0

/-- The given number of words from the front of some bytes, zeros where none are left. -/
def wordsOfBytes : Nat → List UInt8 → List UInt32
  | 0, _ => []
  | n + 1, bytes => wordOfBytes (bytes.take 4) :: wordsOfBytes n (bytes.drop 4)

/-- The pieces of a fixed length, the last one possibly shorter; no bytes give one empty piece.
The first argument bounds the number of pieces. -/
def pieces (size : Nat) : Nat → List UInt8 → List (List UInt8)
  | 0, bytes => [bytes]
  | n + 1, bytes =>
    if bytes.length ≤ size then [bytes] else bytes.take size :: pieces size n (bytes.drop size)

/-- The last node of a chunk, after chaining all the blocks before it. -/
def chunkNode (counter : Nat) : Chaining → UInt32 → List (List UInt8) → Node
  | chaining, start, [] => ⟨chaining, wordsOfBytes 16 [], counter, 0, start ||| chunkEnd⟩
  | chaining, start, [block] =>
    ⟨chaining, wordsOfBytes 16 block, counter, block.length, start ||| chunkEnd⟩
  | chaining, start, block :: next :: rest =>
    let node : Node := ⟨chaining, wordsOfBytes 16 block, counter, block.length, start⟩
    chunkNode counter node.compress 0 (next :: rest)

/-- The words of a row in order. -/
def Row.toList (x : Row) : List UInt32 :=
  [x.w0, x.w1, x.w2, x.w3]

/-- The words of a chaining value in order. -/
def Chaining.toList (x : Chaining) : List UInt32 :=
  x.upper.toList ++ x.lower.toList

/-- The node above two others. -/
def parentNode (left right : Node) : Node :=
  ⟨initial, left.compress.toList ++ right.compress.toList, 0, 64, parent⟩

/-- One level of the tree: neighbours are joined, a last node without neighbour is carried up. -/
def joinPairs : List Node → List Node
  | left :: right :: rest => parentNode left right :: joinPairs rest
  | nodes => nodes

/-- The root above some leaves. The first argument bounds the height of the tree. -/
def rootNode : Nat → Node → List Node → Node
  | 0, first, _ => first
  | _ + 1, first, [] => first
  | n + 1, first, second :: rest =>
    match joinPairs (first :: second :: rest) with
    | [] => first
    | top :: others => rootNode n top others

/-! ### The hash -/

/-- The bytes of a word, the lowest first. -/
def bytesOfWord (word : UInt32) : List UInt8 :=
  [word.toUInt8, (word >>> 8).toUInt8, (word >>> 16).toUInt8, (word >>> 24).toUInt8]

/-- The hash of some bytes, 32 bytes long. -/
def hash (bytes : List UInt8) : List UInt8 :=
  let chunks := pieces 1024 (bytes.length / 1024) bytes
  let leaves := chunks.zipIdx.map fun (chunk, counter) ↦
    chunkNode counter initial chunkStart (pieces 64 16 chunk)
  match leaves with
  | [] => []
  | first :: others =>
    let top := rootNode others.length first others
    let words := { top with flags := top.flags ||| root }.compress.toList
    words.flatMap bytesOfWord

/-- The two hexadecimal digits of a byte. -/
def hexOfByte (byte : UInt8) : List Char :=
  [Nat.digitChar (byte.toNat / 16), Nat.digitChar (byte.toNat % 16)]

/-- The bytes of a text in UTF-8. -/
def utf8 (text : String) : List UInt8 :=
  text.toList.flatMap String.utf8EncodeChar

/-- The hash of a text in lower-case hexadecimal, 64 digits. -/
def hex (text : String) : String :=
  String.ofList ((hash (utf8 text)).flatMap hexOfByte)

end StepSequencer.Digest.Blake3
