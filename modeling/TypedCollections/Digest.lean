/-!
# Digests

The BLAKE3 digest of a list of octets, as 64 hexadecimal characters. The octets are cut into chunks
of 1024, a chunk into blocks of 64. Each chunk is folded to a chaining value block by block, and
chaining values are joined in a binary tree whose left side holds the greatest power of two of
chunks that leaves one for the right side.
-/

namespace TypedCollections

namespace Digest

/-- The initial chaining value. -/
def initial : List UInt32 :=
  [0x6A09E667, 0xBB67AE85, 0x3C6EF372, 0xA54FF53A, 0x510E527F, 0x9B05688C, 0x1F83D9AB, 0x5BE0CD19]

/-- How the words of a message are rearranged between rounds. -/
def rearrangement : List Nat := [2, 6, 3, 10, 7, 0, 4, 13, 1, 11, 12, 5, 9, 14, 15, 8]

/-- What a compression is used for. -/
structure Flags where
  chunkStart : Bool := false
  chunkEnd : Bool := false
  parent : Bool := false
  root : Bool := false

/-- The flags as a word. -/
def Flags.word (flags : Flags) : UInt32 :=
  (if flags.chunkStart then 1 else 0) + (if flags.chunkEnd then 2 else 0)
    + (if flags.parent then 4 else 0) + (if flags.root then 8 else 0)

def rotate (word count : UInt32) : UInt32 := (word >>> count) ||| (word <<< (32 - count))

/-- Four words of the state. -/
structure Quad where
  a : UInt32
  b : UInt32
  c : UInt32
  d : UInt32

/-- Mixes two words of the message into four words of the state. -/
def Quad.mix (quad : Quad) (x y : UInt32) : Quad :=
  let a := quad.a + quad.b + x
  let d := rotate (quad.d ^^^ a) 16
  let c := quad.c + d
  let b := rotate (quad.b ^^^ c) 12
  let a := a + b + y
  let d := rotate (d ^^^ a) 8
  let c := c + d
  let b := rotate (b ^^^ c) 7
  ⟨a, b, c, d⟩

/-- The sixteen words of the state, as four columns. -/
structure State where
  first : Quad
  second : Quad
  third : Quad
  fourth : Quad

/-- A round mixes the columns and then the diagonals. -/
def State.round (state : State) (message : Array UInt32) : State :=
  let m (i : Nat) : UInt32 := message.getD i 0
  let p := state.first.mix (m 0) (m 1)
  let q := state.second.mix (m 2) (m 3)
  let r := state.third.mix (m 4) (m 5)
  let s := state.fourth.mix (m 6) (m 7)
  let w := (Quad.mk p.a q.b r.c s.d).mix (m 8) (m 9)
  let x := (Quad.mk q.a r.b s.c p.d).mix (m 10) (m 11)
  let y := (Quad.mk r.a s.b p.c q.d).mix (m 12) (m 13)
  let z := (Quad.mk s.a p.b q.c r.d).mix (m 14) (m 15)
  ⟨⟨w.a, z.b, y.c, x.d⟩, ⟨x.a, w.b, z.c, y.d⟩, ⟨y.a, x.b, w.c, z.d⟩, ⟨z.a, y.b, x.c, w.d⟩⟩

def rearrange (message : Array UInt32) : Array UInt32 :=
  (rearrangement.map fun i => message.getD i 0).toArray

/-- Rounds, with the message rearranged after each. -/
def rounds : Nat → State → Array UInt32 → State
  | 0, state, _ => state
  | n + 1, state, message => rounds n (state.round message) (rearrange message)

/-- What is still to be compressed: a chaining value and a block. -/
structure Pending where
  chaining : List UInt32
  block : List UInt32
  counter : Nat
  length : Nat
  flags : Flags

/-- The chaining value that a compression gives. -/
def Pending.compress (pending : Pending) : List UInt32 :=
  let h := pending.chaining.toArray
  let v (i : Nat) : UInt32 := h.getD i 0
  let iv := initial.toArray
  let k (i : Nat) : UInt32 := iv.getD i 0
  let start : State :=
    ⟨⟨v 0, v 4, k 0, UInt32.ofNat pending.counter⟩,
      ⟨v 1, v 5, k 1, UInt32.ofNat (pending.counter >>> 32)⟩,
      ⟨v 2, v 6, k 2, UInt32.ofNat pending.length⟩, ⟨v 3, v 7, k 3, pending.flags.word⟩⟩
  let final := rounds 7 start pending.block.toArray
  [final.first.a ^^^ final.first.c, final.second.a ^^^ final.second.c,
    final.third.a ^^^ final.third.c, final.fourth.a ^^^ final.fourth.c,
    final.first.b ^^^ final.first.d, final.second.b ^^^ final.second.d,
    final.third.b ^^^ final.third.d, final.fourth.b ^^^ final.fourth.d]

/-- The chaining value of the root. -/
def Pending.compressRoot (pending : Pending) : List UInt32 :=
  { pending with flags := { pending.flags with root := true } }.compress

/-- The word made of four octets, the least significant first. -/
def wordOf (octets : List UInt8) : UInt32 :=
  octets.foldr (fun octet acc => acc * 256 + octet.toUInt32) 0

/-- Cuts a list into pieces of a given positive size; there are at most `fuel` of them. -/
def pieces {α : Type} (size : Nat) : Nat → List α → List (List α)
  | 0, _ => []
  | _, [] => []
  | fuel + 1, list => list.take size :: pieces size fuel (list.drop size)

/-- The sixteen words of a block; missing octets are zero. -/
def wordsOf (block : List UInt8) : List UInt32 :=
  (pieces 4 16 (block ++ List.replicate (64 - block.length) 0)).map wordOf

/-- Folds the blocks of a chunk up to the last, which is left to be compressed. -/
def chunkBlocks (counter : Nat) : Bool → List UInt32 → List (List UInt8) → Pending
  | isFirst, chaining, [] =>
      ⟨chaining, wordsOf [], counter, 0, { chunkStart := isFirst, chunkEnd := true }⟩
  | isFirst, chaining, [last] =>
      ⟨chaining, wordsOf last, counter, last.length, { chunkStart := isFirst, chunkEnd := true }⟩
  | isFirst, chaining, block :: rest =>
      let pending : Pending :=
        ⟨chaining, wordsOf block, counter, block.length, { chunkStart := isFirst }⟩
      chunkBlocks counter false pending.compress rest

/-- A chunk of at most 1024 octets. -/
def chunk (counter : Nat) (octets : List UInt8) : Pending :=
  chunkBlocks counter true initial (pieces 64 16 octets)

/-- The tree over chunks, the first of which has the given number. -/
def tree : Nat → Nat → List (List UInt8) → Pending
  | _, counter, [] => chunk counter []
  | _, counter, [only] => chunk counter only
  | 0, counter, first :: _ => chunk counter first
  | fuel + 1, counter, chunks =>
      let left := 1 <<< (chunks.length - 1).log2
      let onLeft := (tree fuel counter (chunks.take left)).compress
      let onRight := (tree fuel (counter + left) (chunks.drop left)).compress
      ⟨initial, onLeft ++ onRight, 0, 64, { parent := true }⟩

/-- The two hexadecimal characters of an octet. -/
def octetChars (octet : Nat) : List Char := [Nat.digitChar (octet / 16), Nat.digitChar (octet % 16)]

/-- The hexadecimal characters of a word, its least significant octet first. -/
def wordChars (word : UInt32) : List Char :=
  let n := word.toNat
  octetChars (n % 256) ++ octetChars (n / 256 % 256) ++ octetChars (n / 65536 % 256)
    ++ octetChars (n / 16777216)

/-- The digest of octets, in hexadecimal. -/
def hex (octets : List UInt8) : String :=
  let chunks := pieces 1024 octets.length octets
  String.ofList ((tree chunks.length 0 chunks).compressRoot.flatMap wordChars)

end Digest

end TypedCollections
