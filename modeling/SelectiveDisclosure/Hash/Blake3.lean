import SelectiveDisclosure.Hash.Sha256

namespace SelectiveDisclosure.Blake3

def initial : List UInt32 :=
  [0x6a09e667, 0xbb67ae85, 0x3c6ef372, 0xa54ff53a, 0x510e527f, 0x9b05688c, 0x1f83d9ab, 0x5be0cd19]

def chunkStart : UInt32 := 1
def chunkEnd : UInt32 := 2
def parent : UInt32 := 4
def root : UInt32 := 8

def permutation : List Nat := [2, 6, 3, 10, 7, 0, 4, 13, 1, 11, 12, 5, 9, 14, 15, 8]

def littleWord (bytes : List UInt8) : UInt32 := UInt32.ofNat (bigEndian bytes.reverse)

def littleBytes (x : UInt32) : List UInt8 := (Sha256.wordBytes x).reverse

def mix (v : Array UInt32) (a b c d : Nat) (x y : UInt32) : Array UInt32 :=
  let va := v.getD a 0 + v.getD b 0 + x
  let vd := Sha256.rotate (v.getD d 0 ^^^ va) 16
  let vc := v.getD c 0 + vd
  let vb := Sha256.rotate (v.getD b 0 ^^^ vc) 12
  let va := va + vb + y
  let vd := Sha256.rotate (vd ^^^ va) 8
  let vc := vc + vd
  let vb := Sha256.rotate (vb ^^^ vc) 7
  (((v.setIfInBounds a va).setIfInBounds b vb).setIfInBounds c vc).setIfInBounds d vd

def round (v m : Array UInt32) : Array UInt32 :=
  let w := fun i => m.getD i 0
  let v := mix v 0 4 8 12 (w 0) (w 1)
  let v := mix v 1 5 9 13 (w 2) (w 3)
  let v := mix v 2 6 10 14 (w 4) (w 5)
  let v := mix v 3 7 11 15 (w 6) (w 7)
  let v := mix v 0 5 10 15 (w 8) (w 9)
  let v := mix v 1 6 11 12 (w 10) (w 11)
  let v := mix v 2 7 8 13 (w 12) (w 13)
  mix v 3 4 9 14 (w 14) (w 15)

def permute (m : Array UInt32) : Array UInt32 := (permutation.map fun i => m.getD i 0).toArray

def rounds : Nat → Array UInt32 → Array UInt32 → Array UInt32
  | 0, v, _ => v
  | n + 1, v, m => rounds n (round v m) (permute m)

def wordRange : Nat := 4294967296

structure Node where
  chaining : List UInt32
  block : List UInt8
  counter : Nat
  flags : UInt32

def compress (node : Node) (extra : UInt32) : List UInt32 :=
  let padded := node.block ++ List.replicate (64 - node.block.length) 0
  let message := ((groups 4 padded).map littleWord).toArray
  let state := (node.chaining ++ initial.take 4 ++
    [UInt32.ofNat node.counter, UInt32.ofNat (node.counter / wordRange),
      UInt32.ofNat node.block.length, node.flags ||| extra]).toArray
  let v := rounds 7 state message
  (List.range 8).map fun i => v.getD i 0 ^^^ v.getD (i + 8) 0

theorem length_compress (node : Node) (extra : UInt32) : (compress node extra).length = 8 := by
  simp [compress]

def chunkNodeFrom (counter : Nat) (chaining : List UInt32) (flags : UInt32) :
    List (List UInt8) → Node
  | [] => ⟨chaining, [], counter, flags ||| chunkEnd⟩
  | [block] => ⟨chaining, block, counter, flags ||| chunkEnd⟩
  | block :: blocks => chunkNodeFrom counter (compress ⟨chaining, block, counter, flags⟩ 0) 0 blocks

def chunkNode (counter : Nat) (bytes : List UInt8) : Node :=
  chunkNodeFrom counter initial chunkStart (groups 64 bytes)

def leftChunks (chunks : Nat) : Nat := Nat.pow 2 (chunks - 1).log2

def treeNode : Nat → Nat → List (List UInt8) → Node
  | 0, counter, chunks => chunkNode counter (chunks.headD [])
  | _, counter, [] => chunkNode counter []
  | _, counter, [chunk] => chunkNode counter chunk
  | steps + 1, counter, chunks =>
      let left := leftChunks chunks.length
      let words := compress (treeNode steps counter (chunks.take left)) 0 ++
        compress (treeNode steps (counter + left) (chunks.drop left)) 0
      ⟨initial, words.flatMap littleBytes, 0, parent⟩

theorem length_flatMap_littleBytes (ws : List UInt32) :
    (ws.flatMap littleBytes).length = 4 * ws.length := by
  induction ws with
  | nil => rfl
  | cons w ws ih =>
    have : (littleBytes w).length = 4 := rfl
    simp [ih, this]; omega

def digest (message : List UInt8) : Octets 32 :=
  let chunks := groups 1024 message
  let words := compress (treeNode chunks.length 0 chunks) root
  ⟨words.flatMap littleBytes, by rw [length_flatMap_littleBytes, length_compress]⟩

end SelectiveDisclosure.Blake3
