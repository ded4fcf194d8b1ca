namespace RotaryScan.Random

abbrev Word := UInt32

abbrev Block := Vector Word 16

abbrev Key := Vector Word 8

def rotateLeft (w : Word) (count : UInt32) : Word := w <<< count ||| w >>> (32 - count)

def rotateRight (w : Word) (count : UInt32) : Word := w >>> count ||| w <<< ((32 - count) % 32)

/-- The key that a seed stands for: eight outputs of a congruential generator, each permuted by a
shift and a rotation that depend on its state. -/
def keyOfSeed (seed : UInt64) : Key :=
  (List.range 8).foldl (fun (key, state) index =>
    let state : UInt64 := state * 6364136223846793005 + 11634580027462260723
    let shifted := (((state >>> 18) ^^^ state) >>> 27).toUInt32
    (key.setIfInBounds index (rotateRight shifted (state >>> 59).toUInt32), state))
    (Vector.replicate 8 0, seed) |>.1

namespace ChaCha

def quarterRound (s : Block) (a b c d : Fin 16) : Block :=
  let x := s[a] + s[b]
  let w := rotateLeft (s[d] ^^^ x) 16
  let z := s[c] + w
  let y := rotateLeft (s[b] ^^^ z) 12
  let x := x + y
  let w := rotateLeft (w ^^^ x) 8
  let z := z + w
  let y := rotateLeft (y ^^^ z) 7
  (((s.set a x).set b y).set c z).set d w

/-- The four columns, then the four diagonals. -/
def doubleRound (s : Block) : Block :=
  [((0 : Fin 16), (4 : Fin 16), (8 : Fin 16), (12 : Fin 16)), (1, 5, 9, 13), (2, 6, 10, 14),
    (3, 7, 11, 15), (0, 5, 10, 15), (1, 6, 11, 12), (2, 7, 8, 13), (3, 4, 9, 14)].foldl
    (fun s (a, b, c, d) => quarterRound s a b c d) s

/-- Constants, key, a counter of two words with the low one first, and a nonce of zeros. -/
def initial (key : Key) (counter : UInt64) : Block :=
  (#v[0x61707865, 0x3320646e, 0x79622d32, 0x6b206574] : Vector Word 4) ++ key ++
    (#v[counter.toUInt32, (counter >>> 32).toUInt32, 0, 0] : Vector Word 4)

def block (key : Key) (counter : UInt64) : Block :=
  let start := initial key counter
  Vector.zipWith (· + ·) (Nat.repeat doubleRound 6 start) start

end ChaCha

structure Stream where
  key : Key
  counter : UInt64 := 0
  left : List Word := []

namespace Stream

def ofSeed (seed : UInt64) : Stream := { key := keyOfSeed seed }

def word (s : Stream) : Word × Stream :=
  match s.left with
  | w :: rest => (w, { s with left := rest })
  | [] =>
    let words := (ChaCha.block s.key s.counter).toList
    (words.headD 0, { s with counter := s.counter + 1, left := words.tail })

def doubleWord (s : Stream) : UInt64 × Stream :=
  let (low, s) := s.word
  let (high, s) := s.word
  (high.toUInt64 <<< 32 ||| low.toUInt64, s)

end Stream

end RotaryScan.Random
