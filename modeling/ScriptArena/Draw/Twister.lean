namespace ScriptArena.Draw

-- Words of the state, and the distance between two words that are mixed.
def wordCount : Nat := 624
def mixDistance : Nat := 397

-- The Mersenne twister with words of 32 bits.
structure Twister where
  words : Array UInt32
  used : Nat
deriving Repr, DecidableEq

namespace Twister

def wordAt (words : Array UInt32) (i : Nat) : UInt32 := words.getD i 0

def twisted (upper lower : UInt32) : UInt32 :=
  let y := (upper &&& 0x80000000) ||| (lower &&& 0x7fffffff)
  (y >>> 1) ^^^ (if y &&& 1 = 0 then 0 else 0x9908b0df)

def renewWord (words : Array UInt32) (i : Nat) : Array UInt32 :=
  let far := wordAt words ((i + mixDistance) % wordCount)
  words.setIfInBounds i
    (far ^^^ twisted (wordAt words i) (wordAt words ((i + 1) % wordCount)))

def renew (words : Array UInt32) : Array UInt32 := (List.range wordCount).foldl renewWord words

def temper (y : UInt32) : UInt32 :=
  let y := y ^^^ (y >>> 11)
  let y := y ^^^ ((y <<< 7) &&& 0x9d2c5680)
  let y := y ^^^ ((y <<< 15) &&& 0xefc60000)
  y ^^^ (y >>> 18)

def next (t : Twister) : UInt32 × Twister :=
  let t := if t.used < wordCount then t else ⟨renew t.words, 0⟩
  (temper (wordAt t.words t.used), { t with used := t.used + 1 })

def spread (w : UInt32) : UInt32 := w ^^^ (w >>> 30)

-- The words that follow from a first one.
def fill (first : UInt32) : Array UInt32 :=
  (List.range (wordCount - 1)).foldl (fun words i =>
    words.push (1812433253 * spread (wordAt words i) + UInt32.ofNat (i + 1))) #[first]

-- The place behind `i`; the first word then takes over the last one.
def advance (words : Array UInt32) (i : Nat) : Array UInt32 × Nat :=
  if i + 1 < wordCount then (words, i + 1)
  else (words.setIfInBounds 0 (wordAt words (wordCount - 1)), 1)

def mixKeyWord (key : Array UInt32) (at_ : Array UInt32 × Nat) (k : Nat) : Array UInt32 × Nat :=
  let (words, i) := at_
  let j := k % key.size
  let w := (wordAt words i ^^^ (spread (wordAt words (i - 1)) * 1664525)) + key.getD j 0 +
    UInt32.ofNat j
  advance (words.setIfInBounds i w) i

def mixWord (at_ : Array UInt32 × Nat) (_ : Nat) : Array UInt32 × Nat :=
  let (words, i) := at_
  let w := (wordAt words i ^^^ (spread (wordAt words (i - 1)) * 1566083941)) - UInt32.ofNat i
  advance (words.setIfInBounds i w) i

def ofKey (key : Array UInt32) : Twister :=
  let start := (fill 19650218, 1)
  let keyed := (List.range (max wordCount key.size)).foldl (mixKeyWord key) start
  let (words, _) := (List.range (wordCount - 1)).foldl mixWord keyed
  ⟨words.setIfInBounds 0 0x80000000, wordCount⟩

-- Words of a number, the least significant first; zero has one word.
def keyWords : Nat → Nat → List UInt32
  | 0, _ => []
  | fuel + 1, n =>
    UInt32.ofNat (n % 0x100000000) :: if n / 0x100000000 = 0 then [] else keyWords fuel (n / 0x100000000)

-- A seed and its negative are one seed.
def ofSeed (seed : Int) : Twister :=
  ofKey (keyWords (seed.natAbs.log2 / 32 + 1) seed.natAbs).toArray

-- A number of `k` bits: whole words, the least significant first, then the top bits of one more.
def bits : Nat → Twister → Nat × Twister
  | k, t =>
    let (w, t) := t.next
    if h : k ≤ 32 then (w.toNat >>> (32 - k), t)
    else
      let (n, t) := bits (k - 32) t
      (n * 0x100000000 + w.toNat, t)
termination_by k => k
decreasing_by omega

end Twister
end ScriptArena.Draw
