/-!
# Seeded draws

A source of coin flips that is determined by its seed: a twisted generalised
feedback shift register of 624 words of 32 bits, set up from the digits of the
seed in base `2 ^ 32`.  The sign of a seed does not count.

A flip takes two words, as a number of 53 bits would; only the highest bit of the
first one decides.
-/

namespace Collate

/-- A source of pseudorandom words. -/
structure Twister where
  words : Array UInt32
  /-- The words of the current generation that have been used. -/
  used : Nat

namespace Twister

/-- The number of words of a generation. -/
def size : Nat := 624

/-- A word of a generation. -/
def word (words : Array UInt32) (i : Nat) : UInt32 := words.getD i 0

/-! ## Setting up -/

/-- The words grown from a single one. -/
def grown (seed : UInt32) : Array UInt32 :=
  (List.range (size - 1)).foldl
    (fun (words : Array UInt32) (i : Nat) =>
      let last := word words i
      words.push ((1812433253 : UInt32) * (last ^^^ (last >>> 30)) + UInt32.ofNat (i + 1)))
    #[seed]

/-- The digits of a number in base `2 ^ 32`, lowest first; zero has one digit. -/
def digits (n : Nat) : List UInt32 :=
  if _h : n < UInt32.size then [UInt32.ofNat n]
  else UInt32.ofNat n :: digits (n / UInt32.size)
termination_by n
decreasing_by simp only [UInt32.size] at *; omega

/-- A position in the words while they are stirred. -/
structure Stirring where
  words : Array UInt32
  position : Nat

/-- Replaces the word at the position by `f` of itself and the mixed word before it,
and moves on; the last word also takes the place of the first. -/
def Stirring.step (factor : UInt32) (f : UInt32 → UInt32) (s : Stirring) : Stirring :=
  let last := word s.words (s.position - 1)
  let mixed := word s.words s.position ^^^ ((last ^^^ (last >>> 30)) * factor)
  let words := s.words.setIfInBounds s.position (f mixed)
  if s.position + 1 < size then ⟨words, s.position + 1⟩
  else ⟨words.setIfInBounds 0 (word words (size - 1)), 1⟩

/-- The source with this seed. -/
def ofSeed (seed : Int) : Twister :=
  let key := (digits seed.natAbs).toArray
  let stirred :=
    (List.range (max size key.size)).foldl
      (fun (s : Stirring) (i : Nat) =>
        let j := i % key.size
        s.step 1664525 fun w => w + word key j + UInt32.ofNat j)
      ⟨grown 19650218, 1⟩
  let settled :=
    (List.range (size - 1)).foldl
      (fun (s : Stirring) (_ : Nat) =>
        let i := s.position
        s.step 1566083941 fun w => w - UInt32.ofNat i)
      stirred
  ⟨settled.words.setIfInBounds 0 0x80000000, size⟩

/-! ## Drawing -/

/-- The highest bit of one word joined with the other bits of another, twisted. -/
def twist (high low : UInt32) : UInt32 :=
  let joined := (high &&& 0x80000000) ||| (low &&& 0x7fffffff)
  (joined >>> 1) ^^^ (if joined &&& 1 = 0 then 0 else 0x9908b0df)

/-- The next generation of words. -/
def renewed (words : Array UInt32) : Array UInt32 :=
  (List.range size).foldl
    (fun words i =>
      words.setIfInBounds i
        (word words ((i + 397) % size) ^^^
          twist (word words i) (word words ((i + 1) % size))))
    words

/-- A word as it is given out. -/
def tempered (w : UInt32) : UInt32 :=
  let w := w ^^^ (w >>> 11)
  let w := w ^^^ ((w <<< 7) &&& 0x9d2c5680)
  let w := w ^^^ ((w <<< 15) &&& 0xefc60000)
  w ^^^ (w >>> 18)

/-- The next word. -/
def next (t : Twister) : UInt32 × Twister :=
  let t := if t.used < size then t else ⟨renewed t.words, 0⟩
  (tempered (word t.words t.used), { t with used := t.used + 1 })

/-- Whether the next number of the unit interval is below one half. -/
def flip (t : Twister) : Bool × Twister :=
  let (high, t) := t.next
  let (_, t) := t.next
  (high < 0x80000000, t)

/-- The first flips of a source. -/
def flips : Nat → Twister → List Bool
  | 0, _ => []
  | n + 1, t => t.flip.1 :: flips n t.flip.2

end Twister

end Collate
