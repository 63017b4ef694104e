import Vigil.Random.ChaCha

/-!
Sources of random draws. A draw is a number of 53 bits; divided by 2 ^ 53 it is uniform between
0, which it may be, and 1, which it is not.
-/

namespace Vigil

/-- The number of different draws. -/
def drawLimit : Nat := 9007199254740992

abbrev Draw := Fin drawLimit

/-- A stream of draws. -/
class DrawSource (γ : Type) where
  next : γ → Draw × γ

/-- Draws from the blocks of a stream cipher. `ready` holds the rest of the current block. -/
structure CipherDraws where
  key : Vector UInt32 8
  number : UInt64
  ready : List UInt64

namespace CipherDraws

/-- Stretch a seed to key words: a linear congruential generator whose output is permuted. -/
def keyWords : Nat → UInt64 → List UInt32
  | 0, _ => []
  | count + 1, state =>
    let state := state * 6364136223846793005 + 11634580027462260723
    let x := (((state >>> 18) ^^^ state) >>> 27).toUInt32
    let turn := (state >>> 59).toUInt32
    let word := (x >>> turn) ||| (x <<< ((32 - turn) &&& 31))
    word :: keyWords count state

def ofSeed (seed : UInt64) : CipherDraws :=
  let words := keyWords 8 seed
  ⟨Vector.ofFn fun i => words.getD i 0, 0, []⟩

/-- Join the words of a block in pairs, the low word first. -/
def pairs : List UInt32 → List UInt64
  | low :: high :: rest => (low.toUInt64 ||| (high.toUInt64 <<< 32)) :: pairs rest
  | _ => []

/-- The upper 53 bits. -/
def drawOf (x : UInt64) : Draw :=
  ⟨(x >>> 11).toNat % drawLimit, Nat.mod_lt _ (by decide)⟩

def next (c : CipherDraws) : Draw × CipherDraws :=
  match c.ready with
  | x :: rest => (drawOf x, { c with ready := rest })
  | [] =>
    match pairs (ChaCha.block c.key c.number).toList with
    | x :: rest => (drawOf x, ⟨c.key, c.number + 1, rest⟩)
    | [] => (⟨0, by decide⟩, c)

instance : DrawSource CipherDraws := ⟨next⟩

end CipherDraws

end Vigil
