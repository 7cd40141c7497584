/-!
# Prefix Codes

A prefix code gives each symbol a run of bits such that no run begins another, so
the symbols of a long run of bits can be told apart. It is kept as a tree whose
branches are followed bit by bit.

The lengths of the runs determine the code: shorter runs come before longer ones,
and runs of one length are given to the symbols in order, as numbers that follow
one another. A symbol of length zero has no run.

## Main definitions

* `PrefixCode`: The tree of a code.
* `PrefixCode.ofLengths`: The code of some lengths.
* `PrefixCode.read`: The first symbol of a run of bits, and the rest.
-/

namespace Questionnaire

namespace Zip

/-- The tree of a prefix code. -/
inductive PrefixCode
  /-- No run of bits leads here. -/
  | unused
  | symbol (s : Nat)
  | branch (zero one : PrefixCode)
deriving DecidableEq, Repr

namespace PrefixCode

/-- The code with a run of bits for one more symbol. -/
def insert (s : Nat) : List Bool → PrefixCode → PrefixCode
  | [], _ => symbol s
  | false :: bits, branch zero one => branch (insert s bits zero) one
  | true :: bits, branch zero one => branch zero (insert s bits one)
  | false :: bits, _ => branch (insert s bits unused) unused
  | true :: bits, _ => branch unused (insert s bits unused)

/-- The lowest bits of a number, the highest one first. -/
def bitsOf (length n : Nat) : List Bool :=
  (List.range length).reverse.map n.testBit

/-- The code with runs for some symbols, all of one length, the first of them being
    the number `next`. -/
def insertAll (length : Nat) : (next : Nat) → List Nat → PrefixCode → PrefixCode
  | _, [], code => code
  | next, s :: rest, code => insertAll length (next + 1) rest (code.insert s (bitsOf length next))

/-- The symbols whose runs have a length. -/
def symbolsOf (lengths : List Nat) (length : Nat) : List Nat :=
  (List.range lengths.length).filter fun s => lengths[s]? == some length

/-- The code of some lengths, from the runs of length `length` on, of which there are
    `count` to be looked at. -/
def ofLengthsFrom (lengths : List Nat) :
    (count : Nat) → (length next : Nat) → PrefixCode → PrefixCode
  | 0, _, _, code => code
  | count + 1, length, next, code =>
    let symbols := symbolsOf lengths length
    ofLengthsFrom lengths count (length + 1) (2 * (next + symbols.length))
      (insertAll length next symbols code)

/-- The code of some lengths, none of which is above fifteen. -/
def ofLengths (lengths : List Nat) : PrefixCode :=
  ofLengthsFrom lengths 15 1 0 unused

/-- The first symbol of a run of bits, and the rest. -/
def read : PrefixCode → List Bool → Option (Nat × List Bool)
  | symbol s, bits => some (s, bits)
  | branch zero _, false :: bits => zero.read bits
  | branch _ one, true :: bits => one.read bits
  | _, _ => none

end PrefixCode

end Zip

end Questionnaire
