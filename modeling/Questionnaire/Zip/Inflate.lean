import Questionnaire.Zip.PrefixCode

/-!
# Inflating

Packed data is a run of bits, in which the lowest bit of a byte comes first. It
is divided into blocks. A block holds bytes as they are, or symbols of a prefix
code: bytes, and repetitions of what came before, given by their length and the
distance back to it. The code is a fixed one, or the block begins with the
lengths that determine it, packed themselves.

## Main definitions

* `bitsOfBytes`: The run of bits of some bytes.
* `readNumber`: A number of some bits.
* `repeatBack`: Bytes with some of them repeated at their end.
* `readSymbols`: The bytes that symbols stand for.
* `inflate?`: The bytes that packed data stands for.
-/

namespace Questionnaire

namespace Zip

/-- The bits of some bytes, the lowest bit of each first. -/
def bitsOfBytes (bytes : List UInt8) : List Bool :=
  bytes.flatMap fun b => (List.range 8).map b.toNat.testBit

/-- The number whose bits are given, the lowest first. -/
def numberOfBits (bits : List Bool) : Nat :=
  bits.foldr (fun bit n => bit.toNat + 2 * n) 0

/-- A number of some bits, and the rest. -/
def readNumber (count : Nat) (bits : List Bool) : Option (Nat × List Bool) :=
  let taken := bits.take count
  if taken.length = count then some (numberOfBits taken, bits.drop count) else none

/-- Some bytes as they are, and the rest. -/
def readBytes : (count : Nat) → List Bool → Array UInt8 → Option (Array UInt8 × List Bool)
  | 0, bits, out => some (out, bits)
  | count + 1, bits, out => do
    let (b, bits) ← readNumber 8 bits
    readBytes count bits (out.push b.toUInt8)

/-- Bytes with `length` of them repeated at their end, from `distance` before it. -/
def repeatBack (distance : Nat) : (length : Nat) → Array UInt8 → Array UInt8
  | 0, out => out
  | length + 1, out => repeatBack distance length (out.push (out.getD (out.size - distance) 0))

/-- For each symbol of a length, the least length and the number of bits to add. -/
def lengthRanges : List (Nat × Nat) :=
  [(3, 0), (4, 0), (5, 0), (6, 0), (7, 0), (8, 0), (9, 0), (10, 0), (11, 1), (13, 1), (15, 1),
    (17, 1), (19, 2), (23, 2), (27, 2), (31, 2), (35, 3), (43, 3), (51, 3), (59, 3), (67, 4),
    (83, 4), (99, 4), (115, 4), (131, 5), (163, 5), (195, 5), (227, 5), (258, 0)]

/-- For each symbol of a distance, the least distance and the number of bits to add. -/
def distanceRanges : List (Nat × Nat) :=
  [(1, 0), (2, 0), (3, 0), (4, 0), (5, 1), (7, 1), (9, 2), (13, 2), (17, 3), (25, 3), (33, 4),
    (49, 4), (65, 5), (97, 5), (129, 6), (193, 6), (257, 7), (385, 7), (513, 8), (769, 8),
    (1025, 9), (1537, 9), (2049, 10), (3073, 10), (4097, 11), (6145, 11), (8193, 12), (12289, 12),
    (16385, 13), (24577, 13)]

/-- A number from the range of a symbol, and the rest. -/
def readInRange (ranges : List (Nat × Nat)) (symbol : Nat) (bits : List Bool) :
    Option (Nat × List Bool) := do
  let (least, count) ← ranges[symbol]?
  let (more, bits) ← readNumber count bits
  return (least + more, bits)

/-- The symbol that ends a block. -/
def endOfBlock : Nat :=
  256

/-- A repetition whose length has the given symbol: its length, its distance, and the
    rest. -/
def readRepetition (distances : PrefixCode) (symbol : Nat) (bits : List Bool) :
    Option (Nat × Nat × List Bool) := do
  let (length, bits) ← readInRange lengthRanges (symbol - endOfBlock - 1) bits
  let (symbol, bits) ← distances.read bits
  let (distance, bits) ← readInRange distanceRanges symbol bits
  return (length, distance, bits)

/-- The bytes that symbols stand for, after some bytes, and the rest. There are no
    more symbols than `fuel`. -/
def readSymbols (literals distances : PrefixCode) :
    (fuel : Nat) → List Bool → Array UInt8 → Option (Array UInt8 × List Bool)
  | 0, _, _ => none
  | fuel + 1, bits, out =>
    match literals.read bits with
    | none => none
    | some (symbol, bits) =>
      if symbol < endOfBlock then
        readSymbols literals distances fuel bits (out.push symbol.toUInt8)
      else if symbol = endOfBlock then some (out, bits)
      else
        match readRepetition distances symbol bits with
        | none => none
        | some (length, distance, bits) =>
          if distance ≤ out.size then
            readSymbols literals distances fuel bits (repeatBack distance length out)
          else none

/-- The fixed code of bytes and lengths. -/
def fixedLiterals : PrefixCode :=
  .ofLengths (List.replicate 144 8 ++ List.replicate 112 9 ++ List.replicate 24 7 ++
    List.replicate 8 8)

/-- The fixed code of distances. -/
def fixedDistances : PrefixCode :=
  .ofLengths (List.replicate 30 5)

/-- The order in which the lengths of the code of lengths are given. -/
def lengthOrder : List Nat :=
  [16, 17, 18, 0, 8, 7, 9, 6, 10, 5, 11, 4, 12, 3, 13, 2, 14, 1, 15]

/-- Some numbers of three bits, and the rest. -/
def readTriples : (count : Nat) → List Bool → Option (List Nat × List Bool)
  | 0, bits => some ([], bits)
  | count + 1, bits => do
    let (n, bits) ← readNumber 3 bits
    let (ns, bits) ← readTriples count bits
    return (n :: ns, bits)

/-- The lengths that symbols of the code of lengths stand for, until there are `count`
    of them, and the rest. `before` are those already there, the last one first. -/
def readLengths (code : PrefixCode) (count : Nat) :
    (fuel : Nat) → (before : List Nat) → List Bool → Option (List Nat × List Bool)
  | 0, _, _ => none
  | fuel + 1, before, bits =>
    if count ≤ before.length then
      if before.length = count then some (before.reverse, bits) else none
    else do
      let (symbol, bits) ← code.read bits
      match symbol with
      | 16 =>
        let last ← before.head?
        let (more, bits) ← readNumber 2 bits
        readLengths code count fuel (List.replicate (3 + more) last ++ before) bits
      | 17 =>
        let (more, bits) ← readNumber 3 bits
        readLengths code count fuel (List.replicate (3 + more) 0 ++ before) bits
      | 18 =>
        let (more, bits) ← readNumber 7 bits
        readLengths code count fuel (List.replicate (11 + more) 0 ++ before) bits
      | _ => readLengths code count fuel (symbol :: before) bits

/-- The codes at the beginning of a block, and the rest. -/
def readCodes (bits : List Bool) : Option (PrefixCode × PrefixCode × List Bool) := do
  let (literals, bits) ← readNumber 5 bits
  let (distances, bits) ← readNumber 5 bits
  let (count, bits) ← readNumber 4 bits
  let (triples, bits) ← readTriples (count + 4) bits
  let given := lengthOrder.zip triples
  let code := PrefixCode.ofLengths ((List.range 19).map fun s =>
    ((given.find? fun entry => entry.1 == s).map Prod.snd).getD 0)
  let total := literals + 257 + distances + 1
  let (lengths, bits) ← readLengths code total (total + 1) [] bits
  return (.ofLengths (lengths.take (literals + 257)), .ofLengths (lengths.drop (literals + 257)),
    bits)

/-- The bits from the next whole byte on, if the run ends with a whole byte. -/
def fromWholeByte (bits : List Bool) : List Bool :=
  bits.drop (bits.length % 8)

/-- The bytes of a block that holds them as they are, and the rest. -/
def readStored (bits : List Bool) (out : Array UInt8) : Option (Array UInt8 × List Bool) := do
  let (length, bits) ← readNumber 16 (fromWholeByte bits)
  let (complement, bits) ← readNumber 16 bits
  if length + complement = 0xffff then readBytes length bits out else none

/-- The bytes of a block of a kind after some bytes, and the rest. -/
def readBlock (kind : Nat) (bits : List Bool) (out : Array UInt8) :
    Option (Array UInt8 × List Bool) :=
  match kind with
  | 0 => readStored bits out
  | 1 => readSymbols fixedLiterals fixedDistances (bits.length + 1) bits out
  | 2 => do
    let (literals, distances, bits) ← readCodes bits
    readSymbols literals distances (bits.length + 1) bits out
  | _ => none

/-- The bytes of some blocks after some bytes. There are no more blocks than `fuel`. -/
def readBlocks : (fuel : Nat) → List Bool → Array UInt8 → Option (Array UInt8)
  | 0, _, _ => none
  | fuel + 1, bits, out => do
    let (last, bits) ← readNumber 1 bits
    let (kind, bits) ← readNumber 2 bits
    let (out, bits) ← readBlock kind bits out
    if last = 1 then return out else readBlocks fuel bits out

/-- The bytes that packed data stands for. -/
def inflate? (packed : List UInt8) : Option (List UInt8) :=
  let bits := bitsOfBytes packed
  (readBlocks (bits.length + 1) bits #[]).map Array.toList

end Zip

end Questionnaire
