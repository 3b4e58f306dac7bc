/-
Module: Winternitz.Ladder.Compression
Purpose: From the ends of all ladders to the public key.
Main exports: PublicKey, tweak, compressionInput, publicKeyOf, compress
-/
import Winternitz.Hash.Hasher
import Winternitz.Parity
import Winternitz.Params

namespace Winternitz

/-- A public key: the 32 bytes of a digest. -/
abbrev PublicKey := Bytes

/-- The digest of the ladder ends with an odd number of bits set. -/
def tweak (ends : List Bytes) : Bytes :=
  publicKeyHash.digest (ends.filter oddParity).flatten

/-- What is hashed into a public key. -/
def compressionInput (publicSeed : Bytes) (ends : List Bytes) : Bytes :=
  publicSeed ++ tweak ends ++ ends.flatten

/-- The public key with these ladder ends. -/
def publicKeyOf (publicSeed : Bytes) (ends : List Bytes) : PublicKey :=
  publicKeyHash.digest (compressionInput publicSeed ends)

/-- The public key, computed from the ends in one byte string with one hasher
for both digests. -/
def compress (publicSeed ends : Bytes) (elementSize : Nat) : Except Fault PublicKey := do
  let values ← Bytes.split elementSize ends
  Hashing.result publicKeyHash do
    (values.filter oddParity).forM Hashing.update
    let tweak ← Hashing.finalize publicKeySize
    Hashing.update publicSeed
    Hashing.update tweak
    Hashing.update ends
    Hashing.finalize publicKeySize

end Winternitz
