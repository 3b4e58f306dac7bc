/-
Module: Winternitz.Key.Text
Purpose: What an inspected key shows.
Main exports: Key.outline, Key.debugText, Key.prettyText
-/
import Winternitz.Key.Basic

namespace Winternitz.Key

def outlineOfBytes (bytes : Bytes) : Outline :=
  .sequence (bytes.map fun byte => .number byte.toNat)

/-- A key as an inspected value.  Of what the secret seed determines it shows the
public key alone, and that only once it is cached. -/
def outline (key : Key) : Outline :=
  .record "Key"
    [("params", key.params.outline), ("public_seed", outlineOfBytes key.publicSeed),
     ("generated", .flag key.isGenerated), ("pk", .optional (key.publicKey.map outlineOfBytes))]
    true

def debugText (key : Key) : String := key.outline.oneLine

def prettyText (key : Key) : String := key.outline.spread

end Winternitz.Key
