/-
Module: Winternitz.Checksum
Purpose: The checksum that is signed together with a digest.
Main exports: checksum
-/
import Winternitz.Bytes

namespace Winternitz

/-!
The checksum counts how far the digits of a digest are from their largest
value.  Whoever raises a digit of the digest lowers the checksum, and lowering
a digit of a signed message needs a step back on a ladder.
-/

/-- The sum of the distances of all bytes from 255, highest byte first.  One
byte holds it for a digest of a single byte; otherwise two bytes are kept. -/
def checksum (digest : Bytes) : Bytes :=
  let largest : UInt32 := 255 * digest.length.toUInt32
  let missing := largest - digest.foldl (fun sum byte => sum + byte.toUInt32) 0
  if digest.length = 1 then [missing.toUInt8] else [(missing >>> 8).toUInt8, missing.toUInt8]

/-- The number of bytes of the checksum depends on the digest's length alone. -/
theorem length_checksum (digest : Bytes) :
    (checksum digest).length = if digest.length = 1 then 1 else 2 := by
  unfold checksum
  split <;> rfl

end Winternitz
