/-
Module: Winternitz.Proofs.ChecksumValue
Purpose: The checksum as one number, and the lengths up to which nothing of it is lost.
Main exports: Bytes.bigEndian, WordsFit, wordsFit, bigEndian_checksum_mod, bigEndian_checksum,
  missing_set, checksum_value
-/
import Winternitz.Proofs.Checksum

namespace Winternitz

/-!
Two lengths bound the checksum.  Up to 257 bytes the sum of the distances fits into
two bytes, so that raising a digit lowers the checksum by as much; up to 16843009
bytes it fits into the 32 bits that it is computed in.  Both bounds are exact: 257
times 255 is the largest number of two bytes, and 16843009 times 255 that of four.
-/

/-! ### Bytes as a number -/

/-- The number that these bytes are the digits of, the first one the highest. -/
def Bytes.bigEndian (bytes : Bytes) : Nat :=
  bytes.foldl (fun value byte => 256 * value + byte.toNat) 0

namespace Bytes

@[simp] theorem bigEndian_single (byte : UInt8) : bigEndian [byte] = byte.toNat := by
  simp [bigEndian]

@[simp] theorem bigEndian_pair (high low : UInt8) :
    bigEndian [high, low] = 256 * high.toNat + low.toNat := by
  simp [bigEndian]

/-- Another byte in the place of one changes the sum by the difference of the two. -/
theorem total_set {bytes : Bytes} {position : Nat} {byte : UInt8}
    (found : bytes[position]? = some byte) (other : UInt8) :
    total (bytes.set position other) + byte.toNat = bytes.total + other.toNat := by
  induction bytes generalizing position with
  | nil => cases found
  | cons first bytes ih =>
      cases position with
      | zero =>
          cases found
          rw [List.set_cons_zero, total_cons, total_cons]
          omega
      | succ position =>
          have rest : total (bytes.set position other) + byte.toNat = total bytes + other.toNat :=
            ih found
          rw [List.set_cons_succ, total_cons, total_cons]
          omega

@[simp] theorem total_replicate_zero (length : Nat) : total (List.replicate length 0) = 0 := by
  induction length with
  | zero => rfl
  | succ length ih => simp [List.replicate_succ, ih]

end Bytes

/-! ### The steps in 32 bits -/

/-- Every word on the way to a checksum is the number that it stands for. -/
structure WordsFit (digest : Bytes) : Prop where
  length : digest.length.toUInt32.toNat = digest.length
  largest : (255 * digest.length.toUInt32).toNat = 255 * digest.length
  /-- After each byte the sum so far is exact. -/
  sums : ∀ count, (Bytes.wordTotal (digest.take count)).toNat = Bytes.total (digest.take count)
  /-- Nothing is borrowed when the whole sum is subtracted. -/
  difference : digest.wordTotal ≤ 255 * digest.length.toUInt32

theorem wordsFit {digest : Bytes} (fits : digest.length ≤ longestSummed) : WordsFit digest where
  length := by
    unfold longestSummed at fits
    rw [Nat.toUInt32_eq, UInt32.toNat_ofNat']
    exact Nat.mod_eq_of_lt (by omega)
  largest := toNat_largestWord fits
  sums count := by
    apply Bytes.toNat_wordTotal
    rw [List.length_take]
    omega
  difference := wordTotal_le_largestWord fits

/-- In more bytes than that there may be too much for 32 bits. -/
theorem WordsFit.length_le {digest : Bytes} (words : WordsFit digest) :
    digest.length ≤ longestSummed := by
  have range : (255 * digest.length.toUInt32).toNat < 4294967296 := UInt32.toNat_lt _
  rw [words.largest] at range
  unfold longestSummed
  omega

/-! ### The value of the checksum -/

/-- The two bytes keep the sum of the distances modulo 2^16. -/
theorem bigEndian_checksum_mod {digest : Bytes} (several : digest.length ≠ 1)
    (fits : digest.length ≤ longestSummed) :
    (checksum digest).bigEndian = missing digest % 65536 := by
  rw [checksum_pair several fits, Bytes.bigEndian_pair, Nat.toUInt8_eq, Nat.toUInt8_eq,
    UInt8.toNat_ofNat', UInt8.toNat_ofNat']
  omega

/-- One byte is its distance from 255. -/
theorem checksum_byte (byte : UInt8) : checksum [byte] = [255 - byte] := by
  have small : byte.toNat < 256 := byte.toNat_lt
  have below : byte ≤ 255 := by
    rw [UInt8.le_iff_toNat_le]
    exact Nat.le_of_lt_succ small
  have distance : (missing [byte]).toUInt8 = 255 - byte := by
    apply UInt8.toNat_inj.1
    rw [UInt8.toNat_sub_of_le _ _ below, Nat.toUInt8_eq, UInt8.toNat_ofNat', missing,
      Bytes.total_cons, Bytes.total_nil]
    exact Nat.mod_eq_of_lt (by simp; omega)
  rw [checksum_single rfl, distance]

/-- Up to 257 bytes nothing of the sum is lost. -/
theorem bigEndian_checksum {digest : Bytes} (short : digest.length ≤ 257) :
    (checksum digest).bigEndian = missing digest := by
  have bound : missing digest ≤ 255 * digest.length := Nat.sub_le ..
  by_cases single : digest.length = 1
  · rw [checksum_single single, Bytes.bigEndian_single, Nat.toUInt8_eq, UInt8.toNat_ofNat']
    exact Nat.mod_eq_of_lt (by omega)
  · rw [bigEndian_checksum_mod single (Nat.le_trans short (by decide))]
    exact Nat.mod_eq_of_lt (by omega)

/-- A raised byte is nearer to 255 by as much. -/
theorem missing_set {digest : Bytes} {position raise : Nat} {byte higher : UInt8}
    (found : digest[position]? = some byte) (raised : higher.toNat = byte.toNat + raise) :
    missing (digest.set position higher) + raise = missing digest := by
  have total := Bytes.total_set found higher
  have bound := Bytes.total_le (digest.set position higher)
  rw [List.length_set] at bound
  rw [missing, missing, List.length_set]
  omega

/-- Beyond 257 bytes something is lost, at the latest when all bytes are zero. -/
theorem bigEndian_checksum_zeros {length : Nat} (long : 257 < length)
    (fits : length ≤ longestSummed) :
    (checksum (List.replicate length 0)).bigEndian < missing (List.replicate length 0) := by
  have size : (List.replicate length (0 : UInt8)).length = length := List.length_replicate
  rw [bigEndian_checksum_mod (by omega) (by rwa [size]), missing, Bytes.total_replicate_zero, size]
  omega

/-- All of the sum is in the checksum. -/
def ChecksumExact (digest : Bytes) : Prop :=
  (checksum digest).bigEndian + digest.total = 255 * digest.length

theorem checksumExact_iff {digest : Bytes} :
    ChecksumExact digest ↔ (checksum digest).bigEndian = missing digest := by
  have bound := digest.total_le
  rw [ChecksumExact, missing]
  omega

/-- The two bytes are enough for all digests of a length exactly if the length is at most 257. -/
theorem checksumExact_all_iff {length : Nat} (fits : length ≤ longestSummed) :
    (∀ digest : Bytes, digest.length = length → ChecksumExact digest) ↔ length ≤ 257 := by
  constructor
  · intro always
    apply Nat.le_of_not_lt
    intro long
    -- No digest of this length is farther from the largest one than that of zeros.
    have zeros := checksumExact_iff.1 (always (List.replicate length 0) List.length_replicate)
    exact absurd zeros (Nat.ne_of_lt (bigEndian_checksum_zeros long fits))
  · rintro short digest rfl
    exact checksumExact_iff.2 (bigEndian_checksum short)

/-- The checksum of a digest as a number.  Every step of its computation stays within 32 bits exactly
if the digest has at most 16843009 bytes.  Then the checksum of a single byte is its distance from
255, and every other one is the sum of all distances modulo 2^16, which cuts nothing off any digest
of a length exactly if that is at most 257.  Up to there raising a byte of the digest lowers the
checksum by as much. -/
theorem checksum_value (digest : Bytes) :
    (WordsFit digest ↔ digest.length ≤ 16843009) ∧
    (∀ byte, digest = [byte] → checksum digest = [255 - byte]) ∧
    (digest.length ≠ 1 → digest.length ≤ 16843009 → (checksum digest).length = 2 ∧
      (checksum digest).bigEndian = (255 * digest.length - digest.total) % 65536) ∧
    (digest.length ≤ 16843009 →
      ((∀ other : Bytes, other.length = digest.length → ChecksumExact other) ↔
        digest.length ≤ 257)) ∧
    (digest.length ≤ 257 → ∀ position byte higher raise, digest[position]? = some byte →
      higher.toNat = byte.toNat + raise →
      (checksum (digest.set position higher)).bigEndian + raise = (checksum digest).bigEndian) := by
  refine ⟨⟨WordsFit.length_le, wordsFit⟩, ?_, ?_, checksumExact_all_iff, ?_⟩
  · rintro byte rfl
    exact checksum_byte byte
  · intro several fits
    refine ⟨?_, bigEndian_checksum_mod several fits⟩
    rw [length_checksum, if_neg several]
  · intro short position byte higher raise found raised
    have shortToo : (digest.set position higher).length ≤ 257 := by
      rwa [List.length_set]
    rw [bigEndian_checksum shortToo, bigEndian_checksum short]
    exact missing_set found raised

end Winternitz
