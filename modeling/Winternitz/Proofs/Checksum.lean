/-
Module: Winternitz.Proofs.Checksum
Purpose: The value of the checksum, computed in 32 bits.
Main exports: Bytes.total, missing, toNat_missingWord, checksum_single, checksum_pair
-/
import Winternitz.Checksum

namespace Winternitz

/-! ### Sums of bytes -/

/-- The sum of the bytes as numbers. -/
def Bytes.total (bytes : Bytes) : Nat := bytes.foldr (fun byte sum => byte.toNat + sum) 0

/-- How far the bytes of a digest are from 255, all together. -/
def missing (digest : Bytes) : Nat := 255 * digest.length - digest.total

namespace Bytes

@[simp] theorem total_nil : total [] = 0 := rfl

@[simp] theorem total_cons (byte : UInt8) (bytes : Bytes) :
    total (byte :: bytes) = byte.toNat + total bytes := rfl

theorem total_le (bytes : Bytes) : bytes.total ≤ 255 * bytes.length := by
  induction bytes with
  | nil => simp
  | cons byte bytes ih =>
      have small : byte.toNat < 256 := byte.toNat_lt
      rw [total_cons, List.length_cons]
      omega

/-- Adding up in 32 bits gives the sum modulo 2^32. -/
theorem toNat_foldl_add (bytes : Bytes) (start : UInt32) :
    (bytes.foldl (fun sum byte => sum + byte.toUInt32) start).toNat =
      (start.toNat + bytes.total) % 4294967296 := by
  induction bytes generalizing start with
  | nil => simp [Nat.mod_eq_of_lt start.toNat_lt]
  | cons byte bytes ih =>
      rw [List.foldl_cons, ih, total_cons, UInt32.toNat_add, UInt8.toNat_toUInt32]
      omega

end Bytes

/-! ### The value of the checksum -/

/-- The sum of the bytes as it is added up in 32 bits. -/
def Bytes.wordTotal (bytes : Bytes) : UInt32 := bytes.foldl (fun sum byte => sum + byte.toUInt32) 0

/-- The word whose lowest bytes are the checksum. -/
def missingWord (digest : Bytes) : UInt32 := 255 * digest.length.toUInt32 - digest.wordTotal

theorem checksum_eq_missingWord (digest : Bytes) :
    checksum digest =
      if digest.length = 1 then [(missingWord digest).toUInt8]
      else [(missingWord digest >>> 8).toUInt8, (missingWord digest).toUInt8] := rfl

/-- The longest digest whose distances from 255 can be added up in 32 bits. -/
def longestSummed : Nat := 16843009

/-- The word that the bytes of a digest are subtracted from. -/
def largestWord (digest : Bytes) : UInt32 := 255 * digest.length.toUInt32

theorem toNat_largestWord {digest : Bytes} (fits : digest.length ≤ longestSummed) :
    (largestWord digest).toNat = 255 * digest.length := by
  have factor : (255 : UInt32).toNat = 255 := rfl
  unfold longestSummed at fits
  rw [largestWord, UInt32.toNat_mul, Nat.toUInt32_eq, UInt32.toNat_ofNat', factor]
  omega

theorem Bytes.toNat_wordTotal {bytes : Bytes} (fits : bytes.length ≤ longestSummed) :
    bytes.wordTotal.toNat = bytes.total := by
  have bound : bytes.total ≤ 255 * bytes.length := bytes.total_le
  unfold longestSummed at fits
  rw [Bytes.wordTotal, Bytes.toNat_foldl_add, UInt32.toNat_zero, Nat.zero_add]
  exact Nat.mod_eq_of_lt (by omega)

/-- The words are subtracted as the numbers are. -/
theorem wordTotal_le_largestWord {digest : Bytes} (fits : digest.length ≤ longestSummed) :
    digest.wordTotal ≤ largestWord digest := by
  rw [UInt32.le_iff_toNat_le, Bytes.toNat_wordTotal fits, toNat_largestWord fits]
  exact digest.total_le

/-- Up to that length no step of the 32-bit computation leaves its range. -/
theorem toNat_missingWord {digest : Bytes} (fits : digest.length ≤ longestSummed) :
    (missingWord digest).toNat = missing digest := by
  change (largestWord digest - digest.wordTotal).toNat = missing digest
  rw [UInt32.toNat_sub_of_le _ _ (wordTotal_le_largestWord fits), toNat_largestWord fits,
    Bytes.toNat_wordTotal fits, missing]

/-- The checksum of a single byte is its distance from 255. -/
theorem checksum_single {digest : Bytes} (single : digest.length = 1) :
    checksum digest = [(missing digest).toUInt8] := by
  have value : (missingWord digest).toNat = missing digest :=
    toNat_missingWord (by rw [single]; decide)
  have byte : (missingWord digest).toUInt8 = (missing digest).toUInt8 := by
    apply UInt8.toNat_inj.1
    rw [UInt32.toNat_toUInt8, value, Nat.toUInt8_eq, UInt8.toNat_ofNat']
  rw [checksum_eq_missingWord, if_pos single, byte]

/-- Otherwise it is the sum of the distances in two bytes, the higher one first. -/
theorem checksum_pair {digest : Bytes} (several : digest.length ≠ 1)
    (fits : digest.length ≤ longestSummed) :
    checksum digest = [(missing digest / 256).toUInt8, (missing digest).toUInt8] := by
  have value : (missingWord digest).toNat = missing digest := toNat_missingWord fits
  have high : (missingWord digest >>> 8).toUInt8 = (missing digest / 256).toUInt8 := by
    apply UInt8.toNat_inj.1
    rw [UInt32.toNat_toUInt8, UInt32.toNat_shiftRight, value, Nat.toUInt8_eq, UInt8.toNat_ofNat']
    exact congrArg (· % 2 ^ 8) (Nat.shiftRight_eq_div_pow _ 8)
  have low : (missingWord digest).toUInt8 = (missing digest).toUInt8 := by
    apply UInt8.toNat_inj.1
    rw [UInt32.toNat_toUInt8, value, Nat.toUInt8_eq, UInt8.toNat_ofNat']
  rw [checksum_eq_missingWord, if_neg several, high, low]

end Winternitz
