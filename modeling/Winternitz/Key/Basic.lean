/-
Module: Winternitz.Key.Basic
Purpose: One-time keys and their two caches.
Main exports: Key, Key.fromSeeds, Key.fromSource, Key.computePublicKey, Key.generate, Key.sign
-/
import Winternitz.Key.Material
import Winternitz.Random.Source
import Winternitz.Report

namespace Winternitz

/-!
A key is its seeds and two caches, each of which is filled once: the public key
and the positions of all ladders.  The caches save work and never change what a
key answers.
-/

/-- A one-time key. -/
structure Key where
  material : KeyMaterial
  positions : Option material.params.Positions
  publicKey : Option PublicKey

namespace Key

/-! ### Making a key -/

def ofMaterial (material : KeyMaterial) : Key := ⟨material, none, none⟩

/-- A seed that must have the size of a seed. -/
def seedOfBytes (role : SeedRole) (bytes : Bytes) : Except Error Seed :=
  if length_eq : bytes.length = seedSize then .ok ⟨bytes, length_eq⟩
  else .error (.invalidSeedLength role bytes.length)

/-- A key with given seeds.  The secret seed is checked first. -/
def fromSeeds (params : Params) (secretSeed publicSeed : Bytes) : Except Error Key := do
  let secretSeed ← seedOfBytes .secretSeed secretSeed
  let publicSeed ← seedOfBytes .publicSeed publicSeed
  return ofMaterial ⟨params, secretSeed, publicSeed⟩

variable {Source : Type} [ByteSource Source]

/-- A seed from one read.  The source must claim exactly the size of a seed. -/
def readSeed (role : SeedRole) (source : Source) : Except Error Seed × Source :=
  match ByteSource.read source seedSize with
  | (.error cause, after) => (.error (.entropy cause), after)
  | (.ok reading, after) =>
      if reading.count = seedSize then (.ok ⟨reading.bytes, reading.length_eq⟩, after)
      else (.error (.shortRead role reading.count), after)

/-- A key with seeds from a source: first the secret one, and only if that
succeeds the public one. -/
def fromSource (params : Params) (source : Source) : Except Error Key × Source :=
  match readSeed .secretSeed source with
  | (.error error, after) => (.error error, after)
  | (.ok secretSeed, after) =>
      match readSeed .publicSeed after with
      | (.error error, after) => (.error error, after)
      | (.ok publicSeed, after) => (.ok (ofMaterial ⟨params, secretSeed, publicSeed⟩), after)

/-! ### Using a key -/

def params (key : Key) : Params := key.material.params

def publicSeed (key : Key) : Bytes := key.material.publicSeed.bytes

def isGenerated (key : Key) : Bool := key.positions.isSome

/-- The public key, computed at most once. -/
def computePublicKey (key : Key) : Report (PublicKey × Key) :=
  match key.publicKey with
  | some publicKey => do
      Report.emit .publicKeyCached
      return (publicKey, key)
  | none => do
      let publicKey ← Report.ofFault key.material.derivePublicKey
      return (publicKey, { key with publicKey := some publicKey })

/-- Computes and keeps all positions of the ladders, at most once, so that
signing becomes a matter of looking up.  The public key is kept as well. -/
def generate (key : Key) : Report Key :=
  match key.positions with
  | some _ => return key
  | none => do
      Report.emit (.generatingLadders key.params)
      let (positions, publicKey) ← Report.ofFault key.material.record
      return { key with
        positions := some positions
        publicKey := some (key.publicKey.getD publicKey) }

/-- The signature of a message.  It never fills a cache. -/
def sign (key : Key) (message : Bytes) : Except Fault Bytes :=
  match key.positions with
  | some positions => key.material.signByTable positions message
  | none => key.material.signByWalking message

end Key

end Winternitz
