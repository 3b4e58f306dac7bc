/-
Module: Winternitz.Main
Purpose: The self-test as a command.
Main exports: main
-/
import Winternitz.Demo
import Winternitz.Random.Script

namespace Winternitz

/-- The bytes of the system's generator for the two seeds of a key, or its failure. -/
def systemSeeds : IO Script := do
  try
    let secretSeed ← IO.getRandomBytes 32
    let publicSeed ← IO.getRandomBytes 32
    return ⟨[.written secretSeed.toList none, .written publicSeed.toList none]⟩
  catch error =>
    return ⟨[.failure (toString error)]⟩

/-- The log that the environment asks for. -/
def systemLog : IO Demo.Log := do
  return .ofSetting (← IO.getEnv "LOG")

end Winternitz

/-- Runs the self-test with seeds and a log from the system. -/
def main (arguments : List String) : IO UInt32 := do
  let result := Winternitz.Demo.runWith (← Winternitz.systemLog) arguments (← Winternitz.systemSeeds)
  IO.print result.output
  return result.exitCode
