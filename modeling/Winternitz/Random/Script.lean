/-
Module: Winternitz.Random.Script
Purpose: A source that answers every read as it was told beforehand.
Main exports: ScriptedRead, Script
-/
import Winternitz.Random.Source

namespace Winternitz

inductive ScriptedRead where
  | failure (reason : String)
  /-- The bytes are written as far as they fit.  Without a claimed count the true one is reported. -/
  | written (bytes : Bytes) (claimed : Option Nat)

/-- A source with prepared answers, the next one first.  When none is left, a
read writes nothing and says so. -/
structure Script where
  answers : List ScriptedRead

instance : ByteSource Script where
  read script length :=
    match script.answers with
    | [] => (.ok ⟨padTo length [], 0, length_padTo ..⟩, script)
    | .failure reason :: rest => (.error ⟨reason⟩, ⟨rest⟩)
    | .written bytes claimed :: rest =>
        (.ok ⟨padTo length bytes, claimed.getD (min bytes.length length), length_padTo ..⟩, ⟨rest⟩)

end Winternitz
