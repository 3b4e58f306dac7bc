/-
Module: Winternitz.Key.History
Purpose: A key used by one caller, call after call.
Main exports: Call, Reply, Key.answer, Key.reply, Key.serve, Key.after
-/
import Winternitz.Key.Shared
import Winternitz.Key.Text

namespace Winternitz

/-- What a caller can do with a key. -/
inductive Call where
  /-- What a thread may ask as well. -/
  | request (request : Request)
  | publicSeed
  | params
  /-- Inspects the key, on one line or spread over several. -/
  | inspect (spread : Bool)
deriving DecidableEq, Repr

inductive Reply where
  | answer (answer : Answer)
  | seed (bytes : Bytes)
  | params (params : Params)
  | text (text : String)
deriving DecidableEq

namespace Key

/-- The answer to a request, and the key afterwards. -/
def answer (key : Key) : Request → Report (Answer × Key)
  | .computePublicKey => do
      let (publicKey, key) ← key.computePublicKey
      return (.computed publicKey, key)
  | .generate => do
      let key ← key.generate
      return (.generated, key)
  | .sign message => do
      let signature ← Report.ofFault (key.sign message)
      return (.signed signature, key)
  | .publicKey => return (.cached key.publicKey, key)
  | .isGenerated => return (.whetherGenerated key.isGenerated, key)

def reply (key : Key) : Call → Report (Reply × Key)
  | .request request => do
      let (answer, key) ← key.answer request
      return (.answer answer, key)
  | .publicSeed => return (.seed key.publicSeed, key)
  | .params => return (.params key.params, key)
  | .inspect spread => return (.text (if spread then key.prettyText else key.debugText), key)

/-- The replies to calls made one after the other, and the key after all of them. -/
def serve (key : Key) : List Call → Report (List Reply × Key)
  | [] => return ([], key)
  | call :: calls => do
      let (reply, key) ← key.reply call
      let (replies, key) ← key.serve calls
      return (reply :: replies, key)

/-- The key after calls made one after the other. -/
def after (key : Key) (calls : List Call) : Except Failure Key :=
  (key.serve calls).outcome.map (·.2)

end Key

end Winternitz
