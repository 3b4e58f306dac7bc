import Winternitz.Main
import Winternitz.Key.Shared
import Winternitz.Key.Text
import Winternitz.Key.Positions
import Winternitz.Random.DigestStream
import Winternitz.Random.Generator
import Winternitz.Signature.OutputBuffer
import Winternitz.Proofs.Derivation
import Winternitz.Proofs.Pieces
import Winternitz.Proofs.Checksum
import Winternitz.Proofs.Incomparability
import Winternitz.Proofs.Digits
import Winternitz.Proofs.Table
import Winternitz.Proofs.Traversal
import Winternitz.Proofs.Compression
import Winternitz.Proofs.Material
import Winternitz.Key.History
import Winternitz.Proofs.History
import Winternitz.Proofs.Decode
import Winternitz.Proofs.Signing
import Winternitz.Proofs.RoundTrip
import Winternitz.Proofs.Forgery
import Winternitz.Proofs.LadderWalks
import Winternitz.Proofs.Caches
import Winternitz.Proofs.SharedKey
import Winternitz.Proofs.Dispatch
import Winternitz.Proofs.Wire
import Winternitz.Proofs.SharedRuns
import Winternitz.Hash.Steps
import Winternitz.Proofs.HasherRuns
import Winternitz.Proofs.Acceptance
import Winternitz.Proofs.Binding
import Winternitz.Proofs.Bounds
import Winternitz.Proofs.Validation
import Winternitz.Proofs.Seeding
import Winternitz.Proofs.Generators
import Winternitz.Proofs.OutputBuffer
import Winternitz.Proofs.SelfTest
import Winternitz.Proofs.UsedHasher
import Winternitz.Proofs.Parity
import Winternitz.Proofs.Separation
import Winternitz.Proofs.DigestStream
import Winternitz.Proofs.Inspection
import Winternitz.Proofs.Rejections
import Winternitz.Proofs.ChecksumValue
import Winternitz.Proofs.Layout
