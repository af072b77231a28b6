import SelectiveDisclosure.Hash.Algorithm
import SelectiveDisclosure.Statement

namespace SelectiveDisclosure

structure Protocol where
  hashAlgorithm : HashAlgorithm
  decomposition : Decomposition
  signingTimeout : UInt64
  resolveTimeout : UInt64
deriving DecidableEq

namespace Protocol

def standard : Protocol := ⟨.sha256, .topLevel, 10000, 10000⟩

instance : Inhabited Protocol := ⟨standard⟩

def hasher (p : Protocol) : Hasher := p.hashAlgorithm.hasher

end Protocol

end SelectiveDisclosure
