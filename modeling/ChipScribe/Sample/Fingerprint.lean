/-!
Fingerprints of recorded samples: the 64-bit FNV-1a hash of their bytes.
-/

namespace ChipScribe

abbrev Fingerprint := UInt64

namespace Fingerprint

def offsetBasis : Fingerprint := 0xcbf29ce484222325

def prime : UInt64 := 0x00000100000001b3

def step (h : Fingerprint) (byte : UInt8) : Fingerprint :=
  (h ^^^ byte.toUInt64) * prime

def ofBytes (bytes : List UInt8) : Fingerprint :=
  bytes.foldl step offsetBasis

@[simp] theorem ofBytes_nil : ofBytes [] = offsetBasis := rfl

end Fingerprint

end ChipScribe
