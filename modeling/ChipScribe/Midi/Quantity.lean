/-!
Variable-length quantities: groups of seven bits, highest first, with bit 7 set
in every byte but the last.
-/

namespace ChipScribe.Midi.Quantity

def continued (group : UInt8) : UInt8 :=
  group ||| 0x80

/-- The groups of `n` above the lowest, in front of `rest`. -/
def encodeAbove (n : Nat) (rest : List UInt8) : List UInt8 :=
  if n = 0 then rest
  else encodeAbove (n / 128) (continued (n % 128).toUInt8 :: rest)
termination_by n

def encode (n : UInt32) : List UInt8 :=
  encodeAbove (n.toNat / 128) [(n.toNat % 128).toUInt8]

/-- Read groups up to the first byte without bit 7. -/
def decodeFrom? : Nat → List UInt8 → Option (Nat × List UInt8)
  | _, [] => none
  | value, byte :: rest =>
      let value := value * 128 + byte.toNat % 128
      if byte < 0x80 then some (value, rest) else decodeFrom? value rest

def decode? (bytes : List UInt8) : Option (Nat × List UInt8) :=
  decodeFrom? 0 bytes

end ChipScribe.Midi.Quantity
