/-!
The address space the chip's host serves: 64 KiB, all zero at first.  Copying
wraps around at the top.
-/

namespace ChipScribe

structure Memory where
  bytes : ByteArray
  size_eq : bytes.size = 65536

namespace Memory

def zero : Memory where
  bytes := ⟨Array.replicate 65536 0⟩
  size_eq := Array.size_replicate

instance : Inhabited Memory := ⟨zero⟩

def read (m : Memory) (address : UInt16) : UInt8 :=
  m.bytes.get address.toNat (by have := address.toNat_lt; have := m.size_eq; omega)

def write (m : Memory) (address : UInt16) (byte : UInt8) : Memory where
  bytes := m.bytes.set address.toNat byte
    (by have := address.toNat_lt; have := m.size_eq; omega)
  size_eq := (Array.size_set _).trans m.size_eq

def load (m : Memory) : UInt16 → List UInt8 → Memory
  | _, [] => m
  | address, byte :: rest => (m.write address byte).load (address + 1) rest

end Memory

end ChipScribe
