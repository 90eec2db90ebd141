import ChipScribe.Register
import ChipScribe.Json.Record
import ChipScribe.Json.Reader
import ChipScribe.Text.Numeral

/-!
Scripts: register accesses and the clocks they fall on.  A script is a JSON list
of records in any order; accesses on one clock keep the order of the list.
-/

namespace ChipScribe

/-- A write of `data`, or a read if there is none. -/
structure Access where
  cycle : Nat
  address : UInt16
  data : Option UInt8 := none
  deriving DecidableEq, Repr

namespace Access

/-- Around the number blanks are ignored; `0x` or `$` in front makes it hexadecimal. -/
def numeral? (text : String) : Option Nat :=
  let cs := Text.trim text.toList
  match (Text.strip? ['0', 'x'] cs).or (Text.strip? ['$'] cs) with
  | some digits => Text.hex64? digits
  | none => Text.decimal64? cs

/-- A number, plain or as text, up to `limit`. -/
def asNumber? (limit : Nat) : Json → Option Nat
  | .str text => (numeral? text).filter (· ≤ limit)
  | j => j.asNat? limit

def maxCycle : Nat := 0xFFFFFFFFFFFFFFFF

open Json in
def ofJson? (j : Json) : Option Access := do
  let fields ← j.fields? ["cycle", "addr", "data"]
  let cycle ← fields.need "cycle" (asNat? maxCycle)
  let address ← fields.need "addr" (asNumber? 0xFFFF)
  let data ← fields.want "data" (fun j => (asNumber? 0xFF j).map fun n => some n.toUInt8) none
  return { cycle, address := address.toUInt16, data }

end Access

namespace Script

inductive Error where
  | malformed
  | notRegister (cycle : Nat) (address : UInt16)
  deriving DecidableEq, Repr

namespace Error

def message : Error → String
  | .malformed => "malformed script"
  | .notRegister cycle address =>
      "cycle " ++ toString cycle ++ ": $" ++ Text.upperHexPadded 4 address.toNat ++
        " is not an APU register"

end Error

def stray? (script : List Access) : Option Access :=
  script.find? fun a => !Register.inWindow a.address

def byCycle (script : List Access) : List Access :=
  script.mergeSort fun a b => a.cycle ≤ b.cycle

def ofAccesses (script : List Access) : Except Error (List Access) :=
  match stray? script with
  | some a => .error (.notRegister a.cycle a.address)
  | none => .ok (byCycle script)

/-- The accesses of a script text, in the order of their clocks. -/
def parse (text : String) : Except Error (List Access) :=
  match (Json.parse? text).bind (Json.asListOf? Access.ofJson?) with
  | some script => ofAccesses script
  | none => .error .malformed

end Script

end ChipScribe
