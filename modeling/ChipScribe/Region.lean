/-!
The two builds of the sound chip.  Everything in which they differ is here: the
clock, the master-clock divider, and the period tables of the noise generator,
the delta channel and the frame sequencer.  All periods count chip clocks.
-/

namespace ChipScribe

inductive Region where
  | ntsc
  | pal
  deriving DecidableEq, Repr, Inhabited

namespace Region

def clockHz : Region → Nat
  | .ntsc => 1789773
  | .pal => 1662607

/-- Master clocks per chip clock. -/
def masterClocks : Region → Nat
  | .ntsc => 12
  | .pal => 16

def noisePeriods : Region → Vector UInt16 16
  | .ntsc => #v[4, 8, 16, 32, 64, 96, 128, 160, 202, 254, 380, 508, 762, 1016, 2034, 4068]
  | .pal => #v[4, 8, 14, 30, 60, 88, 118, 148, 188, 236, 354, 472, 708, 944, 1890, 3778]

def dmcPeriods : Region → Vector UInt16 16
  | .ntsc => #v[428, 380, 340, 320, 286, 254, 226, 214, 190, 160, 142, 128, 106, 84, 72, 54]
  | .pal => #v[398, 354, 316, 298, 276, 236, 210, 198, 176, 148, 132, 118, 98, 78, 66, 50]

/--
Step lengths of the frame sequence.  The two closing single-clock steps spread
the frame interrupt of the four-step sequence over three clocks.
-/
def framePeriods : Region → Bool → Vector UInt16 6
  | .ntsc, false => #v[7457, 7456, 7458, 7457, 1, 1]
  | .ntsc, true => #v[7457, 7456, 7458, 7458, 7452, 1]
  | .pal, false => #v[8313, 8314, 8312, 8313, 1, 1]
  | .pal, true => #v[8313, 8314, 8312, 8320, 8312, 1]

theorem lowBits_lt (index : UInt8) : index.toNat % 16 < 16 :=
  Nat.mod_lt _ (by decide)

/-- Only the low four bits of the index select a period. -/
def noisePeriod (r : Region) (index : UInt8) : UInt16 :=
  have bound := lowBits_lt index
  r.noisePeriods[index.toNat % 16]

def dmcPeriod (r : Region) (index : UInt8) : UInt16 :=
  have bound := lowBits_lt index
  r.dmcPeriods[index.toNat % 16]

/-- Steps beyond the last have the length of the last. -/
def framePeriod (r : Region) (fiveStep : Bool) (step : UInt8) : UInt16 :=
  (r.framePeriods fiveStep)[min step.toNat 5]

def name : Region → String
  | .ntsc => "ntsc"
  | .pal => "pal"

def ofName? : String → Option Region
  | "ntsc" => some .ntsc
  | "pal" => some .pal
  | _ => none

@[simp] theorem ofName?_name (r : Region) : ofName? r.name = some r := by
  cases r <;> rfl

end Region

end ChipScribe
