/-!
Messages to a MIDI receiver: three-byte channel messages, and markers that ask
the transport for a short pause.
-/

namespace ChipScribe.Midi

inductive Message where
  | short (status data1 data2 : UInt8)
  | delay
  deriving DecidableEq, Repr, Inhabited

namespace Message

/-! ## Kinds of status -/

def noteOff : UInt8 := 0x80
def noteOn : UInt8 := 0x90
def controlChange : UInt8 := 0xB0
def programChange : UInt8 := 0xC0
def pitchBend : UInt8 := 0xE0

/-! ## Controllers -/

def channelVolume : UInt8 := 7
def pan : UInt8 := 10
def resetControllers : UInt8 := 121
def allNotesOff : UInt8 := 123

/-! ## Making messages -/

/-- The channel of a note, a bend or a volume is joined to the status as it stands. -/
def off (chan note : UInt8) : Message :=
  .short (noteOff ||| chan) note 0

def on (chan note velocity : UInt8) : Message :=
  .short (noteOn ||| chan) note velocity

def volume (chan level : UInt8) : Message :=
  .short (controlChange ||| chan) channelVolume level

/-- The channel is cut to four bits. -/
def control (chan controller value : UInt8) : Message :=
  .short (controlChange ||| (chan &&& 0x0F)) controller value

def program (chan number : UInt8) : Message :=
  .short (programChange ||| (chan &&& 0x0F)) number 0

/-- A 14-bit bend travels low half first. -/
def bend (chan : UInt8) (wheel : UInt16) : Message :=
  .short (pitchBend ||| chan) (wheel &&& 0x7F).toUInt8 ((wheel >>> 7) &&& 0x7F).toUInt8

/-! ## Reading messages -/

def kind? : Message → Option UInt8
  | .short status _ _ => some (status &&& 0xF0)
  | .delay => none

def channel? : Message → Option UInt8
  | .short status _ _ => some (status &&& 0x0F)
  | .delay => none

/-- Bytes on the wire: a program change has one data byte, a pause is not sent. -/
def bytes : Message → List UInt8
  | .short status data1 data2 =>
      if status &&& 0xF0 == programChange then [status, data1] else [status, data1, data2]
  | .delay => []

/-- Data bytes have seven bits. -/
def masked : Message → Message
  | .short status data1 data2 => .short status (data1 &&& 0x7F) (data2 &&& 0x7F)
  | .delay => .delay

end Message

end ChipScribe.Midi
