import ChipScribe.Host.Cartridge
import ChipScribe.Script
import ChipScribe.Midi.File
import ChipScribe.Resampler

/-!
Playing a script on a chip with a cartridge.  Before every clock the accesses
due on it are made; messages are recorded with the clock they were sent on, and
samples are gathered if sound is wanted.
-/

namespace ChipScribe

structure Player where
  host : CartridgeHost
  chip : Chip
  script : List Access
  cycle : Nat := 0
  events : Array Midi.Event := #[]
  resampler : Option Resampler := none

namespace Player

instance : Inhabited Player := ⟨{ host := default, chip := default, script := [] }⟩

def record (p : Player) (messages : List Midi.Message) : Player :=
  { p with events := messages.foldl (fun events m => events.push ⟨p.cycle, m⟩) p.events }

def absorb (p : Player) (c : Chip) (r : Report) : Player × List Effect :=
  ({ p with chip := c, host := p.host.obey r.irq }.record r.midi, r.effects)

def access (p : Player) (a : Access) : Player × List Effect :=
  match a.data with
  | some data =>
      let (c, r) := p.chip.write a.address data
      p.absorb c r
  | none =>
      let (_, c, r) := p.chip.read a.address CartridgeHost.openBus
      p.absorb c r

def accessAll (p : Player) : List Access → Player × List Effect
  | [] => (p, [])
  | a :: rest =>
      let (p, effects) := p.access a
      let (p, more) := p.accessAll rest
      (p, effects ++ more)

def accessDue (p : Player) : Player × List Effect :=
  match p.script with
  | [] => (p, [])
  | a :: _ =>
      if a.cycle ≤ p.cycle then
        let (due, later) := p.script.span (·.cycle ≤ p.cycle)
        { p with script := later }.accessAll due
      else (p, [])

def clock (p : Player) : Player × List Effect :=
  let (p, made) := p.accessDue
  let ⟨host, chip, script, cycle, events, resampler⟩ := p
  let (host, chip, out) := host.clock chip
  let events := out.midi.foldl (fun events m => events.push ⟨cycle, m⟩) events
  let resampler := resampler.map (·.push (out.sample.toFloat / 32768.0))
  (⟨host, chip, script, cycle + 1, events, resampler⟩, made ++ out.effects)

/-- Run up to `n` clocks, stopping after one with effects; the clocks left come first. -/
def runQuiet (p : Player) : Nat → Nat × Player × List Effect
  | 0 => (0, p, [])
  | n + 1 =>
      match p.clock with
      | (p, []) => p.runQuiet n
      | (p, effects) => (n, p, effects)

/-- Every effect costs a clock. -/
theorem runQuiet_lt {n left : Nat} {p p' : Player} {e : Effect} {effects : List Effect}
    (h : p.runQuiet n = (left, p', e :: effects)) : left < n := by
  induction n generalizing p with
  | zero => simp [runQuiet] at h
  | succ n ih =>
      unfold runQuiet at h
      split at h
      · exact Nat.lt_succ_of_lt (ih h)
      · simp only [Prod.mk.injEq] at h
        omega

end Player

end ChipScribe
