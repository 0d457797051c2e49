import NginLink.DriverSteps

/-!
What a sequence of driver commands means for the bus, without the driver: the
mode the controller is to be in and the bit timing it is to use. `start` and
`stop` replace the mode, a bit timing replaces the timing, and a transmit request
changes neither.
-/

namespace NginLink.BusMode

open AppContext GsUsbTypes

structure Modes where
  loopback : Bool
  listenOnly : Bool
  oneShot : Bool
  deriving DecidableEq

inductive Mode where
  | stopped
  | running (modes : Modes)
  deriving DecidableEq

def Mode.after (mode : Mode) : CanDriverCmd → Mode
  | .start loopback listenOnly oneShot => .running ⟨loopback, listenOnly, oneShot⟩
  | .stop => .stopped
  | .setBitTiming _ | .transmit _ => mode

def modeAfter (cmds : List CanDriverCmd) : Mode := cmds.foldl Mode.after .stopped

def startModes : CanDriverCmd → Option Modes
  | .start loopback listenOnly oneShot => some ⟨loopback, listenOnly, oneShot⟩
  | .stop | .setBitTiming _ | .transmit _ => none

/-- The modes of the last Start, whatever came after it. -/
def lastStart (cmds : List CanDriverCmd) : Option Modes := (cmds.filterMap startModes).getLast?

def bitTiming : CanDriverCmd → Option GsDeviceBitTiming
  | .setBitTiming timing => some timing
  | .start _ _ _ | .stop | .transmit _ => none

def lastTiming (cmds : List CanDriverCmd) : Option GsDeviceBitTiming :=
  (cmds.filterMap bitTiming).getLast?

section Commands
variable (cmds : List CanDriverCmd) (cmd : CanDriverCmd)

@[simp] theorem mode_after_nil : modeAfter [] = .stopped := rfl

@[simp] theorem mode_after_concat : modeAfter (cmds ++ [cmd]) = (modeAfter cmds).after cmd := by
  simp [modeAfter]

@[simp] theorem last_start_concat :
    lastStart (cmds ++ [cmd]) = (startModes cmd).or (lastStart cmds) := by
  unfold lastStart
  cases found : startModes cmd <;> simp [found]

@[simp] theorem last_timing_concat :
    lastTiming (cmds ++ [cmd]) = (bitTiming cmd).or (lastTiming cmds) := by
  unfold lastTiming
  cases found : bitTiming cmd <;> simp [found]

theorem running_last_start (modes : Modes) (running : modeAfter cmds = .running modes) :
    lastStart cmds = some modes := by
  induction cmds using List.reverseRecOn with
  | nil => simp at running
  | append_singleton earlier cmd ih =>
      rw [mode_after_concat] at running
      rw [last_start_concat]
      cases cmd with
      | start loopback listenOnly oneShot =>
          simp only [Mode.after, Mode.running.injEq] at running
          simp [startModes, running]
      | stop => simp [Mode.after] at running
      | setBitTiming timing => simpa [startModes] using ih running
      | transmit request => simpa [startModes] using ih running

end Commands
end NginLink.BusMode
