import Machining.AddressMap
import Machining.Journal
import Machining.Machine.Travel
set_option autoImplicit false

/-!
# The attached machine

Playback drives at most one machine: none at all, one that only records its calls, or a simulated one.
A recording machine without a tool changer ignores tool changes.
-/

namespace Machining.Machine

/-- What is attached. -/
inductive Attachment where
  | absent
  | recorder (hasToolChanger : Bool)
  | simulated (simulation : Simulation)
  deriving DecidableEq, Repr, Inhabited

/-- The outcome of calls: the machine afterwards, the coordinates it reached by axis, and what
happened. -/
structure Performed where
  machine : Attachment
  reached : AddressMap := {}
  journal : Journal := []
  deriving DecidableEq, Repr, Inhabited

namespace Attachment

/-- A machine is attached. -/
def isPresent : Attachment → Bool
  | absent => false
  | _ => true

/-- A recording machine sees the call. -/
def sees (hasToolChanger : Bool) : Call → Bool
  | .changeTool _ => hasToolChanger
  | _ => true

/-- The coordinate that a call reaches when nothing limits the travel. -/
def directReach : Call → AddressMap → AddressMap
  | .moveAxis axis target _, reached => reached.set axis.name target
  | _, reached => reached

/-- Calls a simulated machine. -/
def simulate (m : Simulation) (reached : AddressMap) : Call → Simulation × AddressMap × Log
  | .moveAxis axis target rapid =>
    let (moved, value, log) := m.move axis target rapid
    (moved, reached.set axis.name value, log)
  | .setSpindle rpm direction =>
    let (changed, log) := m.setSpindle rpm direction
    (changed, reached, log)
  | .stopSpindle =>
    let (changed, log) := m.stopSpindle
    (changed, reached, log)
  | .setCoolant on =>
    let (changed, log) := m.setCoolant on
    (changed, reached, log)
  | .changeTool tool =>
    let (changed, log) := m.changeTool tool
    (changed, reached, log)

/-- Calls the machine; `reached` holds the coordinates reached before. -/
def perform (machine : Attachment) (reached : AddressMap) (call : Call) : Performed :=
  match machine with
  | absent => ⟨absent, reached, []⟩
  | recorder hasToolChanger =>
    ⟨recorder hasToolChanger, directReach call reached,
      if sees hasToolChanger call then [.event (.machine call)] else []⟩
  | simulated m =>
    let (changed, reached, log) := simulate m reached call
    ⟨simulated changed, reached, Journal.ofLog log⟩

end Attachment

end Machining.Machine
