import MotionBridge.Properties.Delivery

/-! What contention for the command mailbox costs: a command that finds the supervisor
inside is dropped, and every other one stays in the mailbox until the next. -/
namespace MotionBridge

open Foundation

namespace AsyncSystem

variable {R : Type} [Double R]

/-- The start command with the emergency stop pressed. -/
def emergencyCommand : PlcCommandData (Exact ℚ) :=
  { startCommand with
    controlWord := startCommand.controlWord ||| PlcControlBit.emergencyStop
    heartbeat := 2 }

/-- No spurious failure of a lock attempt. -/
def Action.Lucky : Action R → Prop
  | .work answers => answers.lucky = true
  | .control _ lucky => lucky = true
  | _ => True

instance decideLucky : (action : Action R) → Decidable action.Lucky
  | .work answers => inferInstanceAs (Decidable (answers.lucky = true))
  | .control _ lucky => inferInstanceAs (Decidable (lucky = true))
  | .start | .requestStop | .join => .isTrue trivial

end AsyncSystem

end MotionBridge
