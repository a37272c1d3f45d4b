import MotionBridge.Foundation.Double

namespace MotionBridge

open Foundation

/-- A watchdog exists only with a timeout its constructor accepted. -/
structure Watchdog (R : Type) [Double R] where
  timeoutSeconds : R
  accepted : 0 < timeoutSeconds ∧ Double.isfinite timeoutSeconds = true
  elapsedSeconds : R
  armed : Bool

namespace Watchdog

variable {R : Type} [Double R]

def create (timeoutSeconds : R) : Except String (Watchdog R) :=
  if accepted : 0 < timeoutSeconds ∧ Double.isfinite timeoutSeconds = true then
    .ok ⟨timeoutSeconds, accepted, 0, false⟩
  else .error "Watchdog timeout must be positive and finite"

def kick (watchdog : Watchdog R) : Watchdog R :=
  { watchdog with elapsedSeconds := 0, armed := true }

def advance (watchdog : Watchdog R) (dtSeconds : R) : Watchdog R :=
  if watchdog.armed = true ∧ Double.ValidStep dtSeconds then
    { watchdog with elapsedSeconds := watchdog.elapsedSeconds + dtSeconds }
  else watchdog

def reset (watchdog : Watchdog R) : Watchdog R :=
  { watchdog with elapsedSeconds := 0, armed := false }

def expired (watchdog : Watchdog R) : Bool :=
  watchdog.armed && decide (watchdog.elapsedSeconds ≥ watchdog.timeoutSeconds)

@[simp] theorem kick_timeout (watchdog : Watchdog R) :
    watchdog.kick.timeoutSeconds = watchdog.timeoutSeconds := rfl

/-- A kick leaves nothing of the past but the timeout. -/
theorem kick_congr {watchdog other : Watchdog R}
    (timeout : watchdog.timeoutSeconds = other.timeoutSeconds) : watchdog.kick = other.kick := by
  cases watchdog
  cases other
  cases timeout
  rfl

@[simp] theorem advance_timeout (watchdog : Watchdog R) (dt : R) :
    (watchdog.advance dt).timeoutSeconds = watchdog.timeoutSeconds := by
  simp only [advance]
  split_ifs <;> rfl

@[simp] theorem advance_armed (watchdog : Watchdog R) (dt : R) :
    (watchdog.advance dt).armed = watchdog.armed := by
  simp only [advance]
  split_ifs <;> rfl

/-- An armed watchdog counts every valid step. -/
theorem advance_elapsed (watchdog : Watchdog R) (dt : R) (armed : watchdog.armed = true)
    (valid : Double.ValidStep dt) :
    (watchdog.advance dt).elapsedSeconds = watchdog.elapsedSeconds + dt := by
  simp only [advance, if_pos (And.intro armed valid)]

theorem create_timeout {timeout : R} {watchdog : Watchdog R}
    (created : create timeout = .ok watchdog) : watchdog.timeoutSeconds = timeout := by
  unfold create at created
  split at created
  · cases created
    rfl
  · cases created

end Watchdog

end MotionBridge
