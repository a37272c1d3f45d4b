import MotionBridge.Core.Types

namespace MotionBridge

structure ControllerStateMachine where
  state : ControllerState
  fault : FaultCode
  deriving DecidableEq, Repr

namespace ControllerStateMachine

variable {R : Type}

def initial : ControllerStateMachine := ⟨.powerOff, .none⟩

def forceFault (machine : ControllerStateMachine) (fault : FaultCode) : ControllerStateMachine :=
  if fault ≠ .none then ⟨.fault, fault⟩ else machine

/-- The `switch` over the states that are neither latched nor overridden. -/
def transition (state : ControllerState) (command : MotionCommand R) (targetReached : Bool) :
    ControllerState :=
  match state with
  | .powerOff => .disabled
  | .disabled => if command.enable then .ready else .disabled
  | .ready =>
    if !command.enable then .disabled
    -- `stop` is not looked at here
    else if command.start then .running
    else .ready
  | .running =>
    if !command.enable then .disabled
    else if command.stop then .stopping
    else if targetReached then .ready
    else .running
  | .stopping => if command.enable then .ready else .disabled
  -- `update` has returned before it gets here with one of these
  | .fault => .fault
  | .emergencyStop => .emergencyStop

/-- The early returns keep the order of the source: power, emergency stop,
detected fault, latched emergency stop, latched fault. -/
def update (machine : ControllerStateMachine) (command : MotionCommand R) (targetReached : Bool)
    (detectedFault : FaultCode) : ControllerStateMachine :=
  if !command.powerAvailable then ⟨.powerOff, .none⟩
  -- a fault code under the emergency stop is kept
  else if command.emergencyStop then { machine with state := .emergencyStop }
  -- also from a latched emergency stop
  else if detectedFault ≠ .none then machine.forceFault detectedFault
  else if machine.state = .emergencyStop then
    if command.resetFault then ⟨.disabled, .none⟩ else machine
  else if machine.state = .fault then
    if command.resetFault then ⟨.disabled, .none⟩ else machine
  else { machine with state := transition machine.state command targetReached }

/-- States in which the axis is held until it is released. -/
def Held (state : ControllerState) : Prop := state = .fault ∨ state = .emergencyStop

instance (state : ControllerState) : Decidable (Held state) :=
  inferInstanceAs (Decidable (_ ∨ _))

/-- Every way one update can end, with the guard that leads there. -/
inductive Outcome (machine : ControllerStateMachine) (command : MotionCommand R)
    (targetReached : Bool) (detectedFault : FaultCode) : ControllerStateMachine → Prop
  | unpowered : command.powerAvailable = false →
      Outcome machine command targetReached detectedFault ⟨.powerOff, .none⟩
  | stopped : command.powerAvailable = true → command.emergencyStop = true →
      Outcome machine command targetReached detectedFault ⟨.emergencyStop, machine.fault⟩
  | faulted : command.powerAvailable = true → command.emergencyStop = false →
      detectedFault ≠ .none →
      Outcome machine command targetReached detectedFault ⟨.fault, detectedFault⟩
  | released : command.powerAvailable = true → command.emergencyStop = false →
      detectedFault = .none → Held machine.state → command.resetFault = true →
      Outcome machine command targetReached detectedFault ⟨.disabled, .none⟩
  | latched : command.powerAvailable = true → command.emergencyStop = false →
      detectedFault = .none → Held machine.state → command.resetFault = false →
      Outcome machine command targetReached detectedFault machine
  | moved : command.powerAvailable = true → command.emergencyStop = false →
      detectedFault = .none → ¬Held machine.state →
      Outcome machine command targetReached detectedFault
        ⟨transition machine.state command targetReached, machine.fault⟩

theorem update_outcome (machine : ControllerStateMachine) (command : MotionCommand R)
    (targetReached : Bool) (detectedFault : FaultCode) :
    Outcome machine command targetReached detectedFault
      (machine.update command targetReached detectedFault) := by
  unfold update
  -- one goal for each return of the source, in its order
  split_ifs with power stop detected emergency reset fault reset
  · exact .unpowered (by simpa using power)
  · exact .stopped (by simpa using power) stop
  · simp only [forceFault, if_pos detected]
    exact .faulted (by simpa using power) (by simpa using stop) detected
  · exact .released (by simpa using power) (by simpa using stop) (by simpa using detected)
      (Or.inr emergency) reset
  · exact .latched (by simpa using power) (by simpa using stop) (by simpa using detected)
      (Or.inr emergency) (by simpa using reset)
  · exact .released (by simpa using power) (by simpa using stop) (by simpa using detected)
      (Or.inl fault) reset
  · exact .latched (by simpa using power) (by simpa using stop) (by simpa using detected)
      (Or.inl fault) (by simpa using reset)
  · exact .moved (by simpa using power) (by simpa using stop) (by simpa using detected)
      (fun held => held.elim fault emergency)

/-- Outside the held states no fault code is reported. -/
def Coherent (machine : ControllerStateMachine) : Prop :=
  ¬Held machine.state → machine.fault = .none

/-- The states of a powered axis that nothing holds. -/
def Operational (state : ControllerState) : Prop :=
  state = .disabled ∨ state = .ready ∨ state = .running ∨ state = .stopping

instance (state : ControllerState) : Decidable (Operational state) :=
  inferInstanceAs (Decidable (_ ∨ _ ∨ _ ∨ _))

/-- A detected fault keeps the axis out of them. -/
theorem update_operational (machine : ControllerStateMachine) (command : MotionCommand R)
    (targetReached : Bool) (detectedFault : FaultCode)
    (operational : Operational (machine.update command targetReached detectedFault).state) :
    detectedFault = .none := by
  have outcome := update_outcome machine command targetReached detectedFault
  generalize machine.update command targetReached detectedFault = next at outcome operational
  cases outcome with
  | unpowered | stopped | faulted => simp [Operational] at operational
  | released _ _ clear | latched _ _ clear | moved _ _ clear => exact clear

theorem initial_coherent : initial.Coherent := fun _ => rfl

theorem update_coherent (machine : ControllerStateMachine) (command : MotionCommand R)
    (targetReached : Bool) (detectedFault : FaultCode) (coherent : machine.Coherent) :
    (machine.update command targetReached detectedFault).Coherent := by
  intro free
  have outcome := update_outcome machine command targetReached detectedFault
  generalize machine.update command targetReached detectedFault = next at outcome free ⊢
  cases outcome with
  | unpowered => rfl
  | stopped => exact absurd (Or.inr rfl) free
  | faulted => exact absurd (Or.inl rfl) free
  | released => rfl
  | latched _ _ _ held => exact absurd held free
  | moved _ _ _ unheld => exact coherent unheld

/-- A fault code is the one before, or the one just detected. -/
theorem update_fault (machine : ControllerStateMachine) (command : MotionCommand R)
    (targetReached : Bool) (detectedFault : FaultCode) :
    (machine.update command targetReached detectedFault).fault ∈
      [.none, machine.fault, detectedFault] := by
  have outcome := update_outcome machine command targetReached detectedFault
  generalize machine.update command targetReached detectedFault = next at outcome ⊢
  cases outcome with
  | unpowered | released => simp
  | stopped | latched | moved => simp
  | faulted => simp

/-- The two ways into `running` from one cycle to the next. -/
def Permits (state : ControllerState) (command : MotionCommand R) (targetReached : Bool) : Prop :=
  (state = .running ∧ command.stop = false ∧ targetReached = false) ∨
    (state = .ready ∧ command.start = true)

theorem transition_running_iff (state : ControllerState) (command : MotionCommand R)
    (targetReached : Bool) :
    transition state command targetReached = .running ↔
      command.enable = true ∧ Permits state command targetReached := by
  cases state with
  | powerOff | fault | emergencyStop => simp [transition, Permits]
  | disabled | stopping =>
    simp only [transition, Permits]
    split_ifs <;> simp
  | ready =>
    simp only [transition, Permits]
    split_ifs with disabled start
    · simp [show command.enable = false by simpa using disabled]
    · simp [show command.enable = true by simpa using disabled, start]
    · simp [start]
  | running =>
    simp only [transition, Permits]
    split_ifs with disabled stop reached
    · simp [show command.enable = false by simpa using disabled]
    · simp [stop]
    · simp [reached]
    · simp [show command.enable = true by simpa using disabled, stop, reached]

/-- Exactly what an update needs to end in `running`. -/
theorem update_running_iff (machine : ControllerStateMachine) (command : MotionCommand R)
    (targetReached : Bool) (detectedFault : FaultCode) :
    (machine.update command targetReached detectedFault).state = .running ↔
      command.powerAvailable = true ∧ command.emergencyStop = false ∧ detectedFault = .none ∧
        command.enable = true ∧ Permits machine.state command targetReached := by
  constructor
  · intro runs
    have outcome := update_outcome machine command targetReached detectedFault
    generalize machine.update command targetReached detectedFault = next at outcome runs
    cases outcome with
    | unpowered | stopped | faulted | released => cases runs
    -- a latched machine stays in its state, which is not `running`
    | latched _ _ _ held => rcases held with held | held <;> rw [held] at runs <;> cases runs
    | moved power stop detected _ =>
      exact ⟨power, stop, detected, (transition_running_iff machine.state command _).mp runs⟩
  · rintro ⟨power, stop, detected, moves⟩
    -- both latches are passed, since motion starts from `running` or `ready` only
    have notEmergency : machine.state ≠ .emergencyStop := by
      rcases moves.2 with ⟨state, _⟩ | ⟨state, _⟩ <;> simp [state]
    have notFault : machine.state ≠ .fault := by
      rcases moves.2 with ⟨state, _⟩ | ⟨state, _⟩ <;> simp [state]
    simp only [update, power, stop, detected, notEmergency, notFault, ne_eq, not_true_eq_false,
      Bool.not_true, Bool.false_eq_true, if_false]
    exact (transition_running_iff machine.state command targetReached).mpr moves

end ControllerStateMachine

end MotionBridge
