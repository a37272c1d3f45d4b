import MotionBridge.Runtime.FiniteLoop
import MotionBridge.Runtime.RunFor
import MotionBridge.Communication.S7DbLayout
import MotionBridge.Foundation.Binary64

/-!
# Malformed command buffers

Whatever bytes the PLC puts into its command, a number that the axis cannot follow
keeps it from moving, and a buffer without one raises no fault of its own.
-/
namespace MotionBridge

open Foundation

namespace S7DbLayout

/-- The word that eight bytes of the buffer spell. -/
def lreal (bytes : CommandBuffer) (offset : Nat) : UInt64 :=
  UInt64.ofNat (BigEndian.value (slice bytes offset 8))

/-- The target is infinite or NaN, or one of the limits is, or is not positive. -/
def MalformedBytes (bytes : CommandBuffer) : Prop :=
  ¬Binary64.IsFinite (lreal bytes 2) ∨
    ¬(Binary64.IsFinite (lreal bytes 10) ∧ Binary64.IsPositive (lreal bytes 10)) ∨
    ¬(Binary64.IsFinite (lreal bytes 18) ∧ Binary64.IsPositive (lreal bytes 18))

instance (bytes : CommandBuffer) : Decidable (MalformedBytes bytes) :=
  inferInstanceAs (Decidable (_ ∨ _ ∨ _))

/-- Bit 5 of the control word, which lies in its second byte. -/
def powerBit (bytes : CommandBuffer) : Bool := bytes[1]!.toNat.testBit 5

/-- Bit 4 of the control word. -/
def emergencyBit (bytes : CommandBuffer) : Bool := bytes[1]!.toNat.testBit 4

theorem readBits_lreal (bytes : CommandBuffer) (offset : Nat) :
    readBits bytes offset 8 = lreal bytes offset := by
  apply UInt64.toNat_inj.mp
  have small := BigEndian.value_lt (slice bytes offset 8)
  rw [length_slice] at small
  rw [readBits_toNat bytes offset 8 le_rfl, lreal, UInt64.toNat_ofNat']
  exact (Nat.mod_eq_of_lt small).symm

/-- The low bits of the control word are those of its second byte. -/
theorem controlWord_bit (bytes : CommandBuffer) (k : Nat) (low : k < 8) :
    (readU16 bytes 0).toNat.testBit k = bytes[1]!.toNat.testBit k := by
  have digit : bytes[1]!.toNat < 2 ^ 8 := UInt8.toNat_lt _
  have word : (readU16 bytes 0).toNat = 2 ^ 8 * bytes[0]!.toNat + bytes[1]!.toNat := by
    rw [readU16_toNat, slice_succ, slice_succ, BigEndian.value_snoc, BigEndian.value_snoc]
    simp [slice]
  rw [word, Nat.testBit_two_pow_mul_add _ digit, if_pos low]

end S7DbLayout

namespace ControlLoop

open S7DbLayout

variable {R : Type} [Double R]

/-- A detected fault ends in the state that power and emergency stop leave open. -/
theorem faulted_step (loop : ControlLoop R) (dt : R) (fault : loop.detectedFault ≠ .none) :
    (loop.step dt).status.state =
        (if loop.command.powerAvailable = false then .powerOff
          else if loop.command.emergencyStop then .emergencyStop
          else .fault) ∧
      ((loop.step dt).status.state = .fault → (loop.step dt).status.fault = loop.detectedFault) := by
  rw [step_state, step_fault]
  have outcome := nextMachine_outcome loop
  generalize loop.nextMachine = next at outcome ⊢
  cases outcome with
  | unpowered power => exact ⟨(if_pos power).symm, nofun⟩
  | stopped power emergency => simp [power, emergency]
  | faulted power emergency _ => simp [power, emergency]
  | released _ _ clear | latched _ _ clear | moved _ _ clear => exact absurd clear fault

/-- Without a detected fault, a reported fault code was there before. -/
theorem unfaulted_step (loop : ControlLoop R) (dt : R) (coherent : loop.stateMachine.Coherent)
    (clear : loop.detectedFault = .none) (reported : (loop.step dt).status.fault ≠ .none) :
    ControllerStateMachine.Held loop.stateMachine.state ∧
      loop.stateMachine.fault = (loop.step dt).status.fault := by
  rw [step_fault] at reported ⊢
  have kept : loop.nextMachine.fault = loop.stateMachine.fault := by
    have outcome := nextMachine_outcome loop
    generalize loop.nextMachine = next at outcome reported ⊢
    cases outcome with
    | unpowered | released => exact absurd rfl reported
    | faulted _ _ fault => exact absurd clear fault
    | stopped | latched | moved => rfl
  refine ⟨?_, kept.symm⟩
  by_contra free
  exact reported (kept.trans (coherent free))

variable [Double.Bits R]

/-- The command a loop gets for the bytes of a buffer. -/
def received (bytes : CommandBuffer) : MotionCommand R :=
  decodePlcCommand (decodeCommand Double.Bits.ofBits bytes)

/-- Validation refuses exactly the malformed buffers. -/
theorem malformed_iff (bytes : CommandBuffer) :
    Malformed (received bytes : MotionCommand R) ↔ MalformedBytes bytes := by
  have infinite : ∀ bits, Double.isfinite (Double.Bits.ofBits bits : R) = false ↔
      ¬Binary64.IsFinite bits := by
    intro bits
    rw [← Double.Bits.isfinite_ofBits (R := R), Bool.not_eq_true]
  have limit : ∀ bits, (Double.isfinite (Double.Bits.ofBits bits : R) = false ∨
      (Double.Bits.ofBits bits : R) ≤ 0) ↔
        ¬(Binary64.IsFinite bits ∧ Binary64.IsPositive bits) := by
    intro bits
    rw [infinite, not_and_or]
    -- NaN compares as it likes, but it is not finite
    by_cases finite : Binary64.IsFinite bits
    · rw [Double.Bits.ofBits_le_zero bits finite]
    · exact iff_of_true (Or.inl finite) (Or.inl finite)
  simp only [Malformed, received, decodePlcCommand, decodeCommand, readF64, readBits_lreal,
    TrapezoidalTrajectory.Rejects, MalformedBytes, ← infinite, ← limit]
  tauto

theorem received_power (bytes : CommandBuffer) :
    (received bytes : MotionCommand R).powerAvailable = powerBit bytes := by
  rw [powerBit, ← controlWord_bit bytes 5 (by decide)]
  exact bit_isSet _ _ 5 (by decide)

theorem received_emergency (bytes : CommandBuffer) :
    (received bytes : MotionCommand R).emergencyStop = emergencyBit bytes := by
  rw [emergencyBit, ← controlWord_bit bytes 4 (by decide)]
  exact bit_isSet _ _ 4 (by decide)

/-- In every reachable state, a malformed buffer leads out of motion in one step, and a
well-formed one is not reported as invalid unless that fault was latched before. -/
theorem malformed_never_moves [Double.Lawful R] (configuration : Configuration R)
    (controller : PidController R) (plant : ServoPlant R) (loop : ControlLoop R)
    (reachable : Reachable (create configuration controller plant) loop)
    (bytes : CommandBuffer) (dt : R) (valid : Double.ValidStep dt) :
    let after := (loop.setCommand (received bytes)).step dt
    (MalformedBytes bytes →
      after.status.state =
          (if powerBit bytes = false then .powerOff
            else if emergencyBit bytes then .emergencyStop
            else .fault) ∧
        (after.status.state = .fault → after.status.fault.code ≠ 0) ∧
        after.status.servo.commandedTorqueNm = 0 ∧ after.trajectory = loop.trajectory) ∧
    (¬MalformedBytes bytes → loop.externalFault = .none →
      after.status.fault = .invalidCommand →
        ControllerStateMachine.Held loop.status.state ∧ loop.status.fault = .invalidCommand) := by
  intro after
  constructor
  · intro malformed
    have fault : (loop.setCommand (received bytes)).detectedFault ≠ .none := by
      intro clear
      exact ((detectedFault_none _).mp clear).2 ((malformed_iff bytes).mpr malformed)
    obtain ⟨state, code⟩ := faulted_step (loop.setCommand (received bytes)) dt fault
    have idle : (loop.setCommand (received bytes)).nextMachine.state ≠ .running := by
      intro runs
      exact fault ((detectedFault_none _).mpr (running_wellFormed _ runs))
    have power : (loop.setCommand (received bytes)).command.powerAvailable = powerBit bytes :=
      received_power bytes
    have emergency : (loop.setCommand (received bytes)).command.emergencyStop =
        emergencyBit bytes := received_emergency bytes
    rw [power, emergency] at state
    refine ⟨state, ?_, step_idle_torque _ dt valid idle, ?_⟩
    · intro faulted
      rw [code faulted, Ne, FaultCode.code_eq_zero]
      exact fault
    · simp only [after, step_idle _ dt idle]
      rfl
  · intro wellFormed external reported
    have clear : (loop.setCommand (received bytes)).detectedFault = .none := by
      rw [detectedFault_none]
      exact ⟨external, fun malformed => wellFormed ((malformed_iff bytes).mp malformed)⟩
    -- what `run_for` leaves behind reports the state machine as truly as a call does
    have measured := reachable_measured reachable
    obtain ⟨held, kept⟩ := unfaulted_step (loop.setCommand (received bytes)) dt
      measured.coherent clear (by rw [reported]; decide)
    rw [measured.reports.1, measured.reports.2]
    exact ⟨held, kept.trans reported⟩

/-- Power, enable and start, with NaN for the target. -/
def startWithoutTarget : CommandBuffer :=
  #v[0x00, 0x23, 0x7f, 0xf8, 0, 0, 0, 0, 0, 0, 0x3f, 0xe0, 0, 0, 0, 0, 0, 0,
    0x3f, 0xf4, 0, 0, 0, 0, 0, 0, 0, 0, 0, 1]

/-- The demo loop in the middle of a move, three cycles into `run_for`. -/
def movingDemo : ControlLoop (Exact ℚ) :=
  (run apply demo [.setCommand (go 2)]).runCycles false (List.replicate 3 ⟨.fin 90, .fin 5, false, []⟩)

/-- The buffer reaches it there. -/
theorem malformed_never_moves_demo :
    let after := (movingDemo.setCommand (received startWithoutTarget)).step millisecond
    movingDemo.status.state = .running ∧
      after.status.state = .fault ∧ after.status.fault.code ≠ 0 ∧
      after.status.servo.commandedTorqueNm = 0 ∧ after.trajectory = movingDemo.trajectory := by
  intro after
  have reachable : Reachable demo movingDemo :=
    runCycles_reachable _ _ _ (calls_reachable demo [.setCommand (go 2)])
  obtain ⟨state, code, torque, trajectory⟩ :=
    (malformed_never_moves .initial (demoController.map Exact.fin) (ServoPlant.lift .initial)
      movingDemo reachable startWithoutTarget millisecond (by decide +kernel)).1 (by decide +kernel)
  have fault : after.status.state = .fault := state.trans (by decide +kernel)
  exact ⟨by decide +kernel, fault, code fault, torque, trajectory⟩

end ControlLoop

end MotionBridge
