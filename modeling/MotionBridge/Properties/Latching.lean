import MotionBridge.Runtime.FiniteLoop
import MotionBridge.Interfaces.PlcMapping

/-! What a latched state survives, and the way from there back to motion. -/
namespace MotionBridge

open Foundation
open Exact (fin)
open ControllerStateMachine (Held)

namespace ControlLoop

variable {R : Type} [Double R]

/-- A step that may let go of a latched state. -/
def Releasing (loop : ControlLoop R) (_dt : R) : Prop :=
  loop.command.powerAvailable = false ∨
    (loop.command.resetFault = true ∧ loop.command.emergencyStop = false ∧
      loop.externalFault = .none ∧ validateCommand loop.command = .none)

instance (loop : ControlLoop R) (dt : R) : Decidable (loop.Releasing dt) :=
  inferInstanceAs (Decidable (_ ∨ _))

/-- A step with the enable bit that ends in `ready`. -/
def Readies (loop : ControlLoop R) (dt : R) : Prop :=
  loop.command.enable = true ∧ (loop.step dt).status.state = .ready

/-- A step with the enable and start bits that ends in `running`. -/
def Starts (loop : ControlLoop R) (dt : R) : Prop :=
  loop.command.enable = true ∧ loop.command.start = true ∧
    (loop.step dt).status.state = .running

/-- A step that stays latched and loses no reported fault code. -/
def StaysHeld (loop : ControlLoop R) (dt : R) : Prop :=
  Held (loop.step dt).status.state ∧
    (loop.status.fault ≠ .none → (loop.step dt).status.fault ≠ .none)

theorem detectedFault_none_valid (loop : ControlLoop R) (clear : loop.detectedFault = .none) :
    loop.externalFault = .none ∧ validateCommand loop.command = .none := by
  have ⟨external, wellFormed⟩ := (detectedFault_none loop).mp clear
  exact ⟨external, (validateCommand_none loop.command).mpr wellFormed⟩

/-- Only a releasing step leaves the latch, or clears a fault code in it. -/
theorem held_step (loop : ControlLoop R) (dt : R) (held : Held loop.stateMachine.state)
    (latched : ¬loop.Releasing dt) :
    Held loop.nextMachine.state ∧
      (loop.stateMachine.fault ≠ .none → loop.nextMachine.fault ≠ .none) := by
  have outcome := nextMachine_outcome loop
  generalize loop.nextMachine = next at outcome ⊢
  cases outcome with
  | unpowered unpowered => exact absurd (Or.inl unpowered) latched
  | stopped => exact ⟨Or.inr rfl, id⟩
  -- a new fault replaces the code, by one that is not `none`
  | faulted _ _ detected => exact ⟨Or.inl rfl, fun _ => detected⟩
  | released _ noEmergency detected _ reset =>
    have valid := detectedFault_none_valid loop detected
    exact absurd (Or.inr ⟨reset, noEmergency, valid⟩) latched
  | latched => exact ⟨held, id⟩
  | moved _ _ _ free => exact absurd held free

/-- A releasing step leaves the latch only towards the two states at rest. -/
theorem releasing_step (loop : ControlLoop R) (dt : R) (held : Held loop.stateMachine.state)
    (releasing : loop.Releasing dt) :
    loop.nextMachine.state = .powerOff ∨ loop.nextMachine.state = .disabled := by
  have outcome := nextMachine_outcome loop
  generalize loop.nextMachine = next at outcome ⊢
  -- with power on, a releasing step passes every return before the latches
  have refuted : loop.command.powerAvailable = true → loop.command.emergencyStop = false ∧
      loop.command.resetFault = true ∧ loop.detectedFault = .none := by
    intro power
    rcases releasing with unpowered | ⟨reset, noEmergency, external, valid⟩
    · rw [power] at unpowered
      cases unpowered
    · have wellFormed := (validateCommand_none loop.command).mp valid
      exact ⟨noEmergency, reset, (detectedFault_none loop).mpr ⟨external, wellFormed⟩⟩
  cases outcome with
  | unpowered => exact Or.inl rfl
  | stopped power emergency =>
    have noEmergency := (refuted power).1
    rw [emergency] at noEmergency
    cases noEmergency
  | faulted power _ detected => exact absurd (refuted power).2.2 detected
  | released => exact Or.inr rfl
  | latched power _ _ _ noReset =>
    have reset := (refuted power).2.1
    rw [noReset] at reset
    cases reset
  | moved _ _ _ free => exact absurd held free

/-- From rest an axis can only be latched, stay at rest, or be enabled into `ready`. -/
theorem rest_step (loop : ControlLoop R)
    (rest : loop.stateMachine.state = .powerOff ∨ loop.stateMachine.state = .disabled) :
    Held loop.nextMachine.state ∨ loop.nextMachine.state = .powerOff ∨
      loop.nextMachine.state = .disabled ∨
        (loop.command.enable = true ∧ loop.nextMachine.state = .ready) := by
  have outcome := nextMachine_outcome loop
  generalize loop.nextMachine = next at outcome ⊢
  cases outcome with
  | unpowered => exact Or.inr (Or.inl rfl)
  | stopped => exact Or.inl (Or.inr rfl)
  | faulted => exact Or.inl (Or.inl rfl)
  | released => exact Or.inr (Or.inr (Or.inl rfl))
  | latched _ _ _ held => exact Or.inl held
  | moved =>
    right
    -- `power_off` leads to `disabled` whatever the command, `disabled` looks at `enable`
    rcases rest with off | disabled
    · rw [off]
      exact Or.inr (Or.inl rfl)
    · rw [disabled]
      cases enabled : loop.command.enable with
      | false => exact Or.inr (Or.inl (by simp [ControllerStateMachine.transition, enabled]))
      | true => exact Or.inr (Or.inr ⟨rfl, by simp [ControllerStateMachine.transition, enabled]⟩)

/-- How far a run has come since it was latched: still held, released and at rest,
enabled into `ready`, or started. A fault on the way leads back to `held`. -/
inductive Restart (loop : ControlLoop R) (later : List (Call R)) : Prop
  | held : Held (run apply loop later).stateMachine.state → Restart loop later
  | released : Visits apply [AtStep Releasing] loop later →
      (run apply loop later).stateMachine.state = .powerOff ∨
        (run apply loop later).stateMachine.state = .disabled → Restart loop later
  | readied : Visits apply [AtStep Releasing, AtStep Readies] loop later →
      (run apply loop later).stateMachine.state ≠ .running → Restart loop later
  | started : Visits apply [AtStep Releasing, AtStep Readies, AtStep Starts] loop later →
      Restart loop later

private theorem restart_step (loop : ControlLoop R) (later : List (Call R)) (dt : R)
    (restart : Restart loop later) : Restart loop (later ++ [.step dt]) := by
  have last : (run apply loop (later ++ [.step dt])).stateMachine =
      (run apply loop later).nextMachine := by
    rw [run_snoc]
    exact step_stateMachine _ dt
  have reported : ((run apply loop later).step dt).status.state =
      (run apply loop later).nextMachine.state := step_state _ dt
  -- each stage either stays, falls back to `held`, or makes the next visit in this step
  cases restart with
  | held held =>
    by_cases releasing : (run apply loop later).Releasing dt
    · have visits := visits_snoc apply [] (AtStep Releasing) loop later (.step dt) trivial releasing
      exact .released visits (by rw [last]; exact releasing_step _ dt held releasing)
    · exact .held (by rw [last]; exact (held_step _ dt held releasing).1)
  | released visits rest =>
    rcases rest_step _ rest with held | off | disabled | ready
    · exact .held (by rw [last]; exact held)
    · exact .released (visits_append _ _ _ _ _ visits) (by rw [last]; exact Or.inl off)
    · exact .released (visits_append _ _ _ _ _ visits) (by rw [last]; exact Or.inr disabled)
    · have readies : (run apply loop later).Readies dt := ⟨ready.1, reported.trans ready.2⟩
      have both := visits_snoc apply _ (AtStep Readies) loop later (.step dt) visits readies
      exact .readied both (by rw [last, ready.2]; decide)
  | readied visits idle =>
    by_cases runs : (run apply loop later).nextMachine.state = .running
    · obtain ⟨_, _, _, enable, permitted⟩ := (nextMachine_running_iff _).mp runs
      -- the axis was not running, so it came from `ready`, on `start`
      have start : (run apply loop later).command.start = true := by
        rcases permitted with continues | enters
        · exact absurd continues.1 idle
        · exact enters.2
      have starts : (run apply loop later).Starts dt := ⟨enable, start, reported.trans runs⟩
      exact .started (visits_snoc apply _ (AtStep Starts) loop later (.step dt) visits starts)
    · exact .readied (visits_append _ _ _ _ _ visits) (by rw [last]; exact runs)
  | started visits => exact .started (visits_append _ _ _ _ _ visits)

/-- Calls between steps leave the machine, and so the progress, as it is. -/
private theorem restart_kept (loop : ControlLoop R) (later : List (Call R)) (call : Call R)
    (same : (run apply loop (later ++ [call])).stateMachine = (run apply loop later).stateMachine)
    (restart : Restart loop later) : Restart loop (later ++ [call]) := by
  cases restart with
  | held held => exact .held (by rw [same]; exact held)
  | released visits rest =>
    exact .released (visits_append _ _ _ _ _ visits) (by rw [same]; exact rest)
  | readied visits idle =>
    exact .readied (visits_append _ _ _ _ _ visits) (by rw [same]; exact idle)
  | started visits => exact .started (visits_append _ _ _ _ _ visits)

theorem restart_run (loop : ControlLoop R) (held : Held loop.stateMachine.state)
    (later : List (Call R)) : Restart loop later := by
  -- from the end, since the stages speak of what the run has done so far
  induction later using List.reverseRecOn with
  | nil => exact .held held
  | append_singleton later call ih =>
    cases call with
    | setCommand command => exact restart_kept loop later _ (by rw [run_snoc]; rfl) ih
    | setExternalFault fault => exact restart_kept loop later _ (by rw [run_snoc]; rfl) ih
    | step dt => exact restart_step loop later dt ih

/-- A latched run stays latched as long as no step releases it. -/
theorem held_run (loop : ControlLoop R) (reports : loop.Reports)
    (held : Held loop.stateMachine.state) (later : List (Call R))
    (latched : Along apply (OnStep fun loop dt => ¬loop.Releasing dt) loop later) :
    Along apply (OnStep StaysHeld) loop later := by
  apply along_of_invariant apply (OnStep fun loop dt => ¬loop.Releasing dt) _
    (fun loop => loop.Reports ∧ Held loop.stateMachine.state) _ _ loop later latched ⟨reports, held⟩
  · intro loop call latched ⟨reports, held⟩
    refine ⟨apply_reports loop call reports, ?_⟩
    cases call with
    | setCommand command => exact held
    | setExternalFault fault => exact held
    | step dt =>
      change Held (loop.step dt).stateMachine.state
      rw [step_stateMachine]
      exact (held_step loop dt held latched).1
  · intro loop call latched ⟨reports, held⟩
    cases call with
    | setCommand command => trivial
    | setExternalFault fault => trivial
    | step dt =>
      have ⟨stays, code⟩ := held_step loop dt held latched
      refine ⟨by rw [step_state]; exact stays, ?_⟩
      rw [step_fault, reports.2]
      exact code

/-- A latched axis stays latched until it is released, and runs again only after
a release, a step into `ready` and a started step, in that order. -/
theorem fault_latching (configuration : Configuration R) (controller : PidController R)
    (plant : ServoPlant R) (calls later : List (Call R))
    (held : Held (run apply (create configuration controller plant) calls).status.state) :
    let latched := run apply (create configuration controller plant) calls
    (Along apply (OnStep fun loop dt => ¬loop.Releasing dt) latched later →
      Along apply (OnStep StaysHeld) latched later) ∧
    ((run apply latched later).status.state = .running →
      Visits apply [AtStep Releasing, AtStep Readies, AtStep Starts] latched later) := by
  intro latched
  have reports : latched.Reports := run_reports configuration controller plant calls
  have held : Held latched.stateMachine.state := by rw [← reports.1]; exact held
  refine ⟨held_run latched reports held later, ?_⟩
  intro runs
  have reports := run_always apply Reports apply_reports latched later reports
  rw [reports.1] at runs
  -- a running axis is past every stage but the last
  cases restart_run latched held later with
  | held held =>
    rw [runs] at held
    exact absurd held (by decide)
  | released _ rest =>
    rw [runs] at rest
    exact absurd rest (by decide)
  | readied _ idle => exact absurd runs idle
  | started visits => exact visits

/-- An emergency stop on the demo loop, a reset and a new start. -/
theorem fault_latching_restarted :
    Visits apply [AtStep Releasing, AtStep Readies, AtStep Starts]
      (run apply demo [.setCommand { go 1 with emergencyStop := true }, .step millisecond])
      [.setCommand { go 1 with resetFault := true }, .step millisecond, .step millisecond,
        .step millisecond] :=
  (fault_latching .initial (demoController.map fin) (ServoPlant.lift .initial)
    [.setCommand { go 1 with emergencyStop := true }, .step millisecond]
    [.setCommand { go 1 with resetFault := true }, .step millisecond, .step millisecond,
      .step millisecond] (by decide +kernel)).2 (by decide +kernel)

/-- A step whose command ends an emergency stop. -/
def EndsEmergency (loop : ControlLoop R) (_dt : R) : Prop :=
  loop.command.powerAvailable = false ∨
    (loop.command.resetFault = true ∧ loop.command.emergencyStop = false)

instance (loop : ControlLoop R) (dt : R) : Decidable (loop.EndsEmergency dt) :=
  inferInstanceAs (Decidable (_ ∨ _))

/-- The emergency stop is still reported, also in the status word sent to the PLC. -/
def KeepsEmergency (loop : ControlLoop R) (dt : R) : Prop :=
  (loop.step dt).status.state = .emergencyStop ∧
    ∀ heartbeat, (encodePlcStatus (loop.step dt).status heartbeat).statusWord
      &&& PlcStatusBit.emergencyStop ≠ 0

/-- No fault is detected, or the button is still down and takes precedence over it. -/
def Undisturbed (loop : ControlLoop R) (_dt : R) : Prop :=
  loop.command.emergencyStop = true ∨ loop.detectedFault = .none

instance (loop : ControlLoop R) (dt : R) : Decidable (loop.Undisturbed dt) :=
  inferInstanceAs (Decidable (_ ∨ _))

theorem keepsEmergency_iff (loop : ControlLoop R) (dt : R) :
    loop.KeepsEmergency dt ↔ loop.nextMachine.state = .emergencyStop := by
  rw [KeepsEmergency, step_state]
  refine ⟨And.left, fun kept => ⟨kept, fun heartbeat => ?_⟩⟩
  have bits := statusWord_bits (loop.step dt).status.state (loop.step dt).status.targetReached
  exact bits.2.2.2.1.mpr ((step_state loop dt).trans kept)

theorem emergency_step (loop : ControlLoop R) (dt : R)
    (stopped : loop.stateMachine.state = .emergencyStop) (persists : ¬loop.EndsEmergency dt) :
    loop.nextMachine.state = .emergencyStop ↔ loop.Undisturbed dt := by
  have outcome := nextMachine_outcome loop
  generalize loop.nextMachine = next at outcome ⊢
  cases outcome with
  | unpowered unpowered => exact absurd (Or.inl unpowered) persists
  | stopped _ emergency => exact iff_of_true rfl (Or.inl emergency)
  | faulted _ noEmergency detected =>
    -- the branch for a detected fault comes before the latch
    apply iff_of_false
    · simp
    · rintro (emergency | clear)
      · rw [noEmergency] at emergency
        cases emergency
      · exact detected clear
  | released _ noEmergency _ _ reset => exact absurd (Or.inr ⟨reset, noEmergency⟩) persists
  | latched _ _ clear => exact iff_of_true stopped (Or.inr clear)
  | moved _ _ _ free => exact absurd (Or.inr stopped) free

/-- An emergency stop is reported on exactly as long as no fault is detected with
the button released. -/
theorem emergency_latched_iff (configuration : Configuration R) (controller : PidController R)
    (plant : ServoPlant R) (calls later : List (Call R))
    (stopped : (run apply (create configuration controller plant) calls).status.state =
      .emergencyStop)
    (persists : Along apply (OnStep fun loop dt => ¬loop.EndsEmergency dt)
      (run apply (create configuration controller plant) calls) later) :
    Along apply (OnStep KeepsEmergency)
        (run apply (create configuration controller plant) calls) later ↔
      Along apply (OnStep Undisturbed)
        (run apply (create configuration controller plant) calls) later := by
  have reports := run_reports configuration controller plant calls
  apply along_congr apply (OnStep fun loop dt => ¬loop.EndsEmergency dt) _ _
    (fun loop => loop.stateMachine.state = .emergencyStop) _ _ _ later persists
    (reports.1.symm.trans stopped)
  · intro loop call persists stopped
    -- the status bit follows the state, and the state follows the condition
    cases call with
    | setCommand command => exact Iff.rfl
    | setExternalFault fault => exact Iff.rfl
    | step dt => exact (keepsEmergency_iff loop dt).trans (emergency_step loop dt stopped persists)
  · intro loop call _ stopped kept
    cases call with
    | setCommand command => exact stopped
    | setExternalFault fault => exact stopped
    | step dt =>
      change (loop.step dt).stateMachine.state = _
      rw [step_stateMachine]
      exact (keepsEmergency_iff loop dt).mp kept

/-- With the button released and no fault around, the demo loop stays stopped. -/
theorem emergency_latched_released :
    Along apply (OnStep KeepsEmergency)
      (run apply demo [.setCommand { go 1 with emergencyStop := true }, .step millisecond])
      [.step millisecond, .setCommand (go 1), .step millisecond, .step millisecond] :=
  (emergency_latched_iff .initial (demoController.map fin) (ServoPlant.lift .initial)
    [.setCommand { go 1 with emergencyStop := true }, .step millisecond]
    [.step millisecond, .setCommand (go 1), .step millisecond, .step millisecond]
    (by decide +kernel) (by decide +kernel)).mpr (by decide +kernel)

/-- A communication timeout after the button is released turns the emergency stop
into a fault, without power cycle or reset. -/
theorem emergency_replaced_by_fault :
    ¬∀ calls later : List (Call (Exact ℚ)),
      (run apply demo calls).status.state = .emergencyStop →
      Along apply (OnStep fun loop dt => ¬loop.EndsEmergency dt) (run apply demo calls) later →
      Along apply (OnStep KeepsEmergency) (run apply demo calls) later := by
  intro latched
  have kept := latched
    [.setCommand { go 1 with emergencyStop := true }, .step millisecond]
    [.setCommand (go 1), .setExternalFault .communicationTimeout, .step millisecond]
    (by decide +kernel) (by decide +kernel)
  exact absurd kept.2.2.1.1 (by decide +kernel)

end ControlLoop

end MotionBridge
