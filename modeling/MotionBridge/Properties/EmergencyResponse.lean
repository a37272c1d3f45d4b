import MotionBridge.Properties.RoundTrip

/-! How fast an emergency stop of the PLC reaches the axis, and the PLC learns of it. -/
namespace MotionBridge

open Foundation

variable {R : Type} [Double R]

theorem ControlLoop.nextMachine_stopped (loop : ControlLoop R)
    (power : loop.command.powerAvailable = true) (emergency : loop.command.emergencyStop = true) :
    loop.nextMachine.state = .emergencyStop := by
  have outcome := loop.nextMachine_outcome
  generalize loop.nextMachine = next at outcome ⊢
  cases outcome with
  | unpowered unpowered => simp [power] at unpowered
  | stopped => rfl
  | faulted _ released | released _ released | latched _ released | moved _ released =>
    simp [emergency] at released

namespace AsyncSystem

/-- An update that left an emergency stop in force reports it, and publishes what it reports. -/
def Halts : Event R → Prop
  | .update update _ inForce =>
    (inForce.powerAvailable = true → inForce.emergencyStop = true →
      update.status.state = .emergencyStop) ∧
    ∃ heartbeat, update.published = some (encodePlcStatus update.status heartbeat)
  | _ => True

theorem act_halts (system : AsyncSystem R) (action : Action R) :
    ∀ event ∈ (system.act action).2, Halts event := by
  intro event member
  cases event with
  | update update sample inForce =>
    obtain ⟨dt, _, supervisor, rfl, rfl⟩ := mem_update member
    rw [supervisor]
    refine ⟨?_, _, rfl⟩
    intro power emergency
    -- the step of the loop leaves the command in force alone
    exact (ControlLoop.step_state _ dt).trans (ControlLoop.nextMachine_stopped _
      ((congrArg MotionCommand.powerAvailable (ControlLoop.step_command _ dt)).symm.trans power)
      ((congrArg MotionCommand.emergencyStop (ControlLoop.step_command _ dt)).symm.trans emergency))
  | worker | sample | apply | publishStatus => trivial

theorem halts_observe (system : AsyncSystem R) (actions : List (Action R)) :
    ∀ event ∈ (system.observe actions).2, Halts event :=
  run_always (logged act) (fun state => ∀ event ∈ state.2, Halts event)
    (fun state action halts => List.forall_mem_append.mpr ⟨halts, act_halts state.1 action⟩) _ actions
    (by simp)

omit [Double R] in
/-- An update that got an emergency stop from its sample reports it, and so does the status that
it publishes. -/
theorem halted_sample {log : List (Event R)} (left : ∀ event ∈ log, LeftInForce event)
    (halts : ∀ event ∈ log, Halts event) {update : Update R} {found : Snapshot (PlcCommandData R)}
    {inForce : MotionCommand R} (member : .update update (some found) inForce ∈ log)
    (power : (decodePlcCommand found.value).powerAvailable = true)
    (emergency : (decodePlcCommand found.value).emergencyStop = true) :
    update.status.state = .emergencyStop ∧ ∀ status, update.published = some status →
      status.statusWord &&& PlcStatusBit.emergencyStop ≠ 0 := by
  have same : inForce = decodePlcCommand found.value := left _ member
  obtain ⟨stops, heartbeat, encoded⟩ := halts _ member
  have state := stops (same ▸ power) (same ▸ emergency)
  refine ⟨state, ?_⟩
  intro status published
  cases published.symm.trans encoded
  exact (statusWord_bits _ _).2.2.2.1.mpr state

section Torque

variable [Double.Lawful R]

/-- An update with a valid time step drives the axis in `running` alone. -/
def Rests : Event R → Prop
  | .update update _ _ => update.status.state ≠ .running → Double.ValidStep update.dtSeconds →
      update.status.servo.commandedTorqueNm = 0
  | _ => True

theorem act_rests (system : AsyncSystem R) (action : Action R) :
    ∀ event ∈ (system.act action).2, Rests event := by
  intro event member
  cases event with
  | update update sample inForce =>
    obtain ⟨dt, _, _, rfl, _⟩ := mem_update member
    intro idle valid
    exact ControlLoop.step_idle_torque _ dt valid
      (fun runs => idle ((ControlLoop.step_state _ dt).trans runs))
  | worker | sample | apply | publishStatus => trivial

theorem rests_observe (system : AsyncSystem R) (actions : List (Action R)) :
    ∀ event ∈ (system.observe actions).2, Rests event :=
  run_always (logged act) (fun state => ∀ event ∈ state.2, Rests event)
    (fun state action rests => List.forall_mem_append.mpr ⟨rests, act_rests state.1 action⟩) _ actions
    (by simp)

/-- Whatever has happened before: once the PLC asks for an emergency stop, eleven steps of the
worker and eight of the control thread without a dropped message are enough for every later
update to report the emergency stop, with no torque, and ten more steps of the worker for the
PLC to have it in its status word. -/
theorem emergency_response (configuration : PlcCommunicationWorker.Configuration)
    (worker : PlcCommunicationWorker R)
    (workerCreated : PlcCommunicationWorker.create configuration = .ok worker)
    (timeout : R) (controlLoop : ControlLoop R) (supervisor : AsyncPlcSupervisor R)
    (created : AsyncPlcSupervisor.create timeout controlLoop = .ok supervisor)
    (before first second third : List (Action R)) (command : PlcCommandData R)
    (power : (decodePlcCommand command).powerAvailable = true)
    (emergency : (decodePlcCommand command).emergencyStop = true)
    (setting : Setting (create worker supervisor) before first second third command) :
    let outcome := (create worker supervisor).observe (before ++ first ++ second ++ third)
    (∃ final, outcome.2 =
        ((create worker supervisor).observe (before ++ first ++ second)).2 ++ final ∧
      ∀ update sample inForce, .update update sample inForce ∈ final →
        update.status.state = .emergencyStop ∧
          (Double.ValidStep update.dtSeconds → update.status.servo.commandedTorqueNm = 0)) ∧
    ∃ status, lastTold outcome.2 = some status ∧
      status.statusWord &&& PlcStatusBit.emergencyStop ≠ 0 := by
  intro outcome
  have left := (delivered_run workerCreated created (before ++ first ++ second ++ third)
    setting.published).left
  change ∀ event ∈ outcome.2, LeftInForce event at left
  have halts := halts_observe (create worker supervisor) (before ++ first ++ second ++ third)
  have rests := rests_observe (create worker supervisor) (before ++ first ++ second ++ third)
  change ∀ event ∈ outcome.2, Halts event at halts
  change ∀ event ∈ outcome.2, Rests event at rests
  have same := fresh_of_create workerCreated supervisor
  obtain ⟨middle, final, status, lately, log, follows, answered, told⟩ :=
    answered_in_time configuration supervisor (same ▸ setting)
  rw [← same] at lately log told
  change outcome.2 = _ at log
  constructor
  · refine ⟨final, by rw [log, lately, List.append_assoc], ?_⟩
    intro update sample inForce member
    -- its sample holds the command, and what it left in force is that sample
    obtain ⟨found, rfl, rfl⟩ := follows _ member
    have whole : .update update (some found) inForce ∈ outcome.2 :=
      log ▸ List.mem_append_right _ (List.mem_append_right _ member)
    have state := (halted_sample left halts whole power emergency).1
    exact ⟨state, rests _ whole (by simp [state])⟩
  · obtain ⟨update, sample, inForce, member, rfl, published⟩ := answered
    have whole : .update update (some sample) inForce ∈ outcome.2 :=
      log ▸ List.mem_append_right _ member
    exact ⟨status, told, (halted_sample left halts whole power emergency).2 status published⟩

end Torque

/-- The demo is stopped while it is asked to start, and makes two more updates. -/
theorem emergency_response_demo :
    let asked := opening ++ List.replicate 13 (serve emergencyCommand)
    let earlier := demo.observe (asked ++ List.replicate 8 tick)
    let outcome := demo.observe (asked ++ List.replicate 8 tick ++ settled)
    (updates outcome.2).length = (updates earlier.2).length + 2 ∧
    (∃ final, outcome.2 = earlier.2 ++ final ∧
      ∀ update sample inForce, .update update sample inForce ∈ final →
        update.status.state = .emergencyStop ∧
          (Double.ValidStep update.dtSeconds → update.status.servo.commandedTorqueNm = 0)) ∧
    ∃ status, lastTold outcome.2 = some status ∧
      status.statusWord &&& PlcStatusBit.emergencyStop ≠ 0 := by
  intro asked earlier outcome
  exact ⟨by decide +kernel, emergency_response .initial demo.worker demo_worker_created 0.10
    ControlLoop.demo AsyncPlcSupervisor.demo AsyncPlcSupervisor.demo_created opening
    (List.replicate 13 (serve emergencyCommand)) (List.replicate 8 tick) settled emergencyCommand
    (by decide +kernel) (by decide +kernel)
    ⟨⟨⟨.head, false, 0⟩, by decide +kernel⟩, by decide +kernel, by decide +kernel,
      by decide +kernel, by decide +kernel, by decide +kernel, by decide +kernel⟩⟩

end AsyncSystem

end MotionBridge
