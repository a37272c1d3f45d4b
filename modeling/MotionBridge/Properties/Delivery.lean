import MotionBridge.Communication.AsyncSystem
import MotionBridge.Foundation.History
import MotionBridge.Foundation.Sampling

/-!
# The way of a command

The mailbox shows the last entry of the log of published commands, and the supervisor
samples that log. What it applies is a subsequence of what was published, which is a
subsequence of what was read.
-/
namespace MotionBridge

open Foundation

namespace AsyncSystem

variable {R : Type} [Double R]

/-- A successful `try_read` returned the command published last, and an update worked
with what its own `try_read` returned. -/
def Shown (before : List (Event R)) : Event R → Prop
  | .sample (some snapshot) => (published before).getLast? = some snapshot
  | .update _ (some snapshot) _ => (samples before).getLast? = some (some snapshot)
  | _ => True

/-- An update with a successful `try_read` left that command in force. -/
def LeftInForce : Event R → Prop
  | .update _ (some snapshot) inForce => inForce = decodePlcCommand snapshot.value
  | _ => True

/-! ### From the PLC into the mailbox -/

/-- The command mailbox and the sample in progress agree with what happened so far. -/
structure Carried (system : AsyncSystem R) (log : List (Event R)) : Prop where
  mailbox : system.worker.commandMailbox.read = (published log).getLast?
  held : ((published log).map Snapshot.value ++ system.worker.heldCommand.toList).Sublist (reads log)
  latest : ∀ command, system.worker.heldCommand = some command → (reads log).getLast? = some command
  recent : ∀ snapshot, system.pendingSample = some snapshot →
    (samples log).getLast? = some (some snapshot)
  shown : Throughout Shown log
  named : Throughout (fun before event => ∀ snapshot, event = .worker (.publish snapshot) →
    (reads before).getLast? = some snapshot.value) log

omit [Double R] in
theorem silent_shown (events : List (Event R)) (silent : Silent events) :
    ∀ event ∈ events, ∀ before, Shown before event ∧ LeftInForce event ∧
      ∀ snapshot, event ≠ .worker (.publish snapshot) := by
  intro event member before
  cases event with
  | apply | publishStatus => exact ⟨trivial, trivial, nofun⟩
  | worker event =>
    refine ⟨trivial, trivial, ?_⟩
    intro snapshot same
    cases same
    have stored := List.filterMap_eq_nil_iff.mp silent.published _ member
    cases stored
  | sample snapshot =>
    have sampled := List.filterMap_eq_nil_iff.mp silent.samples _ member
    cases sampled
  | update update sample inForce =>
    have updated := List.filterMap_eq_nil_iff.mp silent.updates _ member
    cases updated

theorem pendingSample_congr {system next : AsyncSystem R} (pending : next.pending = system.pending) :
    next.pendingSample = system.pendingSample := by
  rw [pendingSample, pending, pendingSample]

theorem carried_silent {system next : AsyncSystem R} {log events : List (Event R)}
    (carried : Carried system log) (keeps : Keeps system next)
    (held : next.worker.heldCommand = system.worker.heldCommand ∨ next.worker.heldCommand = none)
    (pending : next.pending = system.pending) (silent : Silent events) :
    Carried next (log ++ events) := by
  have sampled := pendingSample_congr pending
  have free := silent_shown events silent
  -- a command on its way stays there or is dropped; either way the order is kept
  constructor
  · simpa [silent.published, keeps.mailbox] using carried.mailbox
  · rcases held with same | dropped
    · simpa [silent.published, silent.reads, same] using carried.held
    · have kept := (List.sublist_append_left _ _).trans carried.held
      simpa [silent.published, silent.reads, dropped] using kept
  · intro command holds
    rcases held with same | dropped
    · rw [same] at holds
      simpa [silent.reads] using carried.latest command holds
    · rw [dropped] at holds
      cases holds
  · simpa [silent.samples, sampled] using carried.recent
  · exact throughout_append _ _ _ carried.shown fun event member before => (free event member before).1
  · apply throughout_append _ _ _ carried.named
    intro event member before snapshot stores
    exact absurd stores ((free event member before).2.2 snapshot)

theorem carried_read {system next : AsyncSystem R} {log : List (Event R)}
    (command : PlcCommandData R) (carried : Carried system log) (keeps : Keeps system next)
    (held : next.worker.heldCommand = some command) (pending : next.pending = system.pending) :
    Carried next (log ++ [.worker (.read (some command))]) := by
  have sampled := pendingSample_congr pending
  have read : reads [Event.worker (.read (some command))] = [command] := rfl
  have unpublished : published [Event.worker (.read (some command))] = [] := rfl
  have unsampled : samples [Event.worker (.read (some command))] = [] := rfl
  constructor
  · simpa [unpublished, keeps.mailbox] using carried.mailbox
  · have kept := (List.sublist_append_left _ _).trans carried.held
    simpa [unpublished, read, held] using kept
  · intro other holds
    rw [held] at holds
    cases holds
    simp [read]
  · simpa [unsampled, sampled] using carried.recent
  · exact (throughout_snoc _ _ _).mpr ⟨carried.shown, trivial⟩
  · exact (throughout_snoc _ _ _).mpr ⟨carried.named, nofun⟩

theorem carried_publish {system next : AsyncSystem R} {log : List (Event R)}
    (command : PlcCommandData R) (sequence : UInt64) (carried : Carried system log)
    (held : system.worker.heldCommand = some command) (released : next.worker.heldCommand = none)
    (mailbox : next.worker.commandMailbox.read = some ⟨command, sequence⟩)
    (pending : next.pending = system.pending) :
    Carried next (log ++ [.worker (.publish ⟨command, sequence⟩)]) := by
  have sampled := pendingSample_congr pending
  have unread : reads [Event.worker (.publish (⟨command, sequence⟩ : Snapshot (PlcCommandData R)))] =
      [] := rfl
  have entered : published [Event.worker (.publish ⟨command, sequence⟩)] = [⟨command, sequence⟩] :=
    rfl
  have unsampled :
      samples [Event.worker (.publish (⟨command, sequence⟩ : Snapshot (PlcCommandData R)))] = [] :=
    rfl
  -- the command moves from the hand of the worker to the end of the published ones
  constructor
  · rw [mailbox, published_append, entered, List.getLast?_concat]
  · have order := carried.held
    rw [held] at order
    simpa [entered, unread, released] using order
  · intro other holds
    rw [released] at holds
    cases holds
  · simpa [unsampled, sampled] using carried.recent
  · exact (throughout_snoc _ _ _).mpr ⟨carried.shown, trivial⟩
  · refine (throughout_snoc _ _ _).mpr ⟨carried.named, ?_⟩
    intro snapshot stores
    cases stores
    exact carried.latest command held

theorem carried_sample {system next : AsyncSystem R} {log : List (Event R)} (dt : R)
    (snapshot : Option (Snapshot (PlcCommandData R))) (carried : Carried system log)
    (keeps : Keeps system next) (held : next.worker.heldCommand = system.worker.heldCommand)
    (origin : snapshot = none ∨ snapshot = system.worker.commandMailbox.read)
    (pending : next.pending = some (dt, snapshot)) :
    Carried next (log ++ [.sample snapshot]) := by
  have sampled : next.pendingSample = snapshot := by
    rw [pendingSample, pending]
    rfl
  have unread : reads [Event.sample snapshot] = [] := rfl
  have unpublished : published [Event.sample snapshot] = [] := rfl
  have looked : samples [Event.sample snapshot] = [snapshot] := rfl
  constructor
  · simpa [unpublished, keeps.mailbox] using carried.mailbox
  · simpa [unpublished, unread, held] using carried.held
  · simpa [unread, held] using carried.latest
  · intro sample inProgress
    rw [sampled] at inProgress
    rw [samples_append, looked, inProgress, List.getLast?_concat]
  · refine (throughout_snoc _ _ _).mpr ⟨carried.shown, ?_⟩
    cases snapshot with
    | none => trivial
    | some sample =>
      rcases origin with missing | read
      · cases missing
      -- the mailbox shows the last publication
      · exact carried.mailbox.symm.trans read.symm
  · exact (throughout_snoc _ _ _).mpr ⟨carried.named, nofun⟩

theorem carried_update {system next : AsyncSystem R} {log : List (Event R)} (dt : R)
    (snapshot : Option (Snapshot (PlcCommandData R))) (accepted : Option (Snapshot (PlcCommandData R)))
    (update : Update R) (inForce : MotionCommand R) (carried : Carried system log)
    (pending : system.pending = some (dt, snapshot)) (worker : next.worker = system.worker)
    (done : next.pending = none) :
    Carried next (log ++ ((accepted.map Event.apply).toList ++ [.update update snapshot inForce])) := by
  have sampled : system.pendingSample = snapshot := by
    rw [pendingSample, pending]
    rfl
  have idle : next.pendingSample = none := by
    rw [pendingSample, done]
    rfl
  have shown : ∀ before, samples before = samples log →
      Shown before (.update update snapshot inForce) := by
    intro before same
    cases snapshot with
    | none => trivial
    | some sample =>
      change (samples before).getLast? = some (some sample)
      rw [same]
      exact carried.recent sample sampled
  have passed : ∀ event ∈ (accepted.map Event.apply).toList, ∀ before, Shown before event ∧
      ∀ snapshot, event ≠ .worker (.publish snapshot) := by
    cases accepted with
    | none => simp
    | some sample => simp [Shown]
  have samplesKept : samples (log ++ (accepted.map Event.apply).toList) = samples log := by
    cases accepted with
    | none => simp
    | some sample => simp [samples]
  -- first the event of `set_command`, if there is one, then the update itself
  rw [← List.append_assoc]
  constructor
  · cases accepted with
    | none => simpa [published, worker] using carried.mailbox
    | some sample => simpa [published, worker] using carried.mailbox
  · cases accepted with
    | none => simpa [published, reads, worker] using carried.held
    | some sample => simpa [published, reads, worker] using carried.held
  · cases accepted with
    | none => simpa [reads, worker] using carried.latest
    | some sample => simpa [reads, worker] using carried.latest
  · simp [idle]
  · refine (throughout_snoc _ _ _).mpr ⟨?_, shown _ samplesKept⟩
    exact throughout_append _ _ _ carried.shown fun event member before => (passed event member before).1
  · refine (throughout_snoc _ _ _).mpr ⟨?_, nofun⟩
    apply throughout_append _ _ _ carried.named
    intro event member before snapshot stores
    exact absurd stores ((passed event member before).2 snapshot)

theorem carried_act {system : AsyncSystem R} {log : List (Event R)} (action : Action R)
    (carried : Carried system log) :
    Carried (system.act action).1 (log ++ (system.act action).2) := by
  have effect := act_effect system action
  generalize (system.act action).1 = next at effect ⊢
  generalize (system.act action).2 = events at effect ⊢
  cases effect with
  | silent keeps held pending silent => exact carried_silent carried keeps held pending silent
  | read command keeps held pending => exact carried_read command carried keeps held pending
  | publish command held released mailbox _ pending =>
    have read := congrArg LatestValueMailbox.read mailbox
    exact carried_publish command _ carried held released read pending
  | sample dt snapshot keeps held origin pending =>
    exact carried_sample dt snapshot carried keeps held origin pending
  | update dt snapshot pending worker _ done =>
    exact carried_update dt snapshot _ _ _ carried pending worker done

/-! ### From the mailbox into the loop -/

def position (snapshot : Snapshot (PlcCommandData R)) : ℕ := snapshot.sequence.toNat

/-- Sequence numbers count the publications, and the supervisor samples their log. -/
structure Delivered (system : AsyncSystem R) (log : List (Event R)) : Prop where
  sequence : system.worker.commandMailbox.sequence.toNat = (published log).length
  increasing : Increasing position (published log)
  numbered : ∀ snapshot ∈ published log, position snapshot ≤ (published log).length
  sampled : Sampled (published log) (applied log) system.pendingSample
  last : system.supervisor.lastCommandSequence = (applied log).getLast?.map Snapshot.sequence
  inForce : ∀ snapshot, (applied log).getLast? = some snapshot →
    system.supervisor.controlLoop.command = decodePlcCommand snapshot.value
  left : ∀ event ∈ log, LeftInForce event

/-- A step that neither publishes, samples nor updates. -/
theorem delivered_quiet {system next : AsyncSystem R} {log events : List (Event R)}
    (delivered : Delivered system log) (keeps : Keeps system next)
    (pending : next.pending = system.pending) (unpublished : published events = [])
    (unapplied : applied events = []) (free : ∀ event ∈ events, LeftInForce event) :
    Delivered next (log ++ events) := by
  have sampled := pendingSample_congr pending
  constructor
  · simpa [unpublished, keeps.sequence] using delivered.sequence
  · simpa [unpublished] using delivered.increasing
  · simpa [unpublished] using delivered.numbered
  · simpa [unpublished, unapplied, sampled] using delivered.sampled
  · simpa [unapplied, keeps.supervisor] using delivered.last
  · simpa [unapplied, keeps.supervisor] using delivered.inForce
  · exact List.forall_mem_append.mpr ⟨delivered.left, free⟩

/-- The sequence numbers do not wrap, so a new entry is stamped above all others. -/
theorem delivered_publish {system next : AsyncSystem R} {log : List (Event R)}
    (command : PlcCommandData R) (delivered : Delivered system log)
    (bounded : (published log).length + 1 < 2 ^ 64)
    (mailbox : next.worker.commandMailbox = system.worker.commandMailbox.publish command)
    (supervisor : next.supervisor = system.supervisor) (pending : next.pending = system.pending) :
    Delivered next
      (log ++ [.worker (.publish ⟨command, system.worker.commandMailbox.sequence + 1⟩)]) := by
  let entry : Snapshot (PlcCommandData R) := ⟨command, system.worker.commandMailbox.sequence + 1⟩
  have sampled := pendingSample_congr pending
  have entered : published [Event.worker (.publish entry)] = [entry] := rfl
  have unapplied : applied [Event.worker (.publish entry)] = [] := rfl
  have stamp : (system.worker.commandMailbox.sequence + 1).toNat = (published log).length + 1 :=
    count_succ delivered.sequence bounded
  have newer : ∀ snapshot ∈ published log, position snapshot < position entry := by
    intro snapshot member
    have below := delivered.numbered snapshot member
    change position snapshot < (system.worker.commandMailbox.sequence + 1).toNat
    omega
  change Delivered next (log ++ [.worker (.publish entry)])
  constructor
  · rw [mailbox, published_append, entered, List.length_append]
    exact stamp
  · rw [published_append, entered]
    exact increasing_snoc delivered.increasing newer
  · intro snapshot member
    rw [published_append, entered] at member ⊢
    rw [List.length_append]
    rcases List.mem_append.mp member with earlier | last
    · have below := delivered.numbered snapshot earlier
      omega
    · rw [List.mem_singleton.mp last]
      exact stamp.le
  · rw [published_append, entered, applied_append, unapplied, List.append_nil, sampled]
    exact sampled_publish entry delivered.sampled
  · simpa [unapplied, supervisor] using delivered.last
  · simpa [unapplied, supervisor] using delivered.inForce
  · exact List.forall_mem_append.mpr ⟨delivered.left, List.forall_mem_singleton.mpr trivial⟩

theorem delivered_sample {system next : AsyncSystem R} {log : List (Event R)} (dt : R)
    (snapshot : Option (Snapshot (PlcCommandData R))) (carried : Carried system log)
    (delivered : Delivered system log) (keeps : Keeps system next)
    (origin : snapshot = none ∨ snapshot = system.worker.commandMailbox.read)
    (pending : next.pending = some (dt, snapshot)) :
    Delivered next (log ++ [.sample snapshot]) := by
  have sampled : next.pendingSample = snapshot := by
    rw [pendingSample, pending]
    rfl
  have unpublished : published [Event.sample snapshot] = [] := rfl
  have unapplied : applied [Event.sample snapshot] = [] := rfl
  constructor
  · simpa [unpublished, keeps.sequence] using delivered.sequence
  · simpa [unpublished] using delivered.increasing
  · simpa [unpublished] using delivered.numbered
  · rw [published_append, unpublished, applied_append, unapplied, List.append_nil,
      List.append_nil, sampled]
    cases snapshot with
    | none => exact sampled_drop delivered.sampled
    | some sample =>
      rcases origin with missing | read
      · cases missing
      · exact sampled_look delivered.sampled (carried.mailbox.symm.trans read.symm)
  · simpa [unapplied, keeps.supervisor] using delivered.last
  · simpa [unapplied, keeps.supervisor] using delivered.inForce
  · exact List.forall_mem_append.mpr ⟨delivered.left, List.forall_mem_singleton.mpr trivial⟩

/-- A sample that is not accepted is the entry applied last. -/
theorem refused_sample {system : AsyncSystem R} {log : List (Event R)}
    {sample : Snapshot (PlcCommandData R)} (delivered : Delivered system log)
    (sampled : system.pendingSample = some sample)
    (refuses : system.supervisor.acceptedSnapshot (some sample) = none) :
    (applied log).getLast? = some sample := by
  have last := AsyncPlcSupervisor.accepted_none refuses
  rw [delivered.last] at last
  obtain ⟨kept, keptLast, same⟩ := Option.map_eq_some_iff.mp last
  have pending := delivered.sampled
  rw [sampled] at pending
  -- equal numbers name one publication, since numbers increase along the log
  have identical := sampled_same delivered.increasing pending keptLast (congrArg UInt64.toNat same)
  rw [keptLast, identical]

theorem delivered_update {system next : AsyncSystem R} {log : List (Event R)} (dt : R)
    (snapshot : Option (Snapshot (PlcCommandData R))) (delivered : Delivered system log)
    (pending : system.pending = some (dt, snapshot)) (worker : next.worker = system.worker)
    (supervisor : next.supervisor =
      (system.supervisor.update dt snapshot system.worker.connected).1)
    (done : next.pending = none) (update : Update R) :
    Delivered next (log ++
      (((system.supervisor.acceptedSnapshot snapshot).map Event.apply).toList ++
        [.update update snapshot next.supervisor.controlLoop.command])) := by
  have sampled : system.pendingSample = snapshot := by
    rw [pendingSample, pending]
    rfl
  have idle : next.pendingSample = none := by
    rw [pendingSample, done]
    rfl
  have command : next.supervisor.controlLoop.command = _ :=
    (congrArg (fun s => s.controlLoop.command) supervisor).trans
      (AsyncPlcSupervisor.update_command _ _ _ _)
  have lastSequence : next.supervisor.lastCommandSequence = _ :=
    (congrArg AsyncPlcSupervisor.lastCommandSequence supervisor).trans
      (AsyncPlcSupervisor.update_lastCommandSequence _ _ _ _)
  cases accepted : system.supervisor.acceptedSnapshot snapshot with
  | none =>
    rw [accepted] at command lastSequence
    -- nothing is passed to `set_command`, and an old sample is in force already
    have left : LeftInForce (.update update snapshot next.supervisor.controlLoop.command) := by
      cases snapshot with
      | none => trivial
      | some sample =>
        have again := refused_sample delivered sampled accepted
        exact command.trans (delivered.inForce sample again)
    constructor
    · simpa [published, worker] using delivered.sequence
    · simpa [published] using delivered.increasing
    · simpa [published] using delivered.numbered
    · rw [idle]
      simpa [published, applied] using sampled_drop delivered.sampled
    · simpa [applied, lastSequence] using delivered.last
    · simpa [applied, command] using delivered.inForce
    · exact List.forall_mem_append.mpr ⟨delivered.left, List.forall_mem_singleton.mpr left⟩
  | some sample =>
    obtain ⟨rfl, newer⟩ := AsyncPlcSupervisor.accepted_some accepted
    rw [accepted] at command lastSequence
    -- an accepted sample has another number than the one applied last
    have fresh : (applied log).getLast? ≠ some sample := by
      intro again
      rw [delivered.last, again] at newer
      exact newer rfl
    have looked := delivered.sampled
    rw [sampled] at looked
    have kept := sampled_keep looked fresh
    constructor
    · simpa [published, worker] using delivered.sequence
    · simpa [published] using delivered.increasing
    · simpa [published] using delivered.numbered
    · rw [idle]
      simpa [published, applied] using kept
    · simp [applied, lastSequence]
    · simp [applied, command]
    · refine List.forall_mem_append.mpr ⟨delivered.left, List.forall_mem_cons.mpr ⟨trivial, ?_⟩⟩
      exact List.forall_mem_singleton.mpr command

/-- One step of the system, as long as the publications can be counted in 64 bits. -/
theorem delivered_act {system : AsyncSystem R} {log : List (Event R)} (action : Action R)
    (carried : Carried system log) (delivered : Delivered system log)
    (bounded : (published (log ++ (system.act action).2)).length < 2 ^ 64) :
    Delivered (system.act action).1 (log ++ (system.act action).2) := by
  have effect := act_effect system action
  generalize (system.act action).1 = next at effect ⊢
  generalize (system.act action).2 = events at effect bounded ⊢
  cases effect with
  | silent keeps _ pending silent =>
    apply delivered_quiet delivered keeps pending silent.published silent.applied
    intro event member
    exact (silent_shown events silent event member []).2.1
  | read command keeps _ pending =>
    apply delivered_quiet delivered keeps pending rfl rfl
    exact List.forall_mem_singleton.mpr trivial
  | publish command _ _ mailbox supervisor pending =>
    rw [published_append, List.length_append] at bounded
    exact delivered_publish command delivered bounded mailbox supervisor pending
  | sample dt snapshot keeps _ origin pending =>
    exact delivered_sample dt snapshot carried delivered keeps origin pending
  | update dt snapshot pending worker supervisor done =>
    exact delivered_update dt snapshot delivered pending worker supervisor done _

/-! ### Runs -/

theorem carried_run {configuration : PlcCommunicationWorker.Configuration}
    {worker : PlcCommunicationWorker R}
    (created : PlcCommunicationWorker.create configuration = .ok worker)
    (supervisor : AsyncPlcSupervisor R) (actions : List (Action R)) :
    Carried ((create worker supervisor).observe actions).1
      ((create worker supervisor).observe actions).2 := by
  obtain ⟨mailbox, _, thread⟩ := PlcCommunicationWorker.create_fresh created
  have unheld : worker.heldCommand = none := by
    rw [PlcCommunicationWorker.heldCommand, thread]
    rfl
  have initial : Carried (create worker supervisor) [] := by
    constructor
    · exact congrArg LatestValueMailbox.read mailbox
    · simp [create, unheld]
      rfl
    · intro command held
      cases unheld.symm.trans held
    · intro snapshot looked
      cases looked
    · exact throughout_nil _
    · exact throughout_nil _
  exact run_always (logged act) (fun state => Carried state.1 state.2)
    (fun _ action carried => carried_act action carried) (create worker supervisor, []) actions initial

theorem delivered_run {configuration : PlcCommunicationWorker.Configuration}
    {worker : PlcCommunicationWorker R}
    (workerCreated : PlcCommunicationWorker.create configuration = .ok worker)
    {timeout : R} {controlLoop : ControlLoop R} {supervisor : AsyncPlcSupervisor R}
    (created : AsyncPlcSupervisor.create timeout controlLoop = .ok supervisor)
    (actions : List (Action R))
    (bounded : (published ((create worker supervisor).observe actions).2).length < 2 ^ 64) :
    Delivered ((create worker supervisor).observe actions).1
      ((create worker supervisor).observe actions).2 := by
  obtain ⟨mailbox, _⟩ := PlcCommunicationWorker.create_fresh workerCreated
  obtain ⟨_, _, _, unset, _⟩ := AsyncPlcSupervisor.create_monitor created
  have initial : Delivered (create worker supervisor) [] := by
    constructor
    · exact congrArg (fun mailbox => mailbox.sequence.toNat) mailbox
    · exact List.Pairwise.nil
    · intro snapshot member
      cases member
    · exact sampled_empty
    · exact unset
    · intro snapshot last
      cases last
    · intro event member
      cases member
  -- not `run_always`: the bound speaks of the whole log
  induction actions using List.reverseRecOn with
  | nil => exact initial
  | append_singleton actions action ih =>
    rw [observe, run_snoc] at bounded ⊢
    -- the publications of a run so far are among those of the longer run
    have earlier : (published ((create worker supervisor).observe actions).2).length < 2 ^ 64 := by
      simp only [logged, published_append, List.length_append] at bounded
      exact Nat.lt_of_le_of_lt (Nat.le_add_right _ _) bounded
    exact delivered_act action (carried_run workerCreated supervisor actions) (ih earlier) bounded

/-- In every interleaving the supervisor applies a subsequence of the commands read
from the PLC, in the order in which they were published and none of them twice; what
a successful `try_read` returns is the command published last, and that command is in
force after the update. -/
theorem command_delivery (workerConfiguration : PlcCommunicationWorker.Configuration)
    (worker : PlcCommunicationWorker R)
    (workerCreated : PlcCommunicationWorker.create workerConfiguration = .ok worker)
    (timeout : R) (controlLoop : ControlLoop R) (supervisor : AsyncPlcSupervisor R)
    (created : AsyncPlcSupervisor.create timeout controlLoop = .ok supervisor)
    (actions : List (Action R))
    (bounded : (published ((create worker supervisor).observe actions).2).length < 2 ^ 64) :
    let log := ((create worker supervisor).observe actions).2
    ((applied log).map Snapshot.value).Sublist (reads log) ∧
      (applied log).Sublist (published log) ∧
      (applied log).Pairwise (fun older newer => older.sequence < newer.sequence) ∧
      Throughout Shown log ∧ ∀ event ∈ log, LeftInForce event := by
  intro log
  have carried := carried_run workerCreated supervisor actions
  have delivered := delivered_run workerCreated created actions bounded
  have chosen : (applied log).Sublist (published log) := delivered.sampled.sublist
  have ordered : (applied log).Pairwise fun older newer => older.sequence < newer.sequence := by
    have increasing := List.Pairwise.sublist chosen delivered.increasing
    exact increasing.imp fun below => UInt64.lt_iff_toNat_lt.mpr below
  have origin : ((published log).map Snapshot.value).Sublist (reads log) :=
    (List.sublist_append_left _ _).trans carried.held
  exact ⟨(chosen.map _).trans origin, chosen, ordered, carried.shown, delivered.left⟩

theorem demo_worker_created : PlcCommunicationWorker.create .initial = .ok demo.worker := rfl

/-- Two commands are published, and one update applies the second of them. -/
theorem command_delivery_latest :
    let log := (demo.observe (.start :: List.replicate 5 (serve startCommand) ++
      List.replicate 9 (serve { startCommand with heartbeat := 2 }) ++ List.replicate 3 tick)).2
    (reads log).length = 2 ∧ (applied log).length = 1 ∧
      ((applied log).map Snapshot.value).Sublist (reads log) := by
  have delivery := command_delivery .initial demo.worker demo_worker_created 0.10 ControlLoop.demo
    AsyncPlcSupervisor.demo AsyncPlcSupervisor.demo_created
    (.start :: List.replicate 5 (serve startCommand) ++
      List.replicate 9 (serve { startCommand with heartbeat := 2 }) ++ List.replicate 3 tick)
    (by decide +kernel)
  exact ⟨by decide +kernel, by decide +kernel, delivery.1⟩

end AsyncSystem

end MotionBridge
