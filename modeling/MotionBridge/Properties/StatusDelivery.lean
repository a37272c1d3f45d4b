import MotionBridge.Communication.StatusChannel

/-!
# What the PLC gets to see

The thread is a relay: it remembers what it has found and written, and the mailbox
shows the status published last. The order of the written statuses follows.
-/
namespace MotionBridge

open Foundation
open Foundation.Relay

namespace StatusChannel

variable {R : Type}

/-- The thread and the mailbox agree with what happened so far. -/
structure Tracks (channel : StatusChannel R) (log : List (Event R)) : Prop where
  read : channel.worker.statusMailbox.read = (published log).getLast?
  sequence : channel.worker.statusMailbox.sequence.toNat = (published log).length
  held : channel.worker.heldStatus = (memory Snapshot.stamp log).held
  last : ∀ thread, channel.worker.thread = some thread →
    thread.lastStatusSequence.toNat = (memory Snapshot.stamp log).last
  legal : Throughout (Legal Snapshot.stamp) log

theorem tracks_silent {channel next : StatusChannel R} {log : List (Event R)}
    (tracks : Tracks channel log) (mailbox : SameMailbox channel.worker next.worker)
    (held : next.worker.heldStatus = channel.worker.heldStatus)
    (last : ∀ thread, next.worker.thread = some thread → ∃ earlier,
      channel.worker.thread = some earlier ∧
        thread.lastStatusSequence = earlier.lastStatusSequence) : Tracks next log := by
  refine ⟨mailbox.read.trans tracks.read, ?_, held.trans tracks.held, ?_, tracks.legal⟩
  · rw [mailbox.sequence]
    exact tracks.sequence
  · intro thread running
    obtain ⟨earlier, ran, same⟩ := last thread running
    rw [same]
    exact tracks.last earlier ran

/-- An event that leaves the mailbox alone. -/
theorem tracks_event {channel next : StatusChannel R} {log : List (Event R)} (event : Event R)
    (tracks : Tracks channel log) (mailbox : SameMailbox channel.worker next.worker)
    (unpublished : published [event] = [])
    (held : next.worker.heldStatus = ((memory Snapshot.stamp log).next Snapshot.stamp event).held)
    (last : ∀ thread, next.worker.thread = some thread →
      thread.lastStatusSequence.toNat =
        ((memory Snapshot.stamp log).next Snapshot.stamp event).last)
    (legal : Legal Snapshot.stamp log event) : Tracks next (log ++ [event]) := by
  have same : published (log ++ [event]) = published log := by
    rw [published_append, unpublished, List.append_nil]
  refine ⟨?_, ?_, ?_, ?_, (throughout_snoc _ _ _).mpr ⟨tracks.legal, legal⟩⟩
  · rw [same, mailbox.read]
    exact tracks.read
  · rw [same, mailbox.sequence]
    exact tracks.sequence
  · rw [memory_snoc]
    exact held
  · rw [memory_snoc]
    exact last

theorem tracks_start {channel : StatusChannel R} {log : List (Event R)}
    (tracks : Tracks channel log) :
    Tracks (channel.act .start).1 (log ++ (channel.act .start).2) := by
  cases running : channel.worker.thread with
  | some thread => simpa [act, PlcCommunicationWorker.start, running] using tracks
  | none =>
    simp only [act, PlcCommunicationWorker.start, running, Option.isNone_none, if_true]
    have idle : (memory Snapshot.stamp log).held = none := by
      rw [← tracks.held, PlcCommunicationWorker.heldStatus, running]
      rfl
    refine tracks_event .begin tracks ⟨rfl, rfl⟩ rfl rfl ?_ idle
    -- a new `run` has its own `last_status_sequence`
    intro thread started
    cases started
    rfl

theorem tracks_publish {channel : StatusChannel R} {log : List (Event R)}
    {status : PlcStatusData R} (tracks : Tracks channel log)
    (few : (published log).length + 1 < 2 ^ 64)
    (inside : channel.publishing = some status) :
    Tracks (channel.act .publish).1 (log ++ (channel.act .publish).2) := by
  let entry : Snapshot (PlcStatusData R) := ⟨status, channel.worker.statusMailbox.sequence + 1⟩
  have entered : published (log ++ [.publish entry]) = published log ++ [entry] :=
    published_append log _
  have stamp : (channel.worker.statusMailbox.sequence + 1).toNat = (published log).length + 1 :=
    count_succ tracks.sequence few
  simp only [act, inside]
  change Tracks _ (log ++ [.publish entry])
  constructor
  · rw [entered, List.getLast?_concat]
    rfl
  · rw [entered, List.length_append]
    exact stamp
  · rw [memory_snoc]
    exact tracks.held
  · intro thread running
    rw [memory_snoc]
    exact tracks.last thread running
  · exact (throughout_snoc _ _ _).mpr ⟨tracks.legal, stamp⟩

/-- The thread compares sequence numbers, the relay compares stamps. -/
theorem filter_sequence (entry : Option (Snapshot (PlcStatusData R))) (last : UInt64) :
    entry.filter (fun status => status.sequence ≠ last) =
      entry.filter fun status => status.stamp ≠ last.toNat := by
  have same : ∀ status : Snapshot (PlcStatusData R),
      status.sequence ≠ last ↔ status.stamp ≠ last.toNat :=
    fun status => not_congr UInt64.toNat_inj.symm
  simp only [same]

theorem tracks_work {channel : StatusChannel R} {log : List (Event R)}
    (answers : PlcCommunicationWorker.Answers R) (tracks : Tracks channel log) :
    Tracks (channel.act (.work answers)).1 (log ++ (channel.act (.work answers)).2) := by
  cases running : channel.worker.thread with
  | none =>
    have idle : channel.act (.work answers) = (channel, []) := by
      simp only [act, PlcCommunicationWorker.work, looks, PlcCommunicationWorker.point, running]
      rfl
    rw [idle, List.append_nil]
    exact tracks
  | some thread =>
    obtain ⟨later, ran, mailbox, effect⟩ := run_effect channel.worker thread running answers
    have step : channel.act (.work answers) =
        ({ channel with worker := (channel.worker.run thread answers).1 },
          looks channel.worker ++ writes (channel.worker.run thread answers).2) := by
      simp only [act, PlcCommunicationWorker.work, running]
    have holds : thread.point.status = (memory Snapshot.stamp log).held := by
      rw [← tracks.held, PlcCommunicationWorker.heldStatus, running]
      rfl
    have remembers := tracks.last thread running
    rw [step]
    generalize looks channel.worker ++ writes (channel.worker.run thread answers).2 = events
      at effect ⊢
    generalize (channel.worker.run thread answers).1 = worker at ran mailbox ⊢
    have held : worker.heldStatus = later.point.status := by
      rw [PlcCommunicationWorker.heldStatus, ran]
      rfl
    have only : ∀ other, worker.thread = some other → other = later := by
      intro other same
      rw [ran] at same
      exact (Option.some.inj same).symm
    cases effect with
    | silent before after same =>
      rw [List.append_nil]
      apply tracks_silent tracks mailbox
      · rw [held, after, tracks.held, ← holds, before]
      · intro other same
        rw [only other same]
        exact ⟨thread, running, by assumption⟩
    | look before after same =>
      apply tracks_event (.look _) tracks mailbox rfl
      · rw [held, after, filter_sequence, remembers]
        rfl
      · intro other running
        rw [only other running, same]
        exact remembers
      · exact ⟨holds.symm.trans before, tracks.read⟩
    | write status accepted before after same =>
      have legal : (memory Snapshot.stamp log).held = some status := holds.symm.trans before
      cases accepted with
      | true =>
        apply tracks_event (.forward status true) tracks mailbox rfl (held.trans after) ?_ legal
        intro other running
        rw [only other running, same]
        rfl
      | false =>
        apply tracks_event (.forward status false) tracks mailbox rfl (held.trans after) ?_ legal
        intro other running
        rw [only other running, same]
        exact remembers

theorem tracks_act {channel : StatusChannel R} {log : List (Event R)} (action : Action R)
    (tracks : Tracks channel log)
    (few : (published (log ++ (channel.act action).2)).length < 2 ^ 64) :
    Tracks (channel.act action).1 (log ++ (channel.act action).2) := by
  cases action with
  | start => exact tracks_start tracks
  | work answers => exact tracks_work answers tracks
  | requestStop =>
    rw [act, List.append_nil]
    refine tracks_silent tracks ⟨rfl, rfl⟩ channel.worker.heldStatus_requestStop ?_
    intro thread running
    obtain ⟨earlier, ran, same⟩ := Option.map_eq_some_iff.mp running
    rw [← same]
    exact ⟨earlier, ran, rfl⟩
  | join =>
    rw [act, List.append_nil]
    rcases channel.worker.join_cases with same | ⟨joined, finished⟩
    · rw [same]
      exact tracks
    · rw [joined]
      refine tracks_silent tracks ⟨rfl, rfl⟩ ?_ ?_
      -- a thread that has finished holds nothing
      · obtain ⟨thread, running, point⟩ := Option.map_eq_some_iff.mp finished
        rw [PlcCommunicationWorker.heldStatus, PlcCommunicationWorker.heldStatus, running,
          Option.bind_some, point]
        rfl
      · intro thread running
        cases running
  | tryPublish status lucky =>
    rw [act, List.append_nil]
    refine tracks_silent tracks ?_ rfl ?_
    · exact ⟨LatestValueMailbox.tryLock_read _ _, LatestValueMailbox.tryLock_sequence _ _⟩
    · intro thread running
      exact ⟨thread, running, rfl⟩
  | publish =>
    cases inside : channel.publishing with
    | none =>
      simp only [act, inside, List.append_nil]
      exact tracks
    | some status =>
      apply tracks_publish tracks ?_ inside
      simp only [act, inside, published_append, List.length_append] at few
      exact few

theorem tracks_run {configuration : PlcCommunicationWorker.Configuration}
    {worker : PlcCommunicationWorker R}
    (created : PlcCommunicationWorker.create configuration = .ok worker)
    (actions : List (Action R))
    (few : (published ((create worker).observe actions).2).length < 2 ^ 64) :
    Tracks ((create worker).observe actions).1 ((create worker).observe actions).2 := by
  obtain ⟨_, mailbox, thread⟩ := PlcCommunicationWorker.create_fresh created
  induction actions using List.reverseRecOn with
  | nil =>
    constructor
    · exact congrArg LatestValueMailbox.read mailbox
    · exact congrArg (fun mailbox => mailbox.sequence.toNat) mailbox
    · exact congrArg (fun thread => thread.bind fun thread => thread.point.status) thread
    · intro other running
      cases thread.symm.trans running
    · exact throughout_nil _
  | append_singleton actions action ih =>
    rw [observe, run_snoc] at few ⊢
    -- the publications of a run so far are among those of the longer run
    have earlier : (published ((create worker).observe actions).2).length < 2 ^ 64 := by
      simp only [logged, published_append, List.length_append] at few
      exact Nat.lt_of_le_of_lt (Nat.le_add_right _ _) few
    exact tracks_act action (ih earlier) few

/-- In every interleaving one run of the thread writes a strictly increasing part of the
published statuses, and no run goes back behind an earlier one. A status whose write
failed is attempted again, or a newer one is, as soon as the mailbox shows one. After the
last publication a new run writes at most the last status, and the run in progress at
most that one after a status it has found before. -/
theorem status_delivery (configuration : PlcCommunicationWorker.Configuration)
    (worker : PlcCommunicationWorker R)
    (created : PlcCommunicationWorker.create configuration = .ok worker)
    (actions : List (Action R))
    (few : (published ((create worker).observe actions).2).length < 2 ^ 64) :
    let log := ((create worker).observe actions).2
    let held := ((create worker).observe actions).1.worker.heldStatus
    (∀ before events after, log = before ++ .begin :: (events ++ after) → OneRun events →
      (forwarded events).Sublist (published log) ∧
        (forwarded events).Pairwise fun older newer => older.sequence < newer.sequence) ∧
    ((forwarded log).Pairwise fun older newer => older.sequence ≤ newer.sequence) ∧
    (∀ before quiet later status next,
      log = before ++ .forward status false :: (quiet ++ .look (some next) :: later) →
      OneRun quiet → Blind quiet → status.sequence ≤ next.sequence ∧ Attempts next held later) ∧
    (∀ before events after, log = before ++ .begin :: (events ++ after) → OneRun events →
      published events = [] →
      forwarded events = [] ∨
        ∃ status, (published before).getLast? = some status ∧ forwarded events = [status]) ∧
    ∀ before events after, log = before ++ (events ++ after) → OneRun events →
      published events = [] → ∃ early late, forwarded events = early ++ late ∧
        (early = [] ∨ ∃ status, (memory Snapshot.stamp before).held = some status ∧
          (published before).getLast? ≠ some status ∧ early = [status]) ∧
        (late = [] ∨ ∃ status, (published before).getLast? = some status ∧ late = [status]) := by
  intro log held
  have tracks := tracks_run created actions few
  have legal : Throughout (Legal Snapshot.stamp) log := tracks.legal
  have holds : held = (memory Snapshot.stamp log).held := tracks.held
  refine ⟨?_, ?_, ?_, ?_, ?_⟩
  · intro before events after split oneRun
    rw [split] at legal ⊢
    obtain ⟨chosen, increasing⟩ := forwarded_oneRun legal oneRun
    exact ⟨chosen, increasing.imp fun below => UInt64.lt_iff_toNat_lt.mpr below⟩
  · exact (forwarded_ordered legal).imp fun below => UInt64.le_iff_toNat_le.mpr below
  · intro before quiet later status next split oneRun blind
    rw [holds, split]
    rw [split] at legal
    obtain ⟨order, attempts⟩ := failed_retried legal oneRun blind
    exact ⟨UInt64.le_iff_toNat_le.mpr order, attempts⟩
  · intro before events after split oneRun unpublished
    have begun : before ++ .begin :: (events ++ after) = (before ++ [.begin] ++ events) ++ after := by
      simp
    rw [split, begun] at legal
    have once := forwarded_once (throughout_left legal) oneRun unpublished (current_begin before)
    rw [published_snoc] at once
    exact once
  · intro before events after split oneRun unpublished
    rw [split, ← List.append_assoc] at legal
    exact forwarded_tail (throughout_left legal) oneRun unpublished

/-- A fresh channel. -/
def demo : StatusChannel ℚ :=
  create
    { configuration := .initial
      commandMailbox := .initial
      statusMailbox := .initial
      thread := none
      connected := false
      statistics := ⟨0, 0, 0⟩ }

theorem demo_created : PlcCommunicationWorker.create .initial = .ok demo.worker := rfl

/-- A successful `try_publish_status`. -/
def report (heartbeat : UInt32) : List (Action ℚ) :=
  [.tryPublish ⟨0, 0, 0, 0, 0, heartbeat⟩ true, .publish]

/-- One step of the thread, with a PLC that answers everything but perhaps a write. -/
def serve (writes : Bool) : Action ℚ := .work ⟨true, some ⟨0, 0, 0, 0, 0⟩, true, writes⟩

/-- A first write fails, and the thread connects again and writes the newer status. -/
theorem status_delivery_retry :
    let log := (demo.observe (report 1 ++ .start :: (List.replicate 8 (serve false) ++ report 2 ++
      List.replicate 17 (serve true)))).2
    (forwarded log).map Snapshot.sequence = [2] ∧
      (forwarded log).Pairwise fun older newer => older.sequence ≤ newer.sequence := by
  have delivery := status_delivery .initial demo.worker demo_created
    (report 1 ++ .start :: (List.replicate 8 (serve false) ++ report 2 ++
      List.replicate 17 (serve true)))
    (by decide +kernel)
  exact ⟨by decide +kernel, delivery.2.1⟩

/-- The second publication falls between the look and the write, and both statuses are
written after it. -/
theorem written_after_last :
    ¬∀ (actions : List (Action ℚ)) (before events : List (Event ℚ)),
      (published (demo.observe actions).2).length < 2 ^ 64 →
      (demo.observe actions).2 = before ++ events → OneRun events → published events = [] →
      (forwarded events).length ≤ 1 := by
  intro claim
  let actions : List (Action ℚ) := report 1 ++ .start :: (List.replicate 7 (serve true) ++ report 2 ++
    List.replicate 10 (serve true))
  have once := claim actions ((demo.observe actions).2.take 4) ((demo.observe actions).2.drop 4)
    (by decide +kernel) (List.take_append_drop 4 _).symm (by decide +kernel) (by decide +kernel)
  exact absurd once (by decide +kernel)

end StatusChannel

end MotionBridge
