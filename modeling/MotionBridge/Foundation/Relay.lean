import MotionBridge.Foundation.History
import MotionBridge.Foundation.Sampling

/-!
# Relaying the latest entry of a log

A publisher appends entries to a log, stamped 1, 2, 3 and so on. A relay looks at the
last entry and forwards it, unless its stamp is that of the entry forwarded last.
Forwarding may fail, and a relay that begins anew has forwarded nothing.
-/
namespace Foundation

inductive RelayEvent (A : Type) where
  | begin
  | publish (entry : A)
  | look (entry : Option A)
  | forward (entry : A) (accepted : Bool)
  deriving DecidableEq, Repr

namespace Relay

variable {A : Type}

def published (log : List (RelayEvent A)) : List A :=
  log.filterMap fun
    | .publish entry => some entry
    | _ => none

/-- The entries forwarded with success. -/
def forwarded (log : List (RelayEvent A)) : List A :=
  log.filterMap fun
    | .forward entry true => some entry
    | _ => none

/-- Those among them that the relay has forwarded since it began. -/
def kept (log : List (RelayEvent A)) : List A :=
  log.foldl (fun kept event => match event with
    | .begin => []
    | .forward entry true => kept ++ [entry]
    | _ => kept) []

@[simp] theorem published_append (log events : List (RelayEvent A)) :
    published (log ++ events) = published log ++ published events := List.filterMap_append

@[simp] theorem forwarded_append (log events : List (RelayEvent A)) :
    forwarded (log ++ events) = forwarded log ++ forwarded events := List.filterMap_append

theorem published_snoc (log : List (RelayEvent A)) (event : RelayEvent A) :
    published (log ++ [event]) = match event with
      | .publish entry => published log ++ [entry]
      | _ => published log := by
  rw [published_append]
  cases event with
  | publish entry => rfl
  | begin | look entry | forward entry accepted => exact List.append_nil _

theorem forwarded_snoc (log : List (RelayEvent A)) (event : RelayEvent A) :
    forwarded (log ++ [event]) = match event with
      | .forward entry true => forwarded log ++ [entry]
      | _ => forwarded log := by
  rw [forwarded_append]
  cases event with
  | forward entry accepted =>
    cases accepted with
    | true => rfl
    | false => exact List.append_nil _
  | begin | look entry | publish entry => exact List.append_nil _

theorem kept_snoc (log : List (RelayEvent A)) (event : RelayEvent A) :
    kept (log ++ [event]) = match event with
      | .begin => []
      | .forward entry true => kept log ++ [entry]
      | _ => kept log := by
  rw [kept, List.foldl_append]
  rfl

/-- What a relay remembers: the entry it is about to forward, and the stamp it forwarded
last. -/
structure Memory (A : Type) where
  held : Option A
  last : ℕ

section Stamps

variable (stamp : A → ℕ)

def Memory.next (memory : Memory A) : RelayEvent A → Memory A
  | .begin => ⟨none, 0⟩
  | .publish _ => memory
  | .look entry => ⟨entry.filter fun entry => stamp entry ≠ memory.last, memory.last⟩
  | .forward entry true => ⟨none, stamp entry⟩
  | .forward _ false => ⟨none, memory.last⟩

def memory (log : List (RelayEvent A)) : Memory A := log.foldl (Memory.next stamp) ⟨none, 0⟩

theorem memory_snoc (log : List (RelayEvent A)) (event : RelayEvent A) :
    memory stamp (log ++ [event]) = (memory stamp log).next stamp event := by
  rw [memory, List.foldl_append]
  rfl

/-- A relay and a publisher that keep to the protocol. -/
def Legal (before : List (RelayEvent A)) : RelayEvent A → Prop
  | .begin => (memory stamp before).held = none
  | .publish entry => stamp entry = (published before).length + 1
  | .look entry => (memory stamp before).held = none ∧ entry = (published before).getLast?
  | .forward entry _ => (memory stamp before).held = some entry

/-- The stamps count the entries. -/
structure Counted (entries : List A) : Prop where
  increasing : Increasing stamp entries
  bounded : ∀ entry ∈ entries, 0 < stamp entry ∧ stamp entry ≤ entries.length
  latest : ∀ entry, entries.getLast? = some entry → stamp entry = entries.length

theorem counted_snoc {entries : List A} {entry : A} (counted : Counted stamp entries)
    (next : stamp entry = entries.length + 1) : Counted stamp (entries ++ [entry]) := by
  refine ⟨?_, ?_, ?_⟩
  · apply increasing_snoc counted.increasing
    intro other member
    have := (counted.bounded other member).2
    omega
  · intro other member
    rw [List.length_append, List.length_singleton]
    rcases List.mem_append.mp member with old | new
    · have := counted.bounded other old
      omega
    · rw [List.mem_singleton.mp new]
      omega
  · intro other last
    rw [List.getLast?_concat] at last
    cases last
    rw [next, List.length_append, List.length_singleton]

/-- How the entries, those kept, what the relay remembers and all that was ever forwarded
belong together. -/
structure Sound (entries kept : List A) (memory : Memory A) (forwarded : List A) : Prop where
  counted : Counted stamp entries
  sampled : Sampled entries kept memory.held
  last_eq : memory.last = kept.getLast?.elim 0 stamp
  newer : ∀ entry, memory.held = some entry → memory.last < stamp entry
  ordered : forwarded.Pairwise fun a b => stamp a ≤ stamp b
  known : ∀ entry ∈ forwarded, entry ∈ entries
  newest : ∀ entry, memory.held = some entry → ∀ other ∈ forwarded, stamp other ≤ stamp entry

variable {stamp} {entries kept forwarded : List A} {memory : Memory A}

theorem Sound.last_le (sound : Sound stamp entries kept memory forwarded) :
    memory.last ≤ entries.length := by
  rw [sound.last_eq]
  cases last : kept.getLast? with
  | none => exact Nat.zero_le _
  | some entry =>
    have member := sound.sampled.sublist.subset (List.mem_of_getLast? last)
    exact (sound.counted.bounded entry member).2

theorem sound_empty : Sound stamp [] [] ⟨none, 0⟩ [] :=
  ⟨⟨List.Pairwise.nil, nofun, nofun⟩, sampled_empty, rfl, nofun, List.Pairwise.nil, nofun, nofun⟩

theorem sound_begin (sound : Sound stamp entries kept memory forwarded) :
    Sound stamp entries [] ⟨none, 0⟩ forwarded :=
  ⟨sound.counted, ⟨List.nil_sublist _, nofun⟩, rfl, nofun, sound.ordered, sound.known, nofun⟩

theorem sound_publish {entry : A} (sound : Sound stamp entries kept memory forwarded)
    (next : stamp entry = entries.length + 1) :
    Sound stamp (entries ++ [entry]) kept memory forwarded :=
  ⟨counted_snoc stamp sound.counted next, sampled_publish entry sound.sampled, sound.last_eq,
    sound.newer, sound.ordered,
    fun other member => List.mem_append_left _ (sound.known other member), sound.newest⟩

/-- The relay drops what it holds. -/
theorem sound_drop (sound : Sound stamp entries kept memory forwarded) :
    Sound stamp entries kept ⟨none, memory.last⟩ forwarded :=
  ⟨sound.counted, sampled_drop sound.sampled, sound.last_eq, nofun, sound.ordered, sound.known,
    nofun⟩

theorem sound_look (sound : Sound stamp entries kept memory forwarded) :
    Sound stamp entries kept
      (memory.next stamp (.look entries.getLast?)) forwarded := by
  cases latest : entries.getLast? with
  | none => exact sound_drop sound
  | some entry =>
    by_cases same : stamp entry = memory.last
    · have dropped : memory.next stamp (.look (some entry)) = ⟨none, memory.last⟩ := by
        simp [Memory.next, same]
      rw [dropped]
      exact sound_drop sound
    · have taken : memory.next stamp (.look (some entry)) = ⟨some entry, memory.last⟩ := by
        simp [Memory.next, same]
      have count := sound.counted.latest entry latest
      rw [taken]
      refine ⟨sound.counted, sampled_look sound.sampled latest, sound.last_eq, ?_, sound.ordered,
        sound.known, ?_⟩
      · intro other held
        cases held
        have := sound.last_le
        change memory.last < _
        omega
      -- the last entry has the largest stamp
      · intro other held older member
        cases held
        rw [count]
        exact (sound.counted.bounded older (sound.known older member)).2

theorem sound_forward {entry : A} (sound : Sound stamp entries kept memory forwarded)
    (held : memory.held = some entry) :
    Sound stamp entries (kept ++ [entry]) ⟨none, stamp entry⟩ (forwarded ++ [entry]) := by
  have sampled := sound.sampled
  rw [held] at sampled
  have fresh : kept.getLast? ≠ some entry := by
    intro again
    have older := sound.newer entry held
    rw [sound.last_eq, again] at older
    exact absurd older (Nat.lt_irrefl (stamp entry))
  refine ⟨sound.counted, sampled_keep sampled fresh, ?_, nofun, ?_, ?_, nofun⟩
  · rw [List.getLast?_concat]
    rfl
  · rw [List.pairwise_append]
    refine ⟨sound.ordered, List.pairwise_singleton _ _, ?_⟩
    intro other member last isLast
    rw [List.mem_singleton.mp isLast]
    exact sound.newest entry held other member
  · intro other member
    rcases List.mem_append.mp member with old | new
    · exact sound.known other old
    · rw [List.mem_singleton.mp new]
      exact (sampled.pending entry rfl).1

/-- Every legal log leaves sound records. -/
theorem sound_of_legal (log : List (RelayEvent A)) (legal : Throughout (Legal stamp) log) :
    Sound stamp (published log) (Relay.kept log) (Relay.memory stamp log) (Relay.forwarded log) := by
  induction log using List.reverseRecOn with
  | nil => exact sound_empty
  | append_singleton log event ih =>
    obtain ⟨before, here⟩ := (throughout_snoc _ log event).mp legal
    have sound := ih before
    rw [published_snoc, forwarded_snoc, kept_snoc, memory_snoc]
    cases event with
    | begin => exact sound_begin sound
    | publish entry => exact sound_publish sound here
    | look entry =>
      obtain ⟨_, rfl⟩ := here
      exact sound_look sound
    | forward entry accepted =>
      cases accepted with
      | true => exact sound_forward sound here
      | false => exact sound_drop sound

/-! What a legal log says about the order of what was forwarded. -/

/-- A stretch of a log in which the relay does not begin anew. -/
def OneRun (events : List (RelayEvent A)) : Prop := .begin ∉ events

instance [DecidableEq A] (events : List (RelayEvent A)) : Decidable (OneRun events) :=
  inferInstanceAs (Decidable (.begin ∉ events))

theorem kept_oneRun (before events : List (RelayEvent A)) (oneRun : OneRun events) :
    Relay.kept (before ++ events) = Relay.kept before ++ Relay.forwarded events := by
  induction events using List.reverseRecOn with
  | nil => simp [Relay.forwarded]
  | append_singleton events event ih =>
    have earlier : OneRun events := fun member => oneRun (List.mem_append_left _ member)
    rw [← List.append_assoc, kept_snoc, ih earlier, forwarded_snoc]
    cases event with
    | begin => exact absurd (List.mem_append_right _ (List.mem_singleton_self _)) oneRun
    | publish entry | look entry => rfl
    | forward entry accepted =>
      cases accepted with
      | true => simp
      | false => rfl

/-- Within one run the relay forwards a strictly increasing part of what was published. -/
theorem forwarded_oneRun {before events after : List (RelayEvent A)}
    (legal : Throughout (Legal stamp) (before ++ .begin :: (events ++ after)))
    (oneRun : OneRun events) :
    (Relay.forwarded events).Sublist (published (before ++ .begin :: (events ++ after))) ∧
      Increasing stamp (Relay.forwarded events) := by
  have split : before ++ .begin :: (events ++ after) = (before ++ [.begin] ++ events) ++ after := by
    simp
  rw [split] at legal ⊢
  have sound := sound_of_legal _ (throughout_left legal)
  have same : Relay.kept (before ++ [.begin] ++ events) = Relay.forwarded events := by
    rw [kept_oneRun _ _ oneRun, kept_snoc]
    rfl
  have sublist := sound.sampled.sublist
  rw [same] at sublist
  refine ⟨sublist.trans ?_, sound.counted.increasing.sublist sublist⟩
  rw [published_append _ after]
  exact List.sublist_append_left _ _

/-- Over all runs the order never goes backwards. -/
theorem forwarded_ordered {log : List (RelayEvent A)} (legal : Throughout (Legal stamp) log) :
    (Relay.forwarded log).Pairwise fun a b => stamp a ≤ stamp b :=
  (sound_of_legal log legal).ordered

/-- A stretch in which only the publisher acts. -/
def Waiting (events : List (RelayEvent A)) : Prop := ∀ event ∈ events, ∃ entry, event = .publish entry

/-- The next thing the relay does is to forward `entry`. As long as it has not, it is what
the relay holds. -/
def Attempts (entry : A) (held : Option A) (events : List (RelayEvent A)) : Prop :=
  (Waiting events ∧ held = some entry) ∨
    ∃ waiting accepted rest, events = waiting ++ .forward entry accepted :: rest ∧ Waiting waiting

theorem attempts_publish {entry other : A} {held : Option A} {events : List (RelayEvent A)}
    (attempts : Attempts entry held events) : Attempts entry held (.publish other :: events) := by
  have longer : ∀ waiting : List (RelayEvent A), Waiting waiting →
      Waiting (.publish other :: waiting) :=
    fun _ waits => List.forall_mem_cons.mpr ⟨⟨other, rfl⟩, waits⟩
  rcases attempts with ⟨waits, holds⟩ | ⟨waiting, accepted, rest, rfl, waits⟩
  · exact Or.inl ⟨longer events waits, holds⟩
  · exact Or.inr ⟨.publish other :: waiting, accepted, rest, rfl, longer waiting waits⟩

theorem attempts_of_held (before events : List (RelayEvent A)) {entry : A}
    (legal : Throughout (Legal stamp) (before ++ events))
    (held : (Relay.memory stamp before).held = some entry) :
    Attempts entry (Relay.memory stamp (before ++ events)).held events := by
  induction events generalizing before with
  | nil =>
    rw [List.append_nil]
    exact Or.inl ⟨nofun, held⟩
  | cons event events ih =>
    have here := legal before event events rfl
    cases event with
    | publish other =>
      have split : before ++ .publish other :: events = before ++ [.publish other] ++ events := by
        simp
      rw [split] at legal ⊢
      refine attempts_publish (ih (before ++ [.publish other]) legal ?_)
      rw [memory_snoc]
      exact held
    | forward other accepted =>
      rw [Legal, held] at here
      cases here
      exact Or.inr ⟨[], accepted, events, rfl, nofun⟩
    -- a relay that holds an entry neither begins nor looks
    | begin =>
      rw [Legal, held] at here
      cases here
    | look other =>
      rw [Legal, held] at here
      cases here.1

/-- A stretch in which the relay does not get to see an entry. -/
def Blind (events : List (RelayEvent A)) : Prop := ∀ entry, .look (some entry) ∉ events

theorem memory_blind {before events : List (RelayEvent A)}
    (legal : Throughout (Legal stamp) (before ++ events)) (oneRun : OneRun events)
    (blind : Blind events) (empty : (Relay.memory stamp before).held = none) :
    Relay.memory stamp (before ++ events) = Relay.memory stamp before := by
  induction events using List.reverseRecOn with
  | nil => rw [List.append_nil]
  | append_singleton events event ih =>
    rw [← List.append_assoc] at legal ⊢
    obtain ⟨earlier, here⟩ := (throughout_snoc _ _ _).mp legal
    have same := ih earlier (fun member => oneRun (List.mem_append_left _ member))
      fun entry member => blind entry (List.mem_append_left _ member)
    rw [memory_snoc, same]
    have last : event ∈ events ++ [event] := List.mem_append_right _ (List.mem_singleton_self _)
    cases event with
    | begin => exact absurd last oneRun
    | publish entry => rfl
    | look entry =>
      cases entry with
      | some entry => exact absurd last (blind entry)
      | none =>
        have nothing : (Relay.memory stamp before).next stamp (.look none) =
            ⟨none, (Relay.memory stamp before).last⟩ := rfl
        rw [nothing, ← empty]
    | forward entry accepted =>
      rw [Legal, same, empty] at here
      cases here

/-- An entry whose forwarding failed stays pending: the next look of that run that shows
an entry leads to an attempt with this one or a newer one. -/
theorem failed_retried {before quiet later : List (RelayEvent A)} {entry next : A}
    (legal : Throughout (Legal stamp)
      (before ++ .forward entry false :: (quiet ++ .look (some next) :: later)))
    (oneRun : OneRun quiet) (blind : Blind quiet) :
    stamp entry ≤ stamp next ∧
      Attempts next (Relay.memory stamp
        (before ++ .forward entry false :: (quiet ++ .look (some next) :: later))).held later := by
  have failing : (Relay.memory stamp before).held = some entry := legal before _ _ rfl
  have sound := sound_of_legal before (throughout_left legal)
  have split : before ++ .forward entry false :: (quiet ++ .look (some next) :: later) =
      (before ++ [.forward entry false] ++ quiet) ++ .look (some next) :: later := by simp
  rw [split] at legal ⊢
  have failed : Relay.memory stamp (before ++ [.forward entry false]) =
      ⟨none, (Relay.memory stamp before).last⟩ := by
    rw [memory_snoc]
    rfl
  -- nothing is forgotten until the relay looks again
  have remembers := memory_blind (throughout_left legal) oneRun blind (by rw [failed])
  rw [failed] at remembers
  have latest := (legal _ _ later rfl).2
  have count := (sound_of_legal _ (throughout_left legal)).counted.latest next latest.symm
  have order : stamp entry ≤ stamp next := by
    have old := (sound.counted.bounded entry (sound.sampled.pending entry failing).1).2
    rw [count]
    simp only [published_append, List.length_append]
    omega
  refine ⟨order, ?_⟩
  have newer := sound.newer entry failing
  rw [List.append_cons] at legal ⊢
  apply attempts_of_held _ _ legal
  · have fresh : stamp next ≠ (Relay.memory stamp before).last := by omega
    rw [memory_snoc, remembers]
    simp [Memory.next, fresh]

/-- What the relay holds is the entry published last. -/
def Current (stamp : A → ℕ) (log : List (RelayEvent A)) : Prop :=
  ∀ entry, (Relay.memory stamp log).held = some entry → (published log).getLast? = some entry

theorem current_begin (log : List (RelayEvent A)) : Current stamp (log ++ [.begin]) := by
  intro entry held
  rw [memory_snoc] at held
  cases held

theorem current_forward (log : List (RelayEvent A)) (entry : A) (accepted : Bool) :
    Current stamp (log ++ [.forward entry accepted]) := by
  intro other held
  rw [memory_snoc] at held
  cases accepted with
  | true => cases held
  | false => cases held

/-- Nothing is forwarded since `before`, or the relay knows the last entry as forwarded. -/
def Stage (stamp : A → ℕ) (before events : List (RelayEvent A)) : Prop :=
  (Relay.forwarded events = [] ∧ Current stamp (before ++ events)) ∨
    ∃ entry, (published before).getLast? = some entry ∧ Relay.forwarded events = [entry] ∧
      Relay.memory stamp (before ++ events) = ⟨none, stamp entry⟩

theorem stage_look {before events : List (RelayEvent A)} (unpublished : published events = [])
    (stage : Stage stamp before events) :
    Stage stamp before (events ++ [.look (published before).getLast?]) := by
  rw [Stage, ← List.append_assoc, forwarded_snoc, memory_snoc]
  rcases stage with ⟨nothing, _⟩ | ⟨entry, latest, once, known⟩
  · refine Or.inl ⟨nothing, ?_⟩
    intro entry held
    rw [memory_snoc] at held
    have latest := (Option.filter_eq_some_iff.mp held).1
    rw [published_snoc, published_append, unpublished, List.append_nil]
    exact latest
  · refine Or.inr ⟨entry, latest, once, ?_⟩
    rw [known, latest]
    simp [Memory.next]

theorem stage_forward {before events : List (RelayEvent A)} {entry : A} (accepted : Bool)
    (unpublished : published events = []) (stage : Stage stamp before events)
    (held : (Relay.memory stamp (before ++ events)).held = some entry) :
    Stage stamp before (events ++ [.forward entry accepted]) := by
  rw [Stage, ← List.append_assoc, forwarded_snoc, memory_snoc]
  rcases stage with ⟨nothing, current⟩ | ⟨_, _, _, known⟩
  · have latest := current entry held
    rw [published_append, unpublished, List.append_nil] at latest
    cases accepted with
    | true => exact Or.inr ⟨entry, latest, by simp [nothing], rfl⟩
    | false => exact Or.inl ⟨nothing, current_forward _ entry false⟩
  · rw [known] at held
    cases held

/-- After the last publication a relay that is up to date forwards at most that entry, and
at most once. -/
theorem forwarded_once {before events : List (RelayEvent A)}
    (legal : Throughout (Legal stamp) (before ++ events)) (oneRun : OneRun events)
    (unpublished : published events = []) (current : Current stamp before) :
    Relay.forwarded events = [] ∨
      ∃ entry, (published before).getLast? = some entry ∧ Relay.forwarded events = [entry] := by
  have stage : Stage stamp before events := by
    induction events using List.reverseRecOn with
    | nil => exact Or.inl ⟨rfl, by rwa [List.append_nil]⟩
    | append_singleton events event ih =>
      rw [← List.append_assoc] at legal
      rw [published_append, List.append_eq_nil_iff] at unpublished
      obtain ⟨earlier, here⟩ := (throughout_snoc _ _ _).mp legal
      have stage := ih earlier (fun member => oneRun (List.mem_append_left _ member)) unpublished.1
      cases event with
      | begin => exact absurd (List.mem_append_right _ (List.mem_singleton_self _)) oneRun
      | publish entry => cases unpublished.2
      | look entry =>
        rw [here.2, published_append, unpublished.1, List.append_nil]
        exact stage_look unpublished.1 stage
      | forward entry accepted => exact stage_forward accepted unpublished.1 stage here
  rcases stage with ⟨nothing, _⟩ | ⟨entry, latest, once, _⟩
  · exact Or.inl nothing
  · exact Or.inr ⟨entry, latest, once⟩

/-- In the general case an older entry that the relay still holds goes first. -/
theorem forwarded_tail {before events : List (RelayEvent A)}
    (legal : Throughout (Legal stamp) (before ++ events)) (oneRun : OneRun events)
    (unpublished : published events = []) :
    ∃ early late, Relay.forwarded events = early ++ late ∧
      (early = [] ∨ ∃ entry, (Relay.memory stamp before).held = some entry ∧
        (published before).getLast? ≠ some entry ∧ early = [entry]) ∧
      (late = [] ∨ ∃ entry, (published before).getLast? = some entry ∧ late = [entry]) := by
  by_cases current : Current stamp before
  · exact ⟨[], _, rfl, Or.inl rfl, forwarded_once legal oneRun unpublished current⟩
  · obtain ⟨entry, other⟩ := not_forall.mp current
    obtain ⟨held, old⟩ := Classical.not_imp.mp other
    cases events with
    | nil => exact ⟨[], [], rfl, Or.inl rfl, Or.inl rfl⟩
    | cons event events =>
      have here := legal before event events rfl
      cases event with
      | begin => exact absurd (List.mem_cons_self ..) oneRun
      | publish next => cases unpublished
      | look next =>
        rw [Legal, held] at here
        cases here.1
      | forward next accepted =>
        rw [Legal, held] at here
        cases here
        have split : before ++ .forward entry accepted :: events =
            before ++ [.forward entry accepted] ++ events := by simp
        rw [split] at legal
        have later : OneRun events := fun member => oneRun (List.mem_cons_of_mem _ member)
        have rest := forwarded_once legal later unpublished (current_forward before entry accepted)
        rw [published_snoc] at rest
        cases accepted with
        | true => exact ⟨[entry], _, rfl, Or.inr ⟨entry, held, old, rfl⟩, rest⟩
        | false => exact ⟨[], _, rfl, Or.inl rfl, rest⟩

end Stamps

end Relay

end Foundation
