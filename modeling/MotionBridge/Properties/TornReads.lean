import Mathlib.Tactic.IntervalCases
import MotionBridge.Foundation.Rounds
import MotionBridge.Properties.OpcUaLink

/-!
# Torn reads

`read_command` reads five nodes with five requests, and the PLC program goes on storing in
between. What it returns may belong to several commands.
-/
namespace MotionBridge

open Foundation

/-- The fields of several commands, each from the one with its number. -/
def PlcCommandData.mixed {R : Type} (commands : ℕ → PlcCommandData R) (numbers : ℕ → ℕ) :
    PlcCommandData R where
  controlWord := (commands (numbers 0)).controlWord
  targetPositionRad := (commands (numbers 1)).targetPositionRad
  maxVelocityRadS := (commands (numbers 2)).maxVelocityRadS
  maxAccelerationRadS2 := (commands (numbers 3)).maxAccelerationRadS2
  heartbeat := (commands (numbers 4)).heartbeat

theorem PlcCommandData.mixed_whole {R : Type} (commands : ℕ → PlcCommandData R) {numbers : ℕ → ℕ}
    {number : ℕ} (same : ∀ request < 5, numbers request = number) :
    PlcCommandData.mixed commands numbers = commands number := by
  simp only [mixed, same 0 (by decide), same 1 (by decide), same 2 (by decide), same 3 (by decide),
    same 4 (by decide)]

namespace OpcUaPlc

variable {R : Type}

/-- A PLC program that sets one command after the other, node by node. `order` is the order in
which it stores the nodes of each. -/
structure NodeProgram (R : Type) (nodes : OpcUaNodeMap) where
  commands : ℕ → PlcCommandData R
  order : List NodeId
  complete : order.Perm (commandNodes nodes)

theorem readNodes_congr (nodes : OpcUaNodeMap) {answers others : ℕ → NodeId → ReadAnswer R}
    (same : ∀ request node, (commandNodes nodes)[request]? = some node →
      answers request node = others request node) :
    readNodes nodes answers = readNodes nodes others := by
  simp only [readNodes, readScalar, same 0 _ rfl, same 1 _ rfl, same 2 _ rfl, same 3 _ rfl,
    same 4 _ rfl]

/-- Each node of a mixed command is set as in the command its field is from. -/
theorem commandValues_mixed (nodes : OpcUaNodeMap) (distinct : (commandNodes nodes).Nodup)
    (commands : ℕ → PlcCommandData R) (numbers : ℕ → ℕ) {request : ℕ} {node : NodeId}
    (here : (commandNodes nodes)[request]? = some node) :
    commandValues nodes (.mixed commands numbers) node =
      commandValues nodes (commands (numbers request)) node := by
  have all := commandValues_nodes nodes distinct (.mixed commands numbers)
  have one := commandValues_nodes nodes distinct (commands (numbers request))
  simp only [commandNodes, List.map_cons, List.map_nil, List.zip_cons_cons, List.zip_nil_right,
    List.forall_mem_cons] at all one
  obtain ⟨word, target, velocity, acceleration, heartbeat, _⟩ := all
  obtain ⟨word', target', velocity', acceleration', heartbeat', _⟩ := one
  have inside : request < 5 := (List.getElem?_eq_some_iff.mp here).1
  interval_cases request
  · cases here
    exact word.trans word'.symm
  · cases here
    exact target.trans target'.symm
  · cases here
    exact velocity.trans velocity'.symm
  · cases here
    exact acceleration.trans acceleration'.symm
  · cases here
    exact heartbeat.trans heartbeat'.symm

namespace NodeProgram

variable {nodes : OpcUaNodeMap} (program : NodeProgram R nodes)

/-- The nodes after so many stores. -/
def values : ℕ → NodeId → Option (Scalar R) :=
  rewritten program.order fun number => commandValues nodes (program.commands number)

/-- The calls of `read_command` make five requests each. `moments` tells how many stores come
before each of them, `codes` what becomes of it. -/
def reads (codes : ℕ → StatusCode) (moments : ℕ → ℕ) (call : ℕ) : Option (PlcCommandData R) :=
  readNodes nodes fun request node =>
    ⟨codes (5 * call + request), program.values (moments (5 * call + request)) node⟩

/-- Where in its order the program stores the node of a request. -/
def place (request : ℕ) : ℕ :=
  ((commandNodes nodes)[request % 5]?).elim 0 program.order.idxOf

/-- The number of the command that a request shows. -/
def number (moments : ℕ → ℕ) (request : ℕ) : ℕ := rounds 5 (program.place request) (moments request)

theorem order_length : program.order.length = 5 := program.complete.length_eq

theorem order_nodup (distinct : (commandNodes nodes).Nodup) : program.order.Nodup :=
  program.complete.nodup_iff.mpr distinct

theorem place_lt (request : ℕ) : program.place request < 5 := by
  have turn : request % 5 < (commandNodes nodes).length := Nat.mod_lt _ (by decide)
  have member : (commandNodes nodes)[request % 5] ∈ program.order :=
    program.complete.mem_iff.mpr (List.getElem_mem turn)
  rw [place, List.getElem?_eq_getElem turn]
  exact (List.idxOf_lt_length_of_mem member).trans_eq program.order_length

/-- A program that stores the nodes in the order opposite to that of the requests. -/
theorem place_backward (distinct : (commandNodes nodes).Nodup)
    (backward : program.order = (commandNodes nodes).reverse) (call request : ℕ)
    (inside : request < 5) : program.place (5 * call + request) = 4 - request := by
  have turn : (5 * call + request) % 5 = request := by omega
  have read : request < (commandNodes nodes).length := inside
  have last : 4 - request < (commandNodes nodes).reverse.length :=
    List.length_reverse.symm ▸ Nat.lt_succ_of_le (Nat.sub_le 4 request)
  have stored : (commandNodes nodes).reverse[4 - request] = (commandNodes nodes)[request] := by
    rw [List.getElem_reverse]
    congr 1
    change 5 - 1 - (4 - request) = request
    omega
  rw [place, turn, List.getElem?_eq_getElem read, Option.elim_some, backward, ← stored]
  exact (List.nodup_reverse.mpr distinct).idxOf_getElem _ last

/-- What a request finds in its node. -/
theorem values_node (distinct : (commandNodes nodes).Nodup) (moments : ℕ → ℕ) (call request : ℕ)
    (inside : request < 5) (node : NodeId) (here : (commandNodes nodes)[request]? = some node) :
    program.values (moments (5 * call + request)) node =
      commandValues nodes (program.commands (program.number moments (5 * call + request))) node := by
  have turn : (5 * call + request) % 5 = request := by omega
  have member : node ∈ program.order := program.complete.mem_iff.mpr (List.mem_of_getElem? here)
  rw [values, rewritten_eq (program.order_nodup distinct) _ member, program.order_length, number,
    place, turn, here, Option.elim_some]

/-- A call returns what its requests have shown, unless one of them fails. -/
theorem reads_eq (distinct : (commandNodes nodes).Nodup) (codes : ℕ → StatusCode)
    (moments : ℕ → ℕ) (call : ℕ) :
    program.reads codes moments call =
      if (List.range 5).all fun request => decide (codes (5 * call + request) = good) then
        some (.mixed program.commands fun request => program.number moments (5 * call + request))
      else none := by
  -- as if the nodes held the mixed command during the whole call
  let seen := commandValues nodes
    (.mixed program.commands fun request => program.number moments (5 * call + request))
  have whole : readNodes nodes (fun request node => ⟨codes (5 * call + request), seen node⟩) =
      if (List.range 5).all fun request => decide (codes (5 * call + request) = good) then
        commandIn nodes seen
      else none := readNodes_served nodes fun _ _ _ => rfl
  rw [commandIn_values nodes distinct] at whole
  refine Eq.trans (readNodes_congr nodes ?_) whole
  intro request node here
  have inside : request < 5 := (List.getElem?_eq_some_iff.mp here).1
  have shown : seen node = commandValues nodes
      (program.commands (program.number moments (5 * call + request))) node :=
    commandValues_mixed nodes distinct program.commands _ here
  rw [program.values_node distinct moments call request inside node here, shown]

end NodeProgram

/-- The calls of `read_command`, any number of them, while a PLC program sets one command after the
other, node by node in any order. A command that is returned is mixed of those: each field is
from one that was begun when it was read, and no older than the last that was complete. A field
read later is from a command at most one before that of a field read earlier, and from none
before it if the program stores its node first. If the program stores the nodes in the opposite
order, a command is whole once its first and last fields go together. -/
theorem torn_reads (nodes : OpcUaNodeMap) (distinct : (commandNodes nodes).Nodup)
    (program : NodeProgram R nodes) (codes : ℕ → StatusCode) (moments : ℕ → ℕ)
    (forward : ∀ before after, before ≤ after → moments before ≤ moments after) :
    let numbers := program.number moments
    (∀ call, program.reads codes moments call =
      if (List.range 5).all fun request => decide (codes (5 * call + request) = good) then
        some (.mixed program.commands fun request => numbers (5 * call + request))
      else none) ∧
    (∀ request, moments request / 5 ≤ numbers request ∧
      numbers request ≤ (moments request + 4) / 5) ∧
    (∀ before after, before ≤ after → numbers before ≤ numbers after + 1 ∧
      (program.place after ≤ program.place before → numbers before ≤ numbers after)) ∧
    (program.order = (commandNodes nodes).reverse → ∀ call,
      numbers (5 * call) = numbers (5 * call + 4) → ∀ command,
        program.reads codes moments call = some command →
          command = program.commands (numbers (5 * call))) := by
  intro numbers
  have ordered : ∀ before after, before ≤ after → numbers before ≤ numbers after + 1 ∧
      (program.place after ≤ program.place before → numbers before ≤ numbers after) :=
    fun before after later => rounds_later (program.place_lt before) (forward before after later)
  refine ⟨program.reads_eq distinct codes moments, ?_, ordered, ?_⟩
  · intro request
    exact ⟨completed_le_rounds _ _ _, rounds_le_begun _ _ _⟩
  · intro backward call whole command returned
    -- the first and the last of five numbers in order are the same
    have same : ∀ request < 5, numbers (5 * call + request) = numbers (5 * call) := by
      intro request inside
      have here := program.place_backward distinct backward call request inside
      have first : program.place (5 * call) = 4 :=
        program.place_backward distinct backward call 0 (by decide)
      have last : program.place (5 * call + 4) = 0 :=
        program.place_backward distinct backward call 4 (by decide)
      have low := (ordered (5 * call) (5 * call + request) (by omega)).2 (by omega)
      have high := (ordered (5 * call + request) (5 * call + 4) (by omega)).2 (by omega)
      omega
    rw [program.reads_eq distinct] at returned
    split at returned
    swap
    · cases returned
    rw [← Option.some.inj returned]
    exact PlcCommandData.mixed_whole program.commands same

/-- A PLC that counts its commands, and stores the heartbeat of each first. -/
def counting : NodeProgram ℚ database.nodes where
  commands number := ⟨0x23, number, 1, 1, .ofNat number⟩
  order := (commandNodes database.nodes).reverse
  complete := List.reverse_perm _

/-- With two stores between requests, the second command comes with the heartbeat of the third. -/
theorem torn_reads_counting :
    counting.reads (fun _ => good) (fun request => 2 * request) 0 =
      some (.mixed counting.commands fun request => [0, 0, 1, 1, 2].getD request 0) ∧
    counting.number (fun request => 2 * request) 0 ≤
      counting.number (fun request => 2 * request) 4 := by
  have torn := torn_reads database.nodes (by decide +kernel) counting (fun _ => good)
    (fun request => 2 * request) (fun _ _ later => Nat.mul_le_mul_left 2 later)
  refine ⟨by decide +kernel, (torn.2.2.1 0 4 (by decide)).2 (by decide +kernel)⟩

end OpcUaPlc

end MotionBridge
