import MotionBridge.Communication.S7DbLayout
import MotionBridge.Foundation.Text
import MotionBridge.Interfaces.PlcInterface

/-!
# The Siemens adapter

The client library is no part of the program, so it is a parameter, with what it documents
of its calls as a hypothesis. `Station` is one library of which that holds.
-/
namespace MotionBridge

open Foundation

/-- What the adapter uses of snap7. `Net` is all that the library and the network keep. A
result of zero is a success, and a `std::array` goes in and out with its size. -/
structure Snap7 (Net : Type) where
  connectTo : Net → (address : Text) → (rack slot : Int) → Net × Int
  disconnect : Net → Net
  dbRead : Net → (dbNumber : Int) → (start size : Nat) → Net × Int × Vector UInt8 size
  dbWrite : {size : Nat} → Net → (dbNumber : Int) → (start : Nat) → Vector UInt8 size → Net × Int
  errorText : Int → String

structure S7Plc.Configuration where
  address : Text
  rack : Int
  slot : Int
  dbNumber : Int
  deriving DecidableEq, Repr

/-- `Configuration{}`. -/
def S7Plc.Configuration.initial : S7Plc.Configuration := ⟨"192.168.10.1".toList, 0, 1, 2⟩

structure S7Plc where
  configuration : S7Plc.Configuration
  connected : Bool
  error : String
  deriving DecidableEq, Repr

namespace S7Plc

section Source

variable {R Net : Type} (snap7 : Snap7 Net)

def create (configuration : Configuration) : S7Plc := ⟨configuration, false, ""⟩

def connect (plc : S7Plc) (net : Net) : (S7Plc × Net) × Bool :=
  let (net, result) := snap7.connectTo net (plc.configuration.address.before (Char.ofNat 0))
    plc.configuration.rack plc.configuration.slot
  if result ≠ 0 then
    (({ plc with
        connected := false
        error := "S7 connection failed: " ++ snap7.errorText result }, net), false)
  else (({ plc with connected := true, error := "" }, net), true)

/-- The error text stays. -/
def disconnect (plc : S7Plc) (net : Net) : S7Plc × Net :=
  if plc.connected then ({ plc with connected := false }, snap7.disconnect net) else (plc, net)

def readCommand (bitCast : UInt64 → R) (plc : S7Plc) (net : Net) :
    (S7Plc × Net) × Option (PlcCommandData R) :=
  if !plc.connected then (({ plc with error := "S7 client is not connected" }, net), none)
  else
    let (net, result, bytes) := snap7.dbRead net plc.configuration.dbNumber
      S7DbLayout.commandOffset S7DbLayout.commandSize
    if result ≠ 0 then
      (({ plc with error := "DB read failed: " ++ snap7.errorText result }, net), none)
    else (({ plc with error := "" }, net), some (S7DbLayout.decodeCommand bitCast bytes))

def writeStatus (bitCast : R → UInt64) (plc : S7Plc) (net : Net) (status : PlcStatusData R) :
    (S7Plc × Net) × Bool :=
  if !plc.connected then (({ plc with error := "S7 client is not connected" }, net), false)
  else
    let bytes := S7DbLayout.encodeStatus bitCast status
    let (net, result) := snap7.dbWrite net plc.configuration.dbNumber S7DbLayout.statusOffset bytes
    if result ≠ 0 then
      (({ plc with error := "DB write failed: " ++ snap7.errorText result }, net), false)
    else (({ plc with error := "" }, net), true)

def lastError (plc : S7Plc) : String := plc.error

def answer (bits : R ≃ UInt64) : IPlcInterface R (S7Plc × Net)
  | (plc, net), .connect => plc.connect snap7 net
  | (plc, net), .disconnect => (plc.disconnect snap7 net, ())
  | (plc, net), .readCommand => plc.readCommand snap7 bits.symm net
  | (plc, net), .writeStatus status => plc.writeStatus snap7 bits net status

end Source

/-- The data blocks of a PLC, each as long as the layout says. -/
abbrev Blocks := Int → Vector UInt8 S7DbLayout.totalSize

namespace Blocks

def put {size : Nat} (blocks : Blocks) (dbNumber : Int) (start : Nat) (bytes : Vector UInt8 size) :
    Blocks :=
  Function.update blocks dbNumber (splice (blocks dbNumber) start bytes.toList)

def commandBytes (blocks : Blocks) (dbNumber : Int) : S7DbLayout.CommandBuffer :=
  window (blocks dbNumber) S7DbLayout.commandOffset S7DbLayout.commandSize

def statusBytes (blocks : Blocks) (dbNumber : Int) : S7DbLayout.StatusBuffer :=
  window (blocks dbNumber) S7DbLayout.statusOffset S7DbLayout.statusSize

/-! The two halves of a data block do not overlap. -/

variable (blocks : Blocks) (dbNumber : Int)

theorem command_commandBytes (bytes : S7DbLayout.CommandBuffer) :
    (blocks.put dbNumber S7DbLayout.commandOffset bytes).commandBytes dbNumber = bytes := by
  simp only [commandBytes, put, Function.update_self]
  exact window_splice_same _ _ bytes (by decide)

theorem command_statusBytes (bytes : S7DbLayout.CommandBuffer) :
    (blocks.put dbNumber S7DbLayout.commandOffset bytes).statusBytes dbNumber =
      blocks.statusBytes dbNumber := by
  simp only [statusBytes, put, Function.update_self]
  exact window_splice_other _ _ _ _ bytes (by decide) (by decide)

theorem status_statusBytes (bytes : S7DbLayout.StatusBuffer) :
    (blocks.put dbNumber S7DbLayout.statusOffset bytes).statusBytes dbNumber = bytes := by
  simp only [statusBytes, put, Function.update_self]
  exact window_splice_same _ _ bytes (by decide)

theorem status_commandBytes (bytes : S7DbLayout.StatusBuffer) :
    (blocks.put dbNumber S7DbLayout.statusOffset bytes).commandBytes dbNumber =
      blocks.commandBytes dbNumber := by
  simp only [commandBytes, put, Function.update_self]
  exact window_splice_other _ _ _ _ bytes (by decide) (by decide)

theorem put_elsewhere {size : Nat} {other : Int} (start : Nat) (bytes : Vector UInt8 size)
    (different : other ≠ dbNumber) : (blocks.put dbNumber start bytes) other = blocks other :=
  Function.update_of_ne different _ _

end Blocks

end S7Plc

open S7Plc (Blocks)

/-- What snap7 documents of its calls, as far as the data blocks go: a read whose result is
zero returns what is there, and a write whose result is zero has stored its bytes. Any other
write may have left something in the place it was meant for, but nothing outside. -/
structure Snap7.Documented {Net : Type} (snap7 : Snap7 Net) (blocks : Net → Blocks) : Prop where
  connectTo : ∀ net address rack slot,
    blocks (snap7.connectTo net address rack slot).1 = blocks net
  disconnect : ∀ net, blocks (snap7.disconnect net) = blocks net
  dbRead : ∀ net dbNumber start size, blocks (snap7.dbRead net dbNumber start size).1 = blocks net
  dbRead_good : ∀ net dbNumber start size, start + size ≤ S7DbLayout.totalSize →
    (snap7.dbRead net dbNumber start size).2.1 = 0 →
      (snap7.dbRead net dbNumber start size).2.2 = window (blocks net dbNumber) start size
  dbWrite : ∀ {size : Nat} net dbNumber start (bytes : Vector UInt8 size),
    start + size ≤ S7DbLayout.totalSize → ∃ left : Vector UInt8 size,
      ((snap7.dbWrite net dbNumber start bytes).2 = 0 → left = bytes) ∧
      blocks (snap7.dbWrite net dbNumber start bytes).1 = (blocks net).put dbNumber start left

namespace S7Plc

/-- The PLC program writes its half of the data block, and nothing else. -/
def Programs {Net : Type} (program : Net → S7DbLayout.CommandBuffer → Net) (blocks : Net → Blocks)
    (dbNumber : Int) : Prop :=
  ∀ net bytes, blocks (program net bytes) =
    (blocks net).put dbNumber S7DbLayout.commandOffset bytes

/-- A PLC and the network in front of it. `results` are the codes of the coming requests. A
write that reports a success is stored; of any other, `stored` tells. -/
structure Station where
  blocks : Blocks
  results : ℕ → Int
  stored : ℕ → Bool
  requests : ℕ

namespace Station

/-- One request, with its code. -/
def request (station : Station) : Station × Int :=
  ({ station with requests := station.requests + 1 }, station.results station.requests)

/-- The library in front of this PLC. A failed read leaves the buffer as the caller had set
it up, all zero. -/
def snap7 (errorText : Int → String) : Snap7 Station where
  connectTo station _ _ _ := station.request
  disconnect station := station
  dbRead station dbNumber start size :=
    let (next, result) := station.request
    (next, result,
      if result = 0 then window (station.blocks dbNumber) start size else Vector.replicate size 0)
  dbWrite station dbNumber start bytes :=
    let (next, result) := station.request
    (if result = 0 ∨ station.stored station.requests = true then
        { next with blocks := station.blocks.put dbNumber start bytes }
      else next, result)
  errorText := errorText

def program (station : Station) (dbNumber : Int) (bytes : S7DbLayout.CommandBuffer) : Station :=
  { station with blocks := station.blocks.put dbNumber S7DbLayout.commandOffset bytes }

theorem programs (dbNumber : Int) : Programs (program · dbNumber) Station.blocks dbNumber :=
  fun _ _ => rfl

theorem documented (errorText : Int → String) : (snap7 errorText).Documented Station.blocks where
  connectTo _ _ _ _ := rfl
  disconnect _ := rfl
  dbRead _ _ _ _ := rfl
  dbRead_good station dbNumber start size _ good := if_pos good
  dbWrite station dbNumber start bytes fits := by
    by_cases arrives :
        station.results station.requests = 0 ∨ station.stored station.requests = true
    · exact ⟨bytes, fun _ => rfl, congrArg Station.blocks (if_pos arrives)⟩
    -- what a lost write leaves in its place was there before
    · have kept : ((snap7 errorText).dbWrite station dbNumber start bytes).1 = station.request.1 :=
        if_neg arrives
      refine ⟨window (station.blocks dbNumber) start _, fun good => absurd (Or.inl good) arrives, ?_⟩
      rw [Blocks.put, splice_window _ _ _ fits, Function.update_eq_self, kept]
      rfl

end Station

end S7Plc

end MotionBridge
