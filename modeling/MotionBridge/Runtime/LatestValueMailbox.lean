namespace MotionBridge

structure Snapshot (Value : Type) where
  value : Value
  sequence : UInt64
  deriving DecidableEq, Repr

/-- `locked` is the state of the mutex. `try_publish` and `try_read` are an attempt to
lock it and, if that succeeds, one body that ends by unlocking it. -/
structure LatestValueMailbox (Value : Type) where
  value : Option Value
  sequence : UInt64
  locked : Bool
  deriving DecidableEq, Repr

namespace LatestValueMailbox

variable {Value : Type}

def initial : LatestValueMailbox Value := ⟨none, 0, false⟩

/-- `std::try_to_lock`: never succeeds on a locked mutex, and may fail on a free one. -/
def tryLock (mailbox : LatestValueMailbox Value) (lucky : Bool) : LatestValueMailbox Value × Bool :=
  if lucky = true ∧ mailbox.locked = false then ({ mailbox with locked := true }, true)
  else (mailbox, false)

/-- The body of `try_publish`. -/
def publish (mailbox : LatestValueMailbox Value) (value : Value) : LatestValueMailbox Value where
  value := some value
  sequence := mailbox.sequence + 1
  locked := false

/-- The body of `try_read`. -/
def read (mailbox : LatestValueMailbox Value) : Option (Snapshot Value) :=
  mailbox.value.map fun value => ⟨value, mailbox.sequence⟩

def unlock (mailbox : LatestValueMailbox Value) : LatestValueMailbox Value :=
  { mailbox with locked := false }

@[simp] theorem tryLock_value (mailbox : LatestValueMailbox Value) (lucky : Bool) :
    (mailbox.tryLock lucky).1.value = mailbox.value := by
  simp only [tryLock]
  split <;> rfl

@[simp] theorem tryLock_sequence (mailbox : LatestValueMailbox Value) (lucky : Bool) :
    (mailbox.tryLock lucky).1.sequence = mailbox.sequence := by
  simp only [tryLock]
  split <;> rfl

@[simp] theorem tryLock_read (mailbox : LatestValueMailbox Value) (lucky : Bool) :
    (mailbox.tryLock lucky).1.read = mailbox.read := by
  simp [read]

@[simp] theorem unlock_read (mailbox : LatestValueMailbox Value) :
    mailbox.unlock.read = mailbox.read := rfl

@[simp] theorem unlock_sequence (mailbox : LatestValueMailbox Value) :
    mailbox.unlock.sequence = mailbox.sequence := rfl

@[simp] theorem publish_read (mailbox : LatestValueMailbox Value) (value : Value) :
    (mailbox.publish value).read = some ⟨value, mailbox.sequence + 1⟩ := rfl

end LatestValueMailbox

end MotionBridge
