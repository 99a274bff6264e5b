/-!
# Close notices

A close notice says once why a connection or a channel went away.  The first reason stays; whoever
waits learns it, also who begins to wait later.  When every handle to the notice has been dropped
before it fired, those who wait learn of a graceful close.
-/

namespace BrokerClient

/-- Why a connection or a channel went away. -/
inductive CloseReason
  /-- On request, by either side. -/
  | graceful
  /-- Because of an error. -/
  | error (text : String)
  deriving Repr, DecidableEq

def CloseReason.message : CloseReason → String
  | graceful => "closed gracefully"
  | error text => "closed with error: " ++ text

/-- A close notice: its reason once it has fired, and the number of handles that can fire it. -/
structure CloseNotice where
  reason : Option CloseReason
  handles : Nat
  deriving Repr, DecidableEq

namespace CloseNotice

/-- A notice with one handle that has not fired. -/
def new : CloseNotice :=
  ⟨none, 1⟩

instance : Inhabited CloseNotice := ⟨new⟩

def isFired (notice : CloseNotice) : Bool :=
  notice.reason.isSome

/-- Fires the notice; tells whether this was the first time. -/
def fire (notice : CloseNotice) (reason : CloseReason) : Bool × CloseNotice :=
  match notice.reason with
  | some _ => (false, notice)
  | none => (true, { notice with reason := some reason })

/-- The notice after `fire`. -/
def fired (notice : CloseNotice) (reason : CloseReason) : CloseNotice :=
  (notice.fire reason).2

def clone (notice : CloseNotice) : CloseNotice :=
  { notice with handles := notice.handles + 1 }

def drop (notice : CloseNotice) : CloseNotice :=
  { notice with handles := notice.handles - 1 }

/-- What one who waits learns; `none` while there is nothing to learn. -/
def closed? (notice : CloseNotice) : Option CloseReason :=
  match notice.reason with
  | some reason => some reason
  | none => if notice.handles = 0 then some .graceful else none

/-! ## The first reason stays -/

@[simp] theorem isFired_fired (notice : CloseNotice) (reason : CloseReason) :
    (notice.fired reason).isFired = true := by
  unfold fired fire isFired
  cases h : notice.reason <;> simp [h]

theorem reason_fired (notice : CloseNotice) (reason : CloseReason) :
    (notice.fired reason).reason = some (notice.reason.getD reason) := by
  unfold fired fire
  cases h : notice.reason <;> simp [h]

@[simp] theorem handles_fired (notice : CloseNotice) (reason : CloseReason) :
    (notice.fired reason).handles = notice.handles := by
  unfold fired fire
  cases h : notice.reason <;> rfl

theorem fired_of_isFired {notice : CloseNotice} (h : notice.isFired = true)
    (reason : CloseReason) : notice.fired reason = notice := by
  unfold fired fire
  unfold isFired at h
  cases hr : notice.reason <;> simp_all

end CloseNotice

end BrokerClient
