import BrokerClient.CloseNotice

/-!
# Handles and signals

Close notices together with those who hold them and those who wait on them.  A handle can fire its
notice, be cloned and be dropped; a signal of a notice gives the reason of the close once.
-/

namespace BrokerClient

/-- One who waits on a notice. -/
structure Signal where
  notice : Nat
  /-- Has the answer been given? -/
  answered : Bool := false
  deriving Repr, DecidableEq

/-- Notices with the handles to them, `none` for one that has been dropped, and the signals. -/
structure NoticeBoard where
  notices : List CloseNotice := []
  handles : List (Option Nat) := []
  signals : List Signal := []
  deriving Repr, DecidableEq

namespace NoticeBoard

/-- Adds a notice with one handle. -/
def add (board : NoticeBoard) : NoticeBoard :=
  { board with
    notices := board.notices ++ [.new]
    handles := board.handles ++ [some board.notices.length] }

/-- The notice that a handle belongs to, and its index. -/
def notice? (board : NoticeBoard) (handle : Nat) : Option (Nat × CloseNotice) :=
  (board.handles[handle]?).join.bind fun i => (board.notices[i]?).map (i, ·)

/-- Begins to wait on the notice of a handle. -/
def subscribe (board : NoticeBoard) (handle : Nat) : Option NoticeBoard :=
  (board.notice? handle).map fun (notice, _) =>
    { board with signals := board.signals ++ [{ notice }] }

/-- Fires the notice of a handle; tells whether this was the first time. -/
def fire (board : NoticeBoard) (handle : Nat) (reason : CloseReason) :
    Option (NoticeBoard × Bool) :=
  (board.notice? handle).map fun (i, notice) =>
    let (first, notice) := notice.fire reason
    ({ board with notices := board.notices.set i notice }, first)

/-- Adds a handle to the notice of a handle. -/
def clone (board : NoticeBoard) (handle : Nat) : Option NoticeBoard :=
  (board.notice? handle).map fun (i, notice) =>
    { board with
      notices := board.notices.set i notice.clone
      handles := board.handles ++ [some i] }

/-- Drops a handle. -/
def drop (board : NoticeBoard) (handle : Nat) : Option NoticeBoard :=
  (board.notice? handle).map fun (i, notice) =>
    { board with
      notices := board.notices.set i notice.drop
      handles := board.handles.set handle none }

/-- What a signal says when it is asked. -/
inductive Answer
  | pending
  | closed (reason : CloseReason)
  /-- The reason has been given before. -/
  | given
  deriving Repr, DecidableEq

/-- Asks a signal. -/
def poll (board : NoticeBoard) (signal : Nat) : Option (NoticeBoard × Answer) :=
  (board.signals[signal]?).bind fun s =>
    (board.notices[s.notice]?).map fun notice =>
      if s.answered then (board, .given)
      else
        match notice.closed? with
        | none => (board, .pending)
        | some reason =>
          ({ board with signals := board.signals.set signal { s with answered := true } },
            .closed reason)

end NoticeBoard

end BrokerClient
