/-!
# Submissions

A background client keeps books on the tokens it hands to its other thread: how many are on their
way, and which futures are not done. The caller counts a token, hands it over, files its future and
then watches it. The other thread has two steps of its own at any time after it has the token: it
finishes the future, and then it calls back if somebody watches, which discards the future. To watch
a future that is finished already discards it at once. One token is done with, in both threads, before
anything else is asked.
-/

namespace Bearer

/-- How many of its two steps, filing and watching, a caller has taken when the other thread finishes a future
and when it calls back. -/
structure Pace where
  finishing : Fin 3
  callingBack : Fin 3
  inOrder : finishing ≤ callingBack := by decide
  deriving DecidableEq, Repr

namespace Pace

/-- The caller is not even told the future before it is finished. -/
def hasty : Pace := { finishing := 0, callingBack := 0 }

/-- The caller waits for the other thread. -/
def awaited : Pace := { finishing := 2, callingBack := 2 }

end Pace

/-- Futures are known by number. -/
structure Books where
  submitting : Nat := 0
  pending : List Nat := []
  /-- How many futures there have been. -/
  made : Nat := 0
  deriving DecidableEq, Repr

structure Future where
  number : Nat
  finished : Bool := false
  /-- Its finishing is waited for, to discard it. -/
  watched : Bool := false
  deriving DecidableEq, Repr

/-- A future in the making, with the books it is filed in. -/
structure Handover where
  books : Books
  future : Future
  deriving DecidableEq, Repr

namespace Handover

/-- Counts a token and hands it over. -/
def start (b : Books) : Handover where
  books := { b with submitting := b.submitting + 1, made := b.made + 1 }
  future := { number := b.made }

/-- Files a future as pending; its token is no longer on its way. -/
def file (h : Handover) : Handover :=
  { h with books := { h.books with
      pending := h.books.pending.insert h.future.number
      submitting := h.books.submitting - 1 } }

def discard (h : Handover) : Handover :=
  { h with books := { h.books with pending := h.books.pending.erase h.future.number } }

def watch (h : Handover) : Handover :=
  if h.future.finished then h.discard
  else { h with future := { h.future with watched := true } }

def finish (h : Handover) : Handover := { h with future := { h.future with finished := true } }

def callBack (h : Handover) : Handover := if h.future.watched then h.discard else h

/-- The steps of the other thread for which the caller has got just far enough. -/
def meet (h : Handover) (pace : Pace) (steps : Fin 3) : Handover :=
  let h := if pace.finishing = steps then h.finish else h
  if pace.callingBack = steps then h.callBack else h

end Handover

/-- Hands one token over, files its future and watches it, while the other thread goes at a pace. -/
def Books.submit (b : Books) (pace : Pace) : Handover :=
  let h := (Handover.start b).meet pace 0
  let h := h.file.meet pace 1
  h.watch.meet pace 2

/-- The HTTP connection of a client. A client that did not make it itself leaves it open. -/
structure Connection where
  owned : Bool := false
  isOpen : Bool := true
  deriving DecidableEq, Repr

def Connection.release (c : Connection) : Connection :=
  { c with isOpen := c.isOpen && !c.owned }

end Bearer
