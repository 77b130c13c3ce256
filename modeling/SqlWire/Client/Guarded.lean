import SqlWire.Client.Error

/-! # Values behind a lock

A task that fails while it holds the lock leaves the value poisoned. Asking for such a value is
an error that names who asked.
-/

namespace SqlWire

structure Guarded (α : Type) where
  value : α
  poisoned : Bool := false
  deriving DecidableEq, Repr

def Guarded.lock (g : Guarded α) (holder : String) : Except ClientError α :=
  if g.poisoned then
    .error (.lockPoisoned (holder ++ ": poisoned lock: another task failed inside"))
  else .ok g.value

end SqlWire
