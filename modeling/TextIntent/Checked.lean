import TextIntent.Event
import TextIntent.Fault
import TextIntent.Traced

/-! Computations that can be turned down with a fault. Events reported before a fault stay
reported. -/
namespace TextIntent

abbrev Checked (α β : Type) := ExceptT (Fault α) (Traced (Event α)) β

variable {α : Type}

def Checked.report (e : Event α) : Checked α Unit := ExceptT.lift (Traced.report e)

/-- The vector has the demanded length, or is turned down. -/
def demandLength (expected actual : Nat) : Checked α Unit :=
  if expected = actual then return
  else do
    Checked.report (.lengthRejected expected actual)
    throw (.length expected actual)

end TextIntent
