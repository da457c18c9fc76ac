/-! Computations that report events. The value does not depend on the reports, and they keep the
order in which they were made. -/
namespace TextIntent

/-- A value, and what happened on the way to it. -/
structure Traced (ε β : Type) where
  value : β
  events : List ε
  deriving Repr

namespace Traced

variable {ε β γ : Type}

/-- Reports one event. -/
def report (e : ε) : Traced ε Unit := ⟨(), [e]⟩

instance : Monad (Traced ε) where
  pure x := ⟨x, []⟩
  bind x f := ⟨(f x.value).value, x.events ++ (f x.value).events⟩

@[simp] theorem value_pure (x : β) : (pure x : Traced ε β).value = x := rfl

@[simp] theorem events_pure (x : β) : (pure x : Traced ε β).events = [] := rfl

@[simp] theorem value_bind (x : Traced ε β) (f : β → Traced ε γ) :
    (x >>= f).value = (f x.value).value := rfl

@[simp] theorem events_bind (x : Traced ε β) (f : β → Traced ε γ) :
    (x >>= f).events = x.events ++ (f x.value).events := rfl

@[simp] theorem value_map (f : β → γ) (x : Traced ε β) : (f <$> x).value = f x.value := rfl

@[simp] theorem events_map (f : β → γ) (x : Traced ε β) : (f <$> x).events = x.events := by
  change x.events ++ [] = x.events
  simp

theorem append_pure (x : Traced ε β) : x >>= pure = x := by
  cases x with
  | mk value events =>
    change Traced.mk value (events ++ []) = _
    simp

instance : LawfulMonad (Traced ε) :=
  LawfulMonad.mk' (Traced ε) append_pure (fun _ _ => rfl) fun x f g => by
    change Traced.mk _ ((x.events ++ _) ++ _) = Traced.mk _ (x.events ++ (_ ++ _))
    rw [List.append_assoc]
    rfl

end Traced
end TextIntent
