/-! # Traces

A computation together with what it did on the way, in order. Requests to a cluster and log
events are steps of a trace, so that they can be stated and proved like any other result.
-/

namespace AdmissionForecast

/-- A result and the steps that led to it. -/
structure Trace (ε α : Type) where
  steps : List ε
  result : α

namespace Trace

variable {ε ζ α β γ : Type}

instance : Monad (Trace ε) where
  pure a := ⟨[], a⟩
  bind t f := ⟨t.steps ++ (f t.result).steps, (f t.result).result⟩

@[simp] theorem steps_pure (a : α) : (pure a : Trace ε α).steps = [] := rfl

@[simp] theorem result_pure (a : α) : (pure a : Trace ε α).result = a := rfl

@[simp] theorem steps_bind (t : Trace ε α) (f : α → Trace ε β) :
    (t >>= f).steps = t.steps ++ (f t.result).steps := rfl

@[simp] theorem result_bind (t : Trace ε α) (f : α → Trace ε β) :
    (t >>= f).result = (f t.result).result := rfl

def step (e : ε) : Trace ε Unit := ⟨[e], ()⟩

@[simp] theorem steps_step (e : ε) : (step e).steps = [e] := rfl

/-- The same trace with its steps seen as steps of another kind. -/
def mapSteps (f : ε → ζ) (t : Trace ε α) : Trace ζ α := ⟨t.steps.map f, t.result⟩

@[simp] theorem steps_mapSteps (f : ε → ζ) (t : Trace ε α) :
    (t.mapSteps f).steps = t.steps.map f := rfl

@[simp] theorem result_mapSteps (f : ε → ζ) (t : Trace ε α) :
    (t.mapSteps f).result = t.result := rfl

/-- Runs a computation for each element in order. -/
def forEach (xs : List α) (f : α → Trace ε β) : Trace ε (List β) :=
  ⟨xs.flatMap fun x => (f x).steps, xs.map fun x => (f x).result⟩

end Trace

end AdmissionForecast
