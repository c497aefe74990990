/-! # Warning sinks

Admission reports violations only by warnings. Whoever makes a request lends it a sink and
drains the sink as soon as the request returns.
-/

namespace AdmissionForecast

/-- The warnings that came in and were not taken out yet. -/
structure WarningSink where
  pending : List String := []
  deriving DecidableEq, Repr

namespace WarningSink

def push (s : WarningSink) (warning : String) : WarningSink := ⟨s.pending ++ [warning]⟩

def pushAll (s : WarningSink) (warnings : List String) : WarningSink := ⟨s.pending ++ warnings⟩

def drain (s : WarningSink) : List String × WarningSink := (s.pending, {})

theorem pushAll_eq_foldl (s : WarningSink) (warnings : List String) :
    s.pushAll warnings = warnings.foldl push s := by
  induction warnings generalizing s with
  | nil => simp [pushAll]
  | cons w rest ih => simp [pushAll, push, ← ih]

end WarningSink

end AdmissionForecast
