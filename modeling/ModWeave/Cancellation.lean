/-!
# Cancellation

Work that can be cancelled asks from time to time whether it is to stop.  A signal gives the answer to each
question by the number of questions asked before it.
-/

namespace ModWeave

/-- The answers to the question whether the work is to stop. -/
abbrev Signal := Nat → Bool

namespace Signal

/-- The signal that never stops the work. -/
def never : Signal := fun _ => false

/-- The signal that lets the first `n` questions pass and stops the work at the next. -/
def after (n : Nat) : Signal := fun k => n ≤ k

/-- The signal as it goes on after `n` questions. -/
def later (s : Signal) (n : Nat) : Signal := fun k => s (n + k)

end Signal

end ModWeave
