/-!
# Places in a text

A span is the stretch between two byte positions.  A blame pairs a cause with the span that is
at fault, and a fault adds the number of the line it is reported on.
-/

namespace Spellbook

/-- The bytes from `start` up to, but not including, `stop`. -/
structure Span where
  start : Nat
  stop : Nat
deriving DecidableEq

namespace Span

/-- The number of bytes between the ends, none if they are out of order. -/
def length (s : Span) : Nat := s.stop - s.start

/-- The span moved towards the end of the text. -/
def shift (bytes : Nat) (s : Span) : Span := ⟨s.start + bytes, s.stop + bytes⟩

/-- The span from the start of one to the end of another. -/
def through (first last : Span) : Span := ⟨first.start, last.stop⟩

@[simp] theorem shift_zero (s : Span) : s.shift 0 = s := rfl

@[simp] theorem shift_shift (m n : Nat) (s : Span) : (s.shift m).shift n = s.shift (m + n) := by
  simp [shift, Nat.add_assoc]

@[simp] theorem length_shift (n : Nat) (s : Span) : (s.shift n).length = s.length := by
  simp [shift, length, Nat.add_sub_add_right]

@[simp] theorem through_shift (n : Nat) (s t : Span) :
    (s.shift n).through (t.shift n) = (s.through t).shift n := rfl

end Span

/-- What went wrong, and the span to blame. -/
structure Blame (κ : Type) where
  cause : κ
  span : Span
deriving DecidableEq

/-- What went wrong, the span to blame, and the line it is reported on. -/
structure Fault (κ : Type) extends Blame κ where
  line : Nat
deriving DecidableEq

namespace Blame

variable {κ : Type}

/-- The same blame in a text with more bytes in front. -/
def shift (bytes : Nat) (b : Blame κ) : Blame κ := { b with span := b.span.shift bytes }

/-- The blame, reported on a line. -/
def onLine (line : Nat) (b : Blame κ) : Fault κ := { toBlame := b, line := line }

end Blame

end Spellbook
