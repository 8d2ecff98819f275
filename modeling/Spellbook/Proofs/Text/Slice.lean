import Mathlib.Data.List.Infix
import Spellbook.Syntax.Span
import Spellbook.Text.Basic

/-!
# Slices between characters

A byte position is a boundary of a text if it is the size of a front part.  The slice between two
boundaries is the piece of the text that stands there, and it is the same piece when the text
stands in a longer one.
-/

namespace Spellbook

namespace Text

/-- No character of the text has bytes on both sides of the position. -/
def IsBoundary (t : Text) (position : Nat) : Prop :=
  ∃ front back, t = front ++ back ∧ position = byteLength front

theorem IsBoundary.le_byteLength {t : Text} {position : Nat} (h : IsBoundary t position) :
    position ≤ byteLength t := by
  obtain ⟨front, back, rfl, rfl⟩ := h
  rw [byteLength_append]
  omega

theorem dropBytes_append (front back : Text) :
    dropBytes (byteLength front) (front ++ back) = back := by
  induction front with
  | nil => rw [byteLength_nil, List.nil_append, dropBytes]
  | cons c front ih =>
    have hsize := c.utf8Size_pos
    obtain ⟨bytes, hbytes⟩ : ∃ bytes, c.utf8Size + byteLength front = bytes + 1 :=
      ⟨c.utf8Size + byteLength front - 1, by omega⟩
    have hleft : bytes + 1 - c.utf8Size = byteLength front := by omega
    rw [byteLength_cons, hbytes, List.cons_append, dropBytes, hleft, ih]
    omega

theorem takeBytes_append (piece back : Text) :
    takeBytes (byteLength piece) (piece ++ back) = piece := by
  induction piece with
  | nil => rw [byteLength_nil, takeBytes]
  | cons c piece ih =>
    have hsize := c.utf8Size_pos
    obtain ⟨bytes, hbytes⟩ : ∃ bytes, c.utf8Size + byteLength piece = bytes + 1 :=
      ⟨c.utf8Size + byteLength piece - 1, by omega⟩
    have hleft : bytes + 1 - c.utf8Size = byteLength piece := by omega
    rw [byteLength_cons, hbytes, List.cons_append, takeBytes, hleft, ih]
    omega

end Text

/-! ## Spans that cover a piece -/

@[simp] theorem Span.start_shift (bytes : Nat) (s : Span) :
    (s.shift bytes).start = s.start + bytes := rfl

@[simp] theorem Span.stop_shift (bytes : Nat) (s : Span) :
    (s.shift bytes).stop = s.stop + bytes := rfl

/-- The piece stands in the text at the span. -/
def Span.Covers (s : Span) (piece t : Text) : Prop :=
  ∃ front back, t = front ++ piece ++ back ∧ s.start = Text.byteLength front ∧
    s.stop = Text.byteLength front + Text.byteLength piece

namespace Span.Covers

open Text

variable {s : Span} {piece t : Text}

theorem slice_eq (h : s.Covers piece t) : slice s.start s.stop t = piece := by
  obtain ⟨front, back, rfl, hstart, hstop⟩ := h
  unfold slice
  rw [hstart, hstop, Nat.add_sub_cancel_left, List.append_assoc, dropBytes_append,
    takeBytes_append]

theorem isBoundary_start (h : s.Covers piece t) : IsBoundary t s.start := by
  obtain ⟨front, back, rfl, hstart, -⟩ := h
  exact ⟨front, piece ++ back, List.append_assoc _ _ _, hstart⟩

theorem isBoundary_stop (h : s.Covers piece t) : IsBoundary t s.stop := by
  obtain ⟨front, back, rfl, -, hstop⟩ := h
  exact ⟨front ++ piece, back, rfl, by rw [hstop, byteLength_append]⟩

/-- The piece stands further back when there is text in front. -/
theorem shift (h : s.Covers piece t) (before after : Text) :
    (s.shift (byteLength before)).Covers piece (before ++ t ++ after) := by
  obtain ⟨front, back, rfl, hstart, hstop⟩ := h
  refine ⟨before ++ front, back ++ after, by simp only [List.append_assoc], ?_, ?_⟩
  · rw [byteLength_append, Span.start_shift, hstart]
    omega
  · rw [byteLength_append, Span.stop_shift, hstop]
    omega

end Span.Covers

/-- Between two boundaries stands a piece. -/
theorem Span.exists_covers {s : Span} {t : Text} (hstart : t.IsBoundary s.start)
    (hstop : t.IsBoundary s.stop) (h : s.start ≤ s.stop) : ∃ piece, s.Covers piece t := by
  obtain ⟨front, rest, ht, hfront⟩ := hstart
  obtain ⟨front', back, ht', hfront'⟩ := hstop
  have hle : Text.byteLength front ≤ Text.byteLength front' := by omega
  have hprefix : front <+: front' := by
    rcases List.prefix_or_prefix_of_prefix ⟨rest, ht.symm⟩ ⟨back, ht'.symm⟩ with hprefix | hprefix
    · exact hprefix
    · obtain ⟨more, rfl⟩ := hprefix
      rw [Text.byteLength_append] at hle
      have hmore : more = [] := Text.byteLength_eq_zero_iff.1 (by omega)
      rw [hmore, List.append_nil]
  obtain ⟨piece, rfl⟩ := hprefix
  rw [Text.byteLength_append] at hfront'
  exact ⟨piece, front, back, ht', hfront, hfront'⟩

end Spellbook
