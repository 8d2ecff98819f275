import Mathlib.Data.List.Forall2
import Spellbook.Proofs.Source.Lines
import Spellbook.Proofs.Text.Slice

/-!
# Lines and the breaks between them

Each line of a source stands at the bytes that it tells, and between its end and the next line there
is a newline, with or without a carriage return in front of it, and nothing else.  So the lines and
the breaks in turn are the source again, byte for byte (`SourceLine.split_partitions`).
-/

namespace Spellbook.SourceLine

/-- The bytes of the line, without those of the break behind it. -/
def span (l : SourceLine) : Span := ⟨l.offset, l.offset + Text.byteLength l.text⟩

/-- The bytes between each line and the next one, and those between the last line and `stop`. -/
def gaps (stop : Nat) : List SourceLine → List Span
  | [] => []
  | l :: rest => ⟨l.span.stop, (rest.head?.map offset).getD stop⟩ :: gaps stop rest

theorem span_move (lines bytes : Nat) (l : SourceLine) :
    (l.move lines bytes).span = l.span.shift bytes := by
  unfold span move Span.shift
  dsimp only
  rw [Nat.add_right_comm]

theorem map_number_move (lines bytes : Nat) (ls : List SourceLine) :
    (ls.map (move lines bytes)).map number = (ls.map number).map (lines + ·) := by
  rw [List.map_map, List.map_map]
  exact List.map_congr_left fun l _ => Nat.add_comm l.number lines

theorem gaps_map_move (lines bytes stop : Nat) (ls : List SourceLine) :
    gaps (stop + bytes) (ls.map (move lines bytes)) = (gaps stop ls).map (Span.shift bytes) := by
  induction ls with
  | nil => rfl
  | cons l rest ih =>
    have hnext : ((rest.map (move lines bytes)).head?.map offset).getD (stop + bytes) =
        (rest.head?.map offset).getD stop + bytes := by
      cases rest <;> rfl
    rw [List.map_cons, gaps, gaps, List.map_cons, ih, hnext, span_move]
    rfl

/-- The lines are pieces of the source, with the breaks between them and `rest` behind the last. -/
structure Partition (source : Text) (ls : List SourceLine) (breaks : List Text) (rest : Text) :
    Prop where
  /-- The lines are counted from one, and there is one more than there are newlines. -/
  numbers : ls.map number = List.range' 1 (source.count '\n' + 1)
  offset_head : ∀ l ∈ ls.head?, l.offset = 0
  newline_notMem : ∀ l ∈ ls, '\n' ∉ l.text
  covers : ∀ l ∈ ls, l.span.Covers l.text source
  gaps_cover : List.Forall₂ (fun gap piece => gap.Covers piece source)
    (gaps (Text.byteLength source) ls) (breaks ++ [rest])
  breaks_eq : ∀ piece ∈ breaks, piece = "\n".toList ∨ piece = "\r\n".toList
  rest_eq : rest = [] ∨ rest = "\r".toList
  /-- A line keeps a carriage return at its end only in front of one that is not its own. -/
  carriages : List.Forall₂ (fun l piece => l.text.getLast? = some '\r' → '\r' ∈ piece)
    ls (breaks ++ [rest])
  joined : source = (List.zipWith (fun l piece => l.text ++ piece) ls (breaks ++ [rest])).flatten

namespace Partition

/-- A source without newlines is one line. -/
theorem of_notMem {t : Text} (h : '\n' ∉ t) : ∃ rest, Partition t (split t) [] rest := by
  obtain ⟨carriage, ht, hcarriage⟩ := Text.exists_carriage t
  have hbytes := congrArg Text.byteLength ht
  rw [Text.byteLength_append] at hbytes
  refine ⟨carriage, ?_⟩
  rw [split_of_notMem h]
  refine ⟨?_, ?_, ?_, ?_, ?_, List.forall_mem_nil _, ?_, ?_, ?_⟩
  · rw [List.count_eq_zero.2 h]
    rfl
  · intro l hl
    rw [← Option.some.inj hl]
  · exact List.forall_mem_singleton.2 (Text.newline_notMem_dropCarriage h)
  · exact List.forall_mem_singleton.2 ⟨[], carriage, ht, rfl, rfl⟩
  · refine .cons ⟨Text.dropCarriage t, [], ?_, Nat.zero_add _, hbytes⟩ .nil
    rw [List.append_nil]
    exact ht
  · exact hcarriage.imp And.left id
  · refine .cons ?_ .nil
    intro hlast
    rcases hcarriage with ⟨-, hne⟩ | rfl
    · exact absurd hlast hne
    · exact List.mem_cons_self
  · rw [List.nil_append, List.zipWith_cons_cons, List.zipWith_nil_left, List.flatten_singleton]
    exact ht

/-- Behind something in front, the first line stands where that ends. -/
theorem offset_head_move {source rest : Text} {ls : List SourceLine} {breaks : List Text}
    (h : Partition source ls breaks rest) (lines bytes stop : Nat) :
    ((ls.map (move lines bytes)).head?.map offset).getD stop = bytes := by
  have hnumbers := h.numbers
  cases ls with
  | nil => exact nomatch hnumbers
  | cons l more =>
    have hoffset := h.offset_head l rfl
    change l.offset + bytes = bytes
    rw [hoffset, Nat.zero_add]

/-- With a line and its break in front, the other lines stand as many bytes further back. -/
theorem cons {first ending source rest : Text} {ls : List SourceLine} {breaks : List Text}
    (hfirst : '\n' ∉ first)
    (hending : ending = "\n".toList ∧ first.getLast? ≠ some '\r' ∨ ending = "\r\n".toList)
    (h : Partition source ls breaks rest) :
    Partition (first ++ ending ++ source)
      (⟨1, 0, first⟩ :: ls.map (move 1 (Text.byteLength (first ++ ending)))) (ending :: breaks)
      rest := by
  have hcount : (first ++ ending ++ source).count '\n' = source.count '\n' + 1 := by
    have hone : ending.count '\n' = 1 := by rcases hending with ⟨rfl, -⟩ | rfl <;> rfl
    rw [List.count_append, List.count_append, List.count_eq_zero.2 hfirst, hone]
    omega
  have hshift {s : Span} {piece : Text} (hcovers : s.Covers piece source) :
      (s.shift (Text.byteLength (first ++ ending))).Covers piece (first ++ ending ++ source) := by
    have hshifted := hcovers.shift (first ++ ending) []
    rwa [List.append_nil] at hshifted
  refine ⟨?_, ?_, ?_, ?_, ?_, ?_, h.rest_eq, ?_, ?_⟩
  · rw [hcount, List.range'_succ, List.map_cons, map_number_move, h.numbers, List.map_add_range']
  · intro l hl
    rw [← Option.some.inj hl]
  · refine List.forall_mem_cons.2 ⟨hfirst, ?_⟩
    intro l hl
    obtain ⟨m, hm, rfl⟩ := List.mem_map.1 hl
    exact h.newline_notMem m hm
  · refine List.forall_mem_cons.2 ⟨⟨[], ending ++ source, List.append_assoc .., rfl, rfl⟩, ?_⟩
    intro l hl
    obtain ⟨m, hm, rfl⟩ := List.mem_map.1 hl
    rw [span_move]
    exact hshift (h.covers m hm)
  · rw [gaps, h.offset_head_move, Text.byteLength_append (first ++ ending), Nat.add_comm,
      gaps_map_move]
    refine .cons ⟨first, source, rfl, Nat.zero_add _, Text.byteLength_append first ending⟩ ?_
    rw [List.forall₂_map_left_iff]
    exact h.gaps_cover.imp fun _ _ hcovers => hshift hcovers
  · exact List.forall_mem_cons.2 ⟨hending.imp And.left id, h.breaks_eq⟩
  · refine .cons ?_ (List.forall₂_map_left_iff.2 h.carriages)
    intro hlast
    rcases hending with ⟨-, hne⟩ | rfl
    · exact absurd hlast hne
    · exact List.mem_cons_self
  · have htexts : List.zipWith (fun l piece => l.text ++ piece)
        (ls.map (move 1 (Text.byteLength (first ++ ending)))) (breaks ++ [rest]) =
        List.zipWith (fun l piece => l.text ++ piece) ls (breaks ++ [rest]) :=
      List.zipWith_map_left
    rw [List.cons_append, List.zipWith_cons_cons, List.flatten_cons, htexts, ← h.joined]

end Partition

/-- The lines of every source are counted without a gap, each is the piece at its bytes, and with
the breaks between them and at most one carriage return at the end they are the source. -/
theorem split_partitions (source : Text) :
    ∃ breaks rest, Partition source (split source) breaks rest := by
  induction source using Text.lines_induction with
  | last t h => exact ⟨[], Partition.of_notMem h⟩
  | line a b ha ih =>
    obtain ⟨breaks, rest, hb⟩ := ih
    obtain ⟨ending, hcut, hending⟩ := Text.exists_ending a
    have hbytes :
        Text.byteLength a + 1 = Text.byteLength (Text.dropCarriage a ++ ending) := by
      rw [← hcut, Text.byteLength_append]
      rfl
    refine ⟨ending :: breaks, rest, ?_⟩
    rw [split_append, split_of_notMem ha, hbytes, hcut]
    exact hb.cons (Text.newline_notMem_dropCarriage ha) hending

/-- A letter of two bytes, a line that keeps one of two carriage returns, and one at
the very end. -/
example : split "é\r\r\n\nb\r" = [⟨1, 0, "é\r"⟩, ⟨2, 5, ""⟩, ⟨3, 6, "b"⟩] := by decide

end Spellbook.SourceLine
