import Spellbook.Grammar.Rule
import Spellbook.Syntax.Span

/-!
# Patterns

A pattern reads a value from the front of a text.  It also keeps the books that a syntax error
is written from: which named rules failed at the furthest place that any rule failed at.  The
two sides are separate, so that what a pattern accepts does not depend on the books.

Alternatives are ordered: a later one is tried only where the earlier ones fail.  Between the
parts of a sequence, and before every round of a repetition, blanks may stand, and a comment,
which takes the whole rest of the text.
-/

namespace Spellbook

/-! ## Reading position -/

/-- A place in a text: the number of bytes before it and the text after it. -/
structure Cursor where
  position : Nat
  rest : Text

namespace Cursor

/-- The cursor at the start of a text. -/
def start (t : Text) : Cursor := ⟨0, t⟩

/-- The cursor behind a piece of text, where `rest` is left. -/
def advance (c : Cursor) (piece rest : Text) : Cursor :=
  ⟨c.position + Text.byteLength piece, rest⟩

/-- Whether the character may stand between any two tokens. -/
def isGap (c : Char) : Bool := c == ' ' || c == '\t'

/-- The cursor behind the gap that it stands in front of: blanks and tabs, and then, from a `#`
on, all that is left. -/
def skipGap (c : Cursor) : Cursor :=
  let blanks := c.rest.takeWhile isGap
  let behind := c.advance blanks (c.rest.dropWhile isGap)
  if behind.rest.head? = some '#' then behind.advance behind.rest [] else behind

end Cursor

/-! ## The furthest failure -/

/-- The furthest position at which a named rule has failed, and the rules that stand for the
failures there. -/
structure Frontier where
  position : Nat
  expected : List Rule

namespace Frontier

/-- The frontier before anything has failed. -/
def initial : Frontier := ⟨0, []⟩

/-- The number of rules that stand for failures at a position. -/
def countAt (f : Frontier) (position : Nat) : Nat :=
  if f.position = position then f.expected.length else 0

/-- The frontier after a rule that started at `position` has failed, if `before` rules stood
there when it started.  Where exactly one part of the rule stands for the failure, that part
keeps standing for it; otherwise the rule takes the place of its parts. -/
def fail (rule : Rule) (position before : Nat) (f : Frontier) : Frontier :=
  if f.countAt position = before + 1 then f
  else if position = f.position then ⟨position, f.expected.take before ++ [rule]⟩
  else if f.position < position then ⟨position, [rule]⟩
  else f

end Frontier

/-! ## Patterns and their combinations -/

/-- A way to read a value at a cursor, with the failures that trying it brings. -/
structure Pattern (α : Type) where
  /-- The value read, and the cursor behind it. -/
  read : Cursor → Option (α × Cursor)
  /-- The frontier after the attempt, whether it succeeds or not. -/
  note : Cursor → Frontier → Frontier

/-- A piece of text that was read as one token. -/
structure Lexeme where
  text : Text
  span : Span

namespace Pattern

variable {α β γ : Type}

/-- Reads nothing. -/
def done (a : α) : Pattern α where
  read c := some (a, c)
  note _ f := f

/-- Reads the token that a scanner cuts from the front of the text.  A scanner that finds none
is not a named rule, so its failure is not noted. -/
def scan (scanner : Text → Option (Text × Text)) : Pattern Lexeme where
  read c := (scanner c.rest).map fun (piece, rest) =>
    let behind := c.advance piece rest
    (⟨piece, ⟨c.position, behind.position⟩⟩, behind)
  note _ f := f

/-- Reads one given character. -/
def symbol (s : Char) : Pattern Lexeme :=
  scan fun t => (Text.dropFront? [s] t).map fun rest => ([s], rest)

/-- Reads nothing, and only where no text is left. -/
def atEnd : Pattern Unit where
  read c := if c.rest.isEmpty then some ((), c) else none
  note _ f := f

/-- Reads what the pattern reads, and lets the rule stand for its failure. -/
def named (rule : Rule) (p : Pattern α) : Pattern α where
  read := p.read
  note c f :=
    let after := p.note c f
    if (p.read c).isSome then after
    else after.fail rule c.position (f.countAt c.position)

/-- Reads what the pattern reads, and changes the value. -/
def map (g : α → β) (p : Pattern α) : Pattern β where
  read c := (p.read c).map fun (a, behind) => (g a, behind)
  note := p.note

/-- Reads one pattern and then, behind the gap, the other. -/
def seqWith (g : α → β → γ) (p : Pattern α) (q : Pattern β) : Pattern γ where
  read c :=
    match p.read c with
    | none => none
    | some (a, middle) => (q.read middle.skipGap).map fun (b, behind) => (g a b, behind)
  note c f :=
    match p.read c with
    | none => p.note c f
    | some (_, middle) => q.note middle.skipGap (p.note c f)

/-- Reads the first pattern, or the second where the first fails. -/
def orElse (p q : Pattern α) : Pattern α where
  read c :=
    match p.read c with
    | some result => some result
    | none => q.read c
  note c f := if (p.read c).isSome then p.note c f else q.note c (p.note c f)

/-- Reads the pattern, or nothing where it fails. -/
def optional (p : Pattern α) : Pattern (Option α) where
  read c :=
    match p.read c with
    | some (a, behind) => some (some a, behind)
    | none => some (none, c)
  note := p.note

/-- At most `rounds` rounds of the pattern, each behind the gap after the one before. -/
def readRounds (p : Pattern α) : Nat → Cursor → List α × Cursor
  | 0, c => ([], c)
  | rounds + 1, c =>
    match p.read c.skipGap with
    | none => ([], c)
    | some (a, behind) =>
      let (more, last) := readRounds p rounds behind
      (a :: more, last)

/-- The failures that at most `rounds` rounds of the pattern bring. -/
def noteRounds (p : Pattern α) : Nat → Cursor → Frontier → Frontier
  | 0, _, f => f
  | rounds + 1, c, f =>
    match p.read c.skipGap with
    | none => p.note c.skipGap f
    | some (_, behind) => noteRounds p rounds behind (p.note c.skipGap f)

/-- Reads the pattern as often as it succeeds.  A round that reads something shortens the text,
so that no text leaves more rounds than it has characters. -/
def many (p : Pattern α) : Pattern (List α) where
  read c := some (readRounds p (c.rest.length + 1) c)
  note c f := noteRounds p (c.rest.length + 1) c f

/-- Reads what the pattern reads, together with the bytes it was read from. -/
def spanned (p : Pattern α) : Pattern (α × Span) where
  read c := (p.read c).map fun (a, behind) => ((a, ⟨c.position, behind.position⟩), behind)
  note := p.note

/-- The same pattern, built only when it is used. -/
def delayed (p : Unit → Pattern α) : Pattern α where
  read c := (p ()).read c
  note c f := (p ()).note c f

/-- Reads the pattern from a text of which nothing but gaps may be left over. -/
def entire (rule : Rule) (p : Pattern α) : Pattern α :=
  named rule (seqWith (fun a _ => a) (seqWith (fun _ a => a) (done ()) p) (named .lineEnd atEnd))

instance : Functor Pattern where
  map := map

instance : Seq Pattern where
  seq p q := seqWith (fun g a => g a) p (q ())

instance : SeqLeft Pattern where
  seqLeft p q := seqWith (fun a _ => a) p (q ())

instance : SeqRight Pattern where
  seqRight p q := seqWith (fun _ b => b) p (q ())

instance : OrElse (Pattern α) where
  orElse p q := orElse p (q ())

end Pattern

end Spellbook
