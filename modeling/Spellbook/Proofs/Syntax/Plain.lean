import Spellbook.Proofs.Grammar.Layout
import Spellbook.Proofs.Syntax.Places
import Spellbook.Syntax.SExpr

/-!
# Plain spells

A plain spell has lost its places and its quotes: every span is the same, every line has the number
zero, and every string is in double quotes.  Two spells say the same if they are the same once both
are plain.
-/

namespace Spellbook

/-! ## Plain syntax -/

mutual

/-- The expression without places, its strings in double quotes. -/
def Expression.plain : Expression → Expression
  | .identifier i => .identifier (i.mapSpan nowhere)
  | .boolean value span => .boolean value (nowhere span)
  | .integer value span => .integer value (nowhere span)
  | .string value _ span => .string value .double (nowhere span)
  | .list elements span => .list (Expression.plainAll elements) (nowhere span)
  | .len argument span => .len argument.plain (nowhere span)

/-- The expressions without places, their strings in double quotes. -/
def Expression.plainAll : List Expression → List Expression
  | [] => []
  | e :: es => e.plain :: Expression.plainAll es

end

def Term.plain : Term → Term
  | .membership element collection => .membership element.plain collection.plain
  | .equality left right => .equality left.plain right.plain
  | .name i => .name (i.mapSpan nowhere)
  | .constant value span => .constant value (nowhere span)

def Condition.plain (c : Condition) : Condition := ⟨c.first.plain, c.others.map Term.plain⟩

def Action.plain : Action → Action
  | .assignment target value => .assignment (target.mapSpan nowhere) value.plain
  | .print argument => .print (argument.map Expression.plain)
  | .methodCall receiver method argument =>
    .methodCall (receiver.mapSpan nowhere) (method.mapSpan nowhere) argument.plain

def Header.plain : Header → Header
  | .branch condition => .branch condition.plain
  | .loop variableName iterable =>
    .loop (variableName.mapSpan nowhere) (iterable.mapSpan nowhere)

def Simple.plain (s : Simple) : Simple := ⟨s.action.plain, 0, nowhere s.span⟩

/-- The statement without its place and that of its body, the strings of both in double quotes. -/
def Statement.plain : Statement → Statement
  | .simple s => .simple s.plain
  | .block b => .block ⟨b.header.plain, 0, nowhere b.span, b.body.map Simple.plain⟩

/-- The spell without places, its strings in double quotes. -/
def Program.plain (p : Program) : Program := ⟨p.statements.map Statement.plain, nowhere p.span⟩

/-! ## Plain spells in parentheses -/

mutual

theorem Expression.sexpr_plain (e : Expression) : e.plain.sexpr = e.sexpr := by
  cases e with
  | identifier i => rfl
  | boolean value span => rfl
  | integer value span => rfl
  | string value quote span => rfl
  | list elements span =>
    unfold Expression.plain Expression.sexpr
    rw [Expression.sexprAll_plainAll elements]
  | len argument span =>
    unfold Expression.plain Expression.sexpr
    rw [Expression.sexpr_plain argument]

theorem Expression.sexprAll_plainAll (elements : List Expression) :
    Expression.sexprAll (Expression.plainAll elements) = Expression.sexprAll elements := by
  cases elements with
  | nil => rfl
  | cons e es =>
    simp only [Expression.plainAll, Expression.sexprAll, Expression.sexpr_plain e,
      Expression.sexprAll_plainAll es]

end

theorem Term.sexpr_plain (t : Term) : t.plain.sexpr = t.sexpr := by
  cases t with
  | membership element collection =>
    unfold Term.plain Term.sexpr
    dsimp only
    rw [Expression.sexpr_plain, Expression.sexpr_plain]
  | equality left right =>
    unfold Term.plain Term.sexpr
    dsimp only
    rw [Expression.sexpr_plain, Expression.sexpr_plain]
  | name i => rfl
  | constant value span => rfl

theorem Condition.sexpr_plain (c : Condition) : c.plain.sexpr = c.sexpr := by
  have hterms : Term.sexpr ∘ Term.plain = Term.sexpr := funext Term.sexpr_plain
  rcases c with ⟨first, _ | ⟨second, others⟩⟩
  · exact Term.sexpr_plain first
  · simp only [Condition.plain, Condition.sexpr, Condition.terms, List.map_cons, List.map_map,
      Term.sexpr_plain, hterms]

theorem Action.sexpr_plain (a : Action) : a.plain.sexpr = a.sexpr := by
  cases a with
  | assignment target value =>
    unfold Action.plain Action.sexpr
    dsimp only
    rw [Expression.sexpr_plain, Identifier.name_mapSpan]
  | print argument =>
    cases argument with
    | none => rfl
    | some e =>
      unfold Action.plain Action.sexpr
      dsimp only [Option.map_some]
      rw [Expression.sexpr_plain]
  | methodCall receiver method argument =>
    unfold Action.plain Action.sexpr
    dsimp only
    rw [Expression.sexpr_plain, Identifier.name_mapSpan, Identifier.name_mapSpan]

theorem Header.sexprOpen_plain (h : Header) : h.plain.sexprOpen = h.sexprOpen := by
  cases h with
  | branch condition =>
    unfold Header.plain Header.sexprOpen
    dsimp only
    rw [Condition.sexpr_plain]
  | loop variableName iterable => rfl

theorem Statement.sexpr_plain (blanks : Nat) (s : Statement) :
    s.plain.sexpr blanks = s.sexpr blanks := by
  cases s with
  | simple s => exact Action.sexpr_plain s.action
  | block b =>
    rcases b with ⟨header, line, span, _ | body⟩
    · simp only [Statement.plain, Statement.sexpr, Option.map_none, Header.sexprOpen_plain]
    · simp only [Statement.plain, Statement.sexpr, Option.map_some, Header.sexprOpen_plain,
        Simple.plain, Action.sexpr_plain]

/-- Places and quotes do not show in parentheses. -/
theorem Program.sexpr_plain (p : Program) : p.plain.sexpr = p.sexpr := by
  rcases p with ⟨_ | ⟨first, _ | ⟨second, others⟩⟩, span⟩
  · rfl
  · simp only [Program.plain, Program.sexpr, List.map_cons, List.map_nil, Statement.sexpr_plain]
  · simp only [Program.plain, Program.sexpr, List.map_cons, List.flatMap_cons, List.flatMap_map,
      Statement.sexpr_plain]

end Spellbook
