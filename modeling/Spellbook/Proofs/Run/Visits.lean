import Spellbook.Run.Execute

/-!
# The statements that a run comes to

A run counts every statement that it comes to: the statements of the spell, and the body of a
block once for each round.  The visits of a run are these statements in order.  The statement that
is one too many is among them, because it is counted before it is refused.
-/

namespace Spellbook

/-- A statement that a run has come to: its line and its bytes. -/
structure Visit where
  line : Nat
  span : Span
deriving DecidableEq

/-- The error of the statement that is one too many. -/
def Visit.refusal (limit : Nat) (v : Visit) : RunError :=
  Blame.onLine v.line ⟨.stepLimit limit, v.span⟩

/-- The visits that follow an outcome: none, if an error has ended the run. -/
def Outcome.thenVisits (o : Outcome) (next : State → List Visit) : List Visit :=
  match o with
  | ⟨st, none⟩ => next st
  | ⟨_, some _⟩ => []

def Simple.visit (s : Simple) : Visit := ⟨s.line, s.span⟩

def Block.visit (b : Block) : Visit := ⟨b.line, b.span⟩

def visitsOfRounds (limit : Nat) (body : Option Simple) :
    List (Option (Text × Value)) → State → List Visit
  | [], _ => []
  | round :: rounds, st =>
    match body with
    | none => visitsOfRounds limit body rounds (st.enter round)
    | some s =>
      s.visit :: (s.run limit (st.enter round)).thenVisits (visitsOfRounds limit body rounds)

/-- The visits of a block behind the one of its header. -/
def Block.visitsInside (limit : Nat) (b : Block) (st : State) : List Visit :=
  match b.header.rounds st.scope st.store with
  | .error _ => []
  | .ok rounds => visitsOfRounds limit b.body rounds st

def Statement.visits (limit : Nat) : Statement → State → List Visit
  | .simple s, _ => [s.visit]
  | .block b, st =>
    b.visit :: (st.countStep limit b.line b.span).thenVisits (b.visitsInside limit)

def Statement.visitsAll (limit : Nat) : List Statement → State → List Visit
  | [], _ => []
  | s :: rest, st =>
    s.visits limit st ++ (s.run limit st).thenVisits (Statement.visitsAll limit rest)

/-- The statements that a spell comes to under a limit, in order. -/
def Program.visits (limit : Nat) (p : Program) : List Visit :=
  Statement.visitsAll limit p.statements .initial

end Spellbook
