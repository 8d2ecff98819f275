import Spellbook.Run.Evaluate
import Spellbook.Store.Render

/-!
# Execution

How statements change the state of a running spell.  Every statement that is carried out is one
step, a body as much as its header, and the step beyond the limit is refused.  The state is kept
when a statement fails, because what was printed before is still shown.
-/

namespace Spellbook

/-- The state of a running spell. -/
structure State where
  scope : Scope
  store : Store
  /-- The texts printed so far, in order. -/
  printed : Array Text
  /-- The statements counted so far. -/
  steps : Nat

/-- What a run has come to: its state, and the error that ended it, if one did. -/
structure Outcome where
  state : State
  error : Option RunError

/-- What a simple statement does to the state, once its values are known. -/
inductive Effect where
  | define (name : Text) (v : Value)
  | print (text : Text)
  | append (handle : Handle) (v : Value)

namespace State

/-- The state before the first statement. -/
def initial : State := ⟨.empty, .empty, #[], 0⟩

/-- The state after an effect, over the store in which its values were found. -/
def commit : State → Store → Effect → State
  | ⟨scope, _, printed, steps⟩, store, .define name v =>
    ⟨scope.define name v, store, printed, steps⟩
  | ⟨scope, _, printed, steps⟩, store, .print text => ⟨scope, store, printed.push text, steps⟩
  | ⟨scope, _, printed, steps⟩, store, .append handle v =>
    ⟨scope, store.append handle v, printed, steps⟩

/-- The state in which a round of a block starts: a loop names the item it has come to. -/
def enter : State → Option (Text × Value) → State
  | st, none => st
  | st, some (name, item) => { st with scope := st.scope.define name item }

/-- The outcome of counting the statement on a line as a step: past the limit it is not
carried out. -/
def countStep (limit line : Nat) (span : Span) (st : State) : Outcome :=
  let counted := { st with steps := st.steps + 1 }
  if limit < counted.steps then
    ⟨counted, some (Blame.onLine line ⟨.stepLimit limit, span⟩)⟩
  else ⟨counted, none⟩

end State

/-- What follows an outcome, unless an error has ended the run. -/
@[inline] def Outcome.andThen (o : Outcome) (next : State → Outcome) : Outcome :=
  match o with
  | ⟨st, none⟩ => next st
  | ⟨st, some error⟩ => ⟨st, some error⟩

/-! ## Simple statements -/

/-- The effect of an action, and the store in which its values are.  A method is looked up
before its argument is evaluated. -/
def Action.effect (scope : Scope) (store : Store) :
    Action → Except (Blame RunCause) (Effect × Store)
  | .assignment target value =>
    (value.evaluate scope store).map fun (v, store) => (.define target.name v, store)
  | .print none => .ok (.print [], store)
  | .print (some argument) =>
    (argument.evaluate scope store).map fun (v, store) => (.print (store.render v), store)
  | .methodCall receiver method argument =>
    match receiver.value scope with
    | .error blame => .error blame
    | .ok (.list handle) =>
      if method.name = "append".toList then
        (argument.evaluate scope store).map fun (v, store) => (.append handle v, store)
      else .error ⟨.unknownMethod .list method.name, method.span⟩
    | .ok v => .error ⟨.unknownMethod v.kind method.name, method.span⟩

/-- The outcome of a simple statement that has been counted. -/
def Simple.perform (s : Simple) (st : State) : Outcome :=
  match s.action.effect st.scope st.store with
  | .error blame => ⟨st, some (blame.onLine s.line)⟩
  | .ok (effect, store) => ⟨st.commit store effect, none⟩

/-- The outcome of a simple statement. -/
def Simple.run (limit : Nat) (s : Simple) (st : State) : Outcome :=
  (st.countStep limit s.line s.span).andThen s.perform

/-! ## Blocks -/

/-- The rounds for which a header lets its body run, each with the name that an item is to have.
A condition that is true makes one round without a name, and one that is false makes none.  A
loop goes through the items that its list has when the loop is reached. -/
def Header.rounds (scope : Scope) (store : Store) :
    Header → Except (Blame RunCause) (List (Option (Text × Value)))
  | .branch condition =>
    (condition.evaluate scope store).map fun truth => if truth then [none] else []
  | .loop variableName iterable =>
    match iterable.value scope with
    | .error blame => .error blame
    | .ok (.list handle) =>
      .ok ((store.items handle).toList.map fun item => some (variableName.name, item))
    | .ok v => .error ⟨.misuse .iteration v.kind, iterable.span⟩

/-- The outcome of the rounds of a block. -/
def runRounds (limit : Nat) (body : Option Simple) :
    List (Option (Text × Value)) → State → Outcome
  | [], st => ⟨st, none⟩
  | round :: rounds, st =>
    match body with
    | none => runRounds limit body rounds (st.enter round)
    | some s => (s.run limit (st.enter round)).andThen (runRounds limit body rounds)

/-- The outcome of a block that has been counted. -/
def Block.perform (limit : Nat) (b : Block) (st : State) : Outcome :=
  match b.header.rounds st.scope st.store with
  | .error blame => ⟨st, some (blame.onLine b.line)⟩
  | .ok rounds => runRounds limit b.body rounds st

/-- The outcome of a block. -/
def Block.run (limit : Nat) (b : Block) (st : State) : Outcome :=
  (st.countStep limit b.line b.span).andThen (b.perform limit)

/-! ## Programs -/

/-- The outcome of a statement. -/
def Statement.run (limit : Nat) : Statement → State → Outcome
  | .simple s, st => s.run limit st
  | .block b, st => b.run limit st

/-- The outcome of statements one after another. -/
def Statement.runAll (limit : Nat) : List Statement → State → Outcome
  | [], st => ⟨st, none⟩
  | s :: rest, st => (s.run limit st).andThen (Statement.runAll limit rest)

/-- The outcome of a whole spell. -/
def Program.run (limit : Nat) (p : Program) : Outcome :=
  Statement.runAll limit p.statements .initial

end Spellbook
