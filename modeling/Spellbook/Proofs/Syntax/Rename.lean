import Mathlib.Data.Set.Function
import Spellbook.Proofs.Syntax.Plain

/-!
# Spells with other names

Renaming a spell replaces the names of its variables and keeps the names of its methods.  A spell is
a twin of another one if it is the same up to such a renaming, to places and to quotes
(`Program.twins_of_plain_eq`); the renaming has to keep apart only the names that it is used for.
-/

namespace Spellbook

/-! ## Renaming -/

section Rename

variable (ρ : Text → Text)

def Identifier.rename (i : Identifier) : Identifier := { i with name := ρ i.name }

mutual

/-- The expression with other names for its variables. -/
def Expression.rename : Expression → Expression
  | .identifier i => .identifier (i.rename ρ)
  | .boolean value span => .boolean value span
  | .integer value span => .integer value span
  | .string value quote span => .string value quote span
  | .list elements span => .list (Expression.renameAll elements) span
  | .len argument span => .len argument.rename span

/-- The expressions with other names for their variables. -/
def Expression.renameAll : List Expression → List Expression
  | [] => []
  | e :: es => e.rename :: Expression.renameAll es

end

def Term.rename : Term → Term
  | .membership element collection => .membership (element.rename ρ) (collection.rename ρ)
  | .equality left right => .equality (left.rename ρ) (right.rename ρ)
  | .name i => .name (i.rename ρ)
  | .constant value span => .constant value span

def Condition.rename (c : Condition) : Condition :=
  ⟨c.first.rename ρ, c.others.map (Term.rename ρ)⟩

/-- The action with other names for its variables.  A method keeps its name. -/
def Action.rename : Action → Action
  | .assignment target value => .assignment (target.rename ρ) (value.rename ρ)
  | .print argument => .print (argument.map (Expression.rename ρ))
  | .methodCall receiver method argument =>
    .methodCall (receiver.rename ρ) method (argument.rename ρ)

def Header.rename : Header → Header
  | .branch condition => .branch (condition.rename ρ)
  | .loop variableName iterable => .loop (variableName.rename ρ) (iterable.rename ρ)

def Simple.rename (s : Simple) : Simple := { s with action := s.action.rename ρ }

def Statement.rename : Statement → Statement
  | .simple s => .simple (s.rename ρ)
  | .block b => .block { b with header := b.header.rename ρ, body := b.body.map (Simple.rename ρ) }

/-- The spell with other names for its variables. -/
def Program.rename (p : Program) : Program :=
  { p with statements := p.statements.map (Statement.rename ρ) }

end Rename

/-! ### The same names -/

mutual

theorem Expression.rename_id (e : Expression) : e.rename id = e := by
  cases e with
  | list elements span => rw [Expression.rename, Expression.renameAll_id elements]
  | len argument span => rw [Expression.rename, Expression.rename_id argument]
  | identifier | boolean | integer | string => rfl

theorem Expression.renameAll_id (elements : List Expression) :
    Expression.renameAll id elements = elements := by
  cases elements with
  | nil => rfl
  | cons e es => rw [Expression.renameAll, Expression.rename_id e, Expression.renameAll_id es]

end

theorem Term.rename_id (t : Term) : t.rename id = t := by
  cases t with
  | membership | equality => simp only [Term.rename, Expression.rename_id]
  | name | constant => rfl

theorem Action.rename_id (a : Action) : a.rename id = a := by
  cases a with
  | assignment target value => rw [Action.rename, Expression.rename_id]; rfl
  | print argument =>
    rw [Action.rename, funext Expression.rename_id]
    exact congrArg _ Option.map_id'
  | methodCall receiver method argument => rw [Action.rename, Expression.rename_id]; rfl

theorem Header.rename_id (h : Header) : h.rename id = h := by
  cases h with
  | branch c =>
    rw [Header.rename, Condition.rename, Term.rename_id, funext Term.rename_id]
    exact congrArg (fun others => Header.branch ⟨c.first, others⟩) (List.map_id' c.others)
  | loop => rfl

theorem Simple.rename_id (s : Simple) : s.rename id = s := by
  rw [Simple.rename, Action.rename_id]

theorem Statement.rename_id (s : Statement) : s.rename id = s := by
  cases s with
  | simple s => exact congrArg Statement.simple s.rename_id
  | block b =>
    rw [Statement.rename, Header.rename_id, funext Simple.rename_id, Option.map_id']

theorem Program.rename_id (p : Program) : p.rename id = p := by
  rw [Program.rename, funext Statement.rename_id, List.map_id']

/-! ## Names in use -/

mutual

/-- The names of the variables in the expression. -/
def Expression.variables : Expression → List Text
  | .identifier i => [i.name]
  | .list elements _ => Expression.variablesAll elements
  | .len argument _ => argument.variables
  | .boolean _ _ => []
  | .integer _ _ => []
  | .string _ _ _ => []

/-- The names of the variables in the expressions. -/
def Expression.variablesAll : List Expression → List Text
  | [] => []
  | e :: es => e.variables ++ Expression.variablesAll es

end

def Term.variables : Term → List Text
  | .membership element collection => element.variables ++ collection.variables
  | .equality left right => left.variables ++ right.variables
  | .name i => [i.name]
  | .constant _ _ => []

def Condition.variables (c : Condition) : List Text := c.terms.flatMap Term.variables

/-- The names of the variables that the action sets or reads.  A method is no variable. -/
def Action.variables : Action → List Text
  | .assignment target value => target.name :: value.variables
  | .print argument => argument.elim [] Expression.variables
  | .methodCall receiver _ argument => receiver.name :: argument.variables

def Header.variables : Header → List Text
  | .branch condition => condition.variables
  | .loop variableName iterable => [variableName.name, iterable.name]

def Statement.variables : Statement → List Text
  | .simple s => s.action.variables
  | .block b => b.header.variables ++ b.body.elim [] fun s => s.action.variables

/-- The names of all variables of the spell. -/
def Program.variables (p : Program) : List Text := p.statements.flatMap Statement.variables

/-! ## Twins -/

/-- A renaming that keeps the names in use apart. -/
structure Renaming where
  names : List Text
  apply : Text → Text
  injOn : Set.InjOn apply {name | name ∈ names}

section Twin

variable (r : Renaming)

/-- The second name is what the first one becomes. -/
structure Renaming.Takes (name name' : Text) : Prop where
  mem : name ∈ r.names
  eq_apply : name' = r.apply name

/-- The second expression is the first with its names replaced, at other places and with other
quotes. -/
inductive Expression.Twin : Expression → Expression → Prop
  | identifier {i j : Identifier} (h : r.Takes i.name j.name) : Twin (.identifier i) (.identifier j)
  | boolean (value : Bool) (span span' : Span) : Twin (.boolean value span) (.boolean value span')
  | integer (value : Nat) (span span' : Span) : Twin (.integer value span) (.integer value span')
  | string (value : Text) (quote quote' : Quote) (span span' : Span) :
    Twin (.string value quote span) (.string value quote' span')
  | list {elements elements' : List Expression} (span span' : Span)
    (h : List.Forall₂ Twin elements elements') : Twin (.list elements span) (.list elements' span')
  | len {argument argument' : Expression} (span span' : Span) (h : Twin argument argument') :
    Twin (.len argument span) (.len argument' span')

inductive Term.Twin : Term → Term → Prop
  | membership {element element' collection collection' : Expression}
    (helement : element.Twin r element') (hcollection : collection.Twin r collection') :
    Twin (.membership element collection) (.membership element' collection')
  | equality {left left' right right' : Expression} (hleft : left.Twin r left')
    (hright : right.Twin r right') : Twin (.equality left right) (.equality left' right')
  | name {i j : Identifier} (h : r.Takes i.name j.name) : Twin (.name i) (.name j)
  | constant (value : Bool) (span span' : Span) :
    Twin (.constant value span) (.constant value span')

def Condition.Twin (c d : Condition) : Prop := List.Forall₂ (Term.Twin r) c.terms d.terms

inductive Action.Twin : Action → Action → Prop
  | assignment {target target' : Identifier} {value value' : Expression}
    (htarget : r.Takes target.name target'.name) (hvalue : value.Twin r value') :
    Twin (.assignment target value) (.assignment target' value')
  | print {argument argument' : Option Expression}
    (h : Option.Rel (Expression.Twin r) argument argument') :
    Twin (.print argument) (.print argument')
  | methodCall {receiver receiver' method method' : Identifier} {argument argument' : Expression}
    (hreceiver : r.Takes receiver.name receiver'.name) (hmethod : method'.name = method.name)
    (hargument : argument.Twin r argument') :
    Twin (.methodCall receiver method argument) (.methodCall receiver' method' argument')

inductive Header.Twin : Header → Header → Prop
  | branch {c d : Condition} (h : c.Twin r d) : Twin (.branch c) (.branch d)
  | loop {variableName variableName' iterable iterable' : Identifier}
    (hname : r.Takes variableName.name variableName'.name)
    (hiterable : r.Takes iterable.name iterable'.name) :
    Twin (.loop variableName iterable) (.loop variableName' iterable')

inductive Statement.Twin : Statement → Statement → Prop
  | simple {s t : Simple} (h : s.action.Twin r t.action) : Twin (.simple s) (.simple t)
  | block {b c : Block} (hheader : b.header.Twin r c.header)
    (hbody : Option.Rel (fun s t => s.action.Twin r t.action) b.body c.body) :
    Twin (.block b) (.block c)

end Twin

/-! ## Equal up to names, places and quotes -/

section Plain

variable {r : Renaming}

theorem Identifier.takes_of_plain_eq {i j : Identifier} (hnames : i.name ∈ r.names)
    (h : j.mapSpan nowhere = (i.rename r.apply).mapSpan nowhere) : r.Takes i.name j.name :=
  ⟨hnames, congrArg Identifier.name h⟩

mutual

theorem Expression.twin_of_plain_eq (e f : Expression) (hnames : e.variables ⊆ r.names)
    (h : f.plain = (e.rename r.apply).plain) : e.Twin r f := by
  cases e with
  | identifier i =>
    cases f with
    | identifier j =>
      exact .identifier (Identifier.takes_of_plain_eq (hnames List.mem_cons_self)
        (Expression.identifier.inj h))
    | _ => contradiction
  | boolean value span =>
    cases f with
    | boolean value' span' =>
      obtain ⟨rfl, -⟩ := Expression.boolean.inj h
      exact .boolean value' span span'
    | _ => contradiction
  | integer value span =>
    cases f with
    | integer value' span' =>
      obtain ⟨rfl, -⟩ := Expression.integer.inj h
      exact .integer value' span span'
    | _ => contradiction
  | string value quote span =>
    cases f with
    | string value' quote' span' =>
      obtain ⟨rfl, -⟩ := Expression.string.inj h
      exact .string value' quote quote' span span'
    | _ => contradiction
  | list elements span =>
    cases f with
    | list elements' span' =>
      exact .list span span'
        (Expression.twins_of_plainAll_eq elements elements' hnames (Expression.list.inj h).1)
    | _ => contradiction
  | len argument span =>
    cases f with
    | len argument' span' =>
      exact .len span span'
        (Expression.twin_of_plain_eq argument argument' hnames (Expression.len.inj h).1)
    | _ => contradiction

theorem Expression.twins_of_plainAll_eq (es fs : List Expression)
    (hnames : Expression.variablesAll es ⊆ r.names)
    (h : Expression.plainAll fs = Expression.plainAll (Expression.renameAll r.apply es)) :
    List.Forall₂ (Expression.Twin r) es fs := by
  cases es with
  | nil =>
    cases fs with
    | nil => exact .nil
    | cons f fs => contradiction
  | cons e es =>
    cases fs with
    | nil => contradiction
    | cons f fs =>
      obtain ⟨hfirst, hrest⟩ := List.cons.inj h
      obtain ⟨hfirstNames, hrestNames⟩ := List.append_subset.1 hnames
      exact .cons (Expression.twin_of_plain_eq e f hfirstNames hfirst)
        (Expression.twins_of_plainAll_eq es fs hrestNames hrest)

end

theorem Term.twin_of_plain_eq {t u : Term} (hnames : t.variables ⊆ r.names)
    (h : u.plain = (t.rename r.apply).plain) : t.Twin r u := by
  cases t with
  | membership element collection =>
    cases u with
    | membership element' collection' =>
      obtain ⟨hfirst, hsecond⟩ := Term.membership.inj h
      obtain ⟨hfirstNames, hsecondNames⟩ := List.append_subset.1 hnames
      exact .membership (Expression.twin_of_plain_eq _ _ hfirstNames hfirst)
        (Expression.twin_of_plain_eq _ _ hsecondNames hsecond)
    | _ => contradiction
  | equality left right =>
    cases u with
    | equality left' right' =>
      obtain ⟨hfirst, hsecond⟩ := Term.equality.inj h
      obtain ⟨hfirstNames, hsecondNames⟩ := List.append_subset.1 hnames
      exact .equality (Expression.twin_of_plain_eq _ _ hfirstNames hfirst)
        (Expression.twin_of_plain_eq _ _ hsecondNames hsecond)
    | _ => contradiction
  | name i =>
    cases u with
    | name j =>
      exact .name (Identifier.takes_of_plain_eq (hnames List.mem_cons_self) (Term.name.inj h))
    | _ => contradiction
  | constant value span =>
    cases u with
    | constant value' span' =>
      obtain ⟨rfl, -⟩ := Term.constant.inj h
      exact .constant value' span span'
    | _ => contradiction

/-- Two rows are twins if their parts are. -/
theorem forall₂_of_map_eq {α β : Type} {twin : α → α → Prop} (plain : α → β) {rename : α → α}
    {names : α → List Text}
    (htwin : ∀ {a b}, names a ⊆ r.names → plain b = plain (rename a) → twin a b)
    {as bs : List α} (hnames : as.flatMap names ⊆ r.names)
    (h : bs.map plain = (as.map rename).map plain) : List.Forall₂ twin as bs := by
  induction as generalizing bs with
  | nil =>
    obtain rfl := List.map_eq_nil_iff.1 h
    exact .nil
  | cons a as ih =>
    cases bs with
    | nil => contradiction
    | cons b bs =>
      obtain ⟨hfirst, hrest⟩ := List.cons.inj h
      obtain ⟨hfirstNames, hrestNames⟩ := List.append_subset.1 hnames
      exact .cons (htwin hfirstNames hfirst) (ih hrestNames hrest)

theorem Condition.twin_of_plain_eq {c d : Condition} (hnames : c.variables ⊆ r.names)
    (h : d.plain = (c.rename r.apply).plain) : c.Twin r d := by
  obtain ⟨hfirst, hothers⟩ := Condition.mk.inj h
  refine forall₂_of_map_eq Term.plain Term.twin_of_plain_eq hnames ?_
  exact congrArg₂ List.cons hfirst hothers

theorem Action.twin_of_plain_eq {a b : Action} (hnames : a.variables ⊆ r.names)
    (h : b.plain = (a.rename r.apply).plain) : a.Twin r b := by
  cases a with
  | assignment target value =>
    cases b with
    | assignment target' value' =>
      obtain ⟨htarget, hvalue⟩ := Action.assignment.inj h
      obtain ⟨htargetName, hvalueNames⟩ := List.cons_subset.1 hnames
      exact .assignment (Identifier.takes_of_plain_eq htargetName htarget)
        (Expression.twin_of_plain_eq _ _ hvalueNames hvalue)
    | _ => contradiction
  | print argument =>
    cases b with
    | print argument' =>
      have hargument := Action.print.inj h
      cases argument with
      | none =>
        obtain rfl := Option.map_eq_none_iff.1 hargument
        exact .print .none
      | some e =>
        obtain ⟨f, rfl, hf⟩ := Option.map_eq_some_iff.1 hargument
        exact .print (.some (Expression.twin_of_plain_eq _ _ hnames hf))
    | _ => contradiction
  | methodCall receiver method argument =>
    cases b with
    | methodCall receiver' method' argument' =>
      obtain ⟨hreceiver, hmethod, hargument⟩ := Action.methodCall.inj h
      obtain ⟨hreceiverName, hargumentNames⟩ := List.cons_subset.1 hnames
      exact .methodCall (Identifier.takes_of_plain_eq hreceiverName hreceiver)
        (Identifier.mk.inj hmethod).1
        (Expression.twin_of_plain_eq _ _ hargumentNames hargument)
    | _ => contradiction

theorem Header.twin_of_plain_eq {g h : Header} (hnames : g.variables ⊆ r.names)
    (heq : h.plain = (g.rename r.apply).plain) : g.Twin r h := by
  cases g with
  | branch c =>
    cases h with
    | branch d => exact .branch (Condition.twin_of_plain_eq hnames (Header.branch.inj heq))
    | loop => contradiction
  | loop variableName iterable =>
    cases h with
    | branch => contradiction
    | loop variableName' iterable' =>
      obtain ⟨hname, hiterable⟩ := Header.loop.inj heq
      have hmem : iterable.name ∈ [variableName.name, iterable.name] :=
        List.mem_cons_of_mem _ List.mem_cons_self
      exact .loop (Identifier.takes_of_plain_eq (hnames List.mem_cons_self) hname)
        (Identifier.takes_of_plain_eq (hnames hmem) hiterable)

theorem Statement.twin_of_plain_eq {s t : Statement} (hnames : s.variables ⊆ r.names)
    (h : t.plain = (s.rename r.apply).plain) : s.Twin r t := by
  cases s with
  | simple s =>
    cases t with
    | simple t =>
      obtain ⟨haction, -, -⟩ := Simple.mk.inj (Statement.simple.inj h)
      exact .simple (Action.twin_of_plain_eq hnames haction)
    | block => contradiction
  | block b =>
    cases t with
    | simple => contradiction
    | block c =>
      obtain ⟨header, line, span, body⟩ := b
      obtain ⟨header', line', span', body'⟩ := c
      obtain ⟨hheader, -, -, hbody⟩ := Block.mk.inj (Statement.block.inj h)
      obtain ⟨hheaderNames, hbodyNames⟩ := List.append_subset.1 hnames
      refine .block (Header.twin_of_plain_eq hheaderNames hheader) ?_
      cases body with
      | none =>
        obtain rfl := Option.map_eq_none_iff.1 hbody
        exact .none
      | some s =>
        obtain ⟨t, rfl, ht⟩ := Option.map_eq_some_iff.1 hbody
        exact .some (Action.twin_of_plain_eq hbodyNames (Simple.mk.inj ht).1)

/-- Two spells that are equal up to names, places and quotes are twins, statement by statement. -/
theorem Program.twins_of_plain_eq {p q : Program} (hnames : p.variables ⊆ r.names)
    (h : q.plain = (p.rename r.apply).plain) :
    List.Forall₂ (Statement.Twin r) p.statements q.statements :=
  forall₂_of_map_eq Statement.plain Statement.twin_of_plain_eq hnames
    (Program.mk.inj h).1

end Plain

end Spellbook
