import Spellbook.Proofs.Syntax.Places

/-!
# The tree of a line

What a line says is a tree: the clause at its root, and conditions, terms, expressions and names
inside it.  Every node has a span, and nodes at other places have the same children at other
places.
-/

namespace Spellbook

/-! ## Spans in a row -/

/-- The spans are not empty and stand one behind another between the two positions. -/
def Span.InOrder : Nat → List Span → Nat → Prop
  | start, [], stop => start ≤ stop
  | start, s :: rest, stop => start ≤ s.start ∧ s.start < s.stop ∧ InOrder s.stop rest stop

namespace Span.InOrder

variable {start middle stop : Nat} {spans more : List Span}

theorem mono {start' stop' : Nat} (h : InOrder start spans stop) (hstart : start' ≤ start)
    (hstop : stop ≤ stop') : InOrder start' spans stop' := by
  induction spans generalizing start start' with
  | nil => exact Nat.le_trans hstart (Nat.le_trans h hstop)
  | cons s rest ih =>
    obtain ⟨hfirst, hspan, hrest⟩ := h
    exact ⟨Nat.le_trans hstart hfirst, hspan, ih hrest (Nat.le_refl _)⟩

theorem append (h : InOrder start spans middle) (hmore : InOrder middle more stop) :
    InOrder start (spans ++ more) stop := by
  induction spans generalizing start with
  | nil => exact hmore.mono h (Nat.le_refl _)
  | cons s rest ih =>
    obtain ⟨hfirst, hspan, hrest⟩ := h
    exact ⟨hfirst, hspan, ih hrest⟩

theorem shift (bytes : Nat) (h : InOrder start spans stop) :
    InOrder (start + bytes) (spans.map (Span.shift bytes)) (stop + bytes) := by
  induction spans generalizing start with
  | nil => exact Nat.add_le_add_right h bytes
  | cons s rest ih =>
    obtain ⟨hfirst, hspan, hrest⟩ := h
    exact ⟨Nat.add_le_add_right hfirst bytes, Nat.add_lt_add_right hspan bytes, ih hrest⟩

/-- The first span begins no earlier, and the last ends no later, and between them nothing is
lost. -/
theorem tighten (h : InOrder start spans stop) {first last : Span}
    (hfirst : spans.head? = some first) (hlast : spans.getLast? = some last) :
    start ≤ first.start ∧ first.start < last.stop ∧ last.stop ≤ stop ∧
      InOrder first.start spans last.stop := by
  induction spans generalizing start first with
  | nil => exact nomatch hfirst
  | cons s rest ih =>
    obtain rfl := Option.some.inj hfirst
    obtain ⟨hstart, hspan, hrest⟩ := h
    cases rest with
    | nil =>
      obtain rfl := Option.some.inj hlast
      exact ⟨hstart, hspan, hrest, Nat.le_refl _, hspan, Nat.le_refl _⟩
    | cons second rest =>
      rw [List.getLast?_cons_cons] at hlast
      obtain ⟨hsecond, hlt, hstop, htight⟩ := ih hrest rfl hlast
      refine ⟨hstart, by omega, hstop, Nat.le_refl _, hspan, ?_⟩
      exact htight.mono hsecond (Nat.le_refl _)

end Span.InOrder

/-! ## Nodes -/

/-- A node of the tree of a line. -/
inductive Node where
  | clause (c : Clause)
  | condition (c : Condition)
  | term (t : Term)
  | expression (e : Expression)
  | identifier (i : Identifier)

namespace Node

def span : Node → Span
  | clause c => c.span
  | condition c => c.span
  | term t => t.span
  | expression e => e.span
  | identifier i => i.span

/-- The parts of an action, in the order they are written. -/
def ofAction : Action → List Node
  | .assignment target value => [identifier target, expression value]
  | .print argument => (argument.map expression).toList
  | .methodCall receiver method argument =>
    [identifier receiver, identifier method, expression argument]

/-- The parts of a header, in the order they are written. -/
def ofHeader : Header → List Node
  | .branch c => [condition c]
  | .loop variableName iterable => [identifier variableName, identifier iterable]

/-- The parts of a form, in the order they are written. -/
def ofForm : Form → List Node
  | .action a => ofAction a
  | .header h => ofHeader h

/-- The nodes right inside the node, in the order they are written.  A bare name or constant is an
expression inside its term, and a name is a node inside its expression. -/
def children : Node → List Node
  | clause c => ofForm c.form
  | condition c => c.terms.map term
  | term (.membership element collection) => [expression element, expression collection]
  | term (.equality left right) => [expression left, expression right]
  | term (.name i) => [expression (.identifier i)]
  | term (.constant value span) => [expression (.boolean value span)]
  | expression (.identifier i) => [identifier i]
  | expression (.list elements _) => elements.map expression
  | expression (.len argument _) => [expression argument]
  | expression (.boolean _ _) => []
  | expression (.integer _ _) => []
  | expression (.string _ _ _) => []
  | identifier _ => []

/-- The first node is the second, or stands somewhere inside it. -/
inductive Inside : Node → Node → Prop
  | refl (n : Node) : Inside n n
  | child {m c n : Node} : c ∈ n.children → Inside m c → Inside m n

theorem Inside.trans {l m n : Node} (hlm : l.Inside m) (hmn : m.Inside n) : l.Inside n := by
  induction hmn with
  | refl => exact hlm
  | child hc _ ih => exact .child hc ih

theorem forall_inside {P : Node → Prop} {n : Node} (h : P n)
    (hchildren : ∀ c ∈ n.children, ∀ m : Node, m.Inside c → P m) :
    ∀ m : Node, m.Inside n → P m := by
  intro m hm
  cases hm with
  | refl => exact h
  | child hc hinside => exact hchildren _ hc m hinside

/-! ## Nodes at other places -/

variable (f : Span → Span)

def mapSpan : Node → Node
  | clause ⟨form, span⟩ => clause ⟨form.mapSpan f, f span⟩
  | condition c => condition (c.mapSpan f)
  | term t => term (t.mapSpan f)
  | expression e => expression (e.mapSpan f)
  | identifier i => identifier (i.mapSpan f)

theorem ofForm_mapSpan (form : Form) : ofForm (form.mapSpan f) = (ofForm form).map (mapSpan f) := by
  rcases form with a | h
  · cases a with
    | print argument => cases argument <;> rfl
    | assignment | methodCall => rfl
  · cases h <;> rfl

theorem children_mapSpan (n : Node) : (n.mapSpan f).children = n.children.map (mapSpan f) := by
  cases n with
  | clause c => exact ofForm_mapSpan f c.form
  | condition c =>
    simp only [mapSpan, children, Condition.terms, Condition.mapSpan, List.map_cons, List.map_map]
    rfl
  | term t => cases t <;> rfl
  | expression e =>
    cases e with
    | list elements span =>
      simp only [mapSpan, Expression.mapSpan, children, Expression.mapSpanAll_eq_map, List.map_map]
      rfl
    | identifier | boolean | integer | string | len => rfl
  | identifier i => rfl

/-- What is inside a node at another place is inside the node, at another place. -/
theorem Inside.exists_of_mapSpan {m n : Node} (h : Inside m (n.mapSpan f)) :
    ∃ m', Inside m' n ∧ m = m'.mapSpan f := by
  generalize hn : n.mapSpan f = n' at h
  induction h generalizing n with
  | refl => exact ⟨n, .refl n, hn.symm⟩
  | child hmem _ ih =>
    subst hn
    rw [children_mapSpan] at hmem
    obtain ⟨c, hc, rfl⟩ := List.mem_map.1 hmem
    obtain ⟨m', hinside, rfl⟩ := ih rfl
    exact ⟨m', .child hc hinside, rfl⟩

end Node

/-! ## Integer literals -/

section Integers

variable {value : Nat} {span : Span}

mutual

theorem Expression.inside_of_mem_integers (e : Expression) (h : (value, span) ∈ e.integers) :
    (Node.expression (.integer value span)).Inside (.expression e) := by
  cases e with
  | integer value' span' =>
    obtain ⟨rfl, rfl⟩ := Prod.mk.inj (List.mem_singleton.1 h)
    exact .refl _
  | list elements span' =>
    obtain ⟨e, he, hinside⟩ := Expression.exists_inside_of_mem_integersAll elements h
    exact .child (List.mem_map_of_mem he) hinside
  | len argument span' =>
    exact .child List.mem_cons_self (Expression.inside_of_mem_integers argument h)
  | identifier | boolean | string => exact absurd h List.not_mem_nil

theorem Expression.exists_inside_of_mem_integersAll (elements : List Expression)
    (h : (value, span) ∈ Expression.integersAll elements) :
    ∃ e ∈ elements, (Node.expression (.integer value span)).Inside (.expression e) := by
  cases elements with
  | nil => exact absurd h List.not_mem_nil
  | cons e es =>
    rcases List.mem_append.1 h with h | h
    · exact ⟨e, List.mem_cons_self, Expression.inside_of_mem_integers e h⟩
    · obtain ⟨e', he', hinside⟩ := Expression.exists_inside_of_mem_integersAll es h
      exact ⟨e', List.mem_cons_of_mem e he', hinside⟩

end

theorem Term.inside_of_mem_integers (t : Term) (h : (value, span) ∈ t.integers) :
    (Node.expression (.integer value span)).Inside (.term t) := by
  cases t with
  | membership first second | equality first second =>
    rcases List.mem_append.1 h with h | h
    · exact .child List.mem_cons_self (first.inside_of_mem_integers h)
    · exact .child (List.mem_cons_of_mem _ List.mem_cons_self) (second.inside_of_mem_integers h)
  | name | constant => exact absurd h List.not_mem_nil

/-- Every integer literal of a line is a node of its tree. -/
theorem Clause.inside_of_mem_integers (c : Clause) (h : (value, span) ∈ c.integers) :
    (Node.expression (.integer value span)).Inside (.clause c) := by
  rcases c with ⟨a | header, clauseSpan⟩
  · cases a with
    | assignment target e =>
      exact .child (List.mem_cons_of_mem _ List.mem_cons_self) (e.inside_of_mem_integers h)
    | print argument =>
      cases argument with
      | none => exact absurd h List.not_mem_nil
      | some e => exact .child List.mem_cons_self (e.inside_of_mem_integers h)
    | methodCall receiver method e =>
      exact .child (List.mem_cons_of_mem _ (List.mem_cons_of_mem _ List.mem_cons_self))
        (e.inside_of_mem_integers h)
  · cases header with
    | branch condition =>
      obtain ⟨t, ht, h⟩ := List.mem_flatMap.1 h
      have hterm : Node.term t ∈ (Node.condition condition).children := List.mem_map_of_mem ht
      exact .child List.mem_cons_self (.child hterm (t.inside_of_mem_integers h))
    | loop variableName iterable => exact absurd h List.not_mem_nil

end Integers

/-! ## Spans that were shifted -/

theorem Term.span_mapSpan_shift (bytes : Nat) (t : Term) :
    (t.mapSpan (Span.shift bytes)).span = t.span.shift bytes := by
  cases t with
  | membership element collection =>
    simp only [Term.mapSpan, Term.span, Expression.span_mapSpan, Span.through_shift]
  | equality left right =>
    simp only [Term.mapSpan, Term.span, Expression.span_mapSpan, Span.through_shift]
  | name i => rfl
  | constant value span => rfl

theorem Condition.span_mapSpan_shift (bytes : Nat) (c : Condition) :
    (c.mapSpan (Span.shift bytes)).span = c.span.shift bytes := by
  unfold Condition.span Condition.mapSpan
  dsimp only
  rw [List.getLast?_map]
  cases c.others.getLast? with
  | none => exact Term.span_mapSpan_shift bytes c.first
  | some last =>
    simp only [Option.map_some, Term.span_mapSpan_shift, Span.through_shift]

theorem Node.span_mapSpan_shift (bytes : Nat) (n : Node) :
    (n.mapSpan (Span.shift bytes)).span = n.span.shift bytes := by
  cases n with
  | clause c => rfl
  | condition c => exact Condition.span_mapSpan_shift bytes c
  | term t => exact Term.span_mapSpan_shift bytes t
  | expression e => exact Expression.span_mapSpan e
  | identifier i => rfl

/-- A condition reaches from the start of its first term to the end of its last. -/
theorem Condition.span_eq_through (c : Condition) {last : Term} (h : c.terms.getLast? = some last) :
    c.span = c.first.span.through last.span := by
  unfold Condition.terms at h
  unfold Condition.span
  cases hothers : c.others.getLast? with
  | none =>
    rw [List.getLast?_eq_none_iff.1 hothers] at h
    obtain rfl := Option.some.inj h
    rfl
  | some other =>
    rw [List.getLast?_cons, hothers] at h
    obtain rfl := Option.some.inj h
    rfl

end Spellbook
