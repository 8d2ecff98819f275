import Spellbook.Proofs.Grammar.Scanner
import Spellbook.Proofs.Syntax.Plain
import Spellbook.Proofs.Syntax.Tree

/-!
# Spells in parentheses are trees

A spell in parentheses writes a tree, and spells with the same tree are the same once they are
plain.  The tree takes no notice of how a node is laid out: a body on its own line, the only
statement of a spell and a method behind its receiver are parts like any other.
-/

namespace Spellbook

/-! ## The tree of a spell -/

mutual

def Expression.tree : Expression → SExpr
  | .identifier i => .node "identifier" [.word i.name]
  | .boolean value _ => .node "boolean" [.word (Text.ofBool value)]
  | .integer value _ => .node "integer" [.word (Text.ofNat value)]
  | .string value _ _ => .node "string" [.quoted value]
  | .list elements _ => .node "list" (Expression.treeAll elements)
  | .len argument _ => .node "len" [argument.tree]

def Expression.treeAll : List Expression → List SExpr
  | [] => []
  | e :: es => e.tree :: Expression.treeAll es

end

def Term.tree : Term → SExpr
  | .membership element collection => .node "in" [element.tree, collection.tree]
  | .equality left right => .node "==" [left.tree, right.tree]
  | .name i => .node "identifier" [.word i.name]
  | .constant value _ => .node "boolean" [.word (Text.ofBool value)]

/-- A single term stands for itself. -/
def Condition.tree (c : Condition) : SExpr :=
  match c.others with
  | [] => c.first.tree
  | _ :: _ => .node "and" (c.terms.map Term.tree)

def Action.tree : Action → SExpr
  | .assignment target value => .node "assign" [.word target.name, value.tree]
  | .print argument => .node "print" (argument.toList.map Expression.tree)
  | .methodCall receiver method argument =>
    .node "call" [.word receiver.name, .word method.name, argument.tree]

/-- The tree of a header with further parts, for its body. -/
def Header.tree (body : List SExpr) : Header → SExpr
  | .branch condition => .node "if" (condition.tree :: body)
  | .loop variableName iterable =>
    .node "for" (.word variableName.name :: .word iterable.name :: body)

def Statement.tree : Statement → SExpr
  | .simple s => s.action.tree
  | .block b => b.header.tree (b.body.toList.map fun s => s.action.tree)

def Program.tree (p : Program) : SExpr := .node "program" (p.statements.map Statement.tree)

/-! ## The same tree -/

namespace SExpr

variable {head head' v w : Text} {a b c d : SExpr}

theorem word_inj (h : node head [word v] = node head' [word w]) : v = w :=
  word.inj (List.singleton_inj.1 (node.inj h).2)

theorem pair_inj (h : node head [a, b] = node head' [c, d]) : a = c ∧ b = d := by
  obtain ⟨hfirst, hsecond⟩ := List.cons.inj (node.inj h).2
  exact ⟨hfirst, List.singleton_inj.1 hsecond⟩

end SExpr

theorem Identifier.mapSpan_nowhere_eq {i j : Identifier} (h : i.name = j.name) :
    i.mapSpan nowhere = j.mapSpan nowhere := by
  unfold Identifier.mapSpan nowhere
  rw [h]

mutual

theorem Expression.plain_eq_of_tree_eq (e f : Expression) (h : e.tree = f.tree) :
    e.plain = f.plain := by
  -- expressions of different kinds have different heads
  cases e with
  | identifier i =>
    cases f with
    | identifier j =>
      exact congrArg Expression.identifier (Identifier.mapSpan_nowhere_eq (SExpr.word_inj h))
    | boolean | integer | string | list | len => exact absurd (SExpr.node.inj h).1 (by decide)
  | boolean value span =>
    cases f with
    | boolean value' span' =>
      obtain rfl := Text.ofBool_inj (SExpr.word_inj h)
      rfl
    | identifier | integer | string | list | len => exact absurd (SExpr.node.inj h).1 (by decide)
  | integer value span =>
    cases f with
    | integer value' span' =>
      obtain rfl := Text.ofNat_inj (SExpr.word_inj h)
      rfl
    | identifier | boolean | string | list | len => exact absurd (SExpr.node.inj h).1 (by decide)
  | string value quote span =>
    cases f with
    | string value' quote' span' =>
      obtain rfl := SExpr.quoted.inj (List.singleton_inj.1 (SExpr.node.inj h).2)
      rfl
    | identifier | boolean | integer | list | len => exact absurd (SExpr.node.inj h).1 (by decide)
  | list elements span =>
    cases f with
    | list elements' span' =>
      have helements := Expression.plainAll_eq_of_treeAll_eq elements elements' (SExpr.node.inj h).2
      unfold Expression.plain
      rw [helements]
      rfl
    | identifier | boolean | integer | string | len => exact absurd (SExpr.node.inj h).1 (by decide)
  | len argument span =>
    cases f with
    | len argument' span' =>
      have hargument := Expression.plain_eq_of_tree_eq argument argument'
        (List.singleton_inj.1 (SExpr.node.inj h).2)
      unfold Expression.plain
      rw [hargument]
      rfl
    | identifier | boolean | integer | string | list =>
      exact absurd (SExpr.node.inj h).1 (by decide)

theorem Expression.plainAll_eq_of_treeAll_eq (es fs : List Expression)
    (h : Expression.treeAll es = Expression.treeAll fs) :
    Expression.plainAll es = Expression.plainAll fs := by
  cases es with
  | nil =>
    cases fs with
    | nil => rfl
    | cons f fs => exact nomatch h
  | cons e es =>
    cases fs with
    | nil => exact nomatch h
    | cons f fs =>
      obtain ⟨hfirst, hothers⟩ := List.cons.inj h
      unfold Expression.plainAll
      rw [Expression.plain_eq_of_tree_eq e f hfirst,
        Expression.plainAll_eq_of_treeAll_eq es fs hothers]

end

theorem Term.plain_eq_of_tree_eq (t u : Term) (h : t.tree = u.tree) : t.plain = u.plain := by
  cases t with
  | membership element collection =>
    cases u with
    | membership element' collection' =>
      obtain ⟨hfirst, hsecond⟩ := SExpr.pair_inj h
      simp only [Term.plain, element.plain_eq_of_tree_eq element' hfirst,
        collection.plain_eq_of_tree_eq collection' hsecond]
    | equality | name | constant => exact absurd (SExpr.node.inj h).1 (by decide)
  | equality left right =>
    cases u with
    | equality left' right' =>
      obtain ⟨hfirst, hsecond⟩ := SExpr.pair_inj h
      simp only [Term.plain, left.plain_eq_of_tree_eq left' hfirst,
        right.plain_eq_of_tree_eq right' hsecond]
    | membership | name | constant => exact absurd (SExpr.node.inj h).1 (by decide)
  | name i =>
    cases u with
    | name j => exact congrArg Term.name (Identifier.mapSpan_nowhere_eq (SExpr.word_inj h))
    | membership | equality | constant => exact absurd (SExpr.node.inj h).1 (by decide)
  | constant value span =>
    cases u with
    | constant value' span' =>
      obtain rfl := Text.ofBool_inj (SExpr.word_inj h)
      rfl
    | membership | equality | name => exact absurd (SExpr.node.inj h).1 (by decide)

theorem map_eq_map_of_map_eq {α β γ : Type} {f : α → β} {g : α → γ}
    (hfg : ∀ a b, f a = f b → g a = g b) {as bs : List α} (h : as.map f = bs.map f) :
    as.map g = bs.map g := by
  induction as generalizing bs with
  | nil => rw [List.map_eq_nil_iff.1 h.symm]
  | cons a as ih =>
    cases bs with
    | nil => exact nomatch h
    | cons b bs =>
      obtain ⟨hfirst, hothers⟩ := List.cons.inj h
      rw [List.map_cons, List.map_cons, hfg a b hfirst, ih hothers]

theorem option_map_eq_of_map_eq {α β γ : Type} {f : α → β} {g : α → γ}
    (hfg : ∀ a b, f a = f b → g a = g b) {a b : Option α}
    (h : a.toList.map f = b.toList.map f) : a.map g = b.map g := by
  have hmap := map_eq_map_of_map_eq hfg h
  rw [← Option.toList_map, ← Option.toList_map] at hmap
  rw [← Option.head?_toList (o := a.map g), hmap, Option.head?_toList]

/-- A single term is not taken for several. -/
theorem Term.tree_ne_and (t : Term) (parts : List SExpr) : t.tree ≠ .node "and" parts := by
  intro h
  cases t <;> exact absurd (SExpr.node.inj h).1 (by decide)

theorem Condition.plain_eq_of_tree_eq (c d : Condition) (h : c.tree = d.tree) :
    c.plain = d.plain := by
  rcases c with ⟨first, _ | ⟨second, others⟩⟩
  · rcases d with ⟨first', _ | ⟨second', others'⟩⟩
    · unfold Condition.plain
      rw [first.plain_eq_of_tree_eq first' h]
    · exact absurd h (first.tree_ne_and _)
  · rcases d with ⟨first', _ | ⟨second', others'⟩⟩
    · exact absurd h.symm (first'.tree_ne_and _)
    · have hterms := map_eq_map_of_map_eq Term.plain_eq_of_tree_eq (SExpr.node.inj h).2
      obtain ⟨hfirst, hothers⟩ := List.cons.inj hterms
      unfold Condition.plain
      rw [hfirst, hothers]

theorem Action.plain_eq_of_tree_eq (a b : Action) (h : a.tree = b.tree) : a.plain = b.plain := by
  cases a with
  | assignment target value =>
    cases b with
    | assignment target' value' =>
      obtain ⟨htarget, hvalue⟩ := SExpr.pair_inj h
      simp only [Action.plain, value.plain_eq_of_tree_eq value' hvalue,
        Identifier.mapSpan_nowhere_eq (SExpr.word.inj htarget)]
    | print | methodCall => exact absurd (SExpr.node.inj h).1 (by decide)
  | print argument =>
    cases b with
    | print argument' =>
      have hargument := option_map_eq_of_map_eq Expression.plain_eq_of_tree_eq (SExpr.node.inj h).2
      exact congrArg Action.print hargument
    | assignment | methodCall => exact absurd (SExpr.node.inj h).1 (by decide)
  | methodCall receiver method argument =>
    cases b with
    | methodCall receiver' method' argument' =>
      obtain ⟨hreceiver, hrest⟩ := List.cons.inj (SExpr.node.inj h).2
      obtain ⟨hmethod, hargument⟩ := List.cons.inj hrest
      simp only [Action.plain, Identifier.mapSpan_nowhere_eq (SExpr.word.inj hreceiver),
        Identifier.mapSpan_nowhere_eq (SExpr.word.inj hmethod),
        argument.plain_eq_of_tree_eq argument' (List.singleton_inj.1 hargument)]
    | assignment | print => exact absurd (SExpr.node.inj h).1 (by decide)

theorem Header.plain_eq_of_tree_eq (h k : Header) {body body' : List SExpr}
    (heq : h.tree body = k.tree body') : h.plain = k.plain ∧ body = body' := by
  cases h with
  | branch condition =>
    cases k with
    | branch condition' =>
      obtain ⟨hcondition, hbody⟩ := List.cons.inj (SExpr.node.inj heq).2
      exact ⟨congrArg Header.branch (condition.plain_eq_of_tree_eq condition' hcondition), hbody⟩
    | loop => exact absurd (SExpr.node.inj heq).1 (by decide)
  | loop variableName iterable =>
    cases k with
    | branch => exact absurd (SExpr.node.inj heq).1 (by decide)
    | loop variableName' iterable' =>
      obtain ⟨hname, hrest⟩ := List.cons.inj (SExpr.node.inj heq).2
      obtain ⟨hiterable, hbody⟩ := List.cons.inj hrest
      simp only [Header.plain, Identifier.mapSpan_nowhere_eq (SExpr.word.inj hname),
        Identifier.mapSpan_nowhere_eq (SExpr.word.inj hiterable), hbody, and_self]

/-- An action is not taken for a header. -/
theorem Action.tree_ne_header (a : Action) (h : Header) (body : List SExpr) :
    a.tree ≠ h.tree body := by
  intro heq
  cases a <;> cases h <;> exact absurd (SExpr.node.inj heq).1 (by decide)

theorem Simple.plain_eq_of_tree_eq (s t : Simple) (h : s.action.tree = t.action.tree) :
    s.plain = t.plain := by
  simp only [Simple.plain, s.action.plain_eq_of_tree_eq t.action h, nowhere]

theorem Statement.plain_eq_of_tree_eq (s t : Statement) (h : s.tree = t.tree) :
    s.plain = t.plain := by
  cases s with
  | simple s =>
    cases t with
    | simple t => exact congrArg Statement.simple (s.plain_eq_of_tree_eq t h)
    | block b => exact absurd h (s.action.tree_ne_header b.header _)
  | block b =>
    cases t with
    | simple t => exact absurd h.symm (t.action.tree_ne_header b.header _)
    | block c =>
      obtain ⟨hheader, hbodies⟩ := b.header.plain_eq_of_tree_eq c.header h
      have hbody := option_map_eq_of_map_eq Simple.plain_eq_of_tree_eq hbodies
      simp only [Statement.plain, hheader, hbody, nowhere]

/-- Spells with the same tree say the same. -/
theorem Program.plain_eq_of_tree_eq (p q : Program) (h : p.tree = q.tree) : p.plain = q.plain := by
  have hstatements := map_eq_map_of_map_eq Statement.plain_eq_of_tree_eq (SExpr.node.inj h).2
  simp only [Program.plain, hstatements, nowhere]

/-! ## The tree is written -/

namespace SExpr

theorem isInWord_of_isWordChar {c : Char} (h : Token.isWordChar c) : isInWord c = true := by
  have hmarks : [' ', '\n', '.', '(', ')', '"'].all (fun d => !Token.isWordChar d) := by decide
  have hnot : c ∉ [' ', '\n', '.', '(', ')', '"'] := by
    intro hmem
    have hc := List.all_eq_true.1 hmarks c hmem
    rw [h] at hc
    contradiction
  simpa [isInWord, isGap, and_assoc] using hnot

theorem IsWord.of_token {w : Text} (h : Token.IsWord w) : IsWord w :=
  ⟨h.1, List.all_eq_true.2 fun c hc => isInWord_of_isWordChar (List.all_eq_true.1 h.2 c hc)⟩

theorem writes_word {w : Text} (h : Token.IsWord w) : (word w).Writes w := ⟨.of_token h, rfl⟩

theorem writes_name {w : Text} (h : Token.IsName w) : (word w).Writes w := writes_word h.isWord

theorem writes_ofBool (b : Bool) : (word (Text.ofBool b)).Writes (Text.ofBool b) := by
  refine writes_word ?_
  cases b <;> decide

theorem writes_ofNat (n : Nat) : (word (Text.ofNat n)).Writes (Text.ofNat n) := by
  have hdigits : Token.IsDigits (Text.ofNat n) := by
    refine ⟨Nat.toDigits_ne_nil, List.all_eq_true.2 fun c hc => ?_⟩
    exact Nat.isDigit_of_mem_toDigits (by decide) (by decide) hc
  exact writes_word hdigits.isWord

theorem isGap_blank : IsGap " " := by decide

theorem isGap_dot : IsGap "." := by decide

theorem isGap_lineStart (blanks : Nat) : IsGap (lineStart blanks) := by
  refine ⟨List.cons_ne_nil _ _, List.all_eq_true.2 fun c hc => ?_⟩
  rcases List.mem_cons.1 hc with rfl | hc
  · rfl
  · rw [List.eq_of_mem_replicate hc]
    rfl

end SExpr

open SExpr

mutual

theorem Expression.writes_tree (e : Expression) (h : ∃ tokens, e.Spelled tokens) :
    e.tree.Writes e.sexpr := by
  obtain ⟨tokens, h⟩ := h
  cases e with
  | identifier i =>
    exact writes_node (by decide) (writesAll_singleton isGap_blank (writes_name h.1))
  | boolean value span =>
    exact writes_node (by decide) (writesAll_singleton isGap_blank (writes_ofBool value))
  | integer value span =>
    exact writes_node (by decide) (writesAll_singleton isGap_blank (writes_ofNat value))
  | string value quote span =>
    exact writes_node (by decide) (writesAll_singleton isGap_blank rfl)
  | list elements span =>
    obtain ⟨pieces, -, helements, -⟩ := h
    exact writes_node (by decide) (Expression.writesAll_treeAll elements ⟨pieces, helements⟩)
  | len argument span =>
    obtain ⟨inner, hargument, -⟩ := h
    have hwritten := Expression.writes_tree argument ⟨inner, hargument⟩
    exact writes_node (by decide) (writesAll_singleton isGap_blank hwritten)

theorem Expression.writesAll_treeAll (es : List Expression)
    (h : ∃ pieces, Expression.SpelledAll es pieces) :
    WritesAll (Expression.treeAll es) (Expression.sexprAll es) := by
  obtain ⟨pieces, h⟩ := h
  cases es with
  | nil => rfl
  | cons e es =>
    obtain ⟨first, others, hfirst, hothers, -⟩ := h
    exact writesAll_cons isGap_blank (Expression.writes_tree e ⟨first, hfirst⟩)
      (Expression.writesAll_treeAll es ⟨others, hothers⟩)

end

theorem Term.writes_tree (t : Term) (h : ∃ tokens, t.Spelled tokens) : t.tree.Writes t.sexpr := by
  obtain ⟨tokens, h⟩ := h
  cases t with
  | membership first second | equality first second =>
    obtain ⟨left, right, hfirst, hsecond, -⟩ := h
    have hleft := writesAll_singleton isGap_blank (first.writes_tree ⟨left, hfirst⟩)
    have hboth := writesAll_concat hleft isGap_blank (second.writes_tree ⟨right, hsecond⟩)
    exact writes_node (by decide) hboth
  | name i => exact (Expression.identifier i).writes_tree ⟨tokens, h⟩
  | constant value span => exact (Expression.boolean value span).writes_tree ⟨tokens, h⟩

theorem Condition.writes_tree (c : Condition) (h : ∃ tokens, c.Spelled tokens) :
    c.tree.Writes c.sexpr := by
  obtain ⟨tokens, first, others, hfirst, hothers, -⟩ := h
  have hspelled : ∀ t ∈ c.others, ∃ tokens, t.Spelled tokens :=
    ((List.forall₂_and_left _ _).1 (hothers.imp fun _ piece ht => ⟨⟨piece, ht⟩, ht⟩)).1
  have hterms : ∀ t ∈ c.terms, t.tree.Writes t.sexpr := by
    intro t ht
    rcases List.mem_cons.1 ht with rfl | ht
    · exact c.first.writes_tree ⟨first, hfirst⟩
    · exact t.writes_tree (hspelled t ht)
  rcases c with ⟨first, _ | ⟨second, others⟩⟩
  · exact hterms first List.mem_cons_self
  · exact writes_node (by decide) (writesAll_join isGap_blank (List.cons_ne_nil _ _) hterms)

theorem Action.writes_tree (a : Action) (h : ∃ tokens, a.Spelled tokens) :
    a.tree.Writes a.sexpr := by
  obtain ⟨tokens, h⟩ := h
  cases a with
  | assignment target value =>
    obtain ⟨htarget, inner, hvalue, -⟩ := h
    have hleft := writesAll_singleton isGap_blank (writes_name htarget)
    exact writes_node (by decide)
      (writesAll_concat hleft isGap_blank (value.writes_tree ⟨inner, hvalue⟩))
  | print argument =>
    cases argument with
    | none => exact writes_node (by decide) writesAll_nil
    | some argument =>
      obtain ⟨inner, hargument, -⟩ := h
      have hwritten := argument.writes_tree ⟨inner, hargument⟩
      exact writes_node (by decide) (writesAll_singleton isGap_blank hwritten)
  | methodCall receiver method argument =>
    obtain ⟨hreceiver, hmethod, inner, hargument, -⟩ := h
    have hname := writesAll_singleton isGap_blank (writes_name hreceiver)
    have hmember := writesAll_concat hname isGap_dot (writes_name hmethod)
    exact writes_node (by decide)
      (writesAll_concat hmember isGap_blank (argument.writes_tree ⟨inner, hargument⟩))

/-- A header with a body is written by its open parenthesis, the body and a closing one. -/
theorem Header.writes_tree (header : Header) (h : ∃ tokens, header.Spelled tokens)
    {body : List SExpr} {row : Text} (hbody : WritesAll body row) :
    (header.tree body).Writes (header.sexprOpen ++ row ++ ")") := by
  obtain ⟨tokens, h⟩ := h
  cases header with
  | branch condition =>
    obtain ⟨inner, hcondition, -⟩ := h
    have hwritten := condition.writes_tree ⟨inner, hcondition⟩
    exact writes_node (by decide) (writesAll_cons isGap_blank hwritten hbody)
  | loop variableName iterable =>
    obtain ⟨hname, hiterable, -⟩ := h
    have hleft := writesAll_singleton isGap_blank (writes_name hname)
    have hboth := writesAll_concat hleft isGap_blank (writes_name hiterable)
    exact writes_node (by decide) (writesAll_append hboth hbody)

/-- Every line of the statement can be spelled. -/
def Statement.Spellable : Statement → Prop
  | .simple s => ∃ tokens, s.action.Spelled tokens
  | .block b => (∃ tokens, b.header.Spelled tokens) ∧
      ∀ body ∈ b.body, ∃ tokens, body.action.Spelled tokens

theorem Statement.writes_tree (blanks : Nat) (s : Statement) (h : s.Spellable) :
    s.tree.Writes (s.sexpr blanks) := by
  cases s with
  | simple s => exact s.action.writes_tree h
  | block b =>
    obtain ⟨hheader, hbody⟩ := h
    rcases b with ⟨header, line, span, _ | body⟩
    · have hwritten := header.writes_tree hheader writesAll_nil
      rw [List.append_nil] at hwritten
      exact hwritten
    · have haction := body.action.writes_tree (hbody body rfl)
      have hrow := writesAll_singleton (isGap_lineStart (blanks + 2)) haction
      have hwritten := header.writes_tree hheader hrow
      rw [← List.append_assoc] at hwritten
      exact hwritten

theorem Program.writes_tree (p : Program) (h : ∀ s ∈ p.statements, s.Spellable) :
    p.tree.Writes p.sexpr := by
  have hstatements : ∀ s ∈ p.statements, s.tree.Writes (s.sexpr 2) :=
    fun s hs => s.writes_tree 2 (h s hs)
  rcases p with ⟨_ | ⟨first, _ | ⟨second, others⟩⟩, span⟩
  · exact writes_node (by decide) writesAll_nil
  · exact writes_node (by decide)
      (writesAll_singleton isGap_blank (hstatements first List.mem_cons_self))
  · exact writes_node (by decide) (writesAll_flatMap (isGap_lineStart 2) hstatements)

end Spellbook
