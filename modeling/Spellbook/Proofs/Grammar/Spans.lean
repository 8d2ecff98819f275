import Spellbook.Proofs.Grammar.Placement
import Spellbook.Proofs.Grammar.Recognition

/-!
# Spans of what the grammar reads

Every rule of the grammar reads one node, or the children of one, and the words and signs between
them.  So the tree of a line that can be read is faithful to the line (`Clause.allFaithful`).
-/

namespace Spellbook

namespace Grammar

open Token

variable (t : Text)

/-! ## Single tokens -/

theorem word_places (rule : Rule) (text : Text) (h : IsWord text) :
    (word rule text).Places t (fun _ row => row = [none]) :=
  (Pattern.Places.scan (cuts_word h).yields).named

theorem symbol_places (d : Char) (hd : d ∈ signs) :
    (Pattern.symbol d).Places t (fun _ row => row = [none]) :=
  .scan (cuts_symbol hd).yields

theorem identifier_places :
    identifier.Places t (fun i row => row = [some (.identifier i)]) := by
  let node (lexeme : Lexeme) : Node := .identifier ⟨lexeme.text, lexeme.span⟩
  have hscan : (Pattern.scan name?).Places t (fun lexeme row => row = [some (node lexeme)]) :=
    .scanNode cuts_name.yields (fun _ => rfl) (fun _ => rfl) fun _ _ => rfl
  refine (hscan.named.map _).mono ?_
  rintro _ _ ⟨lexeme, rfl, rfl⟩
  rfl

/-- A name is a node inside an expression that says nothing else. -/
theorem name_places :
    identifier.Places t (fun i row => row = [some (.expression (.identifier i))]) := by
  let node (i : Identifier) : Node := .expression (.identifier i)
  refine Pattern.Places.gather (identifier_places t) node Node.isGathered_name ?_
  rintro i _ rfl
  rfl

/-- The expression is the only node. -/
def Alone (e : Expression) (row : List (Option Node)) : Prop := row = [some (.expression e)]

theorem boolean_places :
    boolean.Places t (fun b row => Alone (.boolean b.1 b.2) row) := by
  have hword (rule : Rule) (value : Bool) (h : IsWord (booleanWord value)) :
      ((fun lexeme : Lexeme => (value, lexeme.span)) <$> word rule (booleanWord value)).Places t
        (fun b row => Alone (.boolean b.1 b.2) row) := by
    let node (lexeme : Lexeme) : Node := .expression (.boolean value lexeme.span)
    have hscan : (Pattern.scan (word? (booleanWord value))).Places t
        (fun lexeme row => row = [some (node lexeme)]) :=
      .scanNode (cuts_word h).yields (fun _ => rfl) (fun _ => rfl) fun _ htext => htext
    refine (hscan.named.map _).mono ?_
    rintro _ _ ⟨lexeme, rfl, rfl⟩
    rfl
  exact ((hword .trueWord true (by decide)).orElse (hword .falseWord false (by decide))).named

theorem integer_places : integer.Places t Alone := by
  let node (lexeme : Lexeme) : Node :=
    .expression (.integer (Text.natOfDigits lexeme.text) lexeme.span)
  have hscan : (Pattern.scan digits?).Places t (fun lexeme row => row = [some (node lexeme)]) :=
    .scanNode cuts_digits.yields (fun _ => rfl) (fun _ => rfl) fun _ hdigits => ⟨hdigits, rfl⟩
  refine (hscan.named.map _).mono ?_
  rintro _ _ ⟨lexeme, rfl, rfl⟩
  rfl

theorem stringIn_places (rule : Rule) (q : Quote) : (stringIn rule q q.mark).Places t Alone := by
  let node (lexeme : Lexeme) : Node :=
    .expression (.string (contents lexeme.text) q lexeme.span)
  have hwritten (lexeme : Lexeme) (h : IsEnclosed q lexeme.text) :
      (node lexeme).IsWrittenAs lexeme.text := by
    obtain ⟨value, -, hvalue⟩ := h
    change lexeme.text = q.enclose (contents lexeme.text)
    rw [hvalue, contents_enclose]
  have hscan : (Pattern.scan (enclosed? q.mark)).Places t
      (fun lexeme row => row = [some (node lexeme)]) :=
    .scanNode (cuts_enclosed q).yields (fun _ => rfl) (fun _ => rfl) hwritten
  refine (hscan.named.map _).mono ?_
  rintro _ _ ⟨lexeme, rfl, rfl⟩
  rfl

theorem string_places : string.Places t Alone :=
  ((stringIn_places t .singleQuoted .single).orElse
    (stringIn_places t .doubleQuoted .double)).named

/-! ## Expressions -/

/-- Of rows with one expression each behind a sign, the nodes are the expressions. -/
theorem reduceOption_flatMap {ι : Type} {node : ι → Node} {items : List ι}
    {pieces : List (List (Option Node))}
    (h : List.Forall₂ (fun i row => row = [some (node i)]) items pieces) :
    (pieces.flatMap (none :: ·)).reduceOption = items.map node := by
  induction h with
  | nil => rfl
  | cons hi _ ih =>
    rw [List.flatMap_cons, List.reduceOption_append, ih, hi]
    rfl

section Nested

variable {inner : Pattern Expression} (h : inner.Places t Alone)

include h

theorem lenCall_places : (lenCall inner).Places t Alone := by
  have hopen := (word_places t .lenWord "len" (by decide)).fixed
    (symbol_places t '(' (by decide))
  have hclose := symbol_places t ')' (by decide)
  let node (argument : Expression) (span : Span) : Node := .expression (.len argument span)
  have hcall := Pattern.Places.enclose ((hopen.behind h).before hclose) node (fun _ _ => rfl)
    (fun _ _ _ => trivial) ?_
  · refine (hcall.map _).named.mono ?_
    rintro _ _ ⟨⟨argument, span⟩, rfl, rfl⟩
    rfl
  · rintro argument _ span ⟨_, ⟨_, rfl, rfl⟩, rfl⟩
    exact ⟨List.cons_ne_nil _ _, rfl⟩

theorem elements_places : (elements inner).Places t
    (fun es row => row.reduceOption = es.map Node.expression) := by
  have hcomma := symbol_places t ',' (by decide)
  refine (((h.map _).seq (hcomma.separated h)).seqLeft hcomma.optional).named.mono ?_
  rintro _ _ ⟨last, _, comma, ⟨_, es, first, _, ⟨e, rfl, rfl⟩, ⟨pieces, hpieces, rfl⟩, rfl, rfl⟩,
    hlast, rfl⟩
  have hcommas : comma.reduceOption = [] := by
    rcases hlast with ⟨-, rfl⟩ | ⟨_, -, rfl⟩ <;> rfl
  rw [List.reduceOption_append, List.reduceOption_append, hcommas, reduceOption_flatMap hpieces,
    List.append_nil]
  rfl

theorem list_places : (list inner).Places t Alone := by
  have hopen := symbol_places t '[' (by decide)
  have hclose := symbol_places t ']' (by decide)
  let node (elements : Option (List Expression)) (span : Span) : Node :=
    .expression (.list (elements.getD []) span)
  have hbrackets := (hopen.behind (elements_places t h).optional).before hclose
  have hlist := Pattern.Places.enclose hbrackets node (fun _ _ => rfl) (fun _ _ _ => trivial) ?_
  · refine (hlist.map _).named.mono ?_
    rintro _ _ ⟨⟨elements, span⟩, rfl, rfl⟩
    rfl
  · rintro elements _ span ⟨_, ⟨row, hrow, rfl⟩, rfl⟩
    refine ⟨List.cons_ne_nil _ _, ?_⟩
    rw [List.reduceOption_append, List.reduceOption_append]
    rcases hrow with ⟨rfl, rfl⟩ | ⟨es, rfl, hes⟩
    · rfl
    · rw [hes]
      exact (List.append_nil _).symm

theorem expressionAround_places : (expressionAround inner).Places t Alone := by
  have hboolean {make : Bool × Span → Expression}
      (hmake : ∀ value span, make (value, span) = .boolean value span) :
      (make <$> boolean).Places t Alone := by
    refine ((boolean_places t).map make).mono ?_
    rintro _ _ ⟨⟨value, span⟩, rfl, rfl⟩
    rw [hmake]
    rfl
  have hname : (Expression.identifier <$> identifier).Places t Alone := by
    refine ((name_places t).map _).mono ?_
    rintro _ _ ⟨i, rfl, rfl⟩
    rfl
  exact ((lenCall_places t h).orElse ((list_places t h).orElse ((string_places t).orElse
    ((integer_places t).orElse ((hboolean fun _ _ => rfl).orElse hname))))).named

end Nested

theorem expressionWithin_places (depth : Nat) : (expressionWithin depth).Places t Alone := by
  induction depth with
  | zero =>
    intro c e behind hread
    contradiction
  | succ depth ih => exact expressionAround_places t ih.delayed

theorem expression_places : expression.Places t Alone :=
  fun c _ _ hread => expressionWithin_places t (c.rest.length + 1) hread

/-! ## Conditions -/

/-- The term is the only node. -/
def AloneTerm (term : Term) (row : List (Option Node)) : Prop := row = [some (.term term)]

/-- Two expressions around a word or a sign. -/
theorem operation_places {α : Type} {p : Pattern α} (hp : p.Places t fun _ row => row = [none])
    (make : Expression → Expression → Term)
    (hmake : ∀ left right,
      (Node.term (make left right)).children = [.expression left, .expression right]) :
    (make <$> expression <* p <*> expression).Places t AloneTerm := by
  have hrow := (((expression_places t).map make).before hp).seq (expression_places t)
  refine Pattern.Places.gather hrow Node.term Node.isGathered_term ?_
  rintro _ _ ⟨_, right, _, _, ⟨_, ⟨left, rfl, rfl⟩, rfl⟩, rfl, rfl, rfl⟩
  rw [hmake]
  rfl

theorem membership_places : membership.Places t AloneTerm :=
  (operation_places t (word_places t .inWord "in" (by decide)) Term.membership
    fun _ _ => rfl).named

theorem equality_places : equality.Places t AloneTerm := by
  have hequal : (Pattern.named .equalSign (.scan equalSign?)).Places t fun _ row => row = [none] :=
    (Pattern.Places.scan yields_equalSign).named
  exact (operation_places t hequal Term.equality fun _ _ => rfl).named

theorem bareCondition_places : bareCondition.Places t AloneTerm := by
  let Operand (term : Term) (row : List (Option Node)) : Prop :=
    row.reduceOption = (Node.term term).children
  have hconstant {make : Bool × Span → Term}
      (hmake : ∀ value span, make (value, span) = .constant value span) :
      (make <$> boolean).Places t Operand := by
    refine ((boolean_places t).map make).mono ?_
    rintro _ _ ⟨⟨value, span⟩, rfl, rfl⟩
    rw [hmake]
    rfl
  have hname : (Term.name <$> identifier).Places t Operand := by
    refine ((name_places t).map _).mono ?_
    rintro _ _ ⟨i, rfl, rfl⟩
    rfl
  exact (Pattern.Places.gather ((hconstant fun _ _ => rfl).orElse hname) Node.term
    Node.isGathered_term fun _ _ h => h).named

theorem term_places : term.Places t AloneTerm :=
  (membership_places t).orElse ((equality_places t).orElse (bareCondition_places t))

theorem condition_places :
    condition.Places t (fun c row => row = [some (.condition c)]) := by
  have hand := word_places t .andWord "and" (by decide)
  have hterms := ((term_places t).map Condition.mk).seq (hand.separated (term_places t))
  refine (Pattern.Places.gather hterms Node.condition Node.isGathered_condition ?_).named
  rintro _ _ ⟨_, others, _, _, ⟨first, rfl, rfl⟩, ⟨pieces, hpieces, rfl⟩, rfl, rfl⟩
  rw [List.reduceOption_append, reduceOption_flatMap hpieces]
  rfl

/-! ## Statements -/

/-- The nodes are the parts of the form, and there is at least a word or a sign. -/
def Parts (form : Form) (row : List (Option Node)) : Prop :=
  row ≠ [] ∧ row.reduceOption = Node.ofForm form

theorem methodCall_places : methodCall.Places t fun a => Parts (.action a) := by
  have hdot := symbol_places t '.' (by decide)
  have hopen := symbol_places t '(' (by decide)
  have hclose := symbol_places t ')' (by decide)
  have hfront := ((identifier_places t).map Action.methodCall).before hdot
  have hname := (hfront.seq (identifier_places t)).before hopen
  refine ((hname.seq (expression_places t)).before hclose).named.mono ?_
  rintro _ _ ⟨_, ⟨_, argument, _, _, ⟨_, hname, rfl⟩, rfl, rfl, rfl⟩, rfl⟩
  obtain ⟨_, method, _, _, ⟨_, ⟨receiver, rfl, rfl⟩, rfl⟩, rfl, rfl, rfl⟩ := hname
  exact ⟨List.cons_ne_nil _ _, rfl⟩

theorem printCall_places : printCall.Places t fun a => Parts (.action a) := by
  have hopen := (word_places t .printWord "print" (by decide)).fixed
    (symbol_places t '(' (by decide))
  have hclose := symbol_places t ')' (by decide)
  refine (((hopen.behind (expression_places t).optional).before hclose).map _).named.mono ?_
  rintro _ _ ⟨argument, ⟨_, ⟨row, hargument, rfl⟩, rfl⟩, rfl⟩
  refine ⟨List.cons_ne_nil _ _, ?_⟩
  rcases hargument with ⟨rfl, rfl⟩ | ⟨e, rfl, rfl⟩ <;> rfl

theorem assignment_places : assignment.Places t fun a => Parts (.action a) := by
  have hassign : (Pattern.named .assignSign (.scan assignSign?)).Places t
      (fun _ row => row = [none]) := (Pattern.Places.scan yields_assignSign).named
  refine ((((identifier_places t).map _).before hassign).seq (expression_places t)).named.mono ?_
  rintro _ _ ⟨_, value, _, _, ⟨_, ⟨target, rfl, rfl⟩, rfl⟩, rfl, rfl, rfl⟩
  exact ⟨List.cons_ne_nil _ _, rfl⟩

theorem ifHeader_places : ifHeader.Places t fun h => Parts (.header h) := by
  have hif := word_places t .ifWord "if" (by decide)
  have hcolon := symbol_places t ':' (by decide)
  refine (((hif.behind (condition_places t)).before hcolon).map _).named.mono ?_
  rintro _ _ ⟨c, ⟨_, ⟨_, rfl, rfl⟩, rfl⟩, rfl⟩
  exact ⟨List.cons_ne_nil _ _, rfl⟩

theorem forHeader_places : forHeader.Places t fun h => Parts (.header h) := by
  have hfor := word_places t .forWord "for" (by decide)
  have hin := word_places t .inWord "in" (by decide)
  have hcolon := symbol_places t ':' (by decide)
  have hfront := ((hfor.behind (identifier_places t)).map Header.loop).before hin
  refine ((hfront.seq (identifier_places t)).before hcolon).named.mono ?_
  rintro _ _ ⟨_, ⟨_, iterable, _, _, ⟨_, hfront, rfl⟩, rfl, rfl, rfl⟩, rfl⟩
  obtain ⟨variableName, ⟨_, rfl, rfl⟩, rfl⟩ := hfront
  exact ⟨List.cons_ne_nil _ _, rfl⟩

theorem statement_places : statement.Places t fun c row => row = [some (.clause c)] := by
  have haction {p : Pattern Action} (hp : p.Places t fun a => Parts (.action a)) :
      (Form.action <$> p).Places t Parts := by
    refine (hp.map _).mono ?_
    rintro _ row ⟨a, ha, rfl⟩
    exact ha
  have hheader {p : Pattern Header} (hp : p.Places t fun h => Parts (.header h)) :
      (Form.header <$> p).Places t Parts := by
    refine (hp.map _).mono ?_
    rintro _ row ⟨h, hh, rfl⟩
    exact hh
  have hforms := (haction (methodCall_places t)).orElse ((haction (printCall_places t)).orElse
    ((haction (assignment_places t)).orElse ((hheader (ifHeader_places t)).orElse
      (hheader (forHeader_places t)))))
  let node (form : Form) (span : Span) : Node := .clause ⟨form, span⟩
  have hclause := Pattern.Places.enclose hforms node (fun _ _ => rfl) (fun _ _ _ => trivial)
    fun form row _ h => ⟨h.1, h.2.symm⟩
  refine (hclause.map _).named.mono ?_
  rintro _ _ ⟨⟨form, span⟩, rfl, rfl⟩
  rfl

end Grammar

theorem Clause.allFaithful_of_line {t : Text} {c : Clause} {behind : Cursor}
    (h : Grammar.line.read (.start t) = some (c, behind)) : (Node.clause c).AllFaithful t := by
  obtain ⟨_, rfl, hbetween, -⟩ := (Grammar.statement_places t).entire h
  obtain ⟨-, hplaced⟩ := hbetween (.start t)
  exact hplaced.allFaithful _ List.mem_cons_self

/-- The tree of a line that can be read stands in the line as its spans say. -/
theorem Clause.allFaithful {t : Text} {c : Clause} (h : Clause.read t = .ok c) :
    (Node.clause c).AllFaithful t := by
  obtain ⟨⟨behind, hline⟩, -⟩ := readWhole_eq_ok_iff.1 h
  exact allFaithful_of_line hline

end Spellbook
