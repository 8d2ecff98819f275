import Mathlib.Data.List.ReduceOption
import Spellbook.Proofs.Grammar.Account
import Spellbook.Proofs.Grammar.Scanner
import Spellbook.Proofs.Syntax.Nodes
import Spellbook.Proofs.Text.Slice

/-!
# The places of what is read

Every node that is read from a text stands where its span says.  What is between two cursors is told
by a row of nodes, and of words and signs that are no nodes.  Its nodes stand one behind another,
and every item takes at least a byte, so that what encloses a row is not empty either.
-/

namespace Spellbook

open Token

/-! ## Nodes in their text -/

namespace Node

/-- A name is written as it is, a literal as what denotes its value.  The other nodes are what
their parts and the signs between them make. -/
def IsWrittenAs : Node → Text → Prop
  | identifier i, piece => piece = i.name
  | expression (.boolean value _), piece => piece = booleanWord value
  | expression (.integer value _), piece => IsDigits piece ∧ Text.natOfDigits piece = value
  | expression (.string value quote _), piece => piece = quote.enclose value
  | expression (.identifier _), _ => True
  | expression (.list _ _), _ => True
  | expression (.len _ _), _ => True
  | term _, _ => True
  | condition _, _ => True
  | clause _, _ => True

/-- The span of the node is a stretch of whole characters that is written as the node is, and the
nodes right inside it stand there one behind another. -/
structure Faithful (t : Text) (n : Node) : Prop where
  start_lt_stop : n.span.start < n.span.stop
  isBoundary_start : t.IsBoundary n.span.start
  isBoundary_stop : t.IsBoundary n.span.stop
  isWrittenAs : n.IsWrittenAs (Text.slice n.span.start n.span.stop t)
  inOrder : Span.InOrder n.span.start (n.children.map span) n.span.stop

/-- The node and all that is inside it are faithful. -/
def AllFaithful (t : Text) (n : Node) : Prop := ∀ m : Node, m.Inside n → m.Faithful t

variable {t : Text} {n : Node}

theorem AllFaithful.faithful (h : n.AllFaithful t) : n.Faithful t := h n (.refl n)

theorem Faithful.allFaithful (h : n.Faithful t) (hchildren : ∀ c ∈ n.children, c.AllFaithful t) :
    n.AllFaithful t :=
  forall_inside h hchildren

/-- The node reaches from its first child to its last, and says nothing but what they say. -/
structure IsGathered (n : Node) : Prop where
  children_ne_nil : n.children ≠ []
  span_eq : ∀ first ∈ n.children.head?, ∀ last ∈ n.children.getLast?,
    n.span = first.span.through last.span
  isWrittenAs : ∀ piece, n.IsWrittenAs piece

theorem isGathered_name (i : Identifier) : (expression (.identifier i)).IsGathered := by
  refine ⟨List.cons_ne_nil _ _, ?_, fun _ => trivial⟩
  rintro _ ⟨⟩ _ ⟨⟩
  rfl

theorem isGathered_term (t : Term) : (term t).IsGathered := by
  cases t with
  | membership | equality | name | constant =>
    refine ⟨List.cons_ne_nil _ _, ?_, fun _ => trivial⟩
    rintro _ ⟨⟩ _ ⟨⟩
    rfl

theorem isGathered_condition (c : Condition) : (condition c).IsGathered := by
  refine ⟨List.cons_ne_nil _ _, ?_, fun _ => trivial⟩
  rintro _ ⟨⟩ last hlast
  change (c.terms.map term).getLast? = some last at hlast
  rw [List.getLast?_map] at hlast
  obtain ⟨lastTerm, hterm, rfl⟩ := Option.map_eq_some_iff.1 hlast
  exact Condition.span_eq_through c hterm

end Node

/-! ## Rows of nodes -/

/-- The nodes of the row are faithful and stand one behind another between the positions, and there
is room for every item. -/
structure Placed (t : Text) (start : Nat) (row : List (Option Node)) (stop : Nat) : Prop where
  allFaithful : ∀ n ∈ row.reduceOption, n.AllFaithful t
  inOrder : Span.InOrder start (row.reduceOption.map Node.span) stop
  room : start + row.length ≤ stop

namespace Placed

variable {t : Text} {start middle stop : Nat} {row more : List (Option Node)}

theorem nil (t : Text) (position : Nat) : Placed t position [] position :=
  ⟨fun _ h => absurd h List.not_mem_nil, Nat.le_refl _, Nat.le_refl _⟩

theorem append (h : Placed t start row middle) (hmore : Placed t middle more stop) :
    Placed t start (row ++ more) stop := by
  refine ⟨?_, ?_, ?_⟩
  · intro n hn
    rw [List.reduceOption_append, List.mem_append] at hn
    exact hn.elim (h.allFaithful n) (hmore.allFaithful n)
  · rw [List.reduceOption_append, List.map_append]
    exact h.inOrder.append hmore.inOrder
  · have hroom := h.room
    have hmoreroom := hmore.room
    rw [List.length_append]
    omega

theorem mono {start' : Nat} (h : Placed t start row stop) (hstart : start' ≤ start) :
    Placed t start' row stop := by
  refine ⟨h.allFaithful, h.inOrder.mono hstart (Nat.le_refl _), ?_⟩
  have hroom := h.room
  omega

theorem unnamed (h : start < stop) : Placed t start [none] stop :=
  ⟨fun _ h => absurd h List.not_mem_nil, Nat.le_of_lt h, h⟩

theorem single {n : Node} (h : n.AllFaithful t) (hstart : start ≤ n.span.start)
    (hstop : n.span.stop ≤ stop) : Placed t start [some n] stop := by
  have hspan := h.faithful.start_lt_stop
  refine ⟨?_, ⟨hstart, hspan, hstop⟩, ?_⟩
  · intro m hm
    obtain rfl := List.mem_singleton.1 hm
    exact h
  · rw [List.length_singleton]
    omega

/-- The nodes of a row become the children of a node that reaches from the first to the last. -/
theorem gather {n : Node} (h : Placed t start row stop) (hn : n.IsGathered)
    (hrow : row.reduceOption = n.children) : Placed t start [some n] stop := by
  obtain ⟨hchildren, horder, -⟩ := h
  rw [hrow] at hchildren horder
  obtain ⟨first, hfirst⟩ := Option.isSome_iff_exists.1 (List.isSome_head?.2 hn.children_ne_nil)
  obtain ⟨last, hlast⟩ := Option.isSome_iff_exists.1 (List.getLast?_isSome.2 hn.children_ne_nil)
  have hspan := hn.span_eq first hfirst last hlast
  have hstart : n.span.start = first.span.start := by rw [hspan, Span.through]
  have hstop : n.span.stop = last.span.stop := by rw [hspan, Span.through]
  have hfirstspan : (n.children.map Node.span).head? = some first.span := by
    rw [List.head?_map, hfirst, Option.map_some]
  have hlastspan : (n.children.map Node.span).getLast? = some last.span := by
    rw [List.getLast?_map, hlast, Option.map_some]
  obtain ⟨hle, hlt, hge, htight⟩ := horder.tighten hfirstspan hlastspan
  have hfaithful : n.Faithful t := by
    refine ⟨by rwa [hstart, hstop], ?_, ?_, hn.isWrittenAs _, by rwa [hstart, hstop]⟩
    · rw [hstart]
      exact (hchildren first (List.mem_of_head? hfirst)).faithful.isBoundary_start
    · rw [hstop]
      exact (hchildren last (List.mem_of_getLast? hlast)).faithful.isBoundary_stop
  exact single (hfaithful.allFaithful hchildren) (hstart ▸ hle) (hstop ▸ hge)

/-- The nodes of a row become the children of a node from its start to its end. -/
theorem enclose {n : Node} (h : Placed t start row stop) (hspan : n.span = ⟨start, stop⟩)
    (hstart : t.IsBoundary start) (hstop : t.IsBoundary stop) (hrow : row ≠ [])
    (hchildren : n.children = row.reduceOption) (hwritten : ∀ piece, n.IsWrittenAs piece) :
    Placed t start [some n] stop := by
  have hroom := h.room
  have hlength := List.length_pos_of_ne_nil hrow
  have hlt : start < stop := by omega
  have hfaithful : n.Faithful t := by
    refine ⟨?_, ?_, ?_, hwritten _, ?_⟩
    · rwa [hspan]
    · rwa [hspan]
    · rwa [hspan]
    · rw [hspan, hchildren]
      exact h.inOrder
  refine single (hfaithful.allFaithful ?_) ?_ ?_
  · rw [hchildren]
    exact h.allFaithful
  · rw [hspan]
  · rw [hspan]

end Placed

/-! ## Cursors in a text -/

/-- The cursor stands in the text, behind as many bytes as it says. -/
def Cursor.In (t : Text) (c : Cursor) : Prop :=
  ∃ front, t = front ++ c.rest ∧ c.position = Text.byteLength front

namespace Cursor.In

variable {t : Text} {c : Cursor}

theorem start (t : Text) : (Cursor.start t).In t := ⟨[], rfl, rfl⟩

theorem isBoundary (h : c.In t) : t.IsBoundary c.position := by
  obtain ⟨front, ht, hposition⟩ := h
  exact ⟨front, c.rest, ht, hposition⟩

/-- Behind a piece the cursor stands in the same text, and the piece stands between. -/
theorem advance (h : c.In t) {piece rest : Text} (hrest : c.rest = piece ++ rest) :
    (c.advance piece rest).In t ∧
      (Span.mk c.position (c.advance piece rest).position).Covers piece t := by
  obtain ⟨front, ht, hposition⟩ := h
  rw [hrest, ← List.append_assoc] at ht
  have hbehind :
      (c.advance piece rest).position = Text.byteLength front + Text.byteLength piece := by
    rw [← hposition]
    rfl
  refine ⟨⟨front ++ piece, ht, ?_⟩, front, rest, ht, hposition, hbehind⟩
  rw [hbehind, Text.byteLength_append]

theorem skipGap (h : c.In t) : c.skipGap.In t ∧ c.position ≤ c.skipGap.position := by
  have hgap : c.rest = c.rest.takeWhile isGap ++ c.rest.dropWhile isGap :=
    List.takeWhile_append_dropWhile.symm
  have hbehind := (h.advance hgap).1
  unfold Cursor.skipGap
  dsimp only
  split
  · have hcomment := (hbehind.advance (List.append_nil _).symm).1
    refine ⟨hcomment, ?_⟩
    unfold Cursor.advance
    dsimp only
    omega
  · refine ⟨hbehind, ?_⟩
    unfold Cursor.advance
    dsimp only
    omega

end Cursor.In

/-- The nodes, and the words and signs, that stand between two cursors of a text. -/
def nodeAccount (t : Text) : Account (Option Node) where
  Between c row behind := c.In t → behind.In t ∧ Placed t c.position row behind.position
  nil c hc := ⟨hc, .nil t c.position⟩
  append hs ht hc := by
    obtain ⟨hmiddle, hfirst⟩ := hs hc
    obtain ⟨hbehind, hsecond⟩ := ht hmiddle
    exact ⟨hbehind, hfirst.append hsecond⟩
  of_skipGap hs hc := by
    obtain ⟨hskipped, hle⟩ := hc.skipGap
    obtain ⟨hbehind, hplaced⟩ := hs hskipped
    exact ⟨hbehind, hplaced.mono hle⟩

namespace Pattern

variable {α : Type} {p : Pattern α} {t : Text}

/-- Whatever the pattern reads from the text goes with a row of nodes that stand there. -/
abbrev Places (t : Text) (p : Pattern α) (A : α → List (Option Node) → Prop) : Prop :=
  Tells (nodeAccount t) p A

namespace Places

variable {A : α → List (Option Node) → Prop} {scanner : Text → Option (Text × Text)}
variable {kind : Text → Prop}

/-- A token that a scanner cuts off stands at its span. -/
theorem covers_of_read (h : Yields scanner kind) {c behind : Cursor} {lexeme : Lexeme}
    (hc : c.In t) (hread : (Pattern.scan scanner).read c = some (lexeme, behind)) :
    behind.In t ∧ kind lexeme.text ∧ lexeme.span = ⟨c.position, behind.position⟩ ∧
      lexeme.span.Covers lexeme.text t ∧ c.position < behind.position := by
  obtain ⟨⟨v, rest⟩, hscan, hpair⟩ := Option.map_eq_some_iff.1 hread
  obtain ⟨rfl, rfl⟩ := Prod.mk.inj hpair
  obtain ⟨hkind, htoken, -, happend⟩ := h hscan
  obtain ⟨hbehind, hcovers⟩ := hc.advance happend
  have hsize := Text.length_le_byteLength v
  have hlength := List.length_pos_of_ne_nil htoken.ne_nil
  refine ⟨hbehind, hkind, rfl, hcovers, ?_⟩
  change c.position < c.position + Text.byteLength v
  omega

/-- A word or a sign that is no node. -/
theorem scan (h : Yields scanner kind) :
    Places t (.scan scanner) (fun _ row => row = [none]) := by
  intro c lexeme behind hread
  refine ⟨[none], rfl, fun hc => ?_⟩
  obtain ⟨hbehind, -, -, -, hlt⟩ := covers_of_read h hc hread
  exact ⟨hbehind, .unnamed hlt⟩

/-- A token that is a node without children. -/
theorem scanNode (h : Yields scanner kind) {node : Lexeme → Node}
    (hspan : ∀ lexeme, (node lexeme).span = lexeme.span)
    (hchildren : ∀ lexeme, (node lexeme).children = [])
    (hwritten : ∀ lexeme, kind lexeme.text → (node lexeme).IsWrittenAs lexeme.text) :
    Places t (.scan scanner) (fun lexeme row => row = [some (node lexeme)]) := by
  intro c lexeme behind hread
  refine ⟨[some (node lexeme)], rfl, fun hc => ?_⟩
  obtain ⟨hbehind, hkind, hends, hcovers, hlt⟩ := covers_of_read h hc hread
  have hstart : (node lexeme).span.start = c.position := by rw [hspan, hends]
  have hstop : (node lexeme).span.stop = behind.position := by rw [hspan, hends]
  have hfaithful : (node lexeme).Faithful t := by
    refine ⟨?_, ?_, ?_, ?_, ?_⟩
    · rwa [hstart, hstop]
    · rw [hspan]
      exact hcovers.isBoundary_start
    · rw [hspan]
      exact hcovers.isBoundary_stop
    · rw [hspan, hcovers.slice_eq]
      exact hwritten lexeme hkind
    · rw [hchildren, hstart, hstop]
      exact Nat.le_of_lt hlt
  have hall : (node lexeme).AllFaithful t := by
    apply hfaithful.allFaithful
    rw [hchildren]
    exact fun _ h => absurd h List.not_mem_nil
  exact ⟨hbehind, .single hall (Nat.le_of_eq hstart.symm) (Nat.le_of_eq hstop)⟩

theorem gather (h : Places t p A) (node : α → Node) (hnode : ∀ a, (node a).IsGathered)
    (hrow : ∀ a row, A a row → row.reduceOption = (node a).children) :
    Places t p (fun a row => row = [some (node a)]) := by
  intro c a behind hread
  obtain ⟨row, ha, hplaced⟩ := h hread
  refine ⟨_, rfl, fun hc => ?_⟩
  obtain ⟨hbehind, hplaced⟩ := hplaced hc
  exact ⟨hbehind, hplaced.gather (hnode a) (hrow a row ha)⟩

theorem enclose (h : Places t p A) (node : α → Span → Node)
    (hspan : ∀ a span, (node a span).span = span)
    (hwritten : ∀ a span piece, (node a span).IsWrittenAs piece)
    (hrow : ∀ a row span, A a row → row ≠ [] ∧ (node a span).children = row.reduceOption) :
    Places t (.spanned p) (fun x row => row = [some (node x.1 x.2)]) := by
  intro c x behind hread
  obtain ⟨⟨a, behind'⟩, hreadp, hpair⟩ := Option.map_eq_some_iff.1 hread
  obtain ⟨rfl, rfl⟩ := Prod.mk.inj hpair
  obtain ⟨row, ha, hplaced⟩ := h hreadp
  refine ⟨_, rfl, fun hc => ?_⟩
  obtain ⟨hbehind, hplaced⟩ := hplaced hc
  obtain ⟨hne, hchildren⟩ := hrow a row ⟨c.position, behind'.position⟩ ha
  exact ⟨hbehind, hplaced.enclose (hspan _ _) hc.isBoundary hbehind.isBoundary hne hchildren
    (hwritten _ _)⟩

end Places

end Pattern

end Spellbook
