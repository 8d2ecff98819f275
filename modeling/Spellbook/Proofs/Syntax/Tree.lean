import Spellbook.Proofs.Text.Join
import Spellbook.Proofs.Text.Quoted

/-!
# Trees in parentheses

A node of a tree is written in parentheses: its head, and each of its parts behind a gap of blanks,
line ends and dots.  However wide the gaps are, a text that writes a tree tells the tree and where
it ends (`SExpr.append_inj`).
-/

namespace Spellbook

/-- A tree: a word, a quoted text, or a node with a head and parts. -/
inductive SExpr where
  | word (w : Text)
  | quoted (t : Text)
  | node (head : Text) (parts : List SExpr)

namespace SExpr

/-! ## Writing trees -/

/-- The characters that set the parts of a node apart. -/
def isGap (c : Char) : Bool := c == ' ' || c == '\n' || c == '.'

/-- The characters that are part of a word wherever they stand in one. -/
def isInWord (c : Char) : Bool := !isGap c && c != '(' && c != ')' && c != '"'

/-- At least one character, and only those of words. -/
def IsWord (w : Text) : Prop := w ≠ [] ∧ w.all isInWord

/-- At least one blank, line end or dot, and nothing else. -/
def IsGap (gap : Text) : Prop := gap ≠ [] ∧ gap.all isGap

instance (w : Text) : Decidable (IsWord w) := inferInstanceAs (Decidable (_ ∧ _))

instance (gap : Text) : Decidable (IsGap gap) := inferInstanceAs (Decidable (_ ∧ _))

mutual

/-- The text writes the tree. -/
def Writes : SExpr → Text → Prop
  | .word w, t => IsWord w ∧ t = w
  | .quoted contents, t => t = Text.quoted contents
  | .node head parts, t =>
      IsWord head ∧ ∃ row, WritesAll parts row ∧ t = '(' :: (head ++ row ++ [')'])

/-- The text writes the trees in order, each behind a gap. -/
def WritesAll : List SExpr → Text → Prop
  | [], t => t = []
  | part :: parts, t => ∃ gap first others, IsGap gap ∧ part.Writes first ∧
      WritesAll parts others ∧ t = gap ++ first ++ others

end

section Rows

variable {a : SExpr} {trees : List SExpr} {t others : Text}

theorem writes_node {head row : Text} (hhead : IsWord head) (hrow : WritesAll trees row) :
    (node head trees).Writes ("(" ++ head ++ row ++ ")") := ⟨hhead, row, hrow, rfl⟩

theorem writesAll_nil : WritesAll [] [] := rfl

theorem writesAll_cons {gap : Text} (hgap : IsGap gap) (ha : a.Writes t)
    (htrees : WritesAll trees others) : WritesAll (a :: trees) (gap ++ t ++ others) :=
  ⟨gap, t, others, hgap, ha, htrees, rfl⟩

theorem writesAll_singleton {gap : Text} (hgap : IsGap gap) (ha : a.Writes t) :
    WritesAll [a] (gap ++ t) := by
  rw [← List.append_nil (gap ++ t)]
  exact writesAll_cons hgap ha writesAll_nil

theorem writesAll_append {more : List SExpr} {s : Text} (htrees : WritesAll trees s)
    (hmore : WritesAll more t) : WritesAll (trees ++ more) (s ++ t) := by
  induction trees generalizing s with
  | nil =>
    obtain rfl : s = [] := htrees
    exact hmore
  | cons a trees ih =>
    obtain ⟨gap, first, others, hgap, ha, hothers, rfl⟩ := htrees
    rw [List.append_assoc]
    exact writesAll_cons hgap ha (ih hothers)

theorem writesAll_concat {gap s : Text} (htrees : WritesAll trees s) (hgap : IsGap gap)
    (ha : a.Writes t) : WritesAll (trees ++ [a]) (s ++ gap ++ t) := by
  rw [List.append_assoc]
  exact writesAll_append htrees (writesAll_singleton hgap ha)

theorem writesAll_flatMap {α : Type} {gap : Text} (hgap : IsGap gap) {tree : α → SExpr}
    {text : α → Text} {items : List α} (h : ∀ item ∈ items, (tree item).Writes (text item)) :
    WritesAll (items.map tree) (items.flatMap fun item => gap ++ text item) := by
  induction items with
  | nil => rfl
  | cons item items ih =>
    rw [List.map_cons, List.flatMap_cons]
    refine writesAll_cons hgap (h item List.mem_cons_self) ?_
    exact ih fun other hother => h other (List.mem_cons_of_mem item hother)

/-- Trees that are joined with a gap are written behind one more gap. -/
theorem writesAll_join {α : Type} {gap : Text} (hgap : IsGap gap) {tree : α → SExpr}
    {text : α → Text} {items : List α} (hne : items ≠ [])
    (h : ∀ item ∈ items, (tree item).Writes (text item)) :
    WritesAll (items.map tree) (gap ++ Text.join gap (items.map text)) := by
  rw [Text.append_join gap (by simpa using hne), List.flatMap_map]
  exact writesAll_flatMap hgap h

end Rows

/-! ## Reading trees back -/

theorem IsGap.head_eq_false {gap s : Text} (hgap : IsGap gap) :
    (gap ++ s).head?.any isInWord = false := by
  obtain ⟨c, v, rfl⟩ := List.exists_cons_of_ne_nil hgap.1
  have hc : isGap c = true := Text.head_of_append (s := s) hgap.1 hgap.2 rfl
  simp [isInWord, hc]

/-- A tree does not begin with a gap. -/
theorem Writes.head_eq_false {a : SExpr} {t s : Text} (h : a.Writes t) :
    (t ++ s).head?.any isGap = false := by
  cases a with
  | word w =>
    obtain ⟨hw, rfl⟩ := h
    obtain ⟨c, v, rfl⟩ := List.exists_cons_of_ne_nil hw.1
    have hc : isInWord c = true := Text.head_of_append (s := s) hw.1 hw.2 rfl
    simp only [isInWord, Bool.and_eq_true, Bool.not_eq_true'] at hc
    exact hc.1.1.1
  | quoted contents =>
    obtain rfl : t = Text.quoted contents := h
    rw [Text.quoted_append]
    rfl
  | node head parts =>
    obtain ⟨-, row, -, rfl⟩ := h
    rfl

/-- Behind a row stands the end of its node, or the gap in front of the next part. -/
theorem WritesAll.head_eq_false {trees : List SExpr} {row s : Text} (h : WritesAll trees row) :
    (row ++ ')' :: s).head?.any isInWord = false := by
  cases trees with
  | nil =>
    obtain rfl : row = [] := h
    rfl
  | cons a trees =>
    obtain ⟨gap, first, others, hgap, -, -, rfl⟩ := h
    rw [List.append_assoc, List.append_assoc]
    exact hgap.head_eq_false

theorem node_append (head row s : Text) :
    '(' :: (head ++ row ++ [')']) ++ s = '(' :: (head ++ (row ++ ')' :: s)) := by
  simp only [List.cons_append, List.append_assoc, List.nil_append]

mutual

/-- Two trees that are written in front of something that does not go on with a word are the same,
and so is what stands behind them. -/
theorem append_inj (a b : SExpr) {s t x y : Text} (ha : a.Writes s) (hb : b.Writes t)
    (hx : x.head?.any isInWord = false) (hy : y.head?.any isInWord = false)
    (h : s ++ x = t ++ y) : a = b ∧ x = y := by
  -- the first character tells a word, a quoted text and a node apart
  cases a with
  | word v =>
    obtain ⟨hv, rfl⟩ := ha
    cases b with
    | word w =>
      obtain ⟨hw, rfl⟩ := hb
      obtain ⟨rfl, rfl⟩ := Text.append_inj_of_head hv.2 hw.2 hx hy h
      exact ⟨rfl, rfl⟩
    | quoted contents =>
      obtain rfl : t = Text.quoted contents := hb
      rw [Text.quoted_append] at h
      exact absurd (Text.head_of_append hv.1 hv.2 h) (by decide)
    | node head parts =>
      obtain ⟨-, row, -, rfl⟩ := hb
      exact absurd (Text.head_of_append hv.1 hv.2 h) (by decide)
  | quoted contents =>
    obtain rfl : s = Text.quoted contents := ha
    cases b with
    | word w =>
      obtain ⟨hw, rfl⟩ := hb
      rw [Text.quoted_append] at h
      exact absurd (Text.head_of_append hw.1 hw.2 h.symm) (by decide)
    | quoted contents' =>
      obtain rfl : t = Text.quoted contents' := hb
      obtain ⟨rfl, rfl⟩ := Text.quoted_append_inj h
      exact ⟨rfl, rfl⟩
    | node head parts =>
      obtain ⟨-, row, -, rfl⟩ := hb
      rw [Text.quoted_append] at h
      exact absurd (List.cons.inj h).1 (by decide)
  | node head parts =>
    obtain ⟨hhead, row, hrow, rfl⟩ := ha
    cases b with
    | word w =>
      obtain ⟨hw, rfl⟩ := hb
      exact absurd (Text.head_of_append hw.1 hw.2 h.symm) (by decide)
    | quoted contents =>
      obtain rfl : t = Text.quoted contents := hb
      rw [Text.quoted_append] at h
      exact absurd (List.cons.inj h).1 (by decide)
    | node head' parts' =>
      obtain ⟨hhead', row', hrow', rfl⟩ := hb
      rw [node_append, node_append] at h
      obtain ⟨rfl, hrows⟩ := Text.append_inj_of_head hhead.2 hhead'.2 hrow.head_eq_false
        hrow'.head_eq_false (List.cons.inj h).2
      obtain ⟨rfl, rfl⟩ := appendAll_inj parts parts' hrow hrow' hrows
      exact ⟨rfl, rfl⟩

/-- Two rows that are written up to the end of their nodes are the same. -/
theorem appendAll_inj (as bs : List SExpr) {s t x y : Text} (has : WritesAll as s)
    (hbs : WritesAll bs t) (h : s ++ ')' :: x = t ++ ')' :: y) : as = bs ∧ x = y := by
  have hend {gap u v : Text} (hgap : IsGap gap) : ')' :: u ≠ gap ++ v := by
    intro h
    exact absurd (Text.head_of_append hgap.1 hgap.2 h.symm) (by decide)
  cases as with
  | nil =>
    obtain rfl : s = [] := has
    cases bs with
    | nil =>
      obtain rfl : t = [] := hbs
      exact ⟨rfl, (List.cons.inj h).2⟩
    | cons b bs =>
      obtain ⟨gap, first, others, hgap, -, -, rfl⟩ := hbs
      rw [List.append_assoc, List.append_assoc] at h
      exact absurd h (hend hgap)
  | cons a as =>
    obtain ⟨gap, first, others, hgap, ha, hothers, rfl⟩ := has
    rw [List.append_assoc, List.append_assoc] at h
    cases bs with
    | nil =>
      obtain rfl : t = [] := hbs
      exact absurd h.symm (hend hgap)
    | cons b bs =>
      obtain ⟨gap', first', others', hgap', hb, hothers', rfl⟩ := hbs
      rw [List.append_assoc, List.append_assoc] at h
      obtain ⟨-, htrees⟩ := Text.append_inj_of_head hgap.2 hgap'.2 ha.head_eq_false
        hb.head_eq_false h
      obtain ⟨rfl, hrest⟩ := append_inj a b ha hb hothers.head_eq_false hothers'.head_eq_false
        htrees
      obtain ⟨rfl, rfl⟩ := appendAll_inj as bs hothers hothers' hrest
      exact ⟨rfl, rfl⟩

end

/-- A text writes no two trees. -/
theorem eq_of_writes {a b : SExpr} {t : Text} (ha : a.Writes t) (hb : b.Writes t) : a = b :=
  (append_inj (x := []) (y := []) a b ha hb rfl rfl rfl).1

end SExpr

end Spellbook
