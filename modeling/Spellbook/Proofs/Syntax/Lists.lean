import Mathlib.Data.List.MinMax
import Spellbook.Proofs.Syntax.Nodes

/-!
# The lists in brackets of a spell

A list in brackets is told by its elements.  The lists of a node are those of its children and what
it is itself, and the longest one of a spell bounds them all.
-/

namespace Spellbook

mutual

/-- The elements of each list in brackets in the expression. -/
def Expression.lists : Expression → List (List Expression)
  | .list elements _ => elements :: Expression.listsAll elements
  | .len argument _ => argument.lists
  | .identifier _ => []
  | .boolean _ _ => []
  | .integer _ _ => []
  | .string _ _ _ => []

/-- The elements of each list in brackets in the expressions. -/
def Expression.listsAll : List Expression → List (List Expression)
  | [] => []
  | e :: es => e.lists ++ Expression.listsAll es

end

theorem Expression.listsAll_eq_flatMap (es : List Expression) :
    Expression.listsAll es = es.flatMap Expression.lists := by
  induction es with
  | nil => rfl
  | cons e es ih => rw [Expression.listsAll, List.flatMap_cons, ih]

def Term.lists : Term → List (List Expression)
  | .membership element collection => element.lists ++ collection.lists
  | .equality left right => left.lists ++ right.lists
  | .name _ => []
  | .constant _ _ => []

def Condition.lists (c : Condition) : List (List Expression) := c.terms.flatMap Term.lists

def Action.lists : Action → List (List Expression)
  | .assignment _ value => value.lists
  | .print argument => argument.toList.flatMap Expression.lists
  | .methodCall _ _ argument => argument.lists

def Header.lists : Header → List (List Expression)
  | .branch condition => condition.lists
  | .loop _ _ => []

def Form.lists : Form → List (List Expression)
  | .action a => a.lists
  | .header h => h.lists

/-- The elements of each list in brackets in the node. -/
def Node.lists : Node → List (List Expression)
  | clause c => c.form.lists
  | condition c => c.lists
  | term t => t.lists
  | expression e => e.lists
  | identifier _ => []

/-- What stands in brackets in a part of a node stands in brackets in the node. -/
theorem Node.lists_subset {c n : Node} (h : c ∈ n.children) : c.lists ⊆ n.lists := by
  cases n with
  | clause clause =>
    rcases clause with ⟨a | header, span⟩
    · cases a with
      | assignment target value =>
        rcases List.mem_pair.1 h with rfl | rfl
        · exact List.nil_subset _
        · exact List.Subset.refl _
      | print argument =>
        cases argument with
        | none => exact absurd h List.not_mem_nil
        | some e =>
          obtain rfl := List.mem_singleton.1 h
          exact List.subset_append_left _ _
      | methodCall receiver method argument =>
        rcases List.mem_cons.1 h with rfl | h
        · exact List.nil_subset _
        · rcases List.mem_pair.1 h with rfl | rfl
          · exact List.nil_subset _
          · exact List.Subset.refl _
    · cases header with
      | branch condition =>
        obtain rfl := List.mem_singleton.1 h
        exact List.Subset.refl _
      | loop variableName iterable =>
        rcases List.mem_pair.1 h with rfl | rfl <;> exact List.nil_subset _
  | condition c =>
    obtain ⟨t, ht, rfl⟩ := List.mem_map.1 h
    exact fun elements helements => List.mem_flatMap.2 ⟨t, ht, helements⟩
  | term t =>
    cases t with
    | membership first second | equality first second =>
      rcases List.mem_pair.1 h with rfl | rfl
      · exact List.subset_append_left _ _
      · exact List.subset_append_right _ _
    | name | constant =>
      obtain rfl := List.mem_singleton.1 h
      exact List.nil_subset _
  | expression e =>
    cases e with
    | list elements span =>
      obtain ⟨e, he, rfl⟩ := List.mem_map.1 h
      apply List.subset_cons_of_subset
      rw [Expression.listsAll_eq_flatMap]
      exact fun inner hinner => List.mem_flatMap.2 ⟨e, he, hinner⟩
    | len argument span =>
      obtain rfl := List.mem_singleton.1 h
      exact List.Subset.refl _
    | identifier i =>
      obtain rfl := List.mem_singleton.1 h
      exact List.nil_subset _
    | boolean | integer | string => exact absurd h List.not_mem_nil
  | identifier i => exact absurd h List.not_mem_nil

/-! ## Whole spells -/

/-- The elements of each list in brackets in the statement, for a block with its body. -/
def Statement.lists : Statement → List (List Expression)
  | .simple s => s.action.lists
  | .block b => b.header.lists ++ b.body.toList.flatMap fun s => s.action.lists

/-- The elements of each list in brackets in the spell. -/
def Program.lists (p : Program) : List (List Expression) := p.statements.flatMap Statement.lists

/-- The number of elements of the longest list in brackets in the spell, zero if there is none. -/
def Program.longestList (p : Program) : Nat := (p.lists.map List.length).foldr max 0

theorem Program.length_le_longestList {p : Program} {elements : List Expression}
    (h : elements ∈ p.lists) : elements.length ≤ p.longestList :=
  List.le_max_of_le' 0 (List.mem_map_of_mem h) (Nat.le_refl _)

end Spellbook
