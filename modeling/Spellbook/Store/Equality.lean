import Spellbook.Store.Basic

/-!
# Equal values

Two values are equal if nothing tells them apart: not their kind, not their contents, and not
the number or the contents of their items, at any depth.  Lists may share items or hold
themselves, so a pair of lists that has been met before is taken to be equal: if it is not, the
first meeting tells.  The pairs that are left are a stack: the items met last are compared first.
-/

namespace Spellbook.Store

/-! ## Pairs of lists that are left to compare -/

/-- Every pair of handles that point to lists. -/
def handlePairs (s : Store) : List (Handle × Handle) :=
  (List.range s.size).flatMap fun a => (List.range s.size).map fun b => (a, b)

/-- The number of pairs of lists that have not been met. -/
def unmet (s : Store) (met : List (Handle × Handle)) : Nat :=
  s.handlePairs.countP fun pair => !met.contains pair

theorem unmet_cons_le (s : Store) (met : List (Handle × Handle)) (pair : Handle × Handle) :
    s.unmet (pair :: met) ≤ s.unmet met :=
  List.countP_mono_left fun x _ => by simp_all

theorem unmet_cons_lt {s : Store} {met : List (Handle × Handle)} {a b : Handle}
    (hmet : met.contains (a, b) = false) (ha : a < s.size) (hb : b < s.size) :
    s.unmet ((a, b) :: met) < s.unmet met :=
  countP_lt_countP (y := (a, b)) (fun x _ => by simp_all) (by simp [handlePairs, ha, hb])
    (by simpa using hmet) (by simp)

/-- A bound on the comparisons that are left.  Meeting a pair of lists costs more than the pairs
of items that it brings. -/
def comparisonsLeft (s : Store) (met : List (Handle × Handle))
    (pending : List (Value × Value)) : Nat :=
  s.unmet met * (s.itemBound + 1) + pending.length

theorem comparisonsLeft_tail_lt (s : Store) (met : List (Handle × Handle))
    (pair : Value × Value) (pending : List (Value × Value)) :
    s.comparisonsLeft met pending < s.comparisonsLeft met (pair :: pending) :=
  Nat.lt_succ_self _

theorem comparisonsLeft_items_lt {s : Store} {met : List (Handle × Handle)} {a b : Handle}
    (pending : List (Value × Value)) (hmet : met.contains (a, b) = false) :
    s.comparisonsLeft ((a, b) :: met)
        (((s.items a).toList.zip (s.items b).toList).reverse ++ pending) <
      s.comparisonsLeft met ((.list a, .list b) :: pending) := by
  simp only [comparisonsLeft, List.length_append, List.length_reverse, List.length_zip,
    List.length_cons, Array.length_toList]
  by_cases hlt : a < s.size ∧ b < s.size
  · have hunmet := Nat.mul_le_mul_right (s.itemBound + 1) (unmet_cons_lt hmet hlt.1 hlt.2)
    have hitems := s.size_items_le a
    rw [Nat.succ_mul] at hunmet
    omega
  · have hunmet := Nat.mul_le_mul_right (s.itemBound + 1) (unmet_cons_le s met (a, b))
    have hitems : min (s.items a).size (s.items b).size = 0 := by
      by_cases ha : a < s.size
      · have hb : s.size ≤ b := Nat.le_of_not_lt fun hb => hlt ⟨ha, hb⟩
        simp [items_of_size_le hb]
      · simp [items_of_size_le (Nat.le_of_not_lt ha)]
    omega

/-! ## Comparing -/

/-- Whether all pairs of values are equal, if the pairs of lists that have been met are. -/
def equalPairs (s : Store) (met : List (Handle × Handle)) : List (Value × Value) → Bool
  | [] => true
  | (.list a, .list b) :: pending =>
    if a = b then equalPairs s met pending
    else if met.contains (a, b) then equalPairs s met pending
    else if (s.items a).size = (s.items b).size then
      equalPairs s ((a, b) :: met)
        (((s.items a).toList.zip (s.items b).toList).reverse ++ pending)
    else false
  | (v, w) :: pending => if v = w then equalPairs s met pending else false
termination_by pending => s.comparisonsLeft met pending
decreasing_by
  · exact comparisonsLeft_tail_lt ..
  · exact comparisonsLeft_tail_lt ..
  · rename_i hmet _
    exact comparisonsLeft_items_lt pending (by simpa using hmet)
  · exact comparisonsLeft_tail_lt ..

/-- Whether the values are equal. -/
def equal (s : Store) (v w : Value) : Bool := equalPairs s [] [(v, w)]

/-- Whether an item of the list equals the value. -/
def holds (s : Store) (handle : Handle) (v : Value) : Bool :=
  (s.items handle).any fun item => s.equal item v

end Spellbook.Store
