import Spellbook.Store.Basic
import Spellbook.Text.Quoted

/-!
# Values as text

A list is written with its items in brackets, and as `[...]` where it stands inside itself.
Lists may nest as deep as a spell runs long, so what is left to write is kept in a stack of its
own, and the lists that are open in a set.  The work ends because every list that is opened has to
be one that is not open yet.
-/

namespace Spellbook

/-- The text of a value that is not a list. -/
def Value.plainText : Value → Text
  | .string text => text
  | .integer number => Text.ofInt number
  | .boolean true => "True"
  | .boolean false => "False"
  | .list _ => "[...]"

namespace Store

/-- What may be left to write: a value, the comma between two items, or the bracket that closes a
list. -/
inductive Piece where
  | value (v : Value)
  | separator
  | close (handle : Handle)

/-- The items of a list, with a comma between neighbours. -/
def itemPieces (items : List Value) : List Piece := (items.map Piece.value).intersperse .separator

/-! ## The work that is left -/

/-- The number of lists that are not among the open ones. -/
def unopened (s : Store) (opened : List Handle) : Nat :=
  (List.range s.size).countP fun h => !opened.contains h

theorem unopened_cons_lt {s : Store} {opened : List Handle} {h : Handle}
    (hopen : opened.contains h = false) (hlt : h < s.size) :
    s.unopened (h :: opened) < s.unopened opened :=
  countP_lt_countP (y := h) (fun x _ => by simp_all) (by simp [hlt]) (by simpa using hopen)
    (by simp)

/-- What an item may cost while the given lists are open: enough for a list that is opened with
its items and commas, each of which may open one of the lists that are left. -/
def itemCost (s : Store) (opened : List Handle) : Nat :=
  Nat.pow (2 * s.itemBound + 1) (s.unopened opened)

theorem itemCost_pos (s : Store) (opened : List Handle) : 0 < s.itemCost opened :=
  Nat.pow_pos (Nat.succ_pos _)

theorem itemCost_cons_lt {s : Store} {opened : List Handle} {h : Handle}
    (hopen : opened.contains h = false) (hlt : h < s.size) :
    (2 * s.itemBound + 1) * s.itemCost (h :: opened) ≤ s.itemCost opened := by
  have hpow : (2 * s.itemBound + 1) * s.itemCost (h :: opened) =
      Nat.pow (2 * s.itemBound + 1) (s.unopened (h :: opened) + 1) :=
    Nat.mul_comm _ _
  rw [hpow]
  exact Nat.pow_le_pow_right (Nat.succ_pos _) (unopened_cons_lt hopen hlt)

/-- A list that is opened costs less, with its items and its end, than the item that it is. -/
theorem openCost_lt {s : Store} {opened : List Handle} {h : Handle}
    (hopen : opened.contains h = false) :
    (s.items h).toList.length * (2 * s.itemCost (h :: opened) + 1) + 1 <
      2 * s.itemCost opened := by
  by_cases hlt : h < s.size
  · have hpos := s.itemCost_pos (h :: opened)
    have hcost := itemCost_cons_lt hopen hlt
    have hitems : (s.items h).toList.length ≤ s.itemBound := s.size_items_le h
    generalize s.itemCost (h :: opened) = cost at hpos hcost ⊢
    calc (s.items h).toList.length * (2 * cost + 1) + 1
        ≤ s.itemBound * (2 * cost + 1) + 1 :=
          Nat.add_le_add_right (Nat.mul_le_mul_right _ hitems) 1
      _ ≤ s.itemBound * (4 * cost) + 1 :=
          Nat.add_le_add_right (Nat.mul_le_mul_left _ (by omega)) 1
      _ < s.itemBound * (4 * cost) + 2 * cost := by omega
      _ = 2 * ((2 * s.itemBound + 1) * cost) := by
          rw [← Nat.mul_assoc, ← Nat.add_mul, ← Nat.mul_assoc]
          congr 1
          omega
      _ ≤ 2 * s.itemCost opened := Nat.mul_le_mul_left 2 hcost
  · have hpos := s.itemCost_pos opened
    simp only [items_of_size_le (Nat.le_of_not_lt hlt), List.length_nil, Nat.zero_mul,
      Nat.zero_add]
    omega

/-- A bound on the work that the pieces leave. -/
def workLeft (s : Store) : List Handle → List Piece → Nat
  | _, [] => 0
  | opened, .separator :: pieces => workLeft s opened pieces + 1
  | opened, .close h :: pieces => workLeft s (opened.erase h) pieces + 1
  | opened, .value _ :: pieces => 2 * s.itemCost opened + workLeft s opened pieces

theorem workLeft_itemPieces_le (s : Store) (opened : List Handle) (items : List Value)
    (pieces : List Piece) :
    s.workLeft opened (itemPieces items ++ pieces) ≤
      items.length * (2 * s.itemCost opened + 1) + s.workLeft opened pieces := by
  unfold itemPieces
  induction items with
  | nil => simp
  | cons v items ih =>
    rw [List.length_cons, Nat.succ_mul]
    cases items with
    | nil =>
      simp only [List.map_cons, List.map_nil, List.intersperse_singleton, List.cons_append,
        List.nil_append, workLeft]
      omega
    | cons w items =>
      simp only [List.map_cons, List.intersperse_cons_cons, List.cons_append, workLeft] at ih ⊢
      omega

theorem workLeft_open_lt {s : Store} {opened : List Handle} {h : Handle} (pieces : List Piece)
    (hopen : opened.contains h = false) :
    s.workLeft (h :: opened) (itemPieces (s.items h).toList ++ .close h :: pieces) <
      s.workLeft opened (.value (.list h) :: pieces) := by
  have hitems := s.workLeft_itemPieces_le (h :: opened) (s.items h).toList (.close h :: pieces)
  have hopened := openCost_lt (s := s) hopen
  simp only [workLeft, List.erase_cons_head] at hitems ⊢
  omega

/-! ## Writing -/

/-- The text written so far, which is kept in reverse, followed by the pieces that are left to
write while the given lists are open. -/
def renderPieces (s : Store) (opened : List Handle) : List Piece → Text → Text
  | [], written => written.reverse
  | .separator :: pieces, written => renderPieces s opened pieces (' ' :: ',' :: written)
  | .close h :: pieces, written => renderPieces s (opened.erase h) pieces (']' :: written)
  | .value (.list h) :: pieces, written =>
    if opened.contains h then
      renderPieces s opened pieces ((Value.list h).plainText.reverseAux written)
    else
      renderPieces s (h :: opened) (itemPieces (s.items h).toList ++ .close h :: pieces)
        ('[' :: written)
  | .value v :: pieces, written => renderPieces s opened pieces (v.plainText.reverseAux written)
termination_by pieces => s.workLeft opened pieces
decreasing_by
  · exact Nat.lt_succ_self _
  · exact Nat.lt_succ_self _
  · exact Nat.lt_add_of_pos_left (Nat.mul_pos (by decide) (s.itemCost_pos opened))
  · rename_i hopen
    exact workLeft_open_lt pieces (by simpa using hopen)
  · exact Nat.lt_add_of_pos_left (Nat.mul_pos (by decide) (s.itemCost_pos opened))

/-- The text of a value. -/
def render (s : Store) (v : Value) : Text := renderPieces s [] [.value v] []

/-- The text of a value with its kind around it, where a string is quoted. -/
def inspect (s : Store) (v : Value) : Text :=
  let contents := match v with
    | .string text => Text.quoted text
    | .boolean truth => Text.ofBool truth
    | v => s.render v
  v.kind.name ++ "(" ++ contents ++ ")"

end Store

end Spellbook
