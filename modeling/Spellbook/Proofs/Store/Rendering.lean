import Mathlib.Data.Finset.Card
import Mathlib.Data.Finset.SDiff
import Mathlib.Data.Finset.Insert
import Spellbook.Proofs.Text.Join
import Spellbook.Store.Render

/-!
# Rendering by recursion

The text of a value, told by recursion on the lists that are open: a list that is open is
abbreviated, and any other is written with its items, while it is open itself.  In every store there
is exactly one way to write all values by these rules, and writing pieces from a stack comes to the
same (`render_eq_recursive`).

While pieces are left, each suffix of the stack is written under the lists that are still open when
it is reached: the end of a list takes the list out of the open ones (`piecesText`).
-/

namespace Spellbook.Store

variable {s : Store}

/-! ## The rules -/

/-- The function writes values, given the set of lists that are open. -/
structure IsRendering (s : Store) (write : Finset Handle → Value → Text) : Prop where
  string : ∀ opened text, write opened (.string text) = text
  integer : ∀ opened number, write opened (.integer number) = Text.ofInt number
  boolean : ∀ opened truth, write opened (.boolean truth) = if truth then "True" else "False"
  abbreviated : ∀ opened h, h ∈ opened → write opened (.list h) = "[...]"
  full : ∀ opened h, h ∉ opened → write opened (.list h) =
    "[" ++ Text.join ", " ((s.items h).toList.map (write (insert h opened))) ++ "]"

/-- The number of lists that are left to open. -/
def closed (s : Store) (opened : Finset Handle) : Nat := (Finset.range s.size \ opened).card

theorem closed_insert_lt {opened : Finset Handle} {h : Handle} (hopen : h ∉ opened)
    (hlt : h < s.size) : s.closed (insert h opened) < s.closed opened := by
  have hmem : h ∈ Finset.range s.size \ opened :=
    Finset.mem_sdiff.2 ⟨Finset.mem_range.2 hlt, hopen⟩
  unfold closed
  rw [Finset.sdiff_insert]
  exact Finset.card_erase_lt_of_mem hmem

/-- A list with an item is a list of the store. -/
theorem lt_size_of_mem_items {h : Handle} {v : Value} (hv : v ∈ (s.items h).toList) :
    h < s.size := by
  by_contra hge
  rw [items_of_size_le (Nat.le_of_not_lt hge)] at hv
  exact absurd hv List.not_mem_nil

/-- The text of a value while the given lists are open. -/
def renderWithin (s : Store) (opened : Finset Handle) : Value → Text
  | .string text => text
  | .integer number => Text.ofInt number
  | .boolean truth => if truth then "True" else "False"
  | .list h =>
    if _hopen : h ∈ opened then "[...]"
    else
      "[" ++ Text.join ", " ((s.items h).toList.attach.map fun v =>
        renderWithin s (insert h opened) v.1) ++ "]"
termination_by s.closed opened
decreasing_by exact closed_insert_lt _hopen (lt_size_of_mem_items v.2)

theorem isRendering_renderWithin (s : Store) : s.IsRendering s.renderWithin := by
  refine ⟨?_, ?_, ?_, ?_, ?_⟩
  · intro opened text
    rw [renderWithin]
  · intro opened number
    rw [renderWithin]
  · intro opened truth
    rw [renderWithin]
    cases truth <;> rfl
  · intro opened h hopen
    rw [renderWithin, dif_pos hopen]
  · intro opened h hopen
    rw [renderWithin, dif_neg hopen, List.attach_map_val]

/-- The rules leave no choice: a list is written by what is written with fewer lists left. -/
theorem IsRendering.eq {write write' : Finset Handle → Value → Text} (hw : s.IsRendering write)
    (hw' : s.IsRendering write') : write = write' := by
  suffices h : ∀ n opened, s.closed opened = n → ∀ v, write opened v = write' opened v by
    funext opened v
    exact h _ opened rfl v
  intro n
  induction n using Nat.strongRecOn with
  | ind n ih =>
    intro opened hn v
    cases v with
    | string text => rw [hw.string, hw'.string]
    | integer number => rw [hw.integer, hw'.integer]
    | boolean truth => rw [hw.boolean, hw'.boolean]
    | list h =>
      by_cases hopen : h ∈ opened
      · rw [hw.abbreviated opened h hopen, hw'.abbreviated opened h hopen]
      · have hitems : (s.items h).toList.map (write (insert h opened)) =
            (s.items h).toList.map (write' (insert h opened)) := by
          apply List.map_congr_left
          intro v hv
          have hlt := closed_insert_lt hopen (lt_size_of_mem_items hv)
          exact ih _ (hn ▸ hlt) _ rfl v
        rw [hw.full opened h hopen, hw'.full opened h hopen, hitems]

/-! ## The stack -/

/-- What the pieces come to, each written under the lists that are open when it is reached. -/
def piecesText (write : Finset Handle → Value → Text) : List Handle → List Piece → Text
  | _, [] => []
  | opened, .separator :: pieces => ", " ++ piecesText write opened pieces
  | opened, .close h :: pieces => "]" ++ piecesText write (opened.erase h) pieces
  | opened, .value v :: pieces => write opened.toFinset v ++ piecesText write opened pieces

variable {write : Finset Handle → Value → Text}

theorem piecesText_itemPieces (opened : List Handle) (items : List Value) (pieces : List Piece) :
    piecesText write opened (itemPieces items ++ pieces) =
      Text.join ", " (items.map (write opened.toFinset)) ++ piecesText write opened pieces := by
  unfold itemPieces
  induction items with
  | nil => rfl
  | cons v items ih =>
    cases items with
    | nil =>
      rw [List.map_singleton, List.map_singleton, List.intersperse_singleton, Text.join_singleton]
      rfl
    | cons w items =>
      have hrest : (w :: items).map (write opened.toFinset) ≠ [] := List.cons_ne_nil _ _
      rw [List.map_cons (f := write opened.toFinset), Text.join_cons_of_ne_nil _ _ hrest]
      simp only [List.map_cons, List.intersperse_cons_cons, List.cons_append, piecesText,
        List.append_assoc] at ih ⊢
      rw [ih]

theorem IsRendering.plain (hw : s.IsRendering write) {v : Value} (hplain : ∀ h, v ≠ .list h)
    (opened : Finset Handle) : write opened v = v.plainText := by
  cases v with
  | string text => exact hw.string opened text
  | integer number => exact hw.integer opened number
  | boolean truth =>
    rw [hw.boolean]
    cases truth <;> rfl
  | list h => exact absurd rfl (hplain h)

/-- A list that is opened is written in full: its items under one more open list, and what follows
its end under the lists that were open before. -/
theorem IsRendering.piecesText_open (hw : s.IsRendering write) {opened : List Handle} {h : Handle}
    (hopen : h ∉ opened) (pieces : List Piece) :
    "[" ++ piecesText write (h :: opened) (itemPieces (s.items h).toList ++ .close h :: pieces) =
      piecesText write opened (.value (.list h) :: pieces) := by
  have hmem : h ∉ opened.toFinset := mt List.mem_toFinset.1 hopen
  rw [piecesText_itemPieces, piecesText, piecesText, List.erase_cons_head, List.toFinset_cons,
    hw.full _ h hmem]
  simp only [List.append_assoc]

theorem IsRendering.renderPieces_eq (hw : s.IsRendering write) (opened : List Handle)
    (pieces : List Piece) (written : Text) :
    s.renderPieces opened pieces written = written.reverse ++ piecesText write opened pieces := by
  -- A plain value, or an abbreviation, adds its own text.
  have hadded (text written more : Text) :
      (text.reverseAux written).reverse ++ more = written.reverse ++ (text ++ more) := by
    rw [List.reverseAux_eq, List.reverse_append, List.reverse_reverse, List.append_assoc]
  fun_induction renderPieces s opened pieces written with
  | case1 opened written => rw [piecesText, List.append_nil]
  | case2 opened pieces written ih =>
    rw [ih, piecesText]
    exact hadded ", " written _
  | case3 opened h pieces written ih =>
    rw [ih, piecesText]
    exact hadded "]" written _
  | case4 opened h pieces written hopen ih =>
    have hmem : h ∈ opened.toFinset := List.mem_toFinset.2 (by simpa using hopen)
    rw [ih, piecesText, hw.abbreviated _ h hmem]
    exact hadded "[...]" written _
  | case5 opened h pieces written hopen ih =>
    rw [ih, ← hw.piecesText_open (by simpa using hopen)]
    exact hadded "[" written _
  | case6 opened v pieces written hplain ih =>
    rw [ih, piecesText, hw.plain hplain]
    exact hadded v.plainText written _

theorem IsRendering.render_eq (hw : s.IsRendering write) (v : Value) : s.render v = write ∅ v := by
  rw [render, hw.renderPieces_eq, List.reverse_nil, List.nil_append, piecesText, piecesText,
    List.toFinset_nil, List.append_nil]

/-! ## Lists inside lists -/

/-- The second value is written inside the first one, in the lists `above`, innermost first. -/
inductive StandsIn (s : Store) (v : Value) : List Handle → Value → Prop
  | top : StandsIn s v [] v
  | item {above : List Handle} {h : Handle} {w : Value} : StandsIn s v above (.list h) → h ∉ above →
    w ∈ (s.items h).toList → StandsIn s v (h :: above) w

theorem isInfix_join_of_mem (separator : Text) {part : Text} {parts : List Text}
    (h : part ∈ parts) : part <:+: Text.join separator parts := by
  obtain ⟨front, back, rfl⟩ := List.append_of_mem h
  have hback : part <+: Text.join separator (part :: back) := by
    have hprefix := Text.join_isPrefix separator (List.prefix_append [part] back)
    rwa [Text.join_singleton] at hprefix
  by_cases hfront : front = []
  · subst hfront
    exact hback.isInfix
  · rw [Text.join_append_of_ne_nil separator hfront (List.cons_ne_nil _ _)]
    exact hback.isInfix.trans (List.suffix_append _ _).isInfix

/-- Wherever a value stands, its text given the lists around it is a part of the whole. -/
theorem IsRendering.isInfix_of_standsIn (hw : s.IsRendering write) {v w : Value}
    {above : List Handle} (h : s.StandsIn v above w) : write above.toFinset w <:+: s.render v := by
  induction h with
  | top =>
    rw [hw.render_eq]
    exact List.infix_rfl
  | @item above h w _ hopen hw' ih =>
    have hmem : h ∉ above.toFinset := mt List.mem_toFinset.1 hopen
    rw [hw.full _ h hmem] at ih
    rw [List.toFinset_cons]
    have hitem : write (insert h above.toFinset) w ∈
        (s.items h).toList.map (write (insert h above.toFinset)) := List.mem_map_of_mem hw'
    exact ((isInfix_join_of_mem ", " hitem).trans ⟨"[", "]", rfl⟩).trans ih

/-! ## The main result -/

/-- In every store, with lists that share items or hold themselves, exactly one function writes
values by the rules, and the text of a value is what it writes with no list open.  A value that
stands further inside is written with the lists around it open: so a list is abbreviated exactly
where it stands inside itself, and is written in full at every other place. -/
theorem render_eq_recursive (s : Store) :
    (∃! write, s.IsRendering write) ∧ ∀ write, s.IsRendering write →
      (∀ v, s.render v = write ∅ v) ∧
      ∀ v above w, s.StandsIn v above w → write above.toFinset w <:+: s.render v := by
  refine ⟨⟨s.renderWithin, s.isRendering_renderWithin, ?_⟩, ?_⟩
  · intro write hw
    exact hw.eq s.isRendering_renderWithin
  · intro write hw
    exact ⟨hw.render_eq, fun v above w => hw.isInfix_of_standsIn⟩

/-- A list with another one in it twice, and then itself. -/
theorem render_eq_recursive_shared :
    let s : Store := ⟨#[#[.list 1, .list 1, .list 0], #[.integer 7]]⟩
    ∃ write, s.IsRendering write ∧ write ∅ (.list 0) = "[[7], [7], [...]]" ∧
      s.StandsIn (.list 0) [0] (.list 1) ∧ write {0} (.list 1) <:+: s.render (.list 0) ∧
      s.StandsIn (.list 0) [0] (.list 0) ∧ write {0} (.list 0) = "[...]" := by
  intro s
  obtain ⟨⟨write, hwrite, -⟩, hrender⟩ := s.render_eq_recursive
  obtain ⟨htext, hinside⟩ := hrender write hwrite
  have hshared : s.StandsIn (.list 0) [0] (.list 1) :=
    .item .top List.not_mem_nil List.mem_cons_self
  have hitself : s.StandsIn (.list 0) [0] (.list 0) :=
    .item .top List.not_mem_nil (List.mem_of_getElem? (i := 2) rfl)
  refine ⟨write, hwrite, ?_, hshared, hinside _ _ _ hshared, hitself, ?_⟩
  · rw [← htext]
    decide +kernel
  · exact hwrite.abbreviated _ 0 (Finset.mem_singleton_self 0)

end Spellbook.Store
