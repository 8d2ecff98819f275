import Spellbook.Proofs.Store.Bisimulation
import Spellbook.Proofs.Store.Growth
import Spellbook.Proofs.Store.Rendering

/-!
# What a value reaches

A value reaches the list that it is, and every list that one of its items reaches.  The text of a
value and what it equals depend on these lists only: in two stores that agree on them, both are
the same (`AgreeOn.render_eq`, `AgreeOn.equal_eq`).  Lists that are shared or hold themselves are
reached on many ways, so `AgreeOn` speaks of the lists and not of the ways to them.
-/

namespace Spellbook

/-- The value is the list, or is a list with an item that reaches it. -/
inductive Value.Reaches (s : Store) (target : Handle) : Value → Prop
  | itself : Reaches s target (.list target)
  | item {h : Handle} {v : Value} :
    v ∈ (s.items h).toList → Reaches s target v → Reaches s target (.list h)

/-- In a sound store a value of the store reaches lists of the store only. -/
theorem Value.Reaches.lt_size {s : Store} {target : Handle} {v : Value} (h : v.Reaches s target)
    (hs : s.Sound) (hv : v.IsIn s) : target < s.size := by
  induction h with
  | itself => exact hv
  | item hmem _ ih =>
    apply ih
    exact hs _ _ (Array.mem_toList_iff.1 hmem)

namespace Store

variable {s s' s'' : Store} {v w : Value} {target : Handle}

/-! ## Stores that agree -/

/-- Both stores have the same items in every list that the value reaches. -/
def AgreeOn (s s' : Store) (v : Value) : Prop := ∀ h, v.Reaches s h → s'.items h = s.items h

theorem AgreeOn.item {a : Handle} (h : s.AgreeOn s' (.list a)) (hv : v ∈ (s.items a).toList) :
    s.AgreeOn s' v := by
  intro b hb
  exact h b (.item hv hb)

/-- What is reached in the second store is reached in the first. -/
theorem AgreeOn.reaches (h : s.AgreeOn s' v) (hreach : v.Reaches s' target) :
    v.Reaches s target := by
  induction hreach with
  | itself => exact .itself
  | item hmem _ ih =>
    rw [h _ .itself] at hmem
    exact .item hmem (ih (h.item hmem))

theorem AgreeOn.symm (h : s.AgreeOn s' v) : s'.AgreeOn s v := by
  intro a ha
  exact (h a (h.reaches ha)).symm

theorem AgreeOn.trans (h : s.AgreeOn s' v) (h' : s'.AgreeOn s'' v) : s.AgreeOn s'' v := by
  intro a ha
  rw [h' a (h.symm.reaches ha), h a ha]

/-- More lists change nothing for the values that are there. -/
theorem Extends.agreeOn (h : s.Extends s') (hs : s.Sound) (hv : v.IsIn s) : s.AgreeOn s' v := by
  intro a ha
  exact h.items_eq a (ha.lt_size hs hv)

/-- One more item in a list changes nothing for the values that do not reach it. -/
theorem agreeOn_append (x : Value) (h : ¬v.Reaches s target) : s.AgreeOn (s.append target x) v := by
  intro a ha
  have hne : a ≠ target := by
    rintro rfl
    exact h ha
  rw [items_append, if_neg]
  exact fun hand => hne hand.1

/-! ## Texts -/

theorem AgreeOn.renderWithin_eq (opened : Finset Handle) (h : s.AgreeOn s' v) :
    s'.renderWithin opened v = s.renderWithin opened v := by
  induction opened, v using renderWithin.induct s with
  | case1 | case2 | case3 | case4 => rw [renderWithin, renderWithin]
  | case5 opened a hopen => rw [renderWithin, renderWithin, dif_pos hopen, dif_pos hopen]
  | case6 opened a hopen ih =>
    have hitems : (s.items a).toList.map (s'.renderWithin (insert a opened)) =
        (s.items a).toList.map (s.renderWithin (insert a opened)) := by
      apply List.map_congr_left
      intro v hv
      exact ih ⟨v, hv⟩ (h.item hv)
    have hfull := s'.isRendering_renderWithin.full opened a hopen
    rw [hfull, s.isRendering_renderWithin.full opened a hopen, h a .itself, hitems]

theorem AgreeOn.render_eq (h : s.AgreeOn s' v) : s'.render v = s.render v := by
  rw [s'.isRendering_renderWithin.render_eq, s.isRendering_renderWithin.render_eq,
    h.renderWithin_eq]

/-! ## Equality -/

/-- A bisimulation stays one in the other store, restricted to the values on which the stores
agree. -/
theorem Bisimilar.of_agreeOn (h : s.Bisimilar v w) (hv : s.AgreeOn s' v) (hw : s.AgreeOn s' w) :
    s'.Bisimilar v w := by
  obtain ⟨R, hR, hvw⟩ := h
  refine ⟨fun x y => R x y ∧ s.AgreeOn s' x ∧ s.AgreeOn s' y, ⟨?_, ?_, ?_⟩, hvw, hv, hw⟩
  · intro x y hxy
    exact hR.kind_eq hxy.1
  · intro x y hxy
    exact hR.plain_eq hxy.1
  · rintro a b ⟨hab, ha, hb⟩
    rw [ha a .itself, hb b .itself, List.forall₂_iff_zip]
    obtain ⟨hlength, hitems⟩ := List.forall₂_iff_zip.1 (hR.items hab)
    refine ⟨hlength, ?_⟩
    intro x y hxy
    obtain ⟨hx, hy⟩ := List.of_mem_zip hxy
    exact ⟨hitems hxy, ha.item hx, hb.item hy⟩

theorem AgreeOn.equal_eq (hv : s.AgreeOn s' v) (hw : s.AgreeOn s' w) :
    s'.equal v w = s.equal v w := by
  rw [Bool.eq_iff_iff, equal_eq_true_iff, equal_eq_true_iff]
  constructor
  · intro h
    exact h.of_agreeOn hv.symm hw.symm
  · intro h
    exact h.of_agreeOn hv hw

/-! ## New lists -/

/-- Nothing but a new list itself reaches it. -/
theorem eq_of_reaches_allocate {items : List Value} (hs : s.Sound) (hitems : ∀ x ∈ items, x.IsIn s)
    (h : v.Reaches (s.allocate items).2 s.size) : v = .list s.size := by
  have hfresh : ¬(Value.list s.size).IsIn s := Nat.lt_irrefl s.size
  induction h with
  | itself => rfl
  | @item a v hmem _ ih =>
    subst ih
    rw [items_allocate] at hmem
    split at hmem
    · exact absurd (hitems _ hmem) hfresh
    · exact absurd (hs a _ (Array.mem_toList_iff.1 hmem)) hfresh

end Store

end Spellbook
