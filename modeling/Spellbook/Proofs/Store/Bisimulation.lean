import Mathlib.Data.List.Forall2
import Spellbook.Store.Equality

/-!
# Equal values are the bisimilar ones

Two values are bisimilar if some relation holds between them that nothing in the store refutes.
The comparison answers with true exactly for bisimilar values, in whatever order it takes the pairs
that are left: `Compares` leaves that order open, and `compares_equalPairs` says that the
comparison as it is carried out is one of its ways.

While pairs are left, the lists that have been met need not be bisimilar.  What holds is that each
item of theirs is assumed or still left (`Settled`), so that the assumptions are a bisimulation
once nothing is left.
-/

namespace Spellbook.Store

variable {s : Store}

/-! ## Bisimulations -/

/-- A relation between values that respects kinds and plain values, and that relates lists only
if they are equally long and their items are related in pairs. -/
structure IsBisimulation (s : Store) (R : Value → Value → Prop) : Prop where
  kind_eq : ∀ {v w}, R v w → v.kind = w.kind
  plain_eq : ∀ {v w}, R v w → v.kind ≠ .list → v = w
  items : ∀ {a b}, R (.list a) (.list b) →
    List.Forall₂ R (s.items a).toList (s.items b).toList

/-- Some bisimulation relates the values. -/
def Bisimilar (s : Store) (v w : Value) : Prop := ∃ R, s.IsBisimulation R ∧ R v w

theorem isBisimulation_eq (s : Store) : s.IsBisimulation Eq := by
  refine ⟨fun h => h ▸ rfl, fun h _ => h, ?_⟩
  intro a b h
  obtain rfl := Value.list.inj h
  rw [List.forall₂_same]
  exact fun _ _ => rfl

theorem IsBisimulation.flip {R : Value → Value → Prop} (h : s.IsBisimulation R) :
    s.IsBisimulation (fun v w => R w v) := by
  refine ⟨fun hR => (h.kind_eq hR).symm, ?_, fun hR => (h.items hR).flip⟩
  intro v w hR hplain
  have hkind := h.kind_eq hR
  rw [← hkind] at hplain
  exact (h.plain_eq hR hplain).symm

theorem forall₂_comp {R S : Value → Value → Prop} {us vs ws : List Value}
    (hR : List.Forall₂ R us vs) (hS : List.Forall₂ S vs ws) :
    List.Forall₂ (fun u w => ∃ v, R u v ∧ S v w) us ws := by
  induction hR generalizing ws with
  | nil =>
    cases hS
    exact .nil
  | cons huv _ ih =>
    cases hS with
    | cons hvw hrest => exact .cons ⟨_, huv, hvw⟩ (ih hrest)

theorem IsBisimulation.comp {R S : Value → Value → Prop} (hR : s.IsBisimulation R)
    (hS : s.IsBisimulation S) : s.IsBisimulation (fun u w => ∃ v, R u v ∧ S v w) := by
  refine ⟨?_, ?_, ?_⟩
  · rintro u w ⟨v, huv, hvw⟩
    rw [hR.kind_eq huv, hS.kind_eq hvw]
  · rintro u w ⟨v, huv, hvw⟩ hplain
    obtain rfl := hR.plain_eq huv hplain
    exact hS.plain_eq hvw hplain
  · rintro a c ⟨v, huv, hvw⟩
    -- What stands between two lists is a list, because kinds are respected.
    cases v with
    | list b => exact forall₂_comp (hR.items huv) (hS.items hvw)
    | string | integer | boolean => exact nomatch hR.kind_eq huv

theorem bisimilar_equivalence (s : Store) : Equivalence s.Bisimilar := by
  refine ⟨fun v => ⟨Eq, s.isBisimulation_eq, rfl⟩, ?_, ?_⟩
  · rintro v w ⟨R, hR, hvw⟩
    exact ⟨_, hR.flip, hvw⟩
  · rintro u v w ⟨R, hR, huv⟩ ⟨S, hS, hvw⟩
    exact ⟨_, hR.comp hS, v, huv, hvw⟩

theorem Bisimilar.items {a b : Handle} (h : s.Bisimilar (.list a) (.list b)) :
    List.Forall₂ s.Bisimilar (s.items a).toList (s.items b).toList := by
  obtain ⟨R, hR, hab⟩ := h
  exact (hR.items hab).imp fun v w hvw => ⟨R, hR, hvw⟩

/-! ## Comparing in any order -/

/-- The values are the same, or they are lists that have been met. -/
def Assumed (met : List (Handle × Handle)) (v w : Value) : Prop :=
  v = w ∨ ∃ a b, v = .list a ∧ w = .list b ∧ (a, b) ∈ met

/-- The answers that the comparison can come to, if it may take any of the pairs that are left. -/
inductive Compares (s : Store) : List (Handle × Handle) → List (Value × Value) → Bool → Prop
  | done {met : List (Handle × Handle)} : Compares s met [] true
  | reorder {met : List (Handle × Handle)} {pending pending' : List (Value × Value)}
    {answer : Bool} : pending.Perm pending' →
    Compares s met pending' answer → Compares s met pending answer
  | skip {met : List (Handle × Handle)} {pending : List (Value × Value)} {v w : Value}
    {answer : Bool} : Assumed met v w → Compares s met pending answer →
    Compares s met ((v, w) :: pending) answer
  | enter {met : List (Handle × Handle)} {pending : List (Value × Value)} {a b : Handle}
    {answer : Bool} : ¬Assumed met (.list a) (.list b) →
    (s.items a).size = (s.items b).size →
    Compares s ((a, b) :: met) ((s.items a).toList.zip (s.items b).toList ++ pending) answer →
    Compares s met ((.list a, .list b) :: pending) answer
  | differ {met : List (Handle × Handle)} {pending : List (Value × Value)} {v w : Value} :
    ¬Assumed met v w →
    (∀ a b, v = .list a → w = .list b → (s.items a).size ≠ (s.items b).size) →
    Compares s met ((v, w) :: pending) false

theorem assumed_lists_iff {met : List (Handle × Handle)} {a b : Handle} :
    Assumed met (.list a) (.list b) ↔ a = b ∨ (a, b) ∈ met := by
  simp [Assumed]

theorem compares_equalPairs (s : Store) (met : List (Handle × Handle))
    (pending : List (Value × Value)) : s.Compares met pending (s.equalPairs met pending) := by
  fun_induction equalPairs s met pending with
  | case1 => exact .done
  | case2 met a pending ih => exact .skip (.inl rfl) ih
  | case3 met a b pending _ hmet ih =>
    exact .skip (.inr ⟨a, b, rfl, rfl, by simpa using hmet⟩) ih
  | case4 met a b pending hne hmet hsize ih =>
    refine .enter ?_ hsize (.reorder ?_ ih)
    · rw [assumed_lists_iff]
      simpa [hne] using hmet
    · exact (List.reverse_perm _).symm.append_right pending
  | case5 met a b pending hne hmet hsize =>
    refine .differ ?_ ?_
    · rw [assumed_lists_iff]
      simpa [hne] using hmet
    · rintro a' b' ⟨⟩ ⟨⟩
      exact hsize
  | case6 met pending v _ ih => exact .skip (.inl rfl) ih
  | case7 met v w pending hlists hne =>
    refine .differ ?_ ?_
    · rintro (heq | ⟨a, b, rfl, rfl, -⟩)
      · exact hne heq
      · exact hlists a b rfl rfl
    · rintro a b rfl rfl
      exact absurd rfl (hlists a b rfl)

/-! ## What an answer says -/

/-- The lists that have been met are equally long, and each pair of their items is assumed or
still left. -/
def Settled (s : Store) (met : List (Handle × Handle)) (pending : List (Value × Value)) : Prop :=
  ∀ a b, (a, b) ∈ met → (s.items a).toList.length = (s.items b).toList.length ∧
    ∀ {v w}, (v, w) ∈ (s.items a).toList.zip (s.items b).toList →
      Assumed met v w ∨ (v, w) ∈ pending

theorem Assumed.mono {met met' : List (Handle × Handle)} {v w : Value} (h : Assumed met v w)
    (hsub : met ⊆ met') : Assumed met' v w := by
  rcases h with heq | ⟨a, b, hv, hw, hmem⟩
  · exact .inl heq
  · exact .inr ⟨a, b, hv, hw, hsub hmem⟩

/-- With nothing left, what is assumed is a bisimulation. -/
theorem Settled.isBisimulation {met : List (Handle × Handle)} (h : s.Settled met []) :
    s.IsBisimulation (Assumed met) := by
  refine ⟨?_, ?_, ?_⟩
  · rintro v w (rfl | ⟨a, b, rfl, rfl, -⟩) <;> rfl
  · rintro v w (rfl | ⟨a, b, rfl, rfl, -⟩) hplain
    · rfl
    · exact absurd rfl hplain
  · intro a b hab
    rcases assumed_lists_iff.1 hab with rfl | hmem
    · rw [List.forall₂_same]
      exact fun _ _ => .inl rfl
    · rw [List.forall₂_iff_zip]
      obtain ⟨hlength, hitems⟩ := h a b hmem
      refine ⟨hlength, ?_⟩
      intro v w hvw
      rcases hitems hvw with hassumed | hleft
      · exact hassumed
      · exact nomatch hleft

/-- A pair that is assumed can go without unsettling anything. -/
theorem Settled.skip {met : List (Handle × Handle)} {pending : List (Value × Value)} {v w : Value}
    (h : s.Settled met ((v, w) :: pending)) (hvw : Assumed met v w) : s.Settled met pending := by
  intro a b hmem
  obtain ⟨hlength, hitems⟩ := h a b hmem
  refine ⟨hlength, ?_⟩
  intro v' w' hitem
  rcases hitems hitem with hassumed | hleft
  · exact .inl hassumed
  · rcases List.mem_cons.1 hleft with heq | hleft
    · obtain ⟨rfl, rfl⟩ := Prod.mk.inj heq
      exact .inl hvw
    · exact .inr hleft

/-- A pair of lists that is met becomes an assumption, and its items are left. -/
theorem Settled.enter {met : List (Handle × Handle)} {pending : List (Value × Value)}
    {a b : Handle} (h : s.Settled met ((.list a, .list b) :: pending))
    (hsize : (s.items a).size = (s.items b).size) :
    s.Settled ((a, b) :: met)
      ((s.items a).toList.zip (s.items b).toList ++ pending) := by
  intro c d hmem
  rcases List.mem_cons.1 hmem with heq | hmem
  · obtain ⟨rfl, rfl⟩ := Prod.mk.inj heq
    exact ⟨hsize, fun hitem => .inr (List.mem_append_left _ hitem)⟩
  · obtain ⟨hlength, hitems⟩ := h c d hmem
    refine ⟨hlength, ?_⟩
    intro v w hitem
    rcases hitems hitem with hassumed | hleft
    · exact .inl (hassumed.mono (List.subset_cons_self _ _))
    · rcases List.mem_cons.1 hleft with heq | hleft
      · obtain ⟨rfl, rfl⟩ := Prod.mk.inj heq
        exact .inl (assumed_lists_iff.2 (.inr List.mem_cons_self))
      · exact .inr (List.mem_append_right _ hleft)

/-- Behind the answer true stands a set of lists, among them those that were met, that makes the
assumptions a bisimulation and relates every pair that was left. -/
theorem Compares.exists_bisimulation {met : List (Handle × Handle)}
    {pending : List (Value × Value)} {answer : Bool} (h : s.Compares met pending answer)
    (htrue : answer = true) (hsettled : s.Settled met pending) :
    ∃ met', met ⊆ met' ∧ s.IsBisimulation (Assumed met') ∧
      ∀ v w, (v, w) ∈ pending → Assumed met' v w := by
  induction h with
  | done => exact ⟨_, List.Subset.refl _, hsettled.isBisimulation, fun v w h => nomatch h⟩
  | reorder hperm _ ih =>
    have hsettled' : s.Settled _ _ := fun a b hmem =>
      ⟨(hsettled a b hmem).1, fun hitem =>
        ((hsettled a b hmem).2 hitem).imp_right hperm.mem_iff.1⟩
    obtain ⟨met', hsub, hbisim, hpending⟩ := ih htrue hsettled'
    exact ⟨met', hsub, hbisim, fun v w hvw => hpending v w (hperm.mem_iff.1 hvw)⟩
  | skip hvw _ ih =>
    obtain ⟨met', hsub, hbisim, hpending⟩ := ih htrue (hsettled.skip hvw)
    refine ⟨met', hsub, hbisim, ?_⟩
    intro v' w' hmem
    rcases List.mem_cons.1 hmem with heq | hmem
    · obtain ⟨rfl, rfl⟩ := Prod.mk.inj heq
      exact hvw.mono hsub
    · exact hpending v' w' hmem
  | enter _ hsize _ ih =>
    obtain ⟨met', hsub, hbisim, hpending⟩ := ih htrue (hsettled.enter hsize)
    obtain ⟨hab, hsub⟩ := List.cons_subset.1 hsub
    refine ⟨met', hsub, hbisim, ?_⟩
    intro v w hmem
    rcases List.mem_cons.1 hmem with heq | hmem
    · obtain ⟨rfl, rfl⟩ := Prod.mk.inj heq
      exact assumed_lists_iff.2 (.inr hab)
    · exact hpending v w (List.mem_append_right _ hmem)
  | differ => exact nomatch htrue

/-- Bisimilar pairs are never told apart. -/
theorem Compares.eq_true {met : List (Handle × Handle)} {pending : List (Value × Value)}
    {answer : Bool} (h : s.Compares met pending answer)
    (hbisim : ∀ v w, (v, w) ∈ pending → s.Bisimilar v w) : answer = true := by
  induction h with
  | done => rfl
  | reorder hperm _ ih => exact ih fun v w hmem => hbisim v w (hperm.mem_iff.2 hmem)
  | skip _ _ ih => exact ih fun v w hmem => hbisim v w (List.mem_cons_of_mem _ hmem)
  | enter _ _ _ ih =>
    apply ih
    intro v w hmem
    rcases List.mem_append.1 hmem with hitem | hmem
    · exact List.forall₂_zip (hbisim _ _ List.mem_cons_self).items hitem
    · exact hbisim v w (List.mem_cons_of_mem _ hmem)
  | @differ met pending v w hassumed hsize =>
    have hvw : s.Bisimilar v w := hbisim v w List.mem_cons_self
    by_cases hplain : v.kind = .list
    · obtain ⟨R, hR, hrel⟩ := hvw
      have hkind := hR.kind_eq hrel
      cases v with
      | list a =>
        cases w with
        | list b => exact absurd (hR.items hrel).length_eq (hsize a b rfl rfl)
        | string | integer | boolean => exact nomatch hkind
      | string | integer | boolean => exact nomatch hplain
    · obtain ⟨R, hR, hrel⟩ := hvw
      exact absurd (.inl (hR.plain_eq hrel hplain)) hassumed

/-- Whatever the order, the comparison of two values answers whether they are bisimilar. -/
theorem Compares.eq_true_iff {v w : Value} {answer : Bool}
    (h : s.Compares [] [(v, w)] answer) : answer = true ↔ s.Bisimilar v w := by
  constructor
  · intro htrue
    have hsettled : s.Settled [] [(v, w)] := fun a b hmem => nomatch hmem
    obtain ⟨met', -, hbisim, hpending⟩ := h.exists_bisimulation htrue hsettled
    exact ⟨_, hbisim, hpending v w List.mem_cons_self⟩
  · intro hvw
    apply h.eq_true
    intro v' w' hmem
    obtain ⟨rfl, rfl⟩ := Prod.mk.inj (List.mem_singleton.1 hmem)
    exact hvw

theorem equal_eq_true_iff (s : Store) (v w : Value) : s.equal v w = true ↔ s.Bisimilar v w :=
  (s.compares_equalPairs [] [(v, w)]).eq_true_iff

/-! ## The main result -/

/-- In every store, with lists that share items or hold themselves: two values are equal exactly
if some bisimulation relates them; equality is an equivalence; and taking the pairs that are left
in another order never changes the answer. -/
theorem equal_iff_bisimulation (s : Store) :
    (∀ v w, s.equal v w = true ↔ ∃ R, s.IsBisimulation R ∧ R v w) ∧
    Equivalence (fun v w => s.equal v w = true) ∧
    ∀ v w answer, s.Compares [] [(v, w)] answer ↔ answer = s.equal v w := by
  refine ⟨s.equal_eq_true_iff, ?_, ?_⟩
  · have hequal : (fun v w => s.equal v w = true) = s.Bisimilar := by
      funext v w
      exact propext (s.equal_eq_true_iff v w)
    rw [hequal]
    exact s.bisimilar_equivalence
  · intro v w answer
    constructor
    · intro h
      rw [Bool.eq_iff_iff, h.eq_true_iff, s.equal_eq_true_iff]
    · rintro rfl
      exact s.compares_equalPairs [] [(v, w)]

/-- Two lists that each hold only the other equal each other and a list that holds itself. -/
example : (Store.mk #[#[.list 1], #[.list 0], #[.list 2]]).equal (.list 0) (.list 2) = true := by
  decide +kernel

end Spellbook.Store
