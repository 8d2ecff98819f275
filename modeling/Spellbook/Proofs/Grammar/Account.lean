import Mathlib.Data.List.Forall2
import Spellbook.Grammar.Pattern

/-!
# Accounts of what a pattern reads

What has been read between two cursors is told by a row of items, such as the tokens that stand
there.  An account says which rows tell it; the rows of two stretches are put together across the
gap between them.  A pattern tells its values if every value that it reads goes with the row for
what it was read from.  Each combination of patterns has one lemma, whatever the account, so that
a rule of the grammar is followed by composing the lemmas the way the rule is composed.
-/

namespace Spellbook

/-- Which rows tell what stands between two cursors. -/
structure Account (τ : Type) where
  Between : Cursor → List τ → Cursor → Prop
  nil (c : Cursor) : Between c [] c
  append {c middle behind : Cursor} {s t : List τ} :
    Between c s middle → Between middle t behind → Between c (s ++ t) behind
  of_skipGap {c behind : Cursor} {s : List τ} : Between c.skipGap s behind → Between c s behind

/-- Rows that all begin with the separator are the rows behind it. -/
theorem exists_forall₂_of_behind {α τ : Type} {A : α → List τ → Prop} {separator : τ} {as : List α}
    {pieces : List (List τ)}
    (h : List.Forall₂ (fun a row => ∃ t, A a t ∧ row = [separator] ++ t) as pieces) :
    ∃ others, List.Forall₂ A as others ∧ pieces.flatten = others.flatMap (separator :: ·) := by
  induction h with
  | nil => exact ⟨[], .nil, rfl⟩
  | @cons a piece as pieces ha _ ih =>
    obtain ⟨row, ha, rfl⟩ := ha
    obtain ⟨others, hothers, hflatten⟩ := ih
    refine ⟨row :: others, .cons ha hothers, ?_⟩
    rw [List.flatten_cons, hflatten, List.flatMap_cons]
    rfl

namespace Pattern

variable {α β γ τ : Type} {account : Account τ} {p : Pattern α} {q : Pattern β}
variable {A : α → List τ → Prop} {B : β → List τ → Prop}

/-- Whatever the pattern reads goes with a row that tells what it was read from. -/
def Tells (account : Account τ) (p : Pattern α) (A : α → List τ → Prop) : Prop :=
  ∀ ⦃c : Cursor⦄ ⦃a : α⦄ ⦃behind : Cursor⦄, p.read c = some (a, behind) →
    ∃ row, A a row ∧ account.Between c row behind

namespace Tells

theorem mono {B : α → List τ → Prop} (h : Tells account p A)
    (hAB : ∀ a row, A a row → B a row) : Tells account p B := by
  intro c a behind hread
  obtain ⟨row, ha, hrow⟩ := h hread
  exact ⟨row, hAB a row ha, hrow⟩

theorem named {rule : Rule} (h : Tells account p A) : Tells account (.named rule p) A := h

theorem delayed {f : Unit → Pattern α} (h : Tells account (f ()) A) :
    Tells account (.delayed f) A := h

theorem done (a : α) : Tells account (.done a) (fun _ row => row = []) := by
  intro c b behind hread
  obtain ⟨rfl, rfl⟩ := Prod.mk.inj (Option.some.inj hread)
  exact ⟨[], rfl, account.nil c⟩

theorem map (h : Tells account p A) (g : α → β) :
    Tells account (g <$> p) (fun b row => ∃ a, A a row ∧ b = g a) := by
  intro c b behind hread
  obtain ⟨⟨a, behind'⟩, hread', hpair⟩ := Option.map_eq_some_iff.1 hread
  obtain ⟨rfl, rfl⟩ := Prod.mk.inj hpair
  obtain ⟨row, ha, hrow⟩ := h hread'
  exact ⟨row, ⟨a, ha, rfl⟩, hrow⟩

theorem seqWith (hp : Tells account p A) (hq : Tells account q B) (g : α → β → γ) :
    Tells account (.seqWith g p q)
      (fun d row => ∃ a b s t, A a s ∧ B b t ∧ d = g a b ∧ row = s ++ t) := by
  intro c d behind hread
  simp only [Pattern.seqWith] at hread
  split at hread
  · contradiction
  · next a middle hreadp =>
    obtain ⟨⟨b, behind'⟩, hreadq, hpair⟩ := Option.map_eq_some_iff.1 hread
    obtain ⟨rfl, rfl⟩ := Prod.mk.inj hpair
    obtain ⟨s, ha, hs⟩ := hp hreadp
    obtain ⟨t, hb, ht⟩ := hq hreadq
    exact ⟨s ++ t, ⟨a, b, s, t, ha, hb, rfl, rfl⟩, account.append hs (account.of_skipGap ht)⟩

theorem seq {p : Pattern (β → γ)} {A : (β → γ) → List τ → Prop} (hp : Tells account p A)
    (hq : Tells account q B) :
    Tells account (p <*> q) (fun d row => ∃ g b s t, A g s ∧ B b t ∧ d = g b ∧ row = s ++ t) :=
  hp.seqWith hq _

theorem seqLeft (hp : Tells account p A) (hq : Tells account q B) :
    Tells account (p <* q) (fun a row => ∃ b s t, A a s ∧ B b t ∧ row = s ++ t) := by
  refine (hp.seqWith hq fun a _ => a).mono ?_
  rintro _ row ⟨a, b, s, t, ha, hb, rfl, rfl⟩
  exact ⟨b, s, t, ha, hb, rfl⟩

theorem seqRight (hp : Tells account p A) (hq : Tells account q B) :
    Tells account (p *> q) (fun b row => ∃ a s t, A a s ∧ B b t ∧ row = s ++ t) := by
  refine (hp.seqWith hq fun _ b => b).mono ?_
  rintro _ row ⟨a, b, s, t, ha, hb, rfl, rfl⟩
  exact ⟨a, s, t, ha, hb, rfl⟩

/-- Fixed items in front of a value. -/
theorem behind {s : List τ} (hq : Tells account q fun _ row => row = s)
    (hp : Tells account p A) : Tells account (q *> p) (fun a row => ∃ t, A a t ∧ row = s ++ t) := by
  refine (hq.seqRight hp).mono ?_
  rintro a row ⟨-, s, t, rfl, ha, rfl⟩
  exact ⟨t, ha, rfl⟩

/-- Fixed items behind a value. -/
theorem before {s : List τ} (hp : Tells account p A)
    (hq : Tells account q fun _ row => row = s) :
    Tells account (p <* q) (fun a row => ∃ t, A a t ∧ row = t ++ s) := by
  refine (hp.seqLeft hq).mono ?_
  rintro a row ⟨-, t, s, ha, rfl, rfl⟩
  exact ⟨t, ha, rfl⟩

theorem fixed {s t : List τ} (hp : Tells account p fun _ row => row = s)
    (hq : Tells account q fun _ row => row = t) :
    Tells account (p *> q) (fun _ row => row = s ++ t) := by
  refine (hp.behind hq).mono ?_
  rintro a row ⟨t, rfl, rfl⟩
  rfl

theorem orElse {q : Pattern α} (hp : Tells account p A) (hq : Tells account q A) :
    Tells account (p <|> q) A := by
  intro c a behind hread
  change (Pattern.orElse p q).read c = _ at hread
  unfold Pattern.orElse at hread
  dsimp only at hread
  split at hread
  · next result hreadp => exact hp (hreadp.trans hread)
  · exact hq hread

theorem optional (h : Tells account p A) :
    Tells account (.optional p)
      (fun o row => o = none ∧ row = [] ∨ ∃ a, o = some a ∧ A a row) := by
  intro c o behind hread
  simp only [Pattern.optional] at hread
  split at hread
  · next a behind' hreadp =>
    obtain ⟨rfl, rfl⟩ := Prod.mk.inj (Option.some.inj hread)
    obtain ⟨row, ha, hrow⟩ := h hreadp
    exact ⟨row, .inr ⟨a, rfl, ha⟩, hrow⟩
  · obtain ⟨rfl, rfl⟩ := Prod.mk.inj (Option.some.inj hread)
    exact ⟨[], .inl ⟨rfl, rfl⟩, account.nil c⟩

theorem spanned (h : Tells account p A) :
    Tells account (.spanned p) (fun x row => A x.1 row) := by
  intro c x behind hread
  obtain ⟨⟨a, behind'⟩, hreadp, hpair⟩ := Option.map_eq_some_iff.1 hread
  obtain ⟨rfl, rfl⟩ := Prod.mk.inj hpair
  exact h hreadp

theorem readRounds (h : Tells account p A) (rounds : Nat) (c : Cursor) :
    ∃ pieces, List.Forall₂ A (p.readRounds rounds c).1 pieces ∧
      account.Between c pieces.flatten (p.readRounds rounds c).2 := by
  induction rounds generalizing c with
  | zero => exact ⟨[], .nil, account.nil c⟩
  | succ rounds ih =>
    simp only [Pattern.readRounds]
    split
    · exact ⟨[], .nil, account.nil c⟩
    · next a behind hread =>
      obtain ⟨row, ha, hrow⟩ := h hread
      obtain ⟨pieces, hpieces, hrest⟩ := ih behind
      refine ⟨row :: pieces, .cons ha hpieces, ?_⟩
      rw [List.flatten_cons]
      exact account.append (account.of_skipGap hrow) hrest

theorem many (h : Tells account p A) :
    Tells account (.many p)
      (fun as row => ∃ pieces, List.Forall₂ A as pieces ∧ row = pieces.flatten) := by
  intro c as behind hread
  obtain ⟨pieces, hpieces, hrow⟩ := h.readRounds (c.rest.length + 1) c
  rw [Option.some.inj hread] at hpieces hrow
  exact ⟨_, ⟨pieces, hpieces, rfl⟩, hrow⟩

/-- Values that each stand behind a separator. -/
theorem separated {separator : τ} (hq : Tells account q fun _ row => row = [separator])
    (hp : Tells account p A) : Tells account (.many (q *> p)) (fun as row =>
      ∃ pieces, List.Forall₂ A as pieces ∧ row = pieces.flatMap (separator :: ·)) := by
  refine (hq.behind hp).many.mono ?_
  rintro as _ ⟨pieces, hpieces, rfl⟩
  exact exists_forall₂_of_behind hpieces

theorem atEnd : Tells account .atEnd (fun _ row => row = []) := by
  intro c a behind hread
  obtain ⟨-, hread⟩ := Option.ite_none_right_eq_some.1 hread
  obtain ⟨-, rfl⟩ := Prod.mk.inj (Option.some.inj hread)
  exact ⟨[], rfl, account.nil c⟩

theorem rest_of_read_entire {rule : Rule} {c behind : Cursor} {a : α}
    (h : (Pattern.entire rule p).read c = some (a, behind)) : behind.rest = [] := by
  simp only [Pattern.entire, Pattern.named, Pattern.seqWith] at h
  split at h
  · contradiction
  · obtain ⟨⟨_, last⟩, hread, hpair⟩ := Option.map_eq_some_iff.1 h
    obtain ⟨-, rfl⟩ := Prod.mk.inj hpair
    obtain ⟨hempty, hread⟩ := Option.ite_none_right_eq_some.1 hread
    obtain ⟨-, rfl⟩ := Prod.mk.inj (Option.some.inj hread)
    exact List.isEmpty_iff.1 hempty

/-- A value that is read from a whole text goes with a row that tells all of it. -/
theorem entire (hp : Tells account p A) {rule : Rule} {c : Cursor} {a : α} {behind : Cursor}
    (h : (Pattern.entire rule p).read c = some (a, behind)) :
    ∃ row, A a row ∧ account.Between c row behind ∧ behind.rest = [] := by
  obtain ⟨_, ⟨_, _, _, _, ⟨_, _, _, _, rfl, ha, rfl, rfl⟩, rfl, rfl, rfl⟩, hrow⟩ :=
    (((done ()).seqWith hp fun _ a => a).seqWith atEnd.named fun a _ => a) h
  rw [List.append_nil] at hrow
  exact ⟨_, ha, hrow, rest_of_read_entire h⟩

end Tells

end Pattern

end Spellbook
