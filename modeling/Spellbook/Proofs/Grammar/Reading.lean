import Spellbook.Proofs.Grammar.Progress

/-!
# Patterns on rows of tokens

A pattern works on texts, but on a text that lays tokens out it can be followed token by token.  The
account of laid out tokens tells the tokens behind which a pattern stops; `Reads` and `Rejects` say
what the pattern does in front of given tokens, and have one lemma each for each combination of
patterns.
-/

namespace Spellbook.Pattern

open Token

variable {α β γ : Type} {p : Pattern α} {q : Pattern β}
variable {A : α → List Text → Prop}

/-! ## What has been read -/

/-- The tokens that stand between two cursors: whatever tokens the rest of the text lays out may
follow them. -/
def laidAccount : TokenAccount where
  Between c tokens behind := ∀ ⦃more⦄, Laid more behind.rest → Laid (tokens ++ more) c.rest
  nil _ _ hlaid := hlaid
  append hs ht _ hlaid := by
    rw [List.append_assoc]
    exact hs (ht hlaid)
  of_skipGap hs _ hlaid := (hs hlaid).of_skipGap
  token hv hapart hrest _ hlaid := by
    rw [hrest]
    exact .cons hv hapart hlaid

/-- A value that is read from the whole text goes with tokens that the text lays out. -/
theorem Sound.laid (hp : Sound laidAccount p A) {rule : Rule} {t : Text} {a : α} {behind : Cursor}
    (h : (Pattern.entire rule p).read (.start t) = some (a, behind)) :
    ∃ tokens, A a tokens ∧ Laid tokens t := by
  obtain ⟨tokens, ha, hlaid, hrest⟩ := Tells.entire hp.tells h
  have hmore := hlaid (hrest ▸ laid_nil)
  rw [List.append_nil] at hmore
  exact ⟨tokens, ha, hmore⟩

/-! ## What is to be read -/

/-- In front of the tokens the pattern reads a value with the property, and stops in front of the
tokens that are left. -/
def Reads (p : Pattern α) (tokens : List Text) (P : α → Prop) (more : List Text) : Prop :=
  ∀ ⦃c : Cursor⦄, Laid tokens c.rest →
    ∃ a behind, p.read c.skipGap = some (a, behind) ∧ P a ∧ Laid more behind.rest

/-- In front of the tokens the pattern fails. -/
def Rejects (p : Pattern α) (tokens : List Text) : Prop :=
  ∀ ⦃c : Cursor⦄, Laid tokens c.rest → p.read c.skipGap = none

variable {P : α → Prop} {Q : β → Prop} {tokens middle more : List Text}

theorem Reads.mono {Q : α → Prop} (h : p.Reads tokens P more) (hPQ : ∀ a, P a → Q a) :
    p.Reads tokens Q more := by
  intro c hlaid
  obtain ⟨a, behind, hread, ha, hmore⟩ := h hlaid
  exact ⟨a, behind, hread, hPQ a ha, hmore⟩

theorem Reads.named {rule : Rule} (h : p.Reads tokens P more) :
    (Pattern.named rule p).Reads tokens P more := h

theorem Rejects.named {rule : Rule} (h : p.Rejects tokens) :
    (Pattern.named rule p).Rejects tokens := h

theorem Reads.delayed {f : Unit → Pattern α} (h : (f ()).Reads tokens P more) :
    (Pattern.delayed f).Reads tokens P more := h

theorem Rejects.delayed {f : Unit → Pattern α} (h : (f ()).Rejects tokens) :
    (Pattern.delayed f).Rejects tokens := h

/-! ### Single tokens -/

section Scan

variable {scanner : Text → Option (Text × Text)} {kind : Text → Prop}

theorem Reads.scan {v : Text}
    (h : ∀ rest, Apart v rest → Laid more rest → scanner (v ++ rest) = some (v, rest)) :
    (Pattern.scan scanner).Reads (v :: more) (fun lexeme => lexeme.text = v) more := by
  intro c hlaid
  obtain ⟨rest, hrest, -, hapart, hmore⟩ := hlaid.rest_skipGap_eq
  let behind := c.skipGap.advance v rest
  refine ⟨⟨v, ⟨c.skipGap.position, behind.position⟩⟩, behind, ?_, rfl, hmore⟩
  simp only [Pattern.scan, hrest, h rest hapart hmore]
  rfl

theorem Rejects.scan (h : Yields scanner kind) (hkind : ∀ v ∈ tokens.head?, ¬ kind v)
    (heq : (∀ v ∈ tokens.head?, v.head? ≠ some '=') ∨ ∀ w, kind w → w.head? ≠ some '=') :
    (Pattern.scan scanner).Rejects tokens := by
  intro c hlaid
  have hnone : scanner c.skipGap.rest = none := by
    cases tokens with
    | nil =>
      rw [hlaid.rest_skipGap_eq_nil]
      exact h.nil_eq_none
    | cons v tokens =>
      obtain ⟨rest, hrest, hv, hapart, -⟩ := hlaid.rest_skipGap_eq
      rw [hrest]
      exact h.eq_none hv hapart (hkind v rfl) (heq.imp_left fun heq => heq v rfl)
  simp only [Pattern.scan, hnone]
  rfl

theorem Reads.cuts (h : Cuts scanner kind) {v : Text} (hv : kind v) :
    (Pattern.scan scanner).Reads (v :: more) (fun lexeme => lexeme.text = v) more :=
  .scan fun _ hapart _ => h.reads hv hapart

theorem Rejects.cuts (h : Cuts scanner kind) (hkind : ∀ v ∈ tokens.head?, ¬ kind v) :
    (Pattern.scan scanner).Rejects tokens :=
  .scan h.yields hkind (.inr fun _ => h.head_ne)

end Scan

/-! ### Combinations -/

theorem Reads.map (h : p.Reads tokens P more) (g : α → β) :
    (g <$> p).Reads tokens (fun b => ∃ a, P a ∧ b = g a) more := by
  intro c hlaid
  obtain ⟨a, behind, hread, ha, hmore⟩ := h hlaid
  exact ⟨g a, behind, Option.map_eq_some_iff.2 ⟨_, hread, rfl⟩, ⟨a, ha, rfl⟩, hmore⟩

theorem Rejects.map (h : p.Rejects tokens) (g : α → β) : (g <$> p).Rejects tokens :=
  fun _ hlaid => Option.map_eq_none_iff.2 (h hlaid)

theorem Reads.spanned (h : p.Reads tokens P more) :
    (Pattern.spanned p).Reads tokens (fun x => P x.1) more := by
  intro c hlaid
  obtain ⟨a, behind, hread, ha, hmore⟩ := h hlaid
  exact ⟨_, behind, Option.map_eq_some_iff.2 ⟨_, hread, rfl⟩, ha, hmore⟩

theorem Rejects.spanned (h : p.Rejects tokens) : (Pattern.spanned p).Rejects tokens :=
  fun _ hlaid => Option.map_eq_none_iff.2 (h hlaid)

theorem Reads.seqWith (hp : p.Reads tokens P middle) (hq : q.Reads middle Q more)
    (g : α → β → γ) :
    (Pattern.seqWith g p q).Reads tokens (fun d => ∃ a b, P a ∧ Q b ∧ d = g a b) more := by
  intro c hlaid
  obtain ⟨a, behind, hreadp, ha, hmiddle⟩ := hp hlaid
  obtain ⟨b, behind', hreadq, hb, hmore⟩ := hq hmiddle
  refine ⟨g a b, behind', ?_, ⟨a, b, ha, hb, rfl⟩, hmore⟩
  simp only [Pattern.seqWith, hreadp, hreadq]
  rfl

theorem Rejects.seqWith_left (h : p.Rejects tokens) (g : α → β → γ) :
    (Pattern.seqWith g p q).Rejects tokens := by
  intro c hlaid
  simp only [Pattern.seqWith, h hlaid]

theorem Rejects.seqWith_right (hp : p.Reads tokens P middle) (hq : q.Rejects middle)
    (g : α → β → γ) : (Pattern.seqWith g p q).Rejects tokens := by
  intro c hlaid
  obtain ⟨a, behind, hreadp, -, hmiddle⟩ := hp hlaid
  simp only [Pattern.seqWith, hreadp, hq hmiddle]
  rfl

theorem Reads.seq {p : Pattern (β → γ)} {P : (β → γ) → Prop} (hp : p.Reads tokens P middle)
    (hq : q.Reads middle Q more) :
    (p <*> q).Reads tokens (fun d => ∃ g b, P g ∧ Q b ∧ d = g b) more :=
  hp.seqWith hq _

theorem Reads.seqLeft (hp : p.Reads tokens P middle) (hq : q.Reads middle Q more) :
    (p <* q).Reads tokens P more := by
  refine (hp.seqWith hq fun a _ => a).mono ?_
  rintro _ ⟨a, b, ha, -, rfl⟩
  exact ha

theorem Reads.seqRight (hp : p.Reads tokens P middle) (hq : q.Reads middle Q more) :
    (p *> q).Reads tokens Q more := by
  refine (hp.seqWith hq fun _ b => b).mono ?_
  rintro _ ⟨a, b, -, hb, rfl⟩
  exact hb

theorem Rejects.seq {p : Pattern (β → γ)} (h : p.Rejects tokens) : (p <*> q).Rejects tokens :=
  h.seqWith_left _

theorem Rejects.seqLeft (h : p.Rejects tokens) : (p <* q).Rejects tokens := h.seqWith_left _

theorem Rejects.seqRight (h : p.Rejects tokens) : (p *> q).Rejects tokens := h.seqWith_left _

theorem Reads.seqLeft_rejects (hp : p.Reads tokens P middle) (hq : q.Rejects middle) :
    (p <* q).Rejects tokens := .seqWith_right hp hq _

theorem Reads.seqRight_rejects (hp : p.Reads tokens P middle) (hq : q.Rejects middle) :
    (p *> q).Rejects tokens := .seqWith_right hp hq _

theorem Reads.orElse {q : Pattern α} (h : p.Reads tokens P more) :
    (p <|> q).Reads tokens P more := by
  intro c hlaid
  obtain ⟨a, behind, hread, ha, hmore⟩ := h hlaid
  refine ⟨a, behind, ?_, ha, hmore⟩
  change (Pattern.orElse p q).read c.skipGap = _
  simp only [Pattern.orElse, hread]

theorem Rejects.orElse_reads {q : Pattern α} (hp : p.Rejects tokens)
    (hq : q.Reads tokens P more) : (p <|> q).Reads tokens P more := by
  intro c hlaid
  obtain ⟨a, behind, hread, ha, hmore⟩ := hq hlaid
  refine ⟨a, behind, ?_, ha, hmore⟩
  change (Pattern.orElse p q).read c.skipGap = _
  simp only [Pattern.orElse, hp hlaid, hread]

theorem Rejects.orElse {q : Pattern α} (hp : p.Rejects tokens) (hq : q.Rejects tokens) :
    (p <|> q).Rejects tokens := by
  intro c hlaid
  change (Pattern.orElse p q).read c.skipGap = _
  simp only [Pattern.orElse, hp hlaid, hq hlaid]

theorem Reads.optional (h : p.Reads tokens P more) :
    (Pattern.optional p).Reads tokens (fun o => ∃ a, o = some a ∧ P a) more := by
  intro c hlaid
  obtain ⟨a, behind, hread, ha, hmore⟩ := h hlaid
  refine ⟨some a, behind, ?_, ⟨a, rfl, ha⟩, hmore⟩
  simp only [Pattern.optional, hread]

theorem Rejects.optional (h : p.Rejects tokens) :
    (Pattern.optional p).Reads tokens (· = none) tokens := by
  intro c hlaid
  refine ⟨none, c.skipGap, ?_, rfl, hlaid.skipGap⟩
  simp only [Pattern.optional, h hlaid]

/-- The pattern reads a text that lays out the tokens and nothing else. -/
theorem Reads.entire (h : p.Reads tokens P []) {rule : Rule} {t : Text} (hlaid : Laid tokens t) :
    ∃ a behind, (Pattern.entire rule p).read (.start t) = some (a, behind) ∧ P a := by
  obtain ⟨a, behind, hread, ha, hrest⟩ := h (c := .start t) hlaid
  refine ⟨a, behind.skipGap, ?_, ha⟩
  simp only [Pattern.entire, Pattern.named, Pattern.seqWith, Pattern.done, hread, Pattern.atEnd,
    hrest.rest_skipGap_eq_nil, Option.map_some, List.isEmpty_nil, if_true]

/-! ### Repetitions -/

section Many

variable {ι : Type} {R : ι → α → Prop} {items : List ι} {pieces : List (List Text)}

/-- The rounds read one piece each, wherever what follows may follow a piece. -/
theorem readRounds_reads {Follow : List Text → Prop} {S : ι → List Text → Prop}
    (hround : ∀ i s t, S i s → Follow t → p.Reads (s ++ t) (R i) t)
    (hfollow : ∀ i s t, S i s → Follow (s ++ t)) (hstop : p.Rejects more) (hmore : Follow more)
    (hitems : List.Forall₂ S items pieces) {rounds : Nat} {c : Cursor}
    (hrounds : pieces.length ≤ rounds) (hlaid : Laid (pieces.flatten ++ more) c.rest) :
    List.Forall₂ R items (p.readRounds rounds c).1 ∧
      Laid more (p.readRounds rounds c).2.rest := by
  induction hitems generalizing rounds c with
  | nil =>
    cases rounds with
    | zero => exact ⟨.nil, hlaid⟩
    | succ rounds =>
      simp only [readRounds, hstop hlaid]
      exact ⟨.nil, hlaid⟩
  | @cons i s items pieces hi hitems ih =>
    cases rounds with
    | zero => exact absurd hrounds (Nat.not_succ_le_zero _)
    | succ rounds =>
      rw [List.flatten_cons, List.append_assoc] at hlaid
      -- behind this piece stands the next one, or what follows them all
      have hrest : Follow (pieces.flatten ++ more) := by
        cases hitems with
        | nil => exact hmore
        | cons hj _ =>
          rw [List.flatten_cons, List.append_assoc]
          exact hfollow _ _ _ hj
      obtain ⟨a, behind, hread, ha, hbehind⟩ := hround i s _ hi hrest hlaid
      obtain ⟨hall, hlast⟩ := ih (Nat.le_of_succ_le_succ hrounds) hbehind
      simp only [readRounds, hread]
      exact ⟨.cons ha hall, hlast⟩

theorem Reads.many {Follow : List Text → Prop} {S : ι → List Text → Prop}
    (hround : ∀ i s t, S i s → Follow t → p.Reads (s ++ t) (R i) t)
    (hfollow : ∀ i s t, S i s → Follow (s ++ t)) (hne : ∀ i s, S i s → s ≠ [])
    (hstop : p.Rejects more) (hmore : Follow more) (hitems : List.Forall₂ S items pieces) :
    (Pattern.many p).Reads (pieces.flatten ++ more) (List.Forall₂ R items) more := by
  intro c hlaid
  have hpieces : pieces.length ≤ pieces.flatten.length := by
    clear hlaid
    induction hitems with
    | nil => exact Nat.le_refl 0
    | cons hi _ ih =>
      have hpos := List.length_pos_of_ne_nil (hne _ _ hi)
      rw [List.flatten_cons, List.length_append, List.length_cons]
      omega
  have hrounds : pieces.length ≤ c.skipGap.rest.length + 1 := by
    have hle := hlaid.skipGap.length_le
    rw [List.length_append] at hle
    omega
  obtain ⟨hall, hlast⟩ :=
    readRounds_reads hround hfollow hstop hmore hitems hrounds hlaid.skipGap
  refine ⟨_, _, ?_, hall, hlast⟩
  rfl

/-- Values that each stand behind a separator, which opens a round that nothing else opens. -/
theorem Reads.separated {q : Pattern β} {separator : Text} {S : ι → List Text → Prop}
    {Follow : List Text → Prop}
    (hq : ∀ t, q.Reads (separator :: t) (fun _ => True) t)
    (hp : ∀ i s t, S i s → Follow t → p.Reads (s ++ t) (R i) t)
    (hfollow : ∀ t, Follow (separator :: t)) (hstop : (q *> p).Rejects more) (hmore : Follow more)
    (hitems : List.Forall₂ S items pieces) :
    (Pattern.many (q *> p)).Reads (pieces.flatMap (separator :: ·) ++ more)
      (List.Forall₂ R items) more := by
  have hrounds : List.Forall₂ (fun i s => ∃ t, S i t ∧ s = separator :: t) items
      (pieces.map (separator :: ·)) := by
    rw [List.forall₂_map_right_iff]
    exact hitems.imp fun i s hi => ⟨s, hi, rfl⟩
  rw [List.flatMap_def]
  refine .many ?_ ?_ ?_ hstop hmore hrounds
  · rintro i _ t ⟨s, hi, rfl⟩ ht
    exact (hq (s ++ t)).seqRight (hp i s t hi ht)
  · rintro i _ t ⟨s, -, rfl⟩
    exact hfollow (s ++ t)
  · rintro i _ ⟨s, -, rfl⟩
    exact List.cons_ne_nil _ _

end Many

end Spellbook.Pattern
