import Spellbook.Proofs.Grammar.Account
import Spellbook.Proofs.Grammar.Scanner

/-!
# How far a pattern gets

A pattern goes on as long as what it has read can be the beginning of a value.  So where it notes a
failure, the tokens up to that place can be completed to a row that goes with some value.  `Sound`
says this together with what the pattern tells of the values that it does read, for any account of
tokens, and has one lemma for each combination of patterns.
-/

namespace Spellbook

open Token

/-- An account of rows of tokens: a token that is set apart from the rest is a row of its own. -/
structure TokenAccount extends Account Text where
  token {c : Cursor} {v rest : Text} : IsToken v → Apart v rest → c.rest = v ++ rest →
    Between c [v] (c.advance v rest)

/-! ## Rows that can be completed -/

section CanGoOn

variable {α β γ : Type} {A : α → List Text → Prop} {B : β → List Text → Prop}

/-- Some row of tokens goes with some value. -/
def Inhabited (A : α → List Text → Prop) : Prop := ∃ a tokens, A a tokens ∧ ∀ v ∈ tokens, IsToken v

/-- The tokens between the cursor and the position can be completed to a row that goes with some
value. -/
def TokenAccount.CanGoOn (account : TokenAccount) (A : α → List Text → Prop) (c : Cursor)
    (position : Nat) : Prop :=
  ∃ d written missing a, position = d.position ∧ account.Between c written d ∧
    A a (written ++ missing) ∧ ∀ v ∈ missing, IsToken v

namespace TokenAccount.CanGoOn

variable {account : TokenAccount} {c middle : Cursor} {position : Nat}

theorem start (h : Inhabited A) (c : Cursor) : account.CanGoOn A c c.position := by
  obtain ⟨a, missing, ha, htokens⟩ := h
  exact ⟨c, [], missing, a, rfl, account.nil c, ha, htokens⟩

theorem mono {A' : β → List Text → Prop} (h : account.CanGoOn A c position)
    (hA : ∀ a tokens, A a tokens → ∃ b, A' b tokens) : account.CanGoOn A' c position := by
  obtain ⟨d, written, missing, a, hposition, hwritten, ha, hmissing⟩ := h
  obtain ⟨b, hb⟩ := hA a _ ha
  exact ⟨d, written, missing, b, hposition, hwritten, hb, hmissing⟩

theorem of_skipGap (h : account.CanGoOn A c.skipGap position) : account.CanGoOn A c position := by
  obtain ⟨d, written, missing, a, hposition, hwritten, ha, hmissing⟩ := h
  exact ⟨d, written, missing, a, hposition, account.of_skipGap hwritten, ha, hmissing⟩

/-- What has been read in front goes on with what follows. -/
theorem behind {C : γ → List Text → Prop} {front : List Text}
    (hfront : account.Between c front middle) (h : account.CanGoOn B middle position)
    (hC : ∀ b tokens, B b tokens → ∃ d, C d (front ++ tokens)) : account.CanGoOn C c position := by
  obtain ⟨d, written, missing, b, hposition, hwritten, hb, hmissing⟩ := h
  obtain ⟨e, he⟩ := hC b _ hb
  rw [← List.append_assoc] at he
  exact ⟨d, front ++ written, missing, e, hposition, account.append hfront hwritten, he, hmissing⟩

/-- What can be completed can be completed with more behind it. -/
theorem before {C : γ → List Text → Prop} {back : List Text} (h : account.CanGoOn A c position)
    (hback : ∀ v ∈ back, IsToken v)
    (hC : ∀ a tokens, A a tokens → ∃ d, C d (tokens ++ back)) : account.CanGoOn C c position := by
  obtain ⟨d, written, missing, a, hposition, hwritten, ha, hmissing⟩ := h
  obtain ⟨e, he⟩ := hC a _ ha
  rw [List.append_assoc] at he
  exact ⟨d, written, missing ++ back, e, hposition, hwritten, he,
    fun v hv => (List.mem_append.1 hv).elim (hmissing v) (hback v)⟩

end TokenAccount.CanGoOn

end CanGoOn

/-! ## The furthest failure -/

theorem Frontier.position_fail (f : Frontier) (rule : Rule) (position before : Nat) :
    (f.fail rule position before).position = f.position ∨
      (f.fail rule position before).position = position := by
  unfold Frontier.fail
  split
  · exact .inl rfl
  · split
    · exact .inr rfl
    · split
      · exact .inr rfl
      · exact .inl rfl

namespace Pattern

variable {α β γ : Type} {account : TokenAccount} {p : Pattern α} {q : Pattern β}
variable {A : α → List Text → Prop} {B : β → List Text → Prop}

/-- The values that the pattern reads go with the tokens that they are read from, and a new failure
stands where the pattern could have gone on to some value. -/
structure Sound (account : TokenAccount) (p : Pattern α) (A : α → List Text → Prop) : Prop where
  tells : Tells account.toAccount p A
  inhabited : Inhabited A
  goesOn : ∀ c f, (p.note c f).position = f.position ∨
    account.CanGoOn A c (p.note c f).position

namespace Sound

theorem mono {B : α → List Text → Prop} (h : Sound account p A)
    (hAB : ∀ a tokens, A a tokens → B a tokens) : Sound account p B := by
  refine ⟨h.tells.mono hAB, ?_, fun c f => (h.goesOn c f).imp_right fun hgo => ?_⟩
  · obtain ⟨a, tokens, ha, htokens⟩ := h.inhabited
    exact ⟨a, tokens, hAB a tokens ha, htokens⟩
  · exact hgo.mono fun a tokens ha => ⟨a, hAB a tokens ha⟩

theorem named {rule : Rule} (h : Sound account p A) : Sound account (.named rule p) A := by
  refine ⟨h.tells.named, h.inhabited, fun c f => ?_⟩
  unfold Pattern.named
  dsimp only
  split
  · exact h.goesOn c f
  · rcases (p.note c f).position_fail rule c.position (f.countAt c.position) with hsame | hhere
    · rw [hsame]
      exact h.goesOn c f
    · rw [hhere]
      exact .inr (.start h.inhabited c)

theorem delayed {f : Unit → Pattern α} (h : Sound account (f ()) A) :
    Sound account (.delayed f) A := ⟨h.tells.delayed, h.inhabited, h.goesOn⟩

theorem done (a : α) : Sound account (.done a) (fun _ tokens => tokens = []) :=
  ⟨.done a, ⟨a, [], rfl, fun _ h => absurd h List.not_mem_nil⟩, fun _ _ => .inl rfl⟩

theorem atEnd : Sound account .atEnd (fun _ tokens => tokens = []) :=
  ⟨.atEnd, ⟨(), [], rfl, fun _ h => absurd h List.not_mem_nil⟩, fun _ _ => .inl rfl⟩

/-- A scanner notes no failure; a sample shows that there is something to read. -/
theorem scan {scanner : Text → Option (Text × Text)} {kind : Text → Prop} (h : Yields scanner kind)
    (sample : Text) (hsample : scanner sample = some (sample, [])) :
    Sound account (.scan scanner)
      (fun lexeme tokens => kind lexeme.text ∧ tokens = [lexeme.text]) := by
  refine ⟨?_, ?_, fun _ _ => .inl rfl⟩
  · intro c lexeme behind hread
    obtain ⟨⟨v, rest⟩, hscan, hpair⟩ := Option.map_eq_some_iff.1 hread
    obtain ⟨rfl, rfl⟩ := Prod.mk.inj hpair
    obtain ⟨hkind, htoken, hapart, happend⟩ := h hscan
    exact ⟨[v], ⟨hkind, rfl⟩, account.token htoken hapart happend⟩
  · obtain ⟨hkind, htoken, -, -⟩ := h hsample
    refine ⟨⟨sample, ⟨0, 0⟩⟩, [sample], ⟨hkind, rfl⟩, fun v hv => ?_⟩
    rwa [List.mem_singleton.1 hv]

theorem map (h : Sound account p A) (g : α → β) :
    Sound account (g <$> p) (fun b tokens => ∃ a, A a tokens ∧ b = g a) := by
  refine ⟨h.tells.map g, ?_, fun c f => (h.goesOn c f).imp_right fun hgo => ?_⟩
  · obtain ⟨a, tokens, ha, htokens⟩ := h.inhabited
    exact ⟨g a, tokens, ⟨a, ha, rfl⟩, htokens⟩
  · exact hgo.mono fun a tokens ha => ⟨g a, a, ha, rfl⟩

theorem spanned (h : Sound account p A) :
    Sound account (.spanned p) (fun x tokens => A x.1 tokens) := by
  refine ⟨h.tells.spanned, ?_, fun c f => (h.goesOn c f).imp_right fun hgo => ?_⟩
  · obtain ⟨a, tokens, ha, htokens⟩ := h.inhabited
    exact ⟨(a, ⟨0, 0⟩), tokens, ha, htokens⟩
  · exact hgo.mono fun a tokens ha => ⟨(a, ⟨0, 0⟩), ha⟩

theorem seqWith (hp : Sound account p A) (hq : Sound account q B) (g : α → β → γ) :
    Sound account (.seqWith g p q)
      (fun d tokens => ∃ a b s t, A a s ∧ B b t ∧ d = g a b ∧ tokens = s ++ t) := by
  obtain ⟨b, back, hb, hback⟩ := hq.inhabited
  have hfirst (c : Cursor) (f : Frontier) : (p.note c f).position = f.position ∨
      account.CanGoOn (fun d tokens => ∃ a b s t, A a s ∧ B b t ∧ d = g a b ∧ tokens = s ++ t) c
        (p.note c f).position :=
    (hp.goesOn c f).imp_right fun hgo =>
      hgo.before hback fun a tokens ha => ⟨g a b, a, b, tokens, back, ha, hb, rfl, rfl⟩
  refine ⟨hp.tells.seqWith hq.tells g, ?_, fun c f => ?_⟩
  · obtain ⟨a, front, ha, hfront⟩ := hp.inhabited
    exact ⟨g a b, front ++ back, ⟨a, b, front, back, ha, hb, rfl, rfl⟩,
      fun v hv => (List.mem_append.1 hv).elim (hfront v) (hback v)⟩
  · simp only [Pattern.seqWith]
    split
    · exact hfirst c f
    · next a middle hread =>
      obtain ⟨front, ha, hfront⟩ := hp.tells hread
      rcases hq.goesOn middle.skipGap (p.note c f) with hsame | hgo
      · rw [hsame]
        exact hfirst c f
      · refine .inr (hgo.of_skipGap.behind hfront fun b tokens hb => ?_)
        exact ⟨g a b, a, b, front, tokens, ha, hb, rfl, rfl⟩

theorem seq {p : Pattern (β → γ)} {A : (β → γ) → List Text → Prop} (hp : Sound account p A)
    (hq : Sound account q B) :
    Sound account (p <*> q)
      (fun d tokens => ∃ g b s t, A g s ∧ B b t ∧ d = g b ∧ tokens = s ++ t) :=
  hp.seqWith hq _

theorem seqLeft (hp : Sound account p A) (hq : Sound account q B) :
    Sound account (p <* q) (fun a tokens => ∃ b s t, A a s ∧ B b t ∧ tokens = s ++ t) := by
  refine (hp.seqWith hq fun a _ => a).mono ?_
  rintro _ tokens ⟨a, b, s, t, ha, hb, rfl, rfl⟩
  exact ⟨b, s, t, ha, hb, rfl⟩

theorem seqRight (hp : Sound account p A) (hq : Sound account q B) :
    Sound account (p *> q) (fun b tokens => ∃ a s t, A a s ∧ B b t ∧ tokens = s ++ t) := by
  refine (hp.seqWith hq fun _ b => b).mono ?_
  rintro _ tokens ⟨a, b, s, t, ha, hb, rfl, rfl⟩
  exact ⟨a, s, t, ha, hb, rfl⟩

/-- Fixed tokens in front of a value. -/
theorem behind {s : List Text} (hq : Sound account q fun _ tokens => tokens = s)
    (hp : Sound account p A) :
    Sound account (q *> p) (fun a tokens => ∃ t, A a t ∧ tokens = s ++ t) := by
  refine (hq.seqRight hp).mono ?_
  rintro a tokens ⟨-, s, t, rfl, ha, rfl⟩
  exact ⟨t, ha, rfl⟩

/-- Fixed tokens behind a value. -/
theorem before {s : List Text} (hp : Sound account p A)
    (hq : Sound account q fun _ tokens => tokens = s) :
    Sound account (p <* q) (fun a tokens => ∃ t, A a t ∧ tokens = t ++ s) := by
  refine (hp.seqLeft hq).mono ?_
  rintro a tokens ⟨-, t, s, ha, rfl, rfl⟩
  exact ⟨t, ha, rfl⟩

theorem fixed {s t : List Text} (hp : Sound account p fun _ tokens => tokens = s)
    (hq : Sound account q fun _ tokens => tokens = t) :
    Sound account (p *> q) (fun _ tokens => tokens = s ++ t) := by
  refine (hp.behind hq).mono ?_
  rintro a tokens ⟨t, rfl, rfl⟩
  rfl

theorem orElse {q : Pattern α} (hp : Sound account p A) (hq : Sound account q A) :
    Sound account (p <|> q) A := by
  refine ⟨hp.tells.orElse hq.tells, hp.inhabited, fun c f => ?_⟩
  change ((Pattern.orElse p q).note c f).position = f.position ∨
    account.CanGoOn A c ((Pattern.orElse p q).note c f).position
  unfold Pattern.orElse
  dsimp only
  split
  · exact hp.goesOn c f
  · rcases hq.goesOn c (p.note c f) with hsame | hgo
    · rw [hsame]
      exact hp.goesOn c f
    · exact .inr hgo

theorem optional (h : Sound account p A) :
    Sound account (.optional p)
      (fun o tokens => o = none ∧ tokens = [] ∨ ∃ a, o = some a ∧ A a tokens) := by
  refine ⟨h.tells.optional, ?_, fun c f => (h.goesOn c f).imp_right fun hgo => ?_⟩
  · exact ⟨none, [], .inl ⟨rfl, rfl⟩, fun _ h => absurd h List.not_mem_nil⟩
  · exact hgo.mono fun a tokens ha => ⟨some a, .inr ⟨a, rfl, ha⟩⟩

/-! ### Repetitions -/

/-- Each round stands behind the rounds before it, and a row of rounds ends anywhere. -/
theorem noteRounds_goesOn (h : Sound account p A) (rounds : Nat) (c : Cursor) (f : Frontier) :
    (p.noteRounds rounds c f).position = f.position ∨
      account.CanGoOn
        (fun as tokens => ∃ pieces, List.Forall₂ A as pieces ∧ tokens = pieces.flatten) c
        (p.noteRounds rounds c f).position := by
  have hround (c : Cursor) (f : Frontier) : (p.note c.skipGap f).position = f.position ∨
      account.CanGoOn
        (fun as tokens => ∃ pieces, List.Forall₂ A as pieces ∧ tokens = pieces.flatten) c
        (p.note c.skipGap f).position :=
    (h.goesOn c.skipGap f).imp_right fun hgo => hgo.of_skipGap.mono fun a tokens ha =>
      ⟨[a], [tokens], .cons ha .nil, List.flatten_singleton.symm⟩
  induction rounds generalizing c f with
  | zero => exact .inl rfl
  | succ rounds ih =>
    simp only [Pattern.noteRounds]
    split
    · exact hround c f
    · next a behind hread =>
      obtain ⟨front, ha, hfront⟩ := h.tells hread
      rcases ih behind (p.note c.skipGap f) with hsame | hgo
      · rw [hsame]
        exact hround c f
      · refine .inr (hgo.behind (account.of_skipGap hfront) ?_)
        rintro as _ ⟨pieces, hpieces, rfl⟩
        exact ⟨a :: as, front :: pieces, .cons ha hpieces, List.flatten_cons.symm⟩

theorem many (h : Sound account p A) :
    Sound account (.many p)
      (fun as tokens => ∃ pieces, List.Forall₂ A as pieces ∧ tokens = pieces.flatten) :=
  ⟨h.tells.many, ⟨[], [], ⟨[], .nil, rfl⟩, fun _ h => absurd h List.not_mem_nil⟩,
    fun c f => h.noteRounds_goesOn (c.rest.length + 1) c f⟩

/-- Values that each stand behind a separator. -/
theorem separated {separator : Text} (hq : Sound account q fun _ tokens => tokens = [separator])
    (hp : Sound account p A) : Sound account (.many (q *> p)) (fun as tokens =>
      ∃ pieces, List.Forall₂ A as pieces ∧ tokens = pieces.flatMap (separator :: ·)) := by
  refine (hq.behind hp).many.mono ?_
  rintro as _ ⟨pieces, hpieces, rfl⟩
  exact exists_forall₂_of_behind hpieces

/-! ### Whole texts -/

theorem entire (h : Sound account p A) (rule : Rule) : Sound account (.entire rule p) A := by
  refine ((((done ()).seqWith h _).seqWith (atEnd.named) _).named).mono ?_
  rintro _ _ ⟨_, _, _, _, ⟨_, a, _, s, rfl, ha, rfl, rfl⟩, rfl, rfl, rfl⟩
  rwa [List.append_nil]

end Sound

end Pattern

end Spellbook
