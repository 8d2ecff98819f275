import Spellbook.Proofs.Grammar.Entry
import Spellbook.Proofs.Source.Spans

/-!
# The order of what is read

Whatever tree is read, from a text of its own or as a part of a spell, is faithful to the text
that it was read from (`Node.IsRead.exists_allFaithful`).  So its spans say what stands inside
what, and which of two children stands in front of the other.
-/

namespace Spellbook

/-! ## Children in a row -/

namespace Span.InOrder

variable {start stop : Nat} {spans front back : List Span} {s r : Span}

theorem le (h : InOrder start spans stop) : start ≤ stop := by
  induction spans generalizing start with
  | nil => exact h
  | cons s rest ih =>
    obtain ⟨hstart, hspan, hrest⟩ := h
    have hstop := ih hrest
    omega

theorem within (h : InOrder start spans stop) (hs : s ∈ spans) :
    start ≤ s.start ∧ s.stop ≤ stop := by
  induction spans generalizing start with
  | nil => exact absurd hs List.not_mem_nil
  | cons first rest ih =>
    obtain ⟨hstart, hspan, hrest⟩ := h
    rcases List.mem_cons.1 hs with rfl | hs
    · exact ⟨hstart, hrest.le⟩
    · obtain ⟨hlow, hhigh⟩ := ih hrest hs
      exact ⟨by omega, hhigh⟩

theorem behind (h : InOrder start (front ++ s :: back) stop) (hr : r ∈ back) :
    s.stop ≤ r.start := by
  induction front generalizing start with
  | nil => exact (h.2.2.within hr).1
  | cons first front ih => exact ih h.2.2

end Span.InOrder

namespace Node

namespace AllFaithful

variable {t : Text} {m n : Node}

theorem of_inside (h : n.AllFaithful t) (hm : m.Inside n) : m.AllFaithful t :=
  fun _ hinside => h _ (hinside.trans hm)

theorem within (h : n.AllFaithful t) (hm : m.Inside n) :
    n.span.start ≤ m.span.start ∧ m.span.stop ≤ n.span.stop := by
  induction hm with
  | refl => exact ⟨Nat.le_refl _, Nat.le_refl _⟩
  | child hc _ ih =>
    obtain ⟨hstart, hstop⟩ := ih (h.of_inside (.child hc (.refl _)))
    obtain ⟨hlow, hhigh⟩ := h.faithful.inOrder.within (List.mem_map_of_mem hc)
    exact ⟨Nat.le_trans hlow hstart, Nat.le_trans hstop hhigh⟩

/-- What ends where a part of a child starts, or before, is inside that child or inside one that
stands in front of it. -/
theorem inside_of_stop_le {front back : List Node} {c blamed : Node} (h : n.AllFaithful t)
    (hchildren : n.children = front ++ c :: back) (hblamed : blamed.Inside c) (hm : m.Inside n)
    (hstop : m.span.stop ≤ blamed.span.start) : (∃ d ∈ front, m.Inside d) ∨ m.Inside c := by
  have hc : c ∈ n.children := hchildren ▸ List.mem_append_cons_self
  have hchild := h.of_inside (.child hc (.refl c))
  have hlt := (hchild blamed hblamed).start_lt_stop
  have hblamedstop := (hchild.within hblamed).2
  cases hm with
  | refl =>
    have hwithin := (h.within (.child hc (.refl c))).2
    omega
  | @child d _ hd hm =>
    rw [hchildren, List.mem_append, List.mem_cons] at hd
    rcases hd with hd | rfl | hd
    · exact .inl ⟨d, hd, hm⟩
    · exact .inr hm
    · -- A child behind starts only where this one ends.
      have horder := h.faithful.inOrder
      rw [hchildren, List.map_append, List.map_cons] at horder
      have hbehind := horder.behind (List.mem_map_of_mem hd)
      have hmem : d ∈ n.children := by
        rw [hchildren]
        exact List.mem_append_right _ (List.mem_cons_of_mem _ hd)
      have hd' := h.of_inside (.child hmem (.refl d))
      have hstart := (hd'.within hm).1
      have hspan := (hd' m hm).start_lt_stop
      omega

end AllFaithful

end Node

/-! ## What is read -/

namespace Entry

/-- The root of the tree of the value. -/
def node : (e : Entry) → e.Value → Node
  | line => Node.clause
  | expression => Node.expression
  | condition => Node.condition

theorem inner_places (e : Entry) (t : Text) :
    e.inner.Places t (fun a row => row = [some (e.node a)]) := by
  cases e with
  | line => exact Grammar.statement_places t
  | expression => exact Grammar.expression_places t
  | condition => exact Grammar.condition_places t

theorem allFaithful_of_read {e : Entry} {t : Text} {a : e.Value} (h : e.read t = .ok a) :
    (e.node a).AllFaithful t := by
  rw [read_eq] at h
  obtain ⟨⟨behind, hread⟩, -⟩ := readWhole_eq_ok_iff.1 h
  obtain ⟨_, rfl, hbetween, -⟩ := (e.inner_places t).entire hread
  exact (hbetween (.start t)).2.allFaithful _ List.mem_cons_self

end Entry

namespace Node

/-- The node stands in the tree of a text that was read by itself, or in the one of a statement
or of a body in a spell that was read. -/
inductive IsRead : Node → Prop
  | entry {e : Entry} {t : Text} {a : e.Value} : e.read t = .ok a → IsRead (e.node a)
  | statement {marker source : Text} {p : Program} {s : Statement} :
    Program.read marker source = .ok p → s ∈ p.statements → IsRead (.clause s.clause)
  | body {marker source : Text} {p : Program} {s : Statement} {body : Simple} :
    Program.read marker source = .ok p → s ∈ p.statements → s.body? = some body →
    IsRead (.clause body.clause)
  | inside {m n : Node} : m.Inside n → IsRead n → IsRead m

theorem IsRead.exists_allFaithful {n : Node} (h : n.IsRead) : ∃ t, n.AllFaithful t := by
  induction h with
  | entry hread => exact ⟨_, Entry.allFaithful_of_read hread⟩
  | @statement marker source p s hread hs =>
    obtain ⟨l, hl⟩ := Statement.exists_comesFrom (Program.statements_of_read hread) hs
    exact ⟨source, fun m hm => (faithfulOn_of_clause hl.mem hl.clause_eq hm).toFaithful⟩
  | @body marker source p s body hread hs hbody =>
    obtain ⟨l, hl⟩ := Statement.exists_comesFrom (Program.statements_of_read hread) hs
    obtain ⟨next, hinfix, hclause, -⟩ := hl.body_eq body hbody
    have hmem : next ∈ SourceLine.split source := hinfix.subset (by simp)
    exact ⟨source, fun m hm => (faithfulOn_of_clause hmem hclause hm).toFaithful⟩
  | inside hm _ ih =>
    obtain ⟨t, hn⟩ := ih
    exact ⟨t, hn.of_inside hm⟩

end Node

end Spellbook
