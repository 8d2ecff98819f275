import Mathlib.Tactic.SplitIfs
import Spellbook.Proofs.Text.Cut
import Spellbook.Text.Quoted

/-!
# Numbers and quoted texts are told by their characters

Different numbers have different digits.  A quoted text tells what it quotes and where it ends,
whatever follows: no escape begins another one, and none begins with the closing quote.
-/

namespace Spellbook.Text

/-! ## Truth values and digits -/

theorem ofBool_inj {a b : Bool} (h : ofBool a = ofBool b) : a = b := by
  cases a <;> cases b
  · rfl
  · exact absurd h (by decide)
  · exact absurd h (by decide)
  · rfl

theorem digitChar_inj {m n : Nat} (hm : m < 16) (hn : n < 16)
    (h : m.digitChar = n.digitChar) : m = n := by
  have hall : ∀ m < 16, ∀ n < 16, Nat.digitChar m = Nat.digitChar n → m = n := by decide
  exact hall m hm n hn h

theorem toDigits_inj {base m n : Nat} (hbase : 1 < base) (hsmall : base ≤ 16)
    (h : Nat.toDigits base m = Nat.toDigits base n) : m = n := by
  have hone {k : Nat} (d e : Char) : [] ++ [d] ≠ Nat.toDigits base k ++ [e] := by
    intro h
    exact Nat.toDigits_ne_nil (List.append_inj' h rfl).1.symm
  induction m using Nat.strongRecOn generalizing n with
  | ind m ih =>
    have hm := Nat.toDigits_eq_if (n := m) hbase
    have hn := Nat.toDigits_eq_if (n := n) hbase
    rw [hm, hn] at h
    split at h
    · next hlt =>
      split at h
      · next hlt' => exact digitChar_inj (by omega) (by omega) (List.singleton_inj.1 h)
      · exact absurd h (hone _ _)
    · next hle =>
      split at h
      · exact absurd h.symm (hone _ _)
      · obtain ⟨hfront, hlast⟩ := List.append_inj' h rfl
        have hquotient := ih (m / base) (Nat.div_lt_self (by omega) hbase) hfront
        have hrest : m % base = n % base := by
          have hlt := Nat.mod_lt m (Nat.lt_of_succ_lt hbase)
          have hlt' := Nat.mod_lt n (Nat.lt_of_succ_lt hbase)
          exact digitChar_inj (by omega) (by omega) (List.singleton_inj.1 hlast)
        calc m = base * (m / base) + m % base := (Nat.div_add_mod m base).symm
          _ = base * (n / base) + n % base := by rw [hquotient, hrest]
          _ = n := Nat.div_add_mod n base

theorem ofNat_inj {m n : Nat} (h : ofNat m = ofNat n) : m = n :=
  toDigits_inj (by decide) (by decide) h

theorem brace_notMem_toDigits (n : Nat) : '}' ∉ Nat.toDigits 16 n := by
  induction n using Nat.strongRecOn with
  | ind n ih =>
    have hdigit (k : Nat) : '}' ∉ [k.digitChar] := by
      rw [List.mem_singleton]
      exact (Nat.digitChar_ne '}' (by decide)).symm
    rw [Nat.toDigits_eq_if (by decide)]
    split
    · exact hdigit n
    · rw [List.mem_append, not_or]
      exact ⟨ih (n / 16) (by omega), hdigit _⟩

/-! ## Escapes -/

/-- The characters whose escape is a single letter or sign behind a backslash. -/
def shortEscapes : List (Char × Char) :=
  [('\x00', '0'), ('\t', 't'), ('\r', 'r'), ('\n', 'n'), ('"', '"'), ('\\', '\\')]

/-- The ways in which a character stands between double quotes. -/
inductive Escapes : Char → Text → Prop
  | short {c e : Char} : (c, e) ∈ shortEscapes → Escapes c ['\\', e]
  | codePoint (c : Char) : Escapes c (codePointEscape c)
  | itself {c : Char} : c ≠ '"' → c ≠ '\\' → Escapes c [c]

theorem escapes_quotedChar (c : Char) : Escapes c (quotedChar c) := by
  unfold quotedChar
  split_ifs with hnull htab hreturn hline hquote hbackslash
  · exact .short (e := '0') (by simp [hnull, shortEscapes])
  · exact .short (e := 't') (by simp [htab, shortEscapes])
  · exact .short (e := 'r') (by simp [hreturn, shortEscapes])
  · exact .short (e := 'n') (by simp [hline, shortEscapes])
  · exact .short (e := '"') (by simp [hquote, shortEscapes])
  · exact .short (e := '\\') (by simp [hbackslash, shortEscapes])
  · exact .codePoint c
  · exact .itself hquote hbackslash

theorem Escapes.append_ne {c : Char} {v : Text} (h : Escapes c v) (s t : Text) :
    v ++ s ≠ '"' :: t := by
  intro happend
  cases h with
  | short => exact absurd (List.cons.inj happend).1 (by decide)
  | codePoint => exact absurd (List.cons.inj happend).1 (by decide)
  | itself hquote => exact hquote (List.cons.inj happend).1

/-- No short escape is the beginning of an escape by a code point. -/
theorem ne_of_mem_shortEscapes {c e : Char} (h : (c, e) ∈ shortEscapes) : e ≠ 'u' := by
  have hall : ∀ p ∈ shortEscapes, p.2 ≠ 'u' := by decide
  exact hall (c, e) h

theorem eq_of_mem_shortEscapes {c d e : Char} (hc : (c, e) ∈ shortEscapes)
    (hd : (d, e) ∈ shortEscapes) : c = d := by
  have hall : ∀ p ∈ shortEscapes, ∀ q ∈ shortEscapes, p.2 = q.2 → p.1 = q.1 := by decide
  exact hall (c, e) hc (d, e) hd rfl

theorem codePointEscape_append (c : Char) (s : Text) :
    codePointEscape c ++ s = '\\' :: 'u' :: '{' :: (Nat.toDigits 16 c.toNat ++ '}' :: s) := by
  simp [codePointEscape]

/-- An escape tells its character and where it ends. -/
theorem Escapes.append_inj {c d : Char} {v w s t : Text} (hc : Escapes c v) (hd : Escapes d w)
    (h : v ++ s = w ++ t) : c = d ∧ s = t := by
  cases hc with
  | short hc =>
    cases hd with
    | short hd =>
      obtain ⟨rfl, hst⟩ := List.cons.inj (List.cons.inj h).2
      exact ⟨eq_of_mem_shortEscapes hc hd, hst⟩
    | codePoint =>
      rw [codePointEscape_append] at h
      exact absurd (List.cons.inj (List.cons.inj h).2).1 (ne_of_mem_shortEscapes hc)
    | itself _ hbackslash => exact absurd (List.cons.inj h).1.symm hbackslash
  | codePoint =>
    rw [codePointEscape_append] at h
    cases hd with
    | short hd =>
      exact absurd (List.cons.inj (List.cons.inj h).2).1.symm (ne_of_mem_shortEscapes hd)
    | codePoint =>
      rw [codePointEscape_append] at h
      have hdigits := (List.cons.inj (List.cons.inj (List.cons.inj h).2).2).2
      obtain ⟨hcode, hst⟩ := append_cons_inj_of_notMem (brace_notMem_toDigits _)
        (brace_notMem_toDigits _) hdigits
      exact ⟨Char.toNat_inj.1 (toDigits_inj (by decide) (by decide) hcode), hst⟩
    | itself _ hbackslash => exact absurd (List.cons.inj h).1.symm hbackslash
  | itself hquote hbackslash =>
    cases hd with
    | short => exact absurd (List.cons.inj h).1 hbackslash
    | codePoint =>
      rw [codePointEscape_append] at h
      exact absurd (List.cons.inj h).1 hbackslash
    | itself => exact List.cons.inj h

/-! ## Whole texts -/

theorem flatMap_quotedChar_append_inj {a b s t : Text}
    (h : a.flatMap quotedChar ++ '"' :: s = b.flatMap quotedChar ++ '"' :: t) :
    a = b ∧ s = t := by
  induction a generalizing b with
  | nil =>
    cases b with
    | nil => exact ⟨rfl, (List.cons.inj h).2⟩
    | cons d b =>
      rw [List.flatMap_cons, List.append_assoc] at h
      exact absurd h.symm ((escapes_quotedChar d).append_ne _ _)
  | cons c a ih =>
    rw [List.flatMap_cons, List.append_assoc] at h
    cases b with
    | nil => exact absurd h ((escapes_quotedChar c).append_ne _ _)
    | cons d b =>
      rw [List.flatMap_cons, List.append_assoc] at h
      obtain ⟨rfl, hrest⟩ := (escapes_quotedChar c).append_inj (escapes_quotedChar d) h
      obtain ⟨rfl, rfl⟩ := ih hrest
      exact ⟨rfl, rfl⟩

theorem quoted_append (a s : Text) :
    quoted a ++ s = '"' :: (a.flatMap quotedChar ++ '"' :: s) := by
  simp [quoted]

/-- A quoted text tells what it quotes and where it ends. -/
theorem quoted_append_inj {a b s t : Text} (h : quoted a ++ s = quoted b ++ t) :
    a = b ∧ s = t := by
  rw [quoted_append, quoted_append] at h
  exact flatMap_quotedChar_append_inj (List.cons.inj h).2

end Spellbook.Text
