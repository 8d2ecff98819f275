import Spellbook.Text.Conjunct
import Spellbook.Text.Pictograph

/-!
# Graphemes

A text is cut into graphemes, the pieces that a reader sees as one character: a letter with its
accents, a Hangul syllable, a flag, a family of joined emoji.  The graphemes of a text put
together are the text (`flatten_graphemes`), and none of them is empty
(`ne_nil_of_mem_graphemes`).
-/

namespace Spellbook.Text

/-- Whether a text, given from its end, ends in an odd number of the letters that denote a flag
in pairs. -/
def endsInHalfFlag (before : Text) : Bool :=
  (before.takeWhile fun c => BreakClass.of c = .regional).length % 2 == 1

/-- Whether the grapheme, given from its end, goes on with the character. -/
def extendsGrapheme (grapheme : Text) (c : Char) : Bool :=
  match grapheme with
  | [] => true
  | last :: _ =>
    (BreakClass.of last).adheres (BreakClass.of c) ||
      (isConsonant c && endsInLinkedConsonant false grapheme) ||
      (isPictograph c && endsInJoinedPictograph grapheme) ||
      (BreakClass.of c = .regional && endsInHalfFlag grapheme)

/-- The graphemes of a text behind the characters, given from their end, that the first of them
is already known to hold. -/
def graphemesFrom : Text → Text → List Text
  | grapheme, [] => if grapheme.isEmpty then [] else [grapheme.reverse]
  | grapheme, c :: t =>
    if extendsGrapheme grapheme c then graphemesFrom (c :: grapheme) t
    else grapheme.reverse :: graphemesFrom [c] t

/-- The graphemes of the text, in order. -/
def graphemes (t : Text) : List Text := graphemesFrom [] t

theorem flatten_graphemesFrom (grapheme t : Text) :
    (graphemesFrom grapheme t).flatten = grapheme.reverse ++ t := by
  induction t generalizing grapheme with
  | nil => cases grapheme <;> simp [graphemesFrom]
  | cons c t ih =>
    simp only [graphemesFrom]
    split <;> simp [ih]

@[simp] theorem flatten_graphemes (t : Text) : (graphemes t).flatten = t := by
  simp [graphemes, flatten_graphemesFrom]

theorem ne_nil_of_mem_graphemesFrom {grapheme t piece : Text}
    (h : piece ∈ graphemesFrom grapheme t) : piece ≠ [] := by
  induction t generalizing grapheme with
  | nil => cases grapheme <;> simp_all [graphemesFrom]
  | cons c t ih =>
    simp only [graphemesFrom] at h
    split at h
    · exact ih h
    · next hc =>
      rcases List.mem_cons.1 h with rfl | h
      · intro hnil
        rw [List.reverse_eq_nil_iff] at hnil
        simp [hnil, extendsGrapheme] at hc
      · exact ih h

theorem ne_nil_of_mem_graphemes {t piece : Text} (h : piece ∈ graphemes t) : piece ≠ [] :=
  ne_nil_of_mem_graphemesFrom h

end Spellbook.Text
