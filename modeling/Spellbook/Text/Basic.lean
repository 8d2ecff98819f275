/-!
# Text

A text is the list of its characters.  This module measures a text in bytes, cuts it at byte
positions, and finds, counts and replaces a marker in it.  Every search takes the leftmost
occurrence, and a count never lets two occurrences share a character.
-/

namespace Spellbook

/-- A text is the list of its characters, so that it can be read from the front. -/
abbrev Text := List Char

/-- A literal stands for its characters wherever a text is wanted. -/
instance : Coe String Text := ⟨String.toList⟩

namespace Text

/-! ## Size and position -/

/-- The number of bytes that the text takes in UTF-8. -/
def byteLength : Text → Nat
  | [] => 0
  | c :: t => c.utf8Size + byteLength t

@[simp] theorem byteLength_nil : byteLength [] = 0 := rfl

@[simp] theorem byteLength_cons (c : Char) (t : Text) :
    byteLength (c :: t) = c.utf8Size + byteLength t := rfl

@[simp] theorem byteLength_append (s t : Text) :
    byteLength (s ++ t) = byteLength s + byteLength t := by
  induction s with
  | nil => simp
  | cons c s ih => simp [ih, Nat.add_assoc]

theorem length_le_byteLength (t : Text) : t.length ≤ byteLength t := by
  induction t with
  | nil => exact Nat.le_refl 0
  | cons c t ih =>
    have := c.utf8Size_pos
    simp only [List.length_cons, byteLength_cons]
    omega

@[simp] theorem byteLength_eq_zero_iff {t : Text} : byteLength t = 0 ↔ t = [] := by
  constructor
  · intro h
    have := length_le_byteLength t
    exact List.length_eq_zero_iff.1 (by omega)
  · rintro rfl
    rfl

/-- What is left of the text after its first `bytes` bytes. -/
def dropBytes : Nat → Text → Text
  | 0, t => t
  | _ + 1, [] => []
  | bytes, c :: t => dropBytes (bytes - c.utf8Size) t

/-- What is left of the text after its first `bytes` bytes, if they are whole characters. -/
def dropBytes? : Nat → Text → Option Text
  | 0, t => some t
  | _ + 1, [] => none
  | bytes + 1, c :: t =>
    if c.utf8Size ≤ bytes + 1 then dropBytes? (bytes + 1 - c.utf8Size) t else none

/-- The bytes dropped are those of the characters in front of what is left. -/
theorem dropBytes?_eq_some_iff {bytes : Nat} {t rest : Text} :
    dropBytes? bytes t = some rest ↔ ∃ front, t = front ++ rest ∧ byteLength front = bytes := by
  induction t generalizing bytes with
  | nil => cases bytes <;> simp [dropBytes?]
  | cons c t ih =>
    have hc := c.utf8Size_pos
    cases bytes with
    | zero => simp [dropBytes?]
    | succ bytes =>
      simp only [dropBytes?]
      split
      · next hle =>
        rw [ih]
        constructor
        · rintro ⟨front, rfl, hlength⟩
          exact ⟨c :: front, rfl, by simp only [byteLength_cons]; omega⟩
        · rintro ⟨front, happend, hlength⟩
          cases front with
          | nil => simp at hlength
          | cons d front =>
            obtain ⟨rfl, rfl⟩ := List.cons.inj happend
            exact ⟨front, rfl, by simp only [byteLength_cons] at hlength; omega⟩
      · next hlt =>
        simp only [reduceCtorEq, false_iff]
        rintro ⟨front, happend, hlength⟩
        cases front with
        | nil => simp at hlength
        | cons d front =>
          obtain ⟨rfl, rfl⟩ := List.cons.inj happend
          simp only [byteLength_cons] at hlength
          omega

/-- The first `bytes` bytes of the text, up to the character that holds the last of them. -/
def takeBytes : Nat → Text → Text
  | 0, _ => []
  | _ + 1, [] => []
  | bytes, c :: t => c :: takeBytes (bytes - c.utf8Size) t

/-- The part of the text between two byte positions. -/
def slice (start stop : Nat) (t : Text) : Text :=
  takeBytes (stop - start) (dropBytes start t)

/-! ## Numbers and truth values -/

/-- The decimal digits of a number, without leading zeros. -/
def ofNat (n : Nat) : Text := Nat.toDigits 10 n

/-- The decimal digits of an integer, after a minus sign if it is negative. -/
def ofInt (n : Int) : Text :=
  if n < 0 then '-' :: ofNat n.natAbs else ofNat n.natAbs

/-- The number that a run of decimal digits denotes. -/
def natOfDigits (digits : Text) : Nat :=
  digits.foldl (fun n c => n * 10 + (c.toNat - '0'.toNat)) 0

/-- The word for a truth value. -/
def ofBool : Bool → Text
  | true => "true"
  | false => "false"

/-! ## Searching -/

/-- What follows `front` in a text that begins with it. -/
def dropFront? : Text → Text → Option Text
  | [], t => some t
  | _ :: _, [] => none
  | c :: front, d :: t => if c = d then dropFront? front t else none

theorem dropFront?_eq_some_iff {front t rest : Text} :
    dropFront? front t = some rest ↔ t = front ++ rest := by
  induction front generalizing t with
  | nil => simp [dropFront?, eq_comm]
  | cons c front ih =>
    cases t with
    | nil => simp [dropFront?]
    | cons d t =>
      by_cases h : c = d
      · simp [dropFront?, h, ih]
      · simp [dropFront?, h, Ne.symm h]

/-- The text before and the text after the leftmost occurrence of the marker. -/
def cut? (marker : Text) : Text → Option (Text × Text)
  | [] => if marker.isEmpty then some ([], []) else none
  | c :: t =>
    match dropFront? marker (c :: t) with
    | some after => some ([], after)
    | none => (cut? marker t).map fun (before, after) => (c :: before, after)

theorem eq_append_of_cut? {marker t before after : Text}
    (h : cut? marker t = some (before, after)) : t = before ++ marker ++ after := by
  induction t generalizing before with
  | nil =>
    cases marker with
    | nil => simp_all [cut?]
    | cons => simp [cut?] at h
  | cons c t ih =>
    simp only [cut?] at h
    split at h
    · next rest hrest =>
      obtain ⟨rfl, rfl⟩ := Prod.mk.inj (Option.some.inj h)
      simpa using dropFront?_eq_some_iff.1 hrest
    · obtain ⟨⟨b, a⟩, hcut, hpair⟩ := Option.map_eq_some_iff.1 h
      obtain ⟨rfl, rfl⟩ := Prod.mk.inj hpair
      simp [ih hcut]

/-- Whether the marker occurs in the text; the empty marker occurs in every text. -/
def contains (marker t : Text) : Bool := (cut? marker t).isSome

/-- The byte position of the leftmost occurrence of the marker. -/
def find? (marker t : Text) : Option Nat :=
  (cut? marker t).map fun (before, _) => byteLength before

/-- The text with the leftmost occurrence of the marker replaced by the token. -/
def replaceFirst (marker token t : Text) : Text :=
  match cut? marker t with
  | some (before, after) => before ++ token ++ after
  | none => t

/-- The number of occurrences of a non-empty marker after the first `skip` characters, where
each occurrence is taken as soon as it fits and uses up its characters. -/
def occurrencesAfter (marker : Text) : Nat → Text → Nat
  | _, [] => 0
  | skip + 1, _ :: t => occurrencesAfter marker skip t
  | 0, c :: t =>
    if (dropFront? marker (c :: t)).isSome then
      occurrencesAfter marker (marker.length - 1) t + 1
    else occurrencesAfter marker 0 t

/-- The number of occurrences of the marker, read from the left without overlap.  The empty
marker occurs before every character and at the end. -/
def occurrences (marker t : Text) : Nat :=
  if marker.isEmpty then t.length + 1 else occurrencesAfter marker 0 t

/-! ## Putting texts together -/

/-- The texts one after another with the separator between neighbours. -/
def join (separator : Text) (parts : List Text) : Text := separator.intercalate parts

/-- The text with blanks put in front until it is at least `width` characters long. -/
def padLeft (width : Nat) (t : Text) : Text := List.replicate (width - t.length) ' ' ++ t

end Text

end Spellbook
