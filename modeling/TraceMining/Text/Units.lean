/-
  This file defines text as units of sixteen bits.  A
  character of the first plane is one unit, any other a pair
  of a high and a low one.  Half a pair on its own stands for
  no character; the replacement character takes its place.

  Key definitions include:
    * `Text.IsHigh`
    * `Text.IsLow`
    * `Text.units`
    * `Text.joined`

  Key theorems include:
    * `Text.joined_units`
-/

------------------------------------------------------------
-- Pairs
------------------------------------------------------------

namespace TraceMining

namespace Text

/- The first half of a pair. -/
def IsHigh
    (n : Nat) : Prop :=
  0xD800 ≤ n ∧ n ≤ 0xDBFF

/- The second half of a pair. -/
def IsLow
    (n : Nat) : Prop :=
  0xDC00 ≤ n ∧ n ≤ 0xDFFF

instance
    (n : Nat) :
    Decidable (IsHigh n) := by
  unfold IsHigh
  infer_instance

instance
    (n : Nat) :
    Decidable (IsLow n) := by
  unfold IsLow
  infer_instance

/- The number of the character that a pair stands for. -/
def pair
    (high low : Nat) : Nat :=
  0x10000 + (high - 0xD800) * 0x400 + (low - 0xDC00)

end Text

end TraceMining

------------------------------------------------------------
-- Units Of Text
------------------------------------------------------------

namespace TraceMining

namespace Text

/- The units of a character. -/
def units
    (c : Char) : List Nat :=
  let n := c.toNat
  if n < 0x10000 then [n]
  else
    [ 0xD800 + (n - 0x10000) / 0x400
    , 0xDC00 + (n - 0x10000) % 0x400 ]

/- The character with a number; half a pair has none. -/
def single
    (n : Nat) : Char :=
  if IsHigh n ∨ IsLow n then '\uFFFD' else Char.ofNat n

/- The text that units stand for. -/
def joined :
    List Nat → List Char
  | [] => []
  | [n] => [single n]
  | m :: n :: ns =>
      if IsHigh m ∧ IsLow n then
        Char.ofNat (pair m n) :: joined ns
      else single m :: joined (n :: ns)

end Text

end TraceMining

------------------------------------------------------------
-- Reading Back
------------------------------------------------------------

namespace TraceMining

namespace Text

/- The number of a character is not half a pair. -/
theorem not_isHigh_toNat
    (c : Char) :
    ¬ (IsHigh c.toNat ∨ IsLow c.toNat) := by
  have h := c.valid
  simp only [UInt32.isValidChar, Nat.isValidChar] at h
  simp only [IsHigh, IsLow, Char.toNat]
  omega

/- The number of a character is at most the last one. -/
theorem toNat_le
    (c : Char) :
    c.toNat ≤ 0x10FFFF := by
  have h := c.valid
  simp only [UInt32.isValidChar, Nat.isValidChar] at h
  simp only [Char.toNat]
  omega

/- The units of a character stand for it. -/
theorem joined_units
    (c : Char) :
    joined (units c) = [c] := by
  have h := not_isHigh_toNat c
  simp only [units]
  split
  · simp [joined, single, h]
  · rename_i big
    have hv := toNat_le c
    have hp : pair
        (0xD800 + (c.toNat - 0x10000) / 0x400)
        (0xDC00 + (c.toNat - 0x10000) % 0x400) =
        c.toNat := by
      unfold pair
      omega
    have hh : IsHigh
        (0xD800 + (c.toNat - 0x10000) / 0x400) := by
      unfold IsHigh
      omega
    have hl : IsLow
        (0xDC00 + (c.toNat - 0x10000) % 0x400) := by
      unfold IsLow
      omega
    rw [joined, if_pos ⟨hh, hl⟩, hp, Char.ofNat_toNat, joined]

end Text

end TraceMining
