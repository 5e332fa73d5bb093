import Converge.Text.Utf8

/-!
# Texts of bytes

Programs work on bytes. A row of bytes is kept as a text with one character for each, the character
of its number; `ofOctets_octets` says that no byte is lost.
-/

namespace Converge.Text

/-- The text with a character for each byte. -/
def octets (bytes : List UInt8) : String :=
  String.ofList (bytes.map fun b => Char.ofNat b.toNat)

/-- The bytes that a text of bytes stands for. -/
def ofOctets (s : String) : List UInt8 := s.toList.map fun c => UInt8.ofNat c.toNat

/-- The bytes come back from their text. -/
theorem ofOctets_octets (bytes : List UInt8) : ofOctets (octets bytes) = bytes := by
  have h : ∀ b : UInt8, UInt8.ofNat (Char.ofNat b.toNat).toNat = b := by
    intro b
    have hb : b.toNat < 256 := b.toNat_lt
    have hv : b.toNat.isValidChar := Or.inl (by omega)
    have : (Char.ofNat b.toNat).toNat = b.toNat := by
      rw [Char.ofNat, dif_pos hv]
      rfl
    rw [this]
    exact UInt8.ofNat_toNat
  simp only [ofOctets, octets, String.toList_ofList, List.map_map]
  induction bytes with
  | nil => rfl
  | cons b rest ih => simp [h b, ih]

/-- A text in UTF-8, as a text of bytes. -/
def octetsOf (s : String) : String := octets s.toUTF8.toList

/-- The text that bytes write; where they write none, each byte beyond ASCII becomes a sign for
it. -/
def textOf (s : String) : String :=
  match decode ⟨(ofOctets s).toArray⟩ with
  | .ok text => text
  | .error _ => s.map fun c => if c.toNat < 128 then c else '\uFFFD'

end Converge.Text
