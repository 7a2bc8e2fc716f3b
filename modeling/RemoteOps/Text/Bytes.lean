/-
Texts as bytes: each character stands for one byte of the encoding.

Commands know bytes only: they count, compare and cut bytes, whatever
characters these belong to.

* `Bytes.ofText_isByte`: only bytes come out.
-/

namespace RemoteOps.Bytes

/-- Whether a character stands for a byte. -/
def isByte (c : Char) : Bool := c.toNat < 256

/-- The character that stands for a byte. -/
def ofByte (b : UInt8) : Char := Char.ofNat b.toNat

/-- The bytes of a text. -/
def ofText (s : String) : String :=
  String.ofList (s.toUTF8.toList.map ofByte)

theorem ofByte_isByte (b : UInt8) : isByte (ofByte b) = true := by
  have hb : b.toNat < 256 := b.toNat_lt
  have hv : b.toNat.isValidChar := Or.inl (by omega)
  have ht : (ofByte b).toNat = b.toNat := by
    rw [ofByte, Char.ofNat, dif_pos hv]
    rfl
  simp [isByte, ht, hb]

theorem ofText_isByte (s : String) :
    ∀ c ∈ (ofText s).toList, isByte c = true := by
  intro c hc
  simp only [ofText, String.toList_ofList, List.mem_map] at hc
  obtain ⟨b, -, rfl⟩ := hc
  exact ofByte_isByte b

end RemoteOps.Bytes
