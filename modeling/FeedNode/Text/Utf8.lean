import FeedNode.Bytes

/-!
# UTF-8 text

`utf8` writes a text as octets and `ofUtf8?` reads it back, refusing octets that are no UTF-8.
Main statement: `ofUtf8?_eq_some_iff`, reading accepts exactly what writing produces.
-/

namespace FeedNode.Text

/-- The UTF-8 octets of a text. -/
def utf8 (s : String) : Bytes :=
  s.toUTF8.data.toList

/-- The text that the octets write, if they are well-formed UTF-8. -/
def ofUtf8? (b : Bytes) : Option String :=
  String.fromUTF8? ⟨b.toArray⟩

/-- The number of octets of a text. -/
def utf8Length (s : String) : Nat :=
  s.utf8ByteSize

/-- Octets are read as a text exactly if they are the octets of the text. -/
theorem ofUtf8?_eq_some_iff {b : Bytes} {s : String} : ofUtf8? b = some s ↔ b = utf8 s := by
  simp only [ofUtf8?, utf8, String.fromUTF8?]
  constructor
  · split
    · -- the octets are checked, and then taken as they are
      rintro ⟨⟩
      simp [String.fromUTF8, String.toUTF8]
    · simp
  · -- the octets of a text pass the check
    rintro rfl
    have h : ByteArray.IsValidUTF8 ⟨s.toUTF8.data.toList.toArray⟩ := by
      simpa [String.toUTF8] using s.isValidUTF8
    rw [dif_pos h]
    simp [String.fromUTF8, String.toUTF8]

@[simp] theorem ofUtf8?_utf8 (s : String) : ofUtf8? (utf8 s) = some s :=
  ofUtf8?_eq_some_iff.2 rfl

/-- Texts are told apart by their octets. -/
theorem utf8_injective {s t : String} (h : utf8 s = utf8 t) : s = t := by
  have hs := ofUtf8?_utf8 s
  rw [h, ofUtf8?_utf8] at hs
  exact (Option.some.inj hs).symm

@[simp] theorem length_utf8 (s : String) : (utf8 s).length = utf8Length s := by
  rw [utf8, Array.length_toList]
  rfl

end FeedNode.Text
