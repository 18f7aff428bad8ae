import Mathlib.Data.List.Lex
import Mathlib.Data.String.Basic
import Mathlib.Order.Monotone.Basic

/-! # Names in the order of their bytes

Texts are compared code point by code point. Their UTF-8 forms, compared byte by byte,
are in the same order: the first byte of a character grows with the number of bytes
that follow, and after it the bits come from the leading ones down. So lists that are
sorted by name are sorted by bytes. -/

namespace GrammarArtifact

/-- The bytes of a text in its UTF-8 form, as numbers. -/
def utf8Bytes (s : String) : List ℕ := s.toUTF8.data.toList.map UInt8.toNat

def charBytes (c : Char) : List ℕ := (String.utf8EncodeChar c).map UInt8.toNat

theorem utf8Bytes_eq (s : String) : utf8Bytes s = s.toList.flatMap charBytes := by
  rw [utf8Bytes, String.toUTF8_eq_toByteArray, ← String.utf8Encode_toList, List.utf8Encode,
    List.data_toByteArray, List.toList_toArray, List.map_flatMap]
  rfl

/-- Of two characters the one with the smaller code point has the smaller bytes, whatever follows
them. -/
theorem charBytes_append_lt {c d : Char} (h : c < d) (x y : List ℕ) :
    charBytes c ++ x < charBytes d ++ y := by
  have less : c.val.toNat < d.val.toNat := h
  have bound : d.val.toNat < 0x110000 := by
    rcases d.valid with low | ⟨_, high⟩
    · exact Nat.lt_trans low (by decide)
    · exact high
  unfold charBytes String.utf8EncodeChar
  generalize c.val.toNat = v at *
  generalize d.val.toNat = w at *
  -- Each byte holds six bits; with one division for each the comparison is linear.
  have thrice : ∀ n, n / 262144 = n / 64 / 64 / 64 := by omega
  have twice : ∀ n, n / 4096 = n / 64 / 64 := by omega
  simp only [thrice, twice]
  split_ifs
  all_goals
    simp only [List.map_cons, List.map_nil, List.cons_append, List.nil_append,
      List.cons_lt_cons_iff, UInt8.toNat_ofNat']
    omega

theorem flatMap_charBytes_lt {cs ds : List Char} (h : cs < ds) :
    cs.flatMap charBytes < ds.flatMap charBytes := by
  induction ds generalizing cs with
  | nil => exact absurd h (List.not_lt_nil cs)
  | cons d ds ih =>
    cases cs with
    | nil =>
      have filled : charBytes d ≠ [] := by simp [charBytes]
      obtain ⟨b, rest, hb⟩ := List.exists_cons_of_ne_nil filled
      rw [List.flatMap_cons, hb]
      exact List.nil_lt_cons b _
    | cons c cs =>
      rw [List.flatMap_cons, List.flatMap_cons]
      rcases List.cons_lt_cons_iff.mp h with less | ⟨rfl, less⟩
      · exact charBytes_append_lt less _ _
      · exact List.append_left_lt (ih less)

/-- **The order of texts is the order of their bytes.** -/
theorem utf8Bytes_lt {s t : String} : utf8Bytes s < utf8Bytes t ↔ s < t := by
  have mono : StrictMono utf8Bytes := by
    intro s t h
    rw [utf8Bytes_eq, utf8Bytes_eq]
    exact flatMap_charBytes_lt h
  exact mono.lt_iff_lt

end GrammarArtifact
