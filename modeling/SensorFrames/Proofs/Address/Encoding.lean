import SensorFrames.Text.Percent

/-!
Reading percent-encoded text back. Main statement: the text that was encoded is decoded again, and
its encoding has no character but unreserved ones and `%`.
-/

set_option autoImplicit false

namespace SensorFrames.Text.Percent

def decode? (s : String) : Option String := String.fromUTF8? (decodeBytes (utf8 s)).toByteArray

/-! ### Bytes -/

theorem hexDigit_spec {n : Nat} (h : n < 16) :
    ∃ b, String.utf8EncodeChar (hexDigit n) = [b] ∧ hexValue b = some n := by
  have hall : ∀ n : Fin 16, String.utf8EncodeChar (hexDigit n) = [(hexDigit n).val.toUInt8] ∧
      hexValue (hexDigit n).val.toUInt8 = some n.val := by decide
  exact ⟨_, hall ⟨n, h⟩⟩

theorem decodeBytes_of_ne {b : UInt8} (h : b ≠ 0x25) (rest : List UInt8) :
    decodeBytes (b :: rest) = b :: decodeBytes rest := by
  match rest with
  | [] => rfl
  | [_] => rfl
  | _ :: _ :: _ => rw [decodeBytes, if_neg h]

theorem decodeBytes_triple (b : UInt8) (rest : List UInt8) :
    decodeBytes ((triple b).flatMap String.utf8EncodeChar ++ rest) = b :: decodeBytes rest := by
  have hb := b.toNat_lt
  obtain ⟨high, hhigh, hhighValue⟩ := hexDigit_spec (n := b.toNat / 16) (by omega)
  obtain ⟨low, hlow, hlowValue⟩ := hexDigit_spec (n := b.toNat % 16) (by omega)
  have hpercent : String.utf8EncodeChar '%' = [0x25] := by decide
  have hvalue : 16 * (b.toNat / 16) + b.toNat % 16 = b.toNat := Nat.div_add_mod _ _
  simp [triple, hpercent, hhigh, hlow, decodeBytes, hhighValue, hlowValue, hvalue]

theorem decodeBytes_triples (bytes rest : List UInt8) :
    decodeBytes ((bytes.flatMap triple).flatMap String.utf8EncodeChar ++ rest) =
      bytes ++ decodeBytes rest := by
  induction bytes with
  | nil => rfl
  | cons b bytes ih =>
    rw [List.flatMap_cons, List.flatMap_append, List.append_assoc, decodeBytes_triple, ih,
      List.cons_append]

/-! ### Characters -/

theorem toNat_of_isAlphanum {c : Char} (h : c.isAlphanum = true) :
    (65 ≤ c.toNat ∧ c.toNat ≤ 90 ∨ 97 ≤ c.toNat ∧ c.toNat ≤ 122) ∨
      48 ≤ c.toNat ∧ c.toNat ≤ 57 := by
  have hclass : c.isAlphanum =
      ((decide (65 ≤ c.val ∧ c.val ≤ 90) ||
        (decide (97 ≤ c.val) && decide (c.val ≤ 122))) ||
        (decide (48 ≤ c.val) && decide (c.val ≤ 57))) := rfl
  rw [hclass] at h
  simpa [UInt32.le_iff_toNat_le] using h

theorem toNat_unreserved {c : Char} (h : isUnreserved c = true) :
    c.toNat ≤ 127 ∧ c.toNat ≠ 0x25 := by
  simp only [isUnreserved, Bool.or_eq_true, beq_iff_eq] at h
  rcases h with (((h | rfl) | rfl) | rfl) | rfl
  · have hrange := toNat_of_isAlphanum h
    omega
  all_goals decide

theorem utf8EncodeChar_ascii {c : Char} (h : c.toNat ≤ 127) :
    String.utf8EncodeChar c = [UInt8.ofNat c.toNat] := by
  rw [String.utf8EncodeChar, if_pos (show c.val.toNat ≤ 127 from h)]
  rfl

theorem toNat_ofNat_ascii {c : Char} (h : c.toNat ≤ 127) : (UInt8.ofNat c.toNat).toNat = c.toNat :=
  UInt8.toNat_ofNat_of_lt' (Nat.lt_of_le_of_lt h (by decide))

theorem utf8EncodeChar_unreserved {c : Char} (h : isUnreserved c = true) :
    ∃ b : UInt8, String.utf8EncodeChar c = [b] ∧ b ≠ 0x25 := by
  obtain ⟨hle, hne⟩ := toNat_unreserved h
  refine ⟨UInt8.ofNat c.toNat, utf8EncodeChar_ascii hle, fun heq => hne ?_⟩
  calc c.toNat = (UInt8.ofNat c.toNat).toNat := (toNat_ofNat_ascii hle).symm
    _ = 0x25 := by rw [heq]; rfl

theorem decodeBytes_encodeChar (c : Char) (rest : List UInt8) :
    decodeBytes ((encodeChar c).flatMap String.utf8EncodeChar ++ rest) =
      String.utf8EncodeChar c ++ decodeBytes rest := by
  unfold encodeChar
  split
  · rename_i h
    obtain ⟨b, hb, hne⟩ := utf8EncodeChar_unreserved h
    simp [hb, decodeBytes_of_ne hne]
  · exact decodeBytes_triples _ rest

theorem decodeBytes_encode (s : String) : decodeBytes (utf8 (encode s)) = utf8 s := by
  have h : ∀ cs : List Char,
      decodeBytes ((cs.flatMap encodeChar).flatMap String.utf8EncodeChar) =
        cs.flatMap String.utf8EncodeChar := by
    intro cs
    induction cs with
    | nil => rfl
    | cons c cs ih =>
      rw [List.flatMap_cons, List.flatMap_append, decodeBytes_encodeChar, ih, List.flatMap_cons]
  simpa [utf8] using h s.toList

theorem toByteArray_utf8 (s : String) : (utf8 s).toByteArray = s.toByteArray :=
  calc (utf8 s).toByteArray = (String.ofList s.toList).toByteArray := String.toByteArray_ofList.symm
    _ = s.toByteArray := by rw [String.ofList_toList]

theorem decode?_encode (s : String) : decode? (encode s) = some s := by
  rw [decode?, decodeBytes_encode, toByteArray_utf8, String.fromUTF8?, dif_pos s.isValidUTF8]
  rfl

/-- Nothing of a text can end a parameter or begin another: its encoding has unreserved characters
and `%` only. -/
theorem mem_encode {s : String} {c : Char} (h : c ∈ (encode s).toList) :
    isUnreserved c = true ∨ c = '%' := by
  have hdigits : ∀ n : Fin 16, isUnreserved (hexDigit n) = true := by decide
  rw [toList_encode, List.mem_flatMap] at h
  obtain ⟨d, -, hc⟩ := h
  unfold encodeChar at hc
  split at hc
  · rename_i hd
    rw [List.mem_singleton.mp hc]
    exact Or.inl hd
  · obtain ⟨b, -, hc⟩ := List.mem_flatMap.mp hc
    have hb := b.toNat_lt
    simp only [triple, List.mem_cons, List.not_mem_nil, or_false] at hc
    rcases hc with rfl | rfl | rfl
    · exact Or.inr rfl
    · exact Or.inl (hdigits ⟨b.toNat / 16, by omega⟩)
    · exact Or.inl (hdigits ⟨b.toNat % 16, by omega⟩)

theorem not_mem_utf8_encode {d : Char} (hascii : d.toNat ≤ 127) (h : isUnreserved d = false)
    (hpercent : d ≠ '%') (s : String) : UInt8.ofNat d.toNat ∉ utf8 (encode s) := by
  intro hmem
  obtain ⟨c, hc, hbyte⟩ := List.mem_flatMap.mp hmem
  have hencoded := mem_encode hc
  have hle : c.toNat ≤ 127 := by
    rcases hencoded with hun | rfl
    · exact (toNat_unreserved hun).1
    · decide
  rw [utf8EncodeChar_ascii hle, List.mem_singleton] at hbyte
  have hnat := congrArg UInt8.toNat hbyte
  rw [toNat_ofNat_ascii hascii, toNat_ofNat_ascii hle] at hnat
  obtain rfl : d = c := Char.toNat_inj.mp hnat
  rcases hencoded with hun | heq
  · simp [h] at hun
  · exact hpercent heq

theorem utf8_append (s t : String) : utf8 (s ++ t) = utf8 s ++ utf8 t := by
  simp [utf8]

theorem utf8_inj {s t : String} : utf8 s = utf8 t ↔ s = t := by
  refine ⟨fun h => String.toByteArray_inj.mp ?_, congrArg utf8⟩
  rw [← toByteArray_utf8, ← toByteArray_utf8, h]

end SensorFrames.Text.Percent
