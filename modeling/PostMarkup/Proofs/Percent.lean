import PostMarkup.Percent
import PostMarkup.Proofs.Text.Numeral
import PostMarkup.Proofs.Text.Utf8
import PostMarkup.Text.Blank

/-! # Percent encoding reads back

Every byte is written as one unreserved character or as a percent sign with two digits, and either
form is read as that byte. So an encoded text reads back and holds no character that starts anything
elsewhere. A percent sign without two digits after it is read as itself, whatever stands around it.
-/

namespace PostMarkup.Percent

open PostMarkup.Text

theorem hexValue?_hexDigit : ∀ value < 16, hexValue? (hexDigit value) = some value := by
  decide

/-- A character other than the percent sign is read as its bytes. -/
theorem decodeBytes_cons {c : Char} (other : c ≠ '%') (rest : List Char) :
    decodeBytes (c :: rest) = String.utf8EncodeChar c ++ decodeBytes rest := by
  rw [decodeBytes]
  rintro _ _ _ rfl
  exact absurd rfl other

theorem decodeBytes_encodeByte (byte : UInt8) (rest : List Char) :
    decodeBytes (encodeByte byte ++ rest) = byte :: decodeBytes rest := by
  have bound : byte.toNat < 256 := byte.toNat_lt
  unfold encodeByte
  split
  · rename_i own
    simp only [Bool.and_eq_true, decide_eq_true_eq] at own
    have other : Char.ofNat byte.toNat ≠ '%' := by
      intro same
      rw [same] at own
      exact absurd own.1 (by decide)
    have code : (Char.ofNat byte.toNat).toNat = byte.toNat := by
      have valid : byte.toNat.isValidChar := .inl (by omega)
      rw [Char.ofNat, dif_pos valid]
      rfl
    have narrow : String.utf8EncodeChar (Char.ofNat byte.toNat) = [byte] := by
      rw [Utf8.utf8EncodeChar_of_ascii (code.trans_lt own.2), code, UInt8.ofNat_toNat]
    rw [List.singleton_append, decodeBytes_cons other, narrow]
    rfl
  · have high := hexValue?_hexDigit (byte.toNat / 16) (by omega)
    have low := hexValue?_hexDigit (byte.toNat % 16) (by omega)
    have whole : UInt8.ofNat (byte.toNat / 16 * 16 + byte.toNat % 16) = byte := by
      rw [show byte.toNat / 16 * 16 + byte.toNat % 16 = byte.toNat by omega, UInt8.ofNat_toNat]
    simp only [List.cons_append, List.nil_append, decodeBytes, high, low, whole]

theorem decodeBytes_flatMap (bytes : List UInt8) : decodeBytes (bytes.flatMap encodeByte) = bytes := by
  induction bytes with
  | nil => rfl
  | cons byte rest ih => rw [List.flatMap_cons, decodeBytes_encodeByte, ih]

/-- Decoding gives an encoded text back. -/
theorem decode_encode (text : List Char) : decode (encode text) = text := by
  rw [decode, encode, decodeBytes_flatMap, Utf8.decodeLossy_encode]

/-- The characters that are written as themselves. -/
def unreservedChars : List Char := "ABCDEFGHIJKLMNOPQRSTUVWXYZabcdefghijklmnopqrstuvwxyz0123456789-_.~".toList

def capitalDigits : List Char := "0123456789ABCDEF".toList

/-- Unreserved characters, and percent signs with two capital digits after each. -/
inductive IsEncoded : List Char → Prop
  | nil : IsEncoded []
  | unreserved {c : Char} {rest : List Char} : c ∈ unreservedChars → IsEncoded rest → IsEncoded (c :: rest)
  | byte {high low : Char} {rest : List Char} : high ∈ capitalDigits → low ∈ capitalDigits → IsEncoded rest →
      IsEncoded ('%' :: high :: low :: rest)

theorem mem_unreservedChars : ∀ code < 128, isUnreserved (Char.ofNat code) = true →
    Char.ofNat code ∈ unreservedChars := by
  decide +kernel

theorem hexDigit_mem_capitalDigits : ∀ value < 16, hexDigit value ∈ capitalDigits := by
  decide

theorem isEncoded_flatMap (bytes : List UInt8) : IsEncoded (bytes.flatMap encodeByte) := by
  induction bytes with
  | nil => exact .nil
  | cons byte rest ih =>
    have bound : byte.toNat < 256 := byte.toNat_lt
    rw [List.flatMap_cons, encodeByte]
    split
    · rename_i own
      simp only [Bool.and_eq_true, decide_eq_true_eq] at own
      exact .unreserved (mem_unreservedChars byte.toNat own.2 own.1) ih
    · apply IsEncoded.byte _ _ ih
      · exact hexDigit_mem_capitalDigits (byte.toNat / 16) (by omega)
      · exact hexDigit_mem_capitalDigits (byte.toNat % 16) (by omega)

/-- The characters of encoded text. -/
theorem IsEncoded.mem {text : List Char} (encoded : IsEncoded text) : ∀ c ∈ text, c ∈ '%' :: unreservedChars := by
  have digits : ∀ c ∈ capitalDigits, c ∈ '%' :: unreservedChars := by decide
  induction encoded with
  | nil => simp
  | unreserved own _ ih => exact List.forall_mem_cons.mpr ⟨List.mem_cons_of_mem _ own, ih⟩
  | byte high low _ ih =>
    simp only [List.forall_mem_cons]
    exact ⟨List.mem_cons_self, digits _ high, digits _ low, ih⟩

theorem isEncoded_encode (text : List Char) : IsEncoded (encode text) := isEncoded_flatMap (Utf8.encode text)

/-- An encoded text holds unreserved characters and percent signs only. -/
theorem isUnreserved_of_mem_encode {text : List Char} {c : Char} (member : c ∈ encode text) :
    c = '%' ∨ isUnreserved c = true := by
  have unreserved : ∀ c ∈ unreservedChars, isUnreserved c = true := by decide
  exact (List.mem_cons.mp ((isEncoded_encode text).mem c member)).imp_right (unreserved c)

theorem not_mem_encode {text : List Char} {c : Char} (percent : c ≠ '%')
    (reserved : isUnreserved c = false) : c ∉ encode text := by
  intro member
  rcases isUnreserved_of_mem_encode member with same | own
  · exact percent same
  · simp [reserved] at own

def StartsWithDigits (text : List Char) : Prop :=
  ∃ high low rest upper lower, text = high :: low :: rest ∧ IsDigit 16 upper high ∧ IsDigit 16 lower low

variable {high low : Char} {upper lower : Nat} {before after : List Char}

theorem decodeBytes_digits (first : IsDigit 16 upper high) (second : IsDigit 16 lower low) (rest : List Char) :
    decodeBytes ('%' :: high :: low :: rest) = UInt8.ofNat (upper * 16 + lower) :: decodeBytes rest := by
  simp only [decodeBytes, hexValue?_eq_some_iff.mpr first, hexValue?_eq_some_iff.mpr second]

theorem decodeBytes_percent (malformed : ¬StartsWithDigits after) :
    decodeBytes ('%' :: after) = String.utf8EncodeChar '%' ++ decodeBytes after := by
  cases after with
  | nil => simp [decodeBytes]
  | cons high rest =>
    cases rest with
    | nil => simp [decodeBytes]
    | cons low rest =>
      rw [decodeBytes]
      split
      · rename_i upper lower first second
        have digits := And.intro (hexValue?_eq_some_iff.mp first) (hexValue?_eq_some_iff.mp second)
        exact absurd ⟨high, low, rest, upper, lower, rfl, digits⟩ malformed
      · rfl

/-- A percent sign takes no part in the digits before it. -/
theorem startsWithDigits_of_append (starts : StartsWithDigits (before ++ '%' :: after)) : StartsWithDigits before := by
  have other (value : Nat) : ¬IsDigit 16 value '%' := fun digit =>
    absurd (hexValue?_eq_some_iff.mpr digit) (by simp [show hexValue? '%' = none from rfl])
  obtain ⟨high, low, rest, upper, lower, same, first, second⟩ := starts
  cases before with
  | nil =>
    obtain ⟨rfl, _⟩ : '%' = high ∧ after = low :: rest := List.cons.inj same
    exact absurd first (other upper)
  | cons c others =>
    obtain ⟨rfl, behind⟩ : c = high ∧ others ++ '%' :: after = low :: rest := List.cons.inj same
    cases others with
    | nil =>
      obtain ⟨rfl, _⟩ : '%' = low ∧ after = rest := List.cons.inj behind
      exact absurd second (other lower)
    | cons d more =>
      obtain ⟨rfl, _⟩ : d = low ∧ more ++ '%' :: after = rest := List.cons.inj behind
      exact ⟨c, d, more, upper, lower, rfl, first, second⟩

theorem decodeBytes_append_percent (malformed : ¬StartsWithDigits after) (before : List Char) :
    decodeBytes (before ++ '%' :: after) = decodeBytes before ++ (String.utf8EncodeChar '%' ++ decodeBytes after) := by
  induction length : before.length using Nat.strong_induction_on generalizing before with
  | _ count ih =>
    subst length
    cases before with
    | nil => exact decodeBytes_percent malformed
    | cons c rest =>
      by_cases percent : c = '%'
      · subst percent
        by_cases starts : StartsWithDigits rest
        · obtain ⟨high, low, others, upper, lower, rfl, first, second⟩ := starts
          have later := ih others.length (by simp only [List.length_cons]; omega) others rfl
          simp only [List.cons_append, decodeBytes_digits first second, later]
        · have later := ih rest.length (Nat.lt_succ_self _) rest rfl
          rw [List.cons_append, decodeBytes_percent (mt startsWithDigits_of_append starts), later,
            decodeBytes_percent starts, List.append_assoc]
      · have later := ih rest.length (Nat.lt_succ_self _) rest rfl
        rw [List.cons_append, decodeBytes_cons percent, later, decodeBytes_cons percent, List.append_assoc]

/-- A percent sign without two digits after it is read as itself between what stands before and after it. -/
theorem decode_append_percent (malformed : ¬StartsWithDigits after) (before : List Char) :
    decode (before ++ '%' :: after) = decode before ++ '%' :: decode after := by
  have single : String.utf8EncodeChar '%' = [0x25] := rfl
  rw [decode, decodeBytes_append_percent malformed, single, List.singleton_append,
    Utf8.decodeLossy_append (by decide)]
  rfl

/-- An encoded text reads back. It consists of unreserved characters and percent signs with two digits, so it
holds nothing that is markup or starts an entity and no blank. A percent sign without two digits after it
stays where it is. -/
theorem encode_inert (text : List Char) : decode (encode text) = text ∧ IsEncoded (encode text) ∧
    (∀ c ∈ encode text, c ∉ "\"'<>&:#@[](){}".toList ∧ isBlank c = false) ∧
    ∀ before after, ¬StartsWithDigits after →
      decode (before ++ '%' :: after) = decode before ++ '%' :: decode after := by
  have encoded := isEncoded_encode text
  have inert : ∀ c ∈ '%' :: unreservedChars, c ∉ "\"'<>&:#@[](){}".toList ∧ isBlank c = false := by decide
  exact ⟨decode_encode text, encoded, fun c member => inert c (encoded.mem c member),
    fun before after malformed => decode_append_percent malformed before⟩

/-- A percent sign with one digit after it, behind the first byte of a longer character. -/
theorem encode_inert_percent : ¬StartsWithDigits ('4' :: 'é' :: "%41".toList) ∧
    decode ("%E3".toList ++ '%' :: '4' :: 'é' :: "%41".toList) =
      decode "%E3".toList ++ '%' :: decode ('4' :: 'é' :: "%41".toList) := by
  have malformed : ¬StartsWithDigits ('4' :: 'é' :: "%41".toList) := by
    rintro ⟨high, low, rest, upper, lower, same, _, second⟩
    obtain ⟨_, behind⟩ := List.cons.inj same
    obtain ⟨rfl, _⟩ := List.cons.inj behind
    have digit := hexValue?_eq_some_iff.mpr second
    rw [show hexValue? 'é' = none from rfl] at digit
    cases digit
  exact ⟨malformed, (encode_inert []).2.2.2 _ _ malformed⟩

end PostMarkup.Percent
