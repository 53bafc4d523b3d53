import PostMarkup.Text.Utf8

/-! # UTF-8 reads back

A character is written as a first byte, which announces how many bytes follow, and bytes that hold
six bits each. Reading takes exactly these bytes, so the text of the bytes of a text is that text.
-/

namespace PostMarkup.Text.Utf8

/-- A first byte announces its followers when the code point starts with its bits and the first
follower is in range. -/
def Announces (byte more bits next : Nat) : Prop :=
  ∃ lead, lead? byte = some lead ∧ lead.more = more ∧ lead.bits = bits ∧
    lead.low ≤ next ∧ next ≤ lead.high

variable {code : Nat}

theorem announces_two (low : 0x80 ≤ code) (high : code ≤ 0x7ff) :
    Announces (code / 64 + 0xc0) 1 (code / 64) (code % 64 + 0x80) := by
  refine ⟨⟨1, 0x80, 0xbf, code / 64 + 0xc0 - 0xc0⟩, ?_, rfl, ?_, ?_, ?_⟩
  · rw [lead?, if_neg (by omega), if_pos (by omega)]
  all_goals
    dsimp only
    omega

theorem announces_three (low : 0x800 ≤ code) (high : code ≤ 0xffff)
    (scalar : code < 0xd800 ∨ 0xdfff < code) :
    Announces (code / 4096 + 0xe0) 2 (code / 4096) (code / 64 % 64 + 0x80) := by
  unfold Announces lead?
  rw [if_neg (by omega), if_neg (by omega)]
  split
  case' isFalse =>
    split
    case' isFalse => rw [if_pos (by omega)]
  all_goals
    refine ⟨_, rfl, rfl, ?_, ?_, ?_⟩
    all_goals
      dsimp only
      omega

theorem announces_four (low : 0x10000 ≤ code) (high : code < 0x110000) :
    Announces (code / 262144 + 0xf0) 3 (code / 262144) (code / 4096 % 64 + 0x80) := by
  unfold Announces lead?
  rw [if_neg (by omega), if_neg (by omega), if_neg (by omega), if_neg (by omega),
    if_neg (by omega)]
  split
  case' isFalse =>
    split
    case' isFalse => rw [if_pos (by omega)]
  all_goals
    refine ⟨_, rfl, rfl, ?_, ?_, ?_⟩
    all_goals
      dsimp only
      omega

/-- Bytes in range are taken as followers. -/
theorem continuation_following {low high : Nat} {next : UInt8} {others : List UInt8}
    (inRange : low ≤ next.toNat ∧ next.toNat ≤ high)
    (further : ∀ byte ∈ others, 0x80 ≤ byte.toNat ∧ byte.toNat ≤ 0xbf) (rest : List UInt8) :
    continuation (others.length + 1) low high (next :: (others ++ rest)) = others.length + 1 := by
  simp only [continuation, inRange, and_self, if_true, Nat.add_right_cancel_iff]
  induction others with
  | nil => cases rest <;> rfl
  | cons byte more ih =>
    obtain ⟨first, later⟩ := List.forall_mem_cons.mp further
    simp [continuation, first, ih later]

/-- A first byte with the followers that it announces is read as their code point. -/
theorem first_of_announces {byte next : UInt8} {bits : Nat} (others : List UInt8)
    (announced : Announces byte.toNat (others.length + 1) bits next.toNat)
    (several : 0x80 ≤ byte.toNat)
    (further : ∀ other ∈ others, 0x80 ≤ other.toNat ∧ other.toNat ≤ 0xbf)
    (whole : codePoint bits (next :: others) = code) (rest : List UInt8) :
    first byte ((next :: others) ++ rest) = (some (Char.ofNat code), (next :: others).length) := by
  obtain ⟨lead, read, more, rfl, low, high⟩ := announced
  have taken := continuation_following ⟨low, high⟩ further rest
  unfold first
  rw [if_neg (by omega), read]
  simp [more, taken, whole]

theorem toNat_ofNat_of_lt {value : Nat} (small : value < 0x100) :
    (UInt8.ofNat value).toNat = value := by
  rw [UInt8.toNat_ofNat']
  exact Nat.mod_eq_of_lt small

/-- The bytes of a character are read as that character. -/
theorem first_utf8EncodeChar (c : Char) :
    ∃ byte following, String.utf8EncodeChar c = byte :: following ∧
      ∀ rest, first byte (following ++ rest) = (some c, following.length) := by
  have scalar : c.val.toNat < 0xd800 ∨ 0xdfff < c.val.toNat ∧ c.val.toNat < 0x110000 := c.valid
  have back : Char.ofNat c.val.toNat = c := Char.ofNat_toNat c
  unfold String.utf8EncodeChar
  generalize c.val.toNat = code at scalar back
  dsimp only
  have tail (value : Nat) : (UInt8.ofNat (value % 64 + 0x80)).toNat = value % 64 + 0x80 :=
    toNat_ofNat_of_lt (by omega)
  have inRange (value : Nat) (other : UInt8) (same : other = UInt8.ofNat (value % 64 + 0x80)) :
      0x80 ≤ other.toNat ∧ other.toNat ≤ 0xbf := by
    rw [same, tail]
    omega
  rw [← back]
  split
  · refine ⟨_, [], rfl, fun rest => ?_⟩
    have value : (UInt8.ofNat code).toNat = code := toNat_ofNat_of_lt (by omega)
    simp only [first, value]
    rw [if_pos (by omega)]
    rfl
  · split
    · have lead : (UInt8.ofNat (code / 64 % 32 + 0xc0)).toNat = code / 64 + 0xc0 := by
        rw [toNat_ofNat_of_lt (by omega)]
        omega
      have announced := announces_two (by omega : 0x80 ≤ code) (by omega)
      rw [← lead, ← tail code] at announced
      refine ⟨_, _, rfl, first_of_announces [] announced (by omega) (by simp) ?_⟩
      simp only [codePoint, List.foldl_cons, List.foldl_nil, tail]
      omega
    · split
      · have lead : (UInt8.ofNat (code / 4096 % 16 + 0xe0)).toNat = code / 4096 + 0xe0 := by
          rw [toNat_ofNat_of_lt (by omega)]
          omega
        have announced := announces_three (by omega : 0x800 ≤ code) (by omega) (by omega)
        rw [← lead, ← tail (code / 64)] at announced
        refine ⟨_, _, rfl, first_of_announces [_] announced (by omega) ?_ ?_⟩
        · exact List.forall_mem_singleton.mpr (inRange code _ rfl)
        · simp only [codePoint, List.foldl_cons, List.foldl_nil, tail]
          omega
      · have lead : (UInt8.ofNat (code / 262144 % 8 + 0xf0)).toNat = code / 262144 + 0xf0 := by
          rw [toNat_ofNat_of_lt (by omega)]
          omega
        have announced := announces_four (by omega : 0x10000 ≤ code) (by omega)
        rw [← lead, ← tail (code / 4096)] at announced
        refine ⟨_, _, rfl, first_of_announces [_, _] announced (by omega) ?_ ?_⟩
        · exact List.forall_mem_cons.mpr ⟨inRange (code / 64) _ rfl,
            List.forall_mem_singleton.mpr (inRange code _ rfl)⟩
        · simp only [codePoint, List.foldl_cons, List.foldl_nil, tail]
          omega

/-- The text of the bytes of a text is that text. -/
theorem decodeLossy_encode (text : List Char) : decodeLossy (encode text) = text := by
  induction text with
  | nil => simp [encode, decodeLossy]
  | cons c rest ih =>
    obtain ⟨byte, following, written, read⟩ := first_utf8EncodeChar c
    have shape : encode (c :: rest) = byte :: (following ++ encode rest) := by
      simp [encode, written]
    rw [shape, decodeLossy, read]
    simp [ih]

/-- A character of ASCII is one byte. -/
theorem utf8EncodeChar_of_ascii {c : Char} (ascii : c.toNat < 0x80) :
    String.utf8EncodeChar c = [UInt8.ofNat c.toNat] := by
  have low : c.val.toNat ≤ 0x7f := Nat.le_of_lt_succ ascii
  exact if_pos low

theorem length_encode_of_ascii {text : List Char} (ascii : ∀ c ∈ text, c.toNat < 0x80) :
    (encode text).length = text.length := by
  induction text with
  | nil => rfl
  | cons c rest ih =>
    obtain ⟨first, others⟩ := List.forall_mem_cons.mp ascii
    have split : encode (c :: rest) = String.utf8EncodeChar c ++ encode rest := rfl
    rw [split, utf8EncodeChar_of_ascii first, List.singleton_append, List.length_cons, List.length_cons, ih others]

section Ascii

variable {byte : UInt8} {left right : List UInt8} {more low high : Nat}

theorem low_of_lead? {lead : Lead} {value : Nat} (read : lead? value = some lead) : 0x80 ≤ lead.low := by
  unfold lead? at read
  repeat' split at read
  all_goals cases read
  all_goals dsimp only
  all_goals omega

theorem continuation_le (more low high : Nat) (bytes : List UInt8) :
    continuation more low high bytes ≤ bytes.length := by
  induction bytes generalizing more low high with
  | nil => simp [continuation]
  | cons byte rest ih =>
    cases more with
    | zero => exact Nat.zero_le _
    | succ more =>
      rw [continuation]
      split
      · exact Nat.succ_le_succ (ih more 0x80 0xbf)
      · exact Nat.zero_le _

/-- A byte of ASCII continues no character. -/
theorem continuation_append (ascii : byte.toNat < 0x80) (beyond : 0x80 ≤ low) :
    continuation more low high (left ++ byte :: right) = continuation more low high left := by
  induction left generalizing more low high with
  | nil =>
    cases more with
    | zero => rfl
    | succ more =>
      have outside : ¬(low ≤ byte.toNat ∧ byte.toNat ≤ high) := by omega
      rw [List.nil_append, continuation, continuation]
      exact if_neg outside
  | cons next rest ih =>
    cases more with
    | zero => rfl
    | succ more => rw [List.cons_append, continuation, continuation, ih (Nat.le_refl _)]

theorem first_append (ascii : byte.toNat < 0x80) (start : UInt8) (left right : List UInt8) :
    first start (left ++ byte :: right) = first start left := by
  unfold first
  cases read : lead? start.toNat with
  | none => rfl
  | some lead =>
    have within := continuation_le lead.more lead.low lead.high left
    simp only [continuation_append ascii (low_of_lead? read), List.take_append_of_le_length within]

theorem taken_le (start : UInt8) (rest : List UInt8) : (first start rest).2 ≤ rest.length := by
  unfold first
  split
  · exact Nat.zero_le _
  · cases lead? start.toNat with
    | none => exact Nat.zero_le _
    | some lead =>
      have within := continuation_le lead.more lead.low lead.high rest
      simp only
      split <;> exact within

/-- Bytes are read on either side of a byte of ASCII by themselves. -/
theorem decodeLossy_append (ascii : byte.toNat < 0x80) (left right : List UInt8) :
    decodeLossy (left ++ byte :: right) = decodeLossy left ++ Char.ofNat byte.toNat :: decodeLossy right := by
  fun_induction decodeLossy left with
  | case1 =>
    have own : first byte right = (some (Char.ofNat byte.toNat), 0) := if_pos ascii
    rw [List.nil_append, decodeLossy, own]
    rfl
  | case2 start rest decoded taken read ih =>
    have within := taken_le start rest
    rw [read] at within
    rw [List.cons_append, decodeLossy, first_append ascii, read]
    simp only
    rw [List.drop_append_of_le_length within, ih, List.cons_append]

end Ascii

end PostMarkup.Text.Utf8
