import MonitorFeed.Text.Utf8

/-!
A text is spelled by its octets: they are read back as it, and only the null character is spelled
with a null octet.
-/

namespace MonitorFeed.Text.Utf8

section Octets

variable {n : Nat}

private theorem toNat_ofNat (small : n < 256) : (UInt8.ofNat n).toNat = n := by
  rw [UInt8.toNat_ofNat', Nat.mod_eq_of_lt small]

private theorem ofNat_lt (small : n < 256) (bound : UInt8) :
    UInt8.ofNat n < bound ↔ n < bound.toNat := by
  rw [UInt8.lt_iff_toNat_lt, toNat_ofNat small]

private theorem ofNat_eq (small : n < 256) (octet : UInt8) :
    UInt8.ofNat n = octet ↔ n = octet.toNat := by
  rw [← UInt8.toNat_inj, toNat_ofNat small]

/-- The first octet of a character by its number. -/
private theorem lead_ofNat (small : n < 256) :
    lead (UInt8.ofNat n) =
      if n < 0x80 then some (.inl (Char.ofNat n))
      else if n < 0xC2 then none
      else if n < 0xE0 then some (.inr (.inside (n - 0xC0) 1 0x80 0xBF))
      else if n < 0xF0 then
        some (.inr (.inside (n - 0xE0) 2 (if n = 0xE0 then 0xA0 else 0x80)
          (if n = 0xED then 0x9F else 0xBF)))
      else if n < 0xF5 then
        some (.inr (.inside (n - 0xF0) 3 (if n = 0xF0 then 0x90 else 0x80)
          (if n = 0xF4 then 0x8F else 0xBF)))
      else none := by
  simp only [lead, ofNat_lt small, ofNat_eq small, toNat_ofNat small]
  rfl

private theorem scan_lead {octet : UInt8} {state : State} (leads : lead octet = some (.inr state))
    (rest : List UInt8) : scan .ready (octet :: rest) = scan state rest := by
  simp only [scan, leads]

section Inside

variable {gathered missing bits : Nat} {lowest highest : UInt8}

/-- A further octet of a character adds six bits to those gathered. -/
private theorem scan_inside (small : bits < 64) (low : lowest.toNat ≤ bits + 0x80)
    (high : bits + 0x80 ≤ highest.toNat) (rest : List UInt8) :
    scan (.inside gathered missing lowest highest) (UInt8.ofNat (bits + 0x80) :: rest) =
      if missing ≤ 1 then some (Char.ofNat (gathered * 64 + bits)) :: scan .ready rest
      else scan (.inside (gathered * 64 + bits) (missing - 1) 0x80 0xBF) rest := by
  have octet : (UInt8.ofNat (bits + 0x80)).toNat = bits + 0x80 := toNat_ofNat (by omega)
  have inside : lowest ≤ UInt8.ofNat (bits + 0x80) ∧ UInt8.ofNat (bits + 0x80) ≤ highest := by
    rw [UInt8.le_iff_toNat_le, UInt8.le_iff_toNat_le, octet]
    exact ⟨low, high⟩
  simp only [scan, inside, and_self, ↓reduceIte, octet, Nat.add_sub_cancel]

private theorem scan_last (small : bits < 64) (rest : List UInt8) :
    scan (.inside gathered 1 0x80 0xBF) (UInt8.ofNat (bits + 0x80) :: rest) =
      some (Char.ofNat (gathered * 64 + bits)) :: scan .ready rest :=
  scan_inside small (Nat.le_add_left _ _) (Nat.add_le_add_right (Nat.le_of_lt_succ small) _) rest

end Inside

end Octets

/-- A character is read from its octets, whatever follows them. -/
theorem scan_utf8EncodeChar (c : Char) (rest : List UInt8) :
    scan .ready (String.utf8EncodeChar c ++ rest) = some c :: scan .ready rest := by
  have number : Char.ofNat c.val.toNat = c := Char.ofNat_toNat c
  have valid : c.val.toNat < 0xD800 ∨ 0xDFFF < c.val.toNat ∧ c.val.toNat < 0x110000 := c.valid
  -- The four lengths of a character. The bounds of the second octet keep out what is overlong, a
  -- surrogate or beyond the last character.
  fun_cases String.utf8EncodeChar c with
  | case1 n one =>
    have leads := lead_ofNat (n := n) (by omega)
    rw [if_pos (by omega)] at leads
    simp only [List.singleton_append, scan, leads, n, number]
  | case2 n _ two =>
    have leads := lead_ofNat (n := n / 64 % 32 + 0xC0) (by omega)
    rw [if_neg (by omega), if_neg (by omega), if_pos (by omega), Nat.add_sub_cancel] at leads
    have whole : n / 64 % 32 * 64 + n % 64 = n := by omega
    simp only [List.cons_append, List.nil_append]
    rw [scan_lead leads, scan_last (by omega), whole, number]
  | case3 n _ long three =>
    have leads := lead_ofNat (n := n / 4096 % 16 + 0xE0) (by omega)
    rw [if_neg (by omega), if_neg (by omega), if_neg (by omega), if_pos (by omega),
      Nat.add_sub_cancel] at leads
    have whole : (n / 4096 % 16 * 64 + n / 64 % 64) * 64 + n % 64 = n := by omega
    simp only [List.cons_append, List.nil_append]
    rw [scan_lead leads, scan_inside (by omega) ?low ?high, if_neg (by omega),
      scan_last (by omega), whole, number]
    case low =>
      split
      · simp
        omega
      · simp
    case high =>
      split
      · simp
        omega
      · simp
        omega
  | case4 n _ _ long =>
    have leads := lead_ofNat (n := n / 262144 % 8 + 0xF0) (by omega)
    rw [if_neg (by omega), if_neg (by omega), if_neg (by omega), if_neg (by omega),
      if_pos (by omega), Nat.add_sub_cancel] at leads
    have whole : ((n / 262144 % 8 * 64 + n / 4096 % 64) * 64 + n / 64 % 64) * 64 + n % 64 = n := by
      omega
    simp only [List.cons_append, List.nil_append]
    rw [scan_lead leads, scan_inside (by omega) ?low ?high, if_neg (by omega),
      scan_inside (by omega) (by simp) (by simp; omega), if_neg (by omega),
      scan_last (by omega), whole, number]
    case low =>
      split
      · simp
        omega
      · simp
    case high =>
      split
      · simp
        omega
      · simp
        omega

theorem scan_encode (text : List Char) : scan .ready (encode text) = text.map some := by
  induction text with
  | nil => rfl
  | cons c rest ih =>
    rw [encode, List.flatMap_cons, scan_utf8EncodeChar, List.map_cons]
    exact congrArg _ ih

/-- A text is read back from its octets. -/
@[simp] theorem decode?_encode (text : List Char) : decode? (encode text) = some text := by
  rw [decode?, scan_encode]
  induction text with
  | nil => rfl
  | cons c rest ih => simp [ih]

/-- Nothing of a text is replaced when its octets are read. -/
@[simp] theorem decodeLossy_encode (text : List Char) : decodeLossy (encode text) = text := by
  rw [decodeLossy, scan_encode, List.map_map]
  exact List.map_id text

private theorem zero_not_mem_utf8EncodeChar {c : Char} (passes : c ≠ '\x00') :
    0 ∉ String.utf8EncodeChar c := by
  have positive : c.val.toNat ≠ 0 := fun zero => passes (Char.toNat_inj.mp zero)
  have kept {n : Nat} (small : n < 256) (positive : n ≠ 0) : (0 : UInt8) ≠ UInt8.ofNat n := by
    intro zero
    exact positive ((ofNat_eq small 0).mp zero.symm)
  fun_cases String.utf8EncodeChar c with
  | case1 n one =>
    rw [List.mem_singleton]
    exact kept (by omega) positive
  | case2 n _ two =>
    simp only [List.mem_cons, List.not_mem_nil, or_false, not_or]
    exact ⟨kept (by omega) (by omega), kept (by omega) (by omega)⟩
  | case3 n _ _ three =>
    simp only [List.mem_cons, List.not_mem_nil, or_false, not_or]
    exact ⟨kept (by omega) (by omega), kept (by omega) (by omega), kept (by omega) (by omega)⟩
  | case4 n _ _ _ =>
    simp only [List.mem_cons, List.not_mem_nil, or_false, not_or]
    exact ⟨kept (by omega) (by omega), kept (by omega) (by omega), kept (by omega) (by omega),
      kept (by omega) (by omega)⟩

/-- Only the null character has a null octet. -/
theorem zero_not_mem_encode {text : List Char} (passes : '\x00' ∉ text) : 0 ∉ encode text := by
  intro member
  obtain ⟨c, found, octet⟩ := List.mem_flatMap.mp member
  exact zero_not_mem_utf8EncodeChar (fun null => passes (null ▸ found)) octet

/-- The size of a text is the number of its octets. -/
theorem length_encode (text : String) : (encode text.toList).length = text.utf8ByteSize := by
  rw [String.utf8ByteSize, ← String.utf8Encode_toList, List.utf8Encode, encode,
    List.size_toByteArray]

end MonitorFeed.Text.Utf8
