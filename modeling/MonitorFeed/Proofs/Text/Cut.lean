import MonitorFeed.Proofs.Text.Utf8

/-!
Texts whose octets are cut off. The characters that are whole are read as they are; one that is cut
apart is replaced, once, however many of its octets are left.
-/

namespace MonitorFeed.Text.Utf8

section Scans

variable {octet : UInt8} {octets : List UInt8} {state : State}

theorem lead_ne_ready : lead octet ≠ some (.inr .ready) := by
  unfold lead
  split
  · simp
  split
  · simp
  split
  · simp
  split
  · simp
  split <;> simp

theorem scan_inside_ne_nil (inside : state ≠ .ready) (octets : List UInt8) :
    scan state octets ≠ [] := by
  induction octets generalizing state with
  | nil =>
    cases state with
    | ready => exact absurd rfl inside
    | inside gathered missing lowest highest => simp [scan]
  | cons octet octets ih =>
    cases state with
    | ready => exact absurd rfl inside
    | inside gathered missing lowest highest =>
      rw [scan]
      split
      · simp only
        split
        · exact List.cons_ne_nil _ _
        · exact ih (by simp)
      · split <;> exact List.cons_ne_nil _ _

/-- Octets are never read as nothing. -/
theorem scan_ne_nil (some : octets ≠ []) : scan .ready octets ≠ [] := by
  cases octets with
  | nil => exact absurd rfl some
  | cons octet octets =>
    rw [scan]
    split
    · exact List.cons_ne_nil _ _
    · exact List.cons_ne_nil _ _
    · rename_i state leads
      refine scan_inside_ne_nil ?_ octets
      rintro rfl
      exact lead_ne_ready leads

/-- Octets that would make one character are refused once where they are cut off. -/
theorem scan_of_cut {c : Char} {kept lost : List UInt8} (more : lost ≠ [])
    (begun : state ≠ .ready ∨ kept ≠ []) (whole : scan state (kept ++ lost) = [some c]) :
    scan state kept = [none] := by
  induction kept generalizing state with
  | nil =>
    cases state with
    | ready => simp at begun
    | inside gathered missing lowest highest => rfl
  | cons octet kept ih =>
    have others : kept ++ lost ≠ [] := List.append_ne_nil_of_right_ne_nil kept more
    have single {first : Option Char} (read : first :: scan .ready (kept ++ lost) = [some c]) :
        False :=
      scan_ne_nil others (List.cons_eq_cons.mp read).2
    cases state with
    | ready =>
      rw [List.cons_append, scan] at whole
      rw [scan]
      cases leads : lead octet with
      | none =>
        rw [leads] at whole
        exact (single whole).elim
      | some started =>
        rw [leads] at whole
        cases started with
        | inl other => exact (single whole).elim
        | inr next =>
          refine ih (.inl ?_) whole
          rintro rfl
          exact lead_ne_ready leads
    | inside gathered missing lowest highest =>
      rw [List.cons_append, scan] at whole
      rw [scan]
      split at whole
      · rename_i within
        rw [if_pos within]
        simp only at whole ⊢
        split at whole
        · exact (single whole).elim
        · rename_i further
          rw [if_neg further]
          exact ih (.inl (by simp)) whole
      · split at whole <;> cases whole

end Scans

/-- The octets of one character that is cut apart are replaced once. -/
theorem scan_take_utf8EncodeChar {c : Char} {count : Nat} (positive : count ≠ 0)
    (short : count < c.utf8Size) : scan .ready ((String.utf8EncodeChar c).take count) = [none] := by
  have length := String.length_utf8EncodeChar c
  have whole : scan .ready (String.utf8EncodeChar c) = [some c] := by
    simpa [scan] using scan_utf8EncodeChar c []
  have more : (String.utf8EncodeChar c).drop count ≠ [] := by
    rw [Ne, List.drop_eq_nil_iff]
    omega
  have begun : (String.utf8EncodeChar c).take count ≠ [] := by
    rw [Ne, List.take_eq_nil_iff]
    rintro (none | none)
    · exact positive none
    · rw [none, List.length_nil] at length
      omega
  rw [← List.take_append_drop count (String.utf8EncodeChar c)] at whole
  exact scan_of_cut more (.inr begun) whole

/-- The whole characters of a text that have room in a number of octets. -/
def fitting (limit : Nat) : List Char → List Char
  | [] => []
  | c :: rest => if c.utf8Size ≤ limit then c :: fitting (limit - c.utf8Size) rest else []

/-- The longest beginning of a text that has room in a number of octets. -/
structure IsLongestFit (limit : Nat) (kept text : List Char) : Prop where
  begins : kept <+: text
  fits : size kept ≤ limit
  longest : ∀ other, other <+: text → size other ≤ limit → other <+: kept

@[simp] theorem size_nil : size [] = 0 := rfl

@[simp] theorem size_cons (c : Char) (text : List Char) : size (c :: text) = c.utf8Size + size text :=
  rfl

theorem size_eq_length_encode (text : List Char) : size text = (encode text).length := by
  induction text with
  | nil => rfl
  | cons c text ih =>
    rw [size_cons, ih, encode, encode, List.flatMap_cons, List.length_append,
      String.length_utf8EncodeChar]

theorem isLongestFit_fitting (limit : Nat) (text : List Char) :
    IsLongestFit limit (fitting limit text) text := by
  induction text generalizing limit with
  | nil => exact ⟨List.nil_prefix, Nat.zero_le _, fun other begins _ => begins⟩
  | cons c text ih =>
    rw [fitting]
    split
    · rename_i room
      obtain ⟨begins, fits, longest⟩ := ih (limit - c.utf8Size)
      refine ⟨List.prefix_cons_inj _ |>.mpr begins, ?_, fun other starts within => ?_⟩
      · rw [size_cons]
        omega
      · rcases List.prefix_cons_iff.mp starts with rfl | ⟨others, rfl, goesOn⟩
        · exact List.nil_prefix
        · rw [size_cons] at within
          exact (List.prefix_cons_inj _).mpr (longest others goesOn (by omega))
    · rename_i full
      refine ⟨List.nil_prefix, Nat.zero_le _, fun other starts within => ?_⟩
      rcases List.prefix_cons_iff.mp starts with rfl | ⟨others, rfl, -⟩
      · exact List.nil_prefix
      · rw [size_cons] at within
        omega

theorem IsLongestFit.eq {limit : Nat} {kept other text : List Char}
    (one : IsLongestFit limit kept text) (another : IsLongestFit limit other text) : kept = other :=
  (another.longest kept one.begins one.fits).eq_of_length_le
    (one.longest other another.begins another.fits).length_le

/-- A text whose octets are cut off is read as its whole characters, and a replacement if one is cut
apart. -/
theorem decodeLossy_take_encode {limit : Nat} {text : List Char} (long : limit < size text) :
    decodeLossy ((encode text).take limit) =
      fitting limit text ++ if size (fitting limit text) = limit then [] else ['\uFFFD'] := by
  induction text generalizing limit with
  | nil => cases long
  | cons c text ih =>
    have octets : encode (c :: text) = String.utf8EncodeChar c ++ encode text := rfl
    have length := String.length_utf8EncodeChar c
    rw [octets, List.take_append, fitting, length]
    split
    · rename_i room
      have longer : limit - c.utf8Size < size text := by
        rw [size_cons] at long
        omega
      have later := ih longer
      have same : size (c :: fitting (limit - c.utf8Size) text) = limit ↔
          size (fitting (limit - c.utf8Size) text) = limit - c.utf8Size := by
        rw [size_cons]
        omega
      rw [List.take_of_length_le (by omega), decodeLossy, scan_utf8EncodeChar, List.map_cons,
        ← decodeLossy, later]
      simp only [same]
      rfl
    · rename_i full
      have nothing : limit - c.utf8Size = 0 := by omega
      rw [nothing, List.take_zero, List.append_nil, size_nil, List.nil_append]
      by_cases zero : limit = 0
      · subst zero
        rfl
      · rw [decodeLossy, scan_take_utf8EncodeChar zero (by omega), if_neg (Ne.symm zero)]
        rfl

end MonitorFeed.Text.Utf8
