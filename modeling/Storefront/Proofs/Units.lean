import Storefront.Text.Units

/-!
# Characters and their units

A character is spelled by one unit that is no surrogate, or by a lead and a trail. The first
unit tells which, so units fall apart into characters in one way only: `ofChar_append_inj`.
-/

namespace Storefront.Text.Units

theorem isLead_iff {unit : UInt16} :
    isLead unit = true ↔ 0xD800 ≤ unit.toNat ∧ unit.toNat ≤ 0xDBFF := by
  simp [isLead, UInt16.le_iff_toNat_le]

theorem isTrail_iff {unit : UInt16} :
    isTrail unit = true ↔ 0xDC00 ≤ unit.toNat ∧ unit.toNat ≤ 0xDFFF := by
  simp [isTrail, UInt16.le_iff_toNat_le]

/-- The two ways to spell a character. -/
inductive Forms (c : Char) : Units → Prop where
  | single {unit : UInt16} (code : unit.toNat = c.toNat) (noLead : isLead unit = false)
      (noTrail : isTrail unit = false) : Forms c [unit]
  | pair {lead trail : UInt16} (leads : isLead lead = true) (trails : isTrail trail = true)
      (spelled : paired lead trail = c) : Forms c [lead, trail]

/-- No character stands in the range of the surrogates. -/
theorem toNat_range (c : Char) :
    c.toNat < 0xD800 ∨ 0xDFFF < c.toNat ∧ c.toNat < 0x110000 := c.valid

theorem toNat_ofNat {code : Nat} (valid : code.isValidChar) : (Char.ofNat code).toNat = code := by
  rw [Char.ofNat, dif_pos valid]
  rfl

/-- Every character is spelled in one of the two ways. -/
theorem ofChar_forms (c : Char) : Forms c (ofChar c) := by
  have range := toNat_range c
  by_cases small : c.toNat < 0x10000
  · have code : c.toNat.toUInt16.toNat = c.toNat := by
      rw [Nat.toUInt16_eq, UInt16.toNat_ofNat', Nat.mod_eq_of_lt (by omega)]
    have noLead : isLead c.toNat.toUInt16 = false := by
      rw [Bool.eq_false_iff, ne_eq, isLead_iff, code]
      omega
    have noTrail : isTrail c.toNat.toUInt16 = false := by
      rw [Bool.eq_false_iff, ne_eq, isTrail_iff, code]
      omega
    rw [ofChar, if_pos small]
    exact .single code noLead noTrail
  · have lead : (0xD800 + (c.toNat - 0x10000) / 0x400).toUInt16.toNat =
        0xD800 + (c.toNat - 0x10000) / 0x400 := by
      rw [Nat.toUInt16_eq, UInt16.toNat_ofNat', Nat.mod_eq_of_lt (by omega)]
    have trail : (0xDC00 + (c.toNat - 0x10000) % 0x400).toUInt16.toNat =
        0xDC00 + (c.toNat - 0x10000) % 0x400 := by
      rw [Nat.toUInt16_eq, UInt16.toNat_ofNat', Nat.mod_eq_of_lt (by omega)]
    rw [ofChar, if_neg small]
    refine .pair (isLead_iff.mpr (by omega)) (isTrail_iff.mpr (by omega)) ?_
    rw [paired, lead, trail]
    have whole : 0x10000 + (0xD800 + (c.toNat - 0x10000) / 0x400 - 0xD800) * 0x400 +
        (0xDC00 + (c.toNat - 0x10000) % 0x400 - 0xDC00) = c.toNat := by omega
    rw [whole, Char.ofNat_toNat]

/-- A unit that is no surrogate spells the character of its number. -/
theorem ofChar_ofNat {unit : UInt16} (noLead : isLead unit = false)
    (noTrail : isTrail unit = false) : ofChar (Char.ofNat unit.toNat) = [unit] := by
  rw [Bool.eq_false_iff, ne_eq, isLead_iff] at noLead
  rw [Bool.eq_false_iff, ne_eq, isTrail_iff] at noTrail
  have small := unit.toNat_lt
  have valid : unit.toNat.isValidChar := by
    unfold Nat.isValidChar
    omega
  have code : (Char.ofNat unit.toNat).toNat = unit.toNat := toNat_ofNat valid
  rw [ofChar, code, if_pos small]
  simp

/-- A lead and a trail spell the character they are the pair of. -/
theorem ofChar_paired {lead trail : UInt16} (leads : isLead lead = true)
    (trails : isTrail trail = true) : ofChar (paired lead trail) = [lead, trail] := by
  rw [isLead_iff] at leads
  rw [isTrail_iff] at trails
  have valid : (0x10000 + (lead.toNat - 0xD800) * 0x400 + (trail.toNat - 0xDC00)).isValidChar := by
    unfold Nat.isValidChar
    omega
  have code : (paired lead trail).toNat =
      0x10000 + (lead.toNat - 0xD800) * 0x400 + (trail.toNat - 0xDC00) :=
    toNat_ofNat valid
  have high : 0xD800 + ((paired lead trail).toNat - 0x10000) / 0x400 = lead.toNat := by omega
  have low : 0xDC00 + ((paired lead trail).toNat - 0x10000) % 0x400 = trail.toNat := by omega
  rw [ofChar, if_neg (by omega), high, low]
  simp

theorem isLead_of_isTrail {unit : UInt16} (trails : isTrail unit = true) :
    isLead unit = false := by
  rw [isTrail_iff] at trails
  rw [Bool.eq_false_iff, ne_eq, isLead_iff]
  omega

/-- The first character of some units is the first character of the text. -/
theorem ofChar_append_inj {first second : Char} {rest other : Units}
    (same : ofChar first ++ rest = ofChar second ++ other) : first = second ∧ rest = other := by
  have one := ofChar_forms first
  have two := ofChar_forms second
  generalize ofChar first = units at one same
  generalize ofChar second = others at two same
  cases one with
  | single code noLead noTrail =>
      cases two with
      | single here _ _ =>
          obtain ⟨rfl, rfl⟩ := List.cons.inj same
          exact ⟨Char.toNat_inj.mp (code.symm.trans here), rfl⟩
      | pair leads _ _ =>
          obtain ⟨rfl, _⟩ := List.cons.inj same
          simp [leads] at noLead
  | pair leads trails spelled =>
      cases two with
      | single _ noLead _ =>
          obtain ⟨rfl, _⟩ := List.cons.inj same
          simp [leads] at noLead
      | pair _ _ here =>
          obtain ⟨rfl, tail⟩ := List.cons.inj same
          obtain ⟨rfl, rfl⟩ := List.cons.inj tail
          exact ⟨spelled.symm.trans here, rfl⟩

theorem ofChar_ne_nil (c : Char) : ofChar c ≠ [] := by
  have forms := ofChar_forms c
  generalize ofChar c = units at forms
  cases forms <;> simp

/-- No character begins with a trail. -/
theorem ofChar_ne_trail {c : Char} {unit : UInt16} {rest more : Units}
    (trails : isTrail unit = true) : ofChar c ++ more ≠ unit :: rest := by
  have forms := ofChar_forms c
  generalize ofChar c = units at forms
  intro same
  cases forms with
  | single _ _ noTrail =>
      obtain ⟨rfl, _⟩ := List.cons.inj same
      simp [trails] at noTrail
  | pair leads _ _ =>
      obtain ⟨rfl, _⟩ := List.cons.inj same
      simp [isLead_of_isTrail trails] at leads

/-! ## Texts that are read exactly -/

theorem exact_single {unit : UInt16} (noLead : isLead unit = false) (noTrail : isTrail unit = false)
    (rest : Units) : exact (unit :: rest) = (exact rest).map (Char.ofNat unit.toNat :: ·) := by
  cases rest with
  | nil => simp [exact, noLead, noTrail]
  | cons next rest => simp [exact, noLead, noTrail]

theorem exact_pair {lead trail : UInt16} (leads : isLead lead = true)
    (trails : isTrail trail = true) (rest : Units) :
    exact (lead :: trail :: rest) = (exact rest).map (paired lead trail :: ·) := by
  simp [exact, leads, trails]

/-- Characters that are spelled out are read as they are. -/
theorem exact_spelled (chars : List Char) : exact (chars.flatMap ofChar) = some chars := by
  induction chars with
  | nil => rfl
  | cons c chars inductionHypothesis =>
      have forms := ofChar_forms c
      rw [List.flatMap_cons]
      generalize ofChar c = units at forms
      cases forms with
      | single code noLead noTrail =>
          rw [List.singleton_append, exact_single noLead noTrail, inductionHypothesis, code,
            Char.ofNat_toNat]
          rfl
      | pair leads trails spelled =>
          rw [List.cons_append, List.singleton_append, exact_pair leads trails,
            inductionHypothesis, spelled]
          rfl

/-- Units whose surrogates all pair spell what they are read as. -/
theorem spelled_of_exact {units : Units} {chars : List Char} (reads : exact units = some chars) :
    chars.flatMap ofChar = units := by
  induction units using exact.induct generalizing chars with
  | case1 =>
      cases reads
      rfl
  | case2 unit surrogate => simp [exact, surrogate] at reads
  | case3 unit plain =>
      simp only [Bool.or_eq_true, not_or, Bool.not_eq_true] at plain
      rw [exact_single plain.1 plain.2] at reads
      cases reads
      simp [ofChar_ofNat plain.1 plain.2]
  | case4 unit next rest leads trails inductionHypothesis =>
      rw [exact_pair leads trails, Option.map_eq_some_iff] at reads
      obtain ⟨others, further, rfl⟩ := reads
      simp [ofChar_paired leads trails, inductionHypothesis further]
  | case5 unit next rest leads stray => simp [exact, leads, stray] at reads
  | case6 unit next rest noLead trails => simp [exact, noLead, trails] at reads
  | case7 unit next rest noLead noTrail inductionHypothesis =>
      simp only [Bool.not_eq_true] at noLead noTrail
      rw [exact_single noLead noTrail, Option.map_eq_some_iff] at reads
      obtain ⟨others, further, rfl⟩ := reads
      simp [ofChar_ofNat noLead noTrail, inductionHypothesis further]

/-- A text that is handed over is read as it was. -/
theorem decode_encode (text : String) : decode (encode text) = text := by
  rw [decode, encode, exact_spelled, Option.getD_some, String.ofList_toList]

/-- No two texts have the same units. -/
theorem encode_injective : Function.Injective encode :=
  Function.LeftInverse.injective decode_encode

/-- A foreign text whose surrogates all pair is spelled by what it is read as. -/
theorem encode_decode {units : Units} (pairs : (exact units).isSome) :
    encode (decode units) = units := by
  obtain ⟨chars, reads⟩ := Option.isSome_iff_exists.mp pairs
  rw [encode, decode, reads, Option.getD_some, String.toList_ofList, spelled_of_exact reads]

end Storefront.Text.Units
