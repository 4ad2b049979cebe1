import Mathlib.Algebra.Group.Nat.Defs
import RobotMaze.Text.Base64Url

/-! # The written form of bytes

    The bits of the bytes, in a row and filled up with zero bits, are cut into
    groups of six, and each group is a character of an alphabet of 64.

    * `sextets` — the groups of some bytes as numbers; the written form is their
      characters (`encode_eq_map`);
    * `bytes?_sextets`, `eq_sextets_of_bytes?` — the bytes are read back from their
      groups and from no other numbers;
    * `decode?_eq_some_iff` — so reading accepts what is written, and nothing else;
    * `IsFormOf` — the rule of the format in terms of bits, and `isFormOf_iff` — what
      is written is the one form that has them. -/

namespace RobotMaze.Text.Base64Url

/-! ## Characters -/

/-- The characters of the numbers below 64, in order. -/
def alphabet : List Char :=
  "ABCDEFGHIJKLMNOPQRSTUVWXYZabcdefghijklmnopqrstuvwxyz0123456789-_".toList

theorem alphabet_eq : alphabet = (List.range 64).map digit := by decide

theorem value?_digit : ∀ n < 64, value? (digit n) = some n := by decide

/-- A character that has a number is the character of that number. -/
theorem digit_of_value? {c : Char} {n : Nat} (h : value? c = some n) : n < 64 ∧ digit n = c := by
  have hof : ∀ m, c.toNat = m → Char.ofNat m = c := by
    rintro m rfl
    exact Char.ofNat_toNat c
  simp only [value?] at h
  split at h
  · rename_i hc
    have hlow : 65 ≤ c.toNat := hc.1
    have hhigh : c.toNat ≤ 90 := hc.2
    obtain rfl := Option.some.inj h
    exact ⟨by omega, by rw [digit, if_pos (by omega)]; exact hof _ (by omega)⟩
  split at h
  · rename_i hc
    have hlow : 97 ≤ c.toNat := hc.1
    have hhigh : c.toNat ≤ 122 := hc.2
    obtain rfl := Option.some.inj h
    refine ⟨by omega, ?_⟩
    rw [digit, if_neg (by omega), if_pos (by omega)]
    exact hof _ (by omega)
  split at h
  · rename_i hc
    have hlow : 48 ≤ c.toNat := hc.1
    have hhigh : c.toNat ≤ 57 := hc.2
    obtain rfl := Option.some.inj h
    refine ⟨by omega, ?_⟩
    rw [digit, if_neg (by omega), if_neg (by omega), if_pos (by omega)]
    exact hof _ (by omega)
  split at h
  · rename_i hc
    obtain rfl := Option.some.inj h
    exact ⟨by decide, hc.symm⟩
  split at h
  · rename_i hc
    obtain rfl := Option.some.inj h
    exact ⟨by decide, hc.symm⟩
  · cases h

/-! ## Groups of six bits -/

/-- The numbers of the groups; the last one ends in zero bits if the bytes do not fill it. -/
def sextets : List UInt8 → List Nat
  | [] => []
  | [a] => [a.toNat / 4, a.toNat % 4 * 16]
  | [a, b] => [a.toNat / 4, a.toNat % 4 * 16 + b.toNat / 16, b.toNat % 16 * 4]
  | a :: b :: c :: rest =>
      a.toNat / 4 :: (a.toNat % 4 * 16 + b.toNat / 16) :: (b.toNat % 16 * 4 + c.toNat / 64)
        :: c.toNat % 64 :: sextets rest

theorem encode_eq_map (bytes : List UInt8) : encode bytes = (sextets bytes).map digit := by
  induction bytes using encode.induct with
  | case1 => rfl
  | case2 a => rfl
  | case3 a b => rfl
  | case4 a b c rest ih =>
      rw [encode, ih]
      rfl

theorem lt_of_mem_sextets {bytes : List UInt8} : ∀ n ∈ sextets bytes, n < 64 := by
  induction bytes using sextets.induct with
  | case1 => exact fun _ h => nomatch h
  | case2 a =>
      have ha := a.toNat_lt
      simp only [sextets, List.mem_cons, List.not_mem_nil, or_false, forall_eq_or_imp, forall_eq]
      omega
  | case3 a b =>
      have ha := a.toNat_lt
      have hb := b.toNat_lt
      simp only [sextets, List.mem_cons, List.not_mem_nil, or_false, forall_eq_or_imp, forall_eq]
      omega
  | case4 a b c rest ih =>
      have ha := a.toNat_lt
      have hb := b.toNat_lt
      have hc := c.toNat_lt
      simp only [sextets, List.forall_mem_cons]
      exact ⟨by omega, by omega, by omega, by omega, ih⟩

/-- There are as many groups as the bits of the bytes begin. -/
theorem length_sextets (bytes : List UInt8) : (sextets bytes).length = (bytes.length * 4 + 2) / 3 := by
  induction bytes using sextets.induct with
  | case1 => rfl
  | case2 a => simp [sextets]
  | case3 a b => simp [sextets]
  | case4 a b c rest ih =>
      simp only [sextets, List.length_cons, ih]
      omega

theorem ofNat_eq {a : UInt8} {n : Nat} (h : n = a.toNat) : UInt8.ofNat n = a := by
  rw [h, UInt8.ofNat_toNat]

/-- The bytes are read back from their groups. -/
theorem bytes?_sextets (bytes : List UInt8) : bytes? (sextets bytes) = some bytes := by
  induction bytes using sextets.induct with
  | case1 => rfl
  | case2 a =>
      have ha := a.toNat_lt
      simp only [sextets, bytes?]
      rw [if_pos (by omega), ofNat_eq (a := a) (by omega)]
  | case3 a b =>
      have ha := a.toNat_lt
      have hb := b.toNat_lt
      simp only [sextets, bytes?]
      rw [if_pos (by omega), ofNat_eq (a := a) (by omega), ofNat_eq (a := b) (by omega)]
  | case4 a b c rest ih =>
      have ha := a.toNat_lt
      have hb := b.toNat_lt
      have hc := c.toNat_lt
      simp only [sextets, bytes?, ih, Option.map_some]
      rw [ofNat_eq (a := a) (by omega), ofNat_eq (a := b) (by omega), ofNat_eq (a := c) (by omega)]

theorem toNat_ofNat {n : Nat} (h : n < 256) : (UInt8.ofNat n).toNat = n :=
  UInt8.toNat_ofNat_of_lt' h

/-- From no other numbers are they read: the bits that belong to no byte must be zero. -/
theorem eq_sextets_of_bytes? {numbers : List Nat} {bytes : List UInt8}
    (h : bytes? numbers = some bytes) (hlt : ∀ n ∈ numbers, n < 64) :
    numbers = sextets bytes := by
  induction numbers using bytes?.induct generalizing bytes with
  | case1 =>
      obtain rfl := Option.some.inj h
      rfl
  | case2 => cases h
  | case3 a b hb =>
      simp only [List.mem_cons, List.not_mem_nil, or_false, forall_eq_or_imp, forall_eq] at hlt
      rw [bytes?, if_pos hb] at h
      obtain rfl := Option.some.inj h
      simp only [sextets, toNat_ofNat (show a * 4 + b / 16 < 256 by omega)]
      congr 2 <;> omega
  | case4 a b hb =>
      rw [bytes?, if_neg hb] at h
      cases h
  | case5 a b c hc =>
      simp only [List.mem_cons, List.not_mem_nil, or_false, forall_eq_or_imp, forall_eq] at hlt
      rw [bytes?, if_pos hc] at h
      obtain rfl := Option.some.inj h
      simp only [sextets, toNat_ofNat (show a * 4 + b / 16 < 256 by omega),
        toNat_ofNat (show b % 16 * 16 + c / 4 < 256 by omega)]
      congr 3 <;> omega
  | case6 a b c hc =>
      rw [bytes?, if_neg hc] at h
      cases h
  | case7 a b c d rest ih =>
      simp only [List.forall_mem_cons] at hlt
      obtain ⟨ha, hb, hc, hd, hrest⟩ := hlt
      obtain ⟨tail, htail, rfl⟩ := Option.map_eq_some_iff.mp h
      simp only [sextets, toNat_ofNat (show a * 4 + b / 16 < 256 by omega),
        toNat_ofNat (show b % 16 * 16 + c / 4 < 256 by omega),
        toNat_ofNat (show c % 4 * 64 + d < 256 by omega), ← ih htail hrest]
      congr 4 <;> omega

/-! ## Reading and writing -/

/-- The numbers of characters are what the characters are written from. -/
theorem mapM_value?_eq_some_iff {cs : List Char} {numbers : List Nat} :
    cs.mapM value? = some numbers ↔ (∀ n ∈ numbers, n < 64) ∧ cs = numbers.map digit := by
  induction cs generalizing numbers with
  | nil =>
      rw [List.mapM_nil]
      constructor
      · intro h
        obtain rfl : [] = numbers := Option.some.inj h
        exact ⟨List.forall_mem_nil _, rfl⟩
      · rintro ⟨-, h⟩
        rw [List.map_eq_nil_iff.mp h.symm]
        rfl
  | cons c cs ih =>
      rw [List.mapM_cons]
      constructor
      · intro h
        obtain ⟨n, hn, hrest⟩ := Option.bind_eq_some_iff.mp h
        obtain ⟨more, hmore, heq⟩ := Option.bind_eq_some_iff.mp hrest
        obtain rfl : n :: more = numbers := Option.some.inj heq
        obtain ⟨hlt, rfl⟩ := ih.mp hmore
        obtain ⟨hfirst, rfl⟩ := digit_of_value? hn
        exact ⟨List.forall_mem_cons.mpr ⟨hfirst, hlt⟩, rfl⟩
      · rintro ⟨hlt, h⟩
        cases numbers with
        | nil => cases h
        | cons n numbers =>
            obtain ⟨rfl, hmore⟩ := List.cons.inj h
            obtain ⟨hfirst, hrest⟩ := List.forall_mem_cons.mp hlt
            rw [value?_digit n hfirst, ih.mpr ⟨hrest, hmore⟩]
            rfl

/-- Reading accepts what is written, and nothing else. -/
theorem decode?_eq_some_iff {cs : List Char} {bytes : List UInt8} :
    decode? cs = some bytes ↔ cs = encode bytes := by
  rw [encode_eq_map]
  constructor
  · intro h
    obtain ⟨numbers, hnumbers, hbytes⟩ := Option.bind_eq_some_iff.mp h
    obtain ⟨hlt, rfl⟩ := mapM_value?_eq_some_iff.mp hnumbers
    rw [eq_sextets_of_bytes? hbytes hlt]
  · rintro rfl
    have hnumbers : ((sextets bytes).map digit).mapM value? = some (sextets bytes) :=
      mapM_value?_eq_some_iff.mpr ⟨lt_of_mem_sextets, rfl⟩
    exact Option.bind_eq_some_iff.mpr ⟨sextets bytes, hnumbers, bytes?_sextets bytes⟩

/-- What is written is read back. -/
theorem decode?_encode (bytes : List UInt8) : decode? (encode bytes) = some bytes :=
  decode?_eq_some_iff.mpr rfl

theorem length_encode (bytes : List UInt8) : (encode bytes).length = (bytes.length * 4 + 2) / 3 := by
  rw [encode_eq_map, List.length_map, length_sextets]

theorem encode_ne_nil {bytes : List UInt8} (h : bytes ≠ []) : encode bytes ≠ [] := by
  have hlength := List.length_pos_iff.mpr h
  rw [← List.length_pos_iff, length_encode]
  omega

/-- Every character of a written form stands for a number. -/
theorem exists_digit_of_mem {c : Char} {bytes : List UInt8} (h : c ∈ encode bytes) :
    ∃ n < 64, c = digit n := by
  rw [encode_eq_map] at h
  obtain ⟨n, hn, rfl⟩ := List.mem_map.mp h
  exact ⟨n, lt_of_mem_sextets n hn, rfl⟩

/-! ## The rule of the format -/

/-- The lowest bits of a number, the highest of them first. -/
def bits : Nat → Nat → List Bool
  | 0, _ => []
  | width + 1, n => n.testBit width :: bits width n

/-- Characters are a form of bytes if they are the characters of groups of six bits that have, in a
    row, the bits of the bytes and after them zeros, but not as many as would be a group. -/
def IsFormOf (cs : List Char) (bytes : List UInt8) : Prop :=
  ∃ (groups : List Nat) (filling : Nat), filling < 6
    ∧ groups.map (alphabet[·]?) = cs.map some
    ∧ groups.flatMap (bits 6) = bytes.flatMap (fun b => bits 8 b.toNat) ++ List.replicate filling false

theorem length_bits (width n : Nat) : (bits width n).length = width := by
  induction width with
  | zero => rfl
  | succ width ih => rw [bits, List.length_cons, ih]

/-- Bits in a row are those of one number. -/
theorem bits_append (v a : Nat) {w b : Nat} (hb : b < 2 ^ w) :
    bits v a ++ bits w b = bits (v + w) (2 ^ w * a + b) := by
  have hbit := Nat.testBit_two_pow_mul_add a hb
  induction v with
  | zero =>
      have hlow : ∀ u ≤ w, bits u b = bits u (2 ^ w * a + b) := by
        intro u hu
        induction u with
        | zero => rfl
        | succ u ih => rw [bits, bits, ih (by omega), hbit, if_pos (by omega)]
      rw [Nat.zero_add]
      exact hlow w (Nat.le_refl w)
  | succ v ih =>
      rw [Nat.add_right_comm, bits, bits, List.cons_append, ih, hbit, if_neg (by omega),
        Nat.add_sub_cancel]

theorem bits_zero (width : Nat) : bits width 0 = List.replicate width false := by
  induction width with
  | zero => rfl
  | succ width ih => rw [bits, Nat.zero_testBit, ih, List.replicate_succ]

/-- A number that has no further bits is known by them. -/
theorem bits_injective {w m n : Nat} (hm : m < 2 ^ w) (hn : n < 2 ^ w) (h : bits w m = bits w n) :
    m = n := by
  have hlow : ∀ u ≤ w, bits u m = bits u n → ∀ i < u, m.testBit i = n.testBit i := by
    intro u hu
    induction u with
    | zero => exact fun _ i hi => absurd hi (Nat.not_lt_zero i)
    | succ u ih =>
        intro heq i hi
        obtain ⟨htop, hrest⟩ := List.cons.inj heq
        rcases Nat.lt_succ_iff_lt_or_eq.mp hi with hi | rfl
        · exact ih (by omega) hrest i hi
        · exact htop
  refine Nat.eq_of_testBit_eq fun i => ?_
  by_cases hi : i < w
  · exact hlow w (Nat.le_refl w) h i hi
  · have hpow : 2 ^ w ≤ 2 ^ i := Nat.pow_le_pow_right (by decide) (by omega)
    rw [Nat.testBit_lt_two_pow (Nat.lt_of_lt_of_le hm hpow),
      Nat.testBit_lt_two_pow (Nat.lt_of_lt_of_le hn hpow)]

/-- Groups are known by their bits in a row. -/
theorem flatMap_bits_injective {groups others : List Nat} (hgroups : ∀ n ∈ groups, n < 64)
    (hothers : ∀ n ∈ others, n < 64) (h : groups.flatMap (bits 6) = others.flatMap (bits 6)) :
    groups = others := by
  induction groups generalizing others with
  | nil =>
      cases others with
      | nil => rfl
      | cons n others => cases h
  | cons m groups ih =>
      cases others with
      | nil => cases h
      | cons n others =>
          obtain ⟨hm, hgroups⟩ := List.forall_mem_cons.mp hgroups
          obtain ⟨hn, hothers⟩ := List.forall_mem_cons.mp hothers
          rw [List.flatMap_cons, List.flatMap_cons] at h
          obtain ⟨hfirst, hrest⟩ := List.append_inj h (by rw [length_bits, length_bits])
          rw [bits_injective hm hn hfirst, ih hgroups hothers hrest]

/-- The bits of the groups of some bytes are those of the bytes, and zeros. -/
theorem flatMap_bits_sextets (bytes : List UInt8) :
    ∃ filling < 6, (sextets bytes).flatMap (bits 6)
      = bytes.flatMap (fun b => bits 8 b.toNat) ++ List.replicate filling false := by
  induction bytes using sextets.induct with
  | case1 => exact ⟨0, by decide, rfl⟩
  | case2 a =>
      have ha := a.toNat_lt
      refine ⟨4, by decide, ?_⟩
      simp only [sextets, List.flatMap_cons, List.flatMap_nil, List.append_nil, ← bits_zero]
      rw [bits_append 6 _ (by omega), bits_append 8 _ (by omega)]
      congr 1
      omega
  | case3 a b =>
      have ha := a.toNat_lt
      have hb := b.toNat_lt
      refine ⟨2, by decide, ?_⟩
      simp only [sextets, List.flatMap_cons, List.flatMap_nil, List.append_nil, List.append_assoc,
        ← bits_zero]
      rw [bits_append 6 _ (by omega), bits_append 6 _ (by omega), bits_append 8 _ (by omega),
        bits_append 8 _ (by omega)]
      congr 1
      omega
  | case4 a b c rest ih =>
      have ha := a.toNat_lt
      have hb := b.toNat_lt
      have hc := c.toNat_lt
      obtain ⟨filling, hfilling, hrest⟩ := ih
      have hgroup : bits 6 (a.toNat / 4) ++ (bits 6 (a.toNat % 4 * 16 + b.toNat / 16)
          ++ (bits 6 (b.toNat % 16 * 4 + c.toNat / 64) ++ bits 6 (c.toNat % 64)))
          = bits 8 a.toNat ++ (bits 8 b.toNat ++ bits 8 c.toNat) := by
        rw [bits_append 6 _ (by omega), bits_append 6 _ (by omega), bits_append 6 _ (by omega),
          bits_append 8 _ (by omega), bits_append 8 _ (by omega)]
        congr 1
        omega
      refine ⟨filling, hfilling, ?_⟩
      simp only [sextets, List.flatMap_cons, hrest, ← List.append_assoc] at hgroup ⊢
      rw [hgroup]

/-- The characters at some places of the alphabet are those of numbers below 64. -/
theorem map_alphabet_iff {groups : List Nat} {cs : List Char} :
    groups.map (alphabet[·]?) = cs.map some
      ↔ (∀ n ∈ groups, n < 64) ∧ cs = groups.map digit := by
  have hplace : ∀ {n : Nat} {c : Char}, alphabet[n]? = some c ↔ n < 64 ∧ c = digit n := by
    intro n c
    rw [alphabet_eq, List.getElem?_map]
    by_cases hn : n < 64
    · simp [hn, eq_comm]
    · simp [hn]
  induction groups generalizing cs with
  | nil => simp
  | cons n groups ih =>
      cases cs with
      | nil => simp
      | cons c cs =>
          simp only [List.map_cons, List.cons.injEq, hplace, ih, List.forall_mem_cons]
          exact and_and_and_comm

/-- What is written is a form of the bytes by the rule, and the only one. -/
theorem isFormOf_iff {cs : List Char} {bytes : List UInt8} :
    IsFormOf cs bytes ↔ cs = encode bytes := by
  have hlength : ∀ groups : List Nat, (groups.flatMap (bits 6)).length = 6 * groups.length := by
    intro groups
    induction groups with
    | nil => rfl
    | cons n groups ih =>
        rw [List.flatMap_cons, List.length_append, length_bits, ih, List.length_cons]
        omega
  obtain ⟨zeros, hzeros, hbits⟩ := flatMap_bits_sextets bytes
  rw [encode_eq_map]
  constructor
  · rintro ⟨groups, filling, hfilling, hchars, hgroups⟩
    obtain ⟨hlt, rfl⟩ := map_alphabet_iff.mp hchars
    -- fewer than six zeros, so as many in both
    have hcount := hlength groups
    have hcount' := hlength (sextets bytes)
    rw [hgroups, List.length_append, List.length_replicate] at hcount
    rw [hbits, List.length_append, List.length_replicate] at hcount'
    obtain rfl : filling = zeros := by omega
    rw [flatMap_bits_injective hlt lt_of_mem_sextets (hgroups.trans hbits.symm)]
  · rintro rfl
    exact ⟨sextets bytes, zeros, hzeros, map_alphabet_iff.mpr ⟨lt_of_mem_sextets, rfl⟩, hbits⟩

end RobotMaze.Text.Base64Url
