import HeadAudit.Proofs.Text.Utf8
import HeadAudit.Text.Ascii

namespace HeadAudit.Utf8

open List

variable {c : Char} {cs : List Char} {p : Char → Bool}

def bytesOf (cs : List Char) : List UInt8 := cs.flatMap String.utf8EncodeChar

def byteOf (c : Char) : UInt8 := UInt8.ofNat c.toNat

def charOf (b : UInt8) : Char := Char.ofNat b.toNat

def lowerByte (b : UInt8) : UInt8 := byteOf (charOf b).toLower

def IsAscii (c : Char) : Prop := c.toNat < 0x80

instance (c : Char) : Decidable (IsAscii c) := inferInstanceAs (Decidable (_ < _))

theorem encode_eq_bytesOf (s : String) : encode s = bytesOf s.toList := rfl

theorem bytesOf_append (s t : List Char) : bytesOf (s ++ t) = bytesOf s ++ bytesOf t :=
  flatMap_append

theorem bytesOf_cons (c : Char) (cs : List Char) :
    bytesOf (c :: cs) = String.utf8EncodeChar c ++ bytesOf cs := rfl

theorem toNat_charOf (b : UInt8) : (charOf b).toNat = b.toNat := by
  have hlt := b.toNat_lt
  rw [charOf, Char.toNat_ofNat, if_pos (Or.inl (by omega))]

theorem byteOf_charOf (b : UInt8) : byteOf (charOf b) = b := by
  rw [byteOf, toNat_charOf, UInt8.ofNat_toNat]

theorem charOf_byteOf (h : IsAscii c) : charOf (byteOf c) = c := by
  rw [charOf, byteOf, toNat_ofNat_of_lt (lt_trans h (by decide)), Char.ofNat_toNat]

theorem byteOf_inj {d : Char} (hc : IsAscii c) (hd : IsAscii d) : byteOf c = byteOf d ↔ c = d :=
  ⟨fun h => by rw [← charOf_byteOf hc, h, charOf_byteOf hd], congrArg byteOf⟩

theorem byteOf_lt (h : IsAscii c) : (byteOf c).toNat < 0x80 := by
  rwa [byteOf, toNat_ofNat_of_lt (lt_trans h (by decide))]

theorem bytesOf_cons_ascii (h : IsAscii c) (cs : List Char) :
    bytesOf (c :: cs) = byteOf c :: bytesOf cs := by
  rw [bytesOf_cons, encodeChar_of_ascii h]
  rfl

theorem exists_encodeChar (h : ¬IsAscii c) :
    ∃ b bs, String.utf8EncodeChar c = b :: bs ∧ ∀ x ∈ b :: bs, 0x80 ≤ x.toNat := by
  obtain ⟨b, bs, hb⟩ := exists_cons_of_length_pos (length_pos c)
  refine ⟨b, bs, hb, fun x hx => ?_⟩
  rw [← hb] at hx
  exact le_of_mem_encodeChar (Nat.not_lt.mp h) hx

theorem ne_of_not_isAscii {d : Char} (hc : ¬IsAscii c) (hd : IsAscii d) : c ≠ d :=
  fun h => hc (h ▸ hd)

theorem ne_byteOf_of_le {b : UInt8} {d : Char} (hb : 0x80 ≤ b.toNat) (hd : IsAscii d) :
    b ≠ byteOf d := by
  have hlow := byteOf_lt hd
  rintro rfl
  omega

theorem isPrefixOf_bytesOf {pattern : List Char} (h : ∀ c ∈ pattern, IsAscii c) (cs : List Char) :
    (bytesOf pattern).isPrefixOf (bytesOf cs) = pattern.isPrefixOf cs := by
  induction pattern generalizing cs with
  | nil => rfl
  | cons d pattern ih =>
    obtain ⟨hd, hpattern⟩ := forall_mem_cons.mp h
    rw [bytesOf_cons_ascii hd]
    cases cs with
    | nil => rfl
    | cons c cs =>
      by_cases hc : IsAscii c
      · have hbeq : (byteOf d == byteOf c) = (d == c) := by
          rw [Bool.eq_iff_iff, beq_iff_eq, beq_iff_eq, byteOf_inj hd hc]
        rw [bytesOf_cons_ascii hc, isPrefixOf_cons_cons, isPrefixOf_cons_cons, ih hpattern, hbeq]
      · obtain ⟨b, bs, hb, hhigh⟩ := exists_encodeChar hc
        have hbyte := beq_false_of_ne (ne_byteOf_of_le (hhigh b mem_cons_self) hd).symm
        have hchar := beq_false_of_ne (ne_of_not_isAscii hc hd).symm
        rw [bytesOf_cons, hb, cons_append, isPrefixOf_cons_cons, isPrefixOf_cons_cons, hbyte, hchar,
          Bool.false_and, Bool.false_and]

theorem takeWhile_bytesOf (hp : ∀ c, p c = true → IsAscii c) (cs : List Char) :
    (bytesOf cs).takeWhile (p ∘ charOf) = bytesOf (cs.takeWhile p) := by
  induction cs with
  | nil => rfl
  | cons c cs ih =>
    by_cases hc : IsAscii c
    · rw [bytesOf_cons_ascii hc, takeWhile_cons, takeWhile_cons, Function.comp_apply,
        charOf_byteOf hc]
      split
      · rw [bytesOf_cons_ascii hc, ih]
      · rfl
    · obtain ⟨b, bs, hb, hhigh⟩ := exists_encodeChar hc
      have hle := hhigh b mem_cons_self
      have hfail : ¬(p ∘ charOf) b = true := fun h => by
        have hlt := hp _ h
        rw [IsAscii, toNat_charOf] at hlt
        omega
      rw [bytesOf_cons, hb, cons_append, takeWhile_cons_of_neg hfail,
        takeWhile_cons_of_neg fun h => hc (hp c h)]
      rfl

theorem toLower_of_not_isAscii (h : ¬IsAscii c) : c.toLower = c := by
  apply Char.toLower_eq_of_not_isUpper
  intro hu
  simp only [Char.isUpper, decide_eq_true_eq, UInt32.le_iff_toNat_le] at hu
  have hlt : c.toNat < 0x80 := lt_of_le_of_lt hu.2 (by decide)
  exact h hlt

theorem isAscii_toLower : ∀ n < 128, IsAscii (Char.ofNat n).toLower := by
  decide +kernel

theorem IsAscii.toLower (h : IsAscii c) : IsAscii c.toLower := by
  have hl := isAscii_toLower c.toNat h
  rwa [Char.ofNat_toNat] at hl

theorem lowerByte_byteOf (h : IsAscii c) : lowerByte (byteOf c) = byteOf c.toLower := by
  rw [lowerByte, charOf_byteOf h]

theorem lowerByte_of_le {b : UInt8} (h : 0x80 ≤ b.toNat) : lowerByte b = b := by
  rw [lowerByte, toLower_of_not_isAscii, byteOf_charOf]
  rw [IsAscii, toNat_charOf]
  omega

theorem bytesOf_map_toLower (cs : List Char) :
    bytesOf (cs.map Char.toLower) = (bytesOf cs).map lowerByte := by
  induction cs with
  | nil => rfl
  | cons c cs ih =>
    by_cases hc : IsAscii c
    · rw [map_cons, bytesOf_cons_ascii hc.toLower, bytesOf_cons_ascii hc, map_cons, ih,
        lowerByte_byteOf hc]
    · obtain ⟨b, bs, hb, hhigh⟩ := exists_encodeChar hc
      have hsame : ∀ x ∈ String.utf8EncodeChar c, lowerByte x = x :=
        fun x hx => lowerByte_of_le (hhigh x (hb ▸ hx))
      rw [map_cons, bytesOf_cons, bytesOf_cons, map_append, ih, toLower_of_not_isAscii hc,
        map_congr_left hsame, map_id']

theorem beq_take_bytesOf {word : List Char} (hw : ∀ c ∈ word, IsAscii c ∧ c.toLower = c)
    (cs : List Char) :
    (((bytesOf cs).take (bytesOf word).length).map lowerByte == (bytesOf word).map lowerByte) =
      Ascii.startsWith word cs := by
  induction word generalizing cs with
  | nil => rfl
  | cons k word ih =>
    obtain ⟨⟨hk, hl⟩, hword⟩ := forall_mem_cons.mp hw
    rw [bytesOf_cons_ascii hk, length_cons, map_cons, lowerByte_byteOf hk, hl]
    cases cs with
    | nil => rfl
    | cons c cs =>
      rw [Ascii.startsWith]
      by_cases hc : IsAscii c
      · have hbeq : (byteOf c.toLower == byteOf k) = (k == c.toLower) := by
          rw [Bool.eq_iff_iff, beq_iff_eq, beq_iff_eq, byteOf_inj hc.toLower hk, eq_comm]
        rw [bytesOf_cons_ascii hc, take_succ_cons, map_cons, lowerByte_byteOf hc, cons_beq_cons,
          hbeq, ih hword]
      · obtain ⟨b, bs, hb, hhigh⟩ := exists_encodeChar hc
        have hle := hhigh b mem_cons_self
        have hbyte := beq_false_of_ne (ne_byteOf_of_le hle hk)
        have hchar := beq_false_of_ne (ne_of_not_isAscii hc hk).symm
        rw [bytesOf_cons, hb, cons_append, take_succ_cons, map_cons, lowerByte_of_le hle,
          cons_beq_cons, hbyte, toLower_of_not_isAscii hc, hchar, Bool.false_and, Bool.false_and]

end HeadAudit.Utf8
