import HeadAudit.Check.Element
import HeadAudit.Proofs.Base64
import HeadAudit.Proofs.Trial.Payload

namespace HeadAudit.Trial

open Json.Reader

def Spells (token : String) (symbols : List UInt8) : Prop :=
  token.toList.filter (!Ascii.isBlank ·) = symbols.map fun b => Char.ofNat b.toNat

def asciiText (bytes : List UInt8) : String := String.ofList (bytes.map fun b => Char.ofNat b.toNat)

theorem encode_asciiText {bytes : List UInt8} (h : ∀ b ∈ bytes, b.toNat < 0x80) :
    Utf8.encode (asciiText bytes) = bytes := by
  have hc : ∀ n < 0x80, (Char.ofNat n).toNat = n := by decide
  have he : ∀ b ∈ bytes, String.utf8EncodeChar (Char.ofNat b.toNat) = [b] := by
    intro b hb
    have hn := hc b.toNat (h b hb)
    have hl := h b hb
    rw [Utf8.encodeChar_of_ascii (by omega), hn, UInt8.ofNat_toNat]
  rw [asciiText, Utf8.encode_ofList, List.flatMap_map, List.flatMap_congr he,
    List.flatMap_singleton']

theorem ascii_of_mem_encode {bytes : List UInt8} {b : UInt8} (h : b ∈ Base64.encode bytes) :
    b.toNat < 0x80 := by
  rcases Base64.mem_encode h with rfl | ⟨n, hn, rfl⟩
  · decide
  · exact Base64.symbol_lt n hn

theorem isBlank_ofNat_symbol : ∀ n < 64,
    Ascii.isBlank (Char.ofNat (Base64.symbol n).toNat) = false := by
  decide

theorem spells_asciiText {symbols bytes : List UInt8}
    (h : ∀ b ∈ symbols, b ∈ Base64.encode bytes) : Spells (asciiText symbols) symbols := by
  rw [Spells, asciiText, String.toList_ofList, List.filter_eq_self]
  intro c hc
  obtain ⟨b, hb, rfl⟩ := List.mem_map.mp hc
  rcases Base64.mem_encode (h b hb) with rfl | ⟨n, hn, rfl⟩
  · decide
  · rw [isBlank_ofNat_symbol n hn]
    rfl

theorem Spells.append {s t : String} {xs ys : List UInt8} (h : Spells s xs) (h' : Spells t ys) :
    Spells (s ++ t) (xs ++ ys) := by
  rw [Spells] at h h'
  rw [Spells, String.toList_append, List.filter_append, h, h', List.map_append]

/-- Blanks and padding do not matter. -/
theorem decode_of_spells {token : String} {bytes : List UInt8}
    (h : Spells token (Base64.encode bytes) ∨ Spells token (Base64.unpadded bytes)) :
    decode token = decodeBytes bytes := by
  have hd : ∀ symbols, Spells token symbols → (∀ b ∈ symbols, b.toNat < 0x80) →
      Base64.decode symbols = .ok bytes → decode token = decodeBytes bytes := by
    intro symbols hs ha hb
    have he := encode_asciiText ha
    rw [decode, hs, ← asciiText, he, hb]
    rfl
  rcases h with h | h
  · exact hd _ h (fun b hb => ascii_of_mem_encode hb) (Base64.decode_encode bytes)
  · exact hd _ h (fun b hb => ascii_of_mem_encode (List.mem_of_mem_filter hb))
      (Base64.decode_unpadded bytes)

theorem bigEndian_lengthBytes {n : Nat} (h : n < 2 ^ 32) : bigEndian (lengthBytes n) = n := by
  simp only [bigEndian, lengthBytes, List.foldl_cons, List.foldl_nil, UInt8.toNat_ofNat']
  omega

theorem lengthBytes_bigEndian {value : List UInt8} (h : value.length = 4) :
    lengthBytes (bigEndian value) = value := by
  obtain ⟨a, b, c, d, rfl⟩ : ∃ a b c d, value = [a, b, c, d] := by
    match value, h with
    | [a, b, c, d], _ => exact ⟨a, b, c, d, rfl⟩
  have ha := a.toNat_lt
  have hb := b.toNat_lt
  have hc := c.toNat_lt
  have hd := d.toNat_lt
  have hn : bigEndian [a, b, c, d] =
      ((a.toNat * 256 + b.toNat) * 256 + c.toNat) * 256 + d.toNat := by
    simp only [bigEndian, List.foldl_cons, List.foldl_nil, Nat.zero_mul, Nat.zero_add]
  generalize bigEndian [a, b, c, d] = n at hn
  rw [lengthBytes, show n / 16777216 % 256 = a.toNat by omega,
    show n / 65536 % 256 = b.toNat by omega, show n / 256 % 256 = c.toNat by omega,
    show n % 256 = d.toNat by omega]
  simp only [UInt8.ofNat_toNat]

theorem length_lengthBytes (n : Nat) : (lengthBytes n).length = 4 :=
  rfl

/-- The raw bytes of a token from its parts. -/
def layout (version : UInt8) (signature length rest : List UInt8) : List UInt8 :=
  version :: signature ++ length ++ rest

section layout

variable {version : UInt8} {signature length rest : List UInt8}

theorem length_layout (version : UInt8) (hs : signature.length = 64) (hl : length.length = 4)
    (rest : List UInt8) :
    (layout version signature length rest).length = payloadOffset + rest.length := by
  simp only [layout, List.cons_append, List.length_cons, List.length_append, hs, hl, payloadOffset]
  omega

theorem layout_parts (version : UInt8) (hs : signature.length = 64) (hl : length.length = 4)
    (rest : List UInt8) :
    (layout version signature length rest).take lengthOffset = version :: signature ∧
      ((layout version signature length rest).drop lengthOffset).take 4 = length ∧
        (layout version signature length rest).drop payloadOffset = rest := by
  have h65 : (version :: signature).length = 65 := by rw [List.length_cons, hs]
  have h69 : (version :: signature ++ length).length = 69 := by rw [List.length_append, h65, hl]
  rw [layout]
  refine ⟨?_, ?_, ?_⟩
  · rw [List.append_assoc, lengthOffset, ← h65, List.take_left]
  · rw [List.append_assoc, lengthOffset, ← h65, List.drop_left, ← hl, List.take_left]
  · rw [payloadOffset, ← h69, List.drop_left]

theorem decodeBytes_layout (hs : signature.length = 64) (hl : length.length = 4) :
    decodeBytes (layout version signature length rest) =
      if rest.length < bigEndian length then
        .error (.lengthOutOfRange (bigEndian length) rest.length)
      else
        match readPayload (rest.take (bigEndian length)) with
        | .ok p =>
          if (Url.parse p.origin).toOption.isNone then .error (.origin p.origin)
          else if !Instant.inRange p.expiry then .error (.expiry p.expiry)
          else .ok p
        | .error fault => .error (.json fault) := by
  have hlen := length_layout version hs hl rest
  obtain ⟨-, hlength, hrest⟩ := layout_parts version hs hl rest
  unfold decodeBytes
  simp only [hlen, hlength, hrest, Nat.add_sub_cancel_left, Nat.not_lt.mpr (Nat.le_add_right _ _),
    if_false]
  by_cases hn : rest.length < bigEndian length
  · rw [if_pos hn, if_pos hn]
    rfl
  rw [if_neg hn, if_neg hn]
  cases readPayload (rest.take (bigEndian length)) with
  | error fault => rfl
  | ok p =>
    change (if (Url.parse p.origin).toOption.isNone then _ else _) = (if _ then _ else _)
    cases (Url.parse p.origin).toOption.isNone with
    | true => rfl
    | false =>
      change (if !Instant.inRange p.expiry then _ else _) = (if _ then _ else _)
      cases Instant.inRange p.expiry <;> rfl

end layout

end HeadAudit.Trial
