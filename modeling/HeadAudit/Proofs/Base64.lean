import Mathlib
import HeadAudit.Base64

namespace HeadAudit.Base64

theorem value?_symbol : ∀ n < 64, value? (symbol n) = some n := by
  decide

theorem symbol_ne_padding : ∀ n < 64, symbol n ≠ padding := by
  decide

theorem symbol_lt : ∀ n < 64, (symbol n).toNat < 0x80 := by
  decide

theorem read_symbol {n : Nat} (h : n < 64) (offset : Nat) : read offset (symbol n) = .ok n := by
  rw [read, value?_symbol n h]

def unpadded (bytes : List UInt8) : List UInt8 := (encode bytes).filter (· != padding)

theorem groups_four {a b c d : Nat} (ha : a < 64) (hb : b < 64) (hc : c < 64) (hd : d < 64)
    (offset : Nat) (e : UInt8) (rest : List UInt8) :
    groups offset (symbol a :: symbol b :: symbol c :: symbol d :: e :: rest) =
      (groups (offset + 4) (e :: rest)).map fun more =>
        let n := ((a * 64 + b) * 64 + c) * 64 + d
        UInt8.ofNat (n / 65536) :: UInt8.ofNat (n / 256 % 256) :: UInt8.ofNat (n % 256) ::
          more := by
  rw [groups]
  simp only [read_symbol ha, read_symbol hb, read_symbol hc, read_symbol hd]
  cases groups (offset + 4) (e :: rest) <;> rfl

theorem lastGroup_four {a b c d : Nat} (ha : a < 64) (hb : b < 64) (hc : c < 64) (hd : d < 64)
    (offset : Nat) :
    lastGroup offset [symbol a, symbol b, symbol c, symbol d] =
      .ok (let n := ((a * 64 + b) * 64 + c) * 64 + d
        [UInt8.ofNat (n / 65536), UInt8.ofNat (n / 256 % 256), UInt8.ofNat (n % 256)]) := by
  simp [lastGroup, lastSymbols, symbol_ne_padding, read_symbol, ha, hb, hc, hd, List.zipIdx]
  rfl

theorem lastGroup_three {a b c : Nat} (ha : a < 64) (hb : b < 64) (hc : c < 64) (hz : c % 4 = 0)
    (offset : Nat) {pads : List UInt8} (hp : pads = [] ∨ pads = [padding]) :
    lastGroup offset (symbol a :: symbol b :: symbol c :: pads) =
      .ok (let n := ((a * 64 + b) * 64 + c) / 4
        [UInt8.ofNat (n / 256), UInt8.ofNat (n % 256)]) := by
  have hs : lastSymbols offset (symbol a :: symbol b :: symbol c :: pads) =
      .ok [(symbol a, a), (symbol b, b), (symbol c, c)] := by
    rcases hp with rfl | rfl <;>
      simp [lastSymbols, symbol_ne_padding, read_symbol, ha, hb, hc, List.zipIdx] <;>
      rfl
  rw [lastGroup, hs]
  change (if c % 4 ≠ 0 then _ else _) = _
  rw [if_neg (not_not.mpr hz)]
  rfl

theorem lastGroup_two {a b : Nat} (ha : a < 64) (hb : b < 64) (hz : b % 16 = 0) (offset : Nat)
    {pads : List UInt8} (hp : pads = [] ∨ pads = [padding, padding]) :
    lastGroup offset (symbol a :: symbol b :: pads) = .ok [UInt8.ofNat ((a * 64 + b) / 16)] := by
  have hs : lastSymbols offset (symbol a :: symbol b :: pads) =
      .ok [(symbol a, a), (symbol b, b)] := by
    rcases hp with rfl | rfl <;>
      simp [lastSymbols, symbol_ne_padding, read_symbol, ha, hb, List.zipIdx] <;>
      rfl
  rw [lastGroup, hs]
  change (if b % 16 ≠ 0 then _ else _) = _
  rw [if_neg (not_not.mpr hz)]
  rfl

theorem groups_one {a : UInt8} {pads : List UInt8} (hp : pads = [] ∨ pads = [padding, padding])
    (offset : Nat) :
    groups offset (symbol (a.toNat * 16 / 64) :: symbol (a.toNat * 16 % 64) :: pads) =
      .ok [a] := by
  have ha := a.toNat_lt
  have hn : (a.toNat * 16 / 64 * 64 + a.toNat * 16 % 64) / 16 = a.toNat := by omega
  have hl := lastGroup_two (a := a.toNat * 16 / 64) (b := a.toNat * 16 % 64) (by omega) (by omega)
    (by omega) offset hp
  rw [hn, UInt8.ofNat_toNat] at hl
  rcases hp with rfl | rfl <;> exact hl

theorem groups_two {a b : UInt8} {pads : List UInt8} (hp : pads = [] ∨ pads = [padding])
    (offset : Nat) :
    let n := (a.toNat * 256 + b.toNat) * 4
    groups offset (symbol (n / 4096) :: symbol (n / 64 % 64) :: symbol (n % 64) :: pads) =
      .ok [a, b] := by
  intro n
  have ha := a.toNat_lt
  have hb := b.toNat_lt
  have hn : ((n / 4096 * 64 + n / 64 % 64) * 64 + n % 64) / 4 = a.toNat * 256 + b.toNat := by omega
  have hl := lastGroup_three (a := n / 4096) (b := n / 64 % 64) (c := n % 64) (by omega)
    (by omega) (by omega) (by omega) offset hp
  simp only [hn] at hl
  rw [show (a.toNat * 256 + b.toNat) / 256 = a.toNat by omega,
    show (a.toNat * 256 + b.toNat) % 256 = b.toNat by omega, UInt8.ofNat_toNat,
    UInt8.ofNat_toNat] at hl
  rcases hp with rfl | rfl <;> exact hl

/-- A full group gives three bytes, whether more symbols follow or none. -/
theorem groups_three {a b c : UInt8} {symbols bytes : List UInt8} {offset : Nat}
    (hs : groups (offset + 4) symbols = .ok bytes) :
    let n := (a.toNat * 256 + b.toNat) * 256 + c.toNat
    groups offset (symbol (n / 262144) :: symbol (n / 4096 % 64) :: symbol (n / 64 % 64) ::
      symbol (n % 64) :: symbols) = .ok (a :: b :: c :: bytes) := by
  intro n
  have ha := a.toNat_lt
  have hb := b.toNat_lt
  have hc := c.toNat_lt
  have h1 : n / 262144 < 64 := by omega
  have h2 : n / 4096 % 64 < 64 := by omega
  have h3 : n / 64 % 64 < 64 := by omega
  have h4 : n % 64 < 64 := by omega
  have hn : ((n / 262144 * 64 + n / 4096 % 64) * 64 + n / 64 % 64) * 64 + n % 64 = n := by omega
  have hbytes : [UInt8.ofNat (n / 65536), UInt8.ofNat (n / 256 % 256), UInt8.ofNat (n % 256)] =
      [a, b, c] := by
    rw [show n / 65536 = a.toNat by omega, show n / 256 % 256 = b.toNat by omega,
      show n % 256 = c.toNat by omega, UInt8.ofNat_toNat, UInt8.ofNat_toNat, UInt8.ofNat_toNat]
  simp only [List.cons.injEq, and_true] at hbytes
  obtain ⟨hba, hbb, hbc⟩ := hbytes
  cases symbols with
  | nil =>
    obtain rfl : bytes = [] := (Except.ok.inj hs).symm
    have hl := lastGroup_four h1 h2 h3 h4 offset
    simp only [hn, hba, hbb, hbc] at hl
    exact hl
  | cons e rest =>
    rw [groups_four h1 h2 h3 h4, hs]
    simp only [hn, hba, hbb, hbc]
    rfl

theorem groups_encode (bytes : List UInt8) (offset : Nat) :
    groups offset (encode bytes) = .ok bytes ∧ groups offset (unpadded bytes) = .ok bytes := by
  induction bytes using encode.induct generalizing offset with
  | case1 => exact ⟨rfl, rfl⟩
  | case2 a =>
    have ha := a.toNat_lt
    have hu : unpadded [a] = [symbol (a.toNat * 16 / 64), symbol (a.toNat * 16 % 64)] := by
      have h1 := symbol_ne_padding (a.toNat * 16 / 64) (by omega)
      have h2 := symbol_ne_padding (a.toNat * 16 % 64) (by omega)
      simp [unpadded, encode, h1, h2]
    rw [hu]
    exact ⟨groups_one (.inr rfl) offset, groups_one (.inl rfl) offset⟩
  | case3 a b =>
    have ha := a.toNat_lt
    have hb := b.toNat_lt
    have hu : unpadded [a, b] = [symbol ((a.toNat * 256 + b.toNat) * 4 / 4096),
        symbol ((a.toNat * 256 + b.toNat) * 4 / 64 % 64),
        symbol ((a.toNat * 256 + b.toNat) * 4 % 64)] := by
      have h1 := symbol_ne_padding ((a.toNat * 256 + b.toNat) * 4 / 4096) (by omega)
      have h2 := symbol_ne_padding ((a.toNat * 256 + b.toNat) * 4 / 64 % 64) (by omega)
      have h3 := symbol_ne_padding ((a.toNat * 256 + b.toNat) * 4 % 64) (by omega)
      simp [unpadded, encode, h1, h2, h3]
    rw [hu]
    exact ⟨groups_two (.inr rfl) offset, groups_two (.inl rfl) offset⟩
  | case4 a b c rest ih =>
    obtain ⟨ihp, ihu⟩ := ih (offset + 4)
    refine ⟨groups_three ihp, ?_⟩
    have hg := groups_three (a := a) (b := b) (c := c) ihu
    have ha := a.toNat_lt
    have h1 := symbol_ne_padding (((a.toNat * 256 + b.toNat) * 256 + c.toNat) / 262144) (by
      have := b.toNat_lt
      have := c.toNat_lt
      omega)
    have h2 := symbol_ne_padding (((a.toNat * 256 + b.toNat) * 256 + c.toNat) / 4096 % 64)
      (by omega)
    have h3 := symbol_ne_padding (((a.toNat * 256 + b.toNat) * 256 + c.toNat) / 64 % 64) (by omega)
    have h4 := symbol_ne_padding (((a.toNat * 256 + b.toNat) * 256 + c.toNat) % 64) (by omega)
    simpa [unpadded, encode, h1, h2, h3, h4] using hg

theorem mem_encode {bytes : List UInt8} {x : UInt8} (hx : x ∈ encode bytes) :
    x = padding ∨ ∃ n < 64, x = symbol n := by
  induction bytes using encode.induct with
  | case1 => simp [encode] at hx
  | case2 a =>
    have ha := a.toNat_lt
    simp only [encode, List.mem_cons, List.not_mem_nil, or_false] at hx
    rcases hx with rfl | rfl | rfl | rfl
    · exact .inr ⟨_, by omega, rfl⟩
    · exact .inr ⟨_, by omega, rfl⟩
    · exact .inl rfl
    · exact .inl rfl
  | case3 a b =>
    have ha := a.toNat_lt
    have hb := b.toNat_lt
    simp only [encode, List.mem_cons, List.not_mem_nil, or_false] at hx
    rcases hx with rfl | rfl | rfl | rfl
    · exact .inr ⟨_, by omega, rfl⟩
    · exact .inr ⟨_, by omega, rfl⟩
    · exact .inr ⟨_, by omega, rfl⟩
    · exact .inl rfl
  | case4 a b c rest ih =>
    have ha := a.toNat_lt
    have hb := b.toNat_lt
    have hc := c.toNat_lt
    simp only [encode, List.mem_cons] at hx
    rcases hx with rfl | rfl | rfl | rfl | hx
    · exact .inr ⟨_, by omega, rfl⟩
    · exact .inr ⟨_, by omega, rfl⟩
    · exact .inr ⟨_, by omega, rfl⟩
    · exact .inr ⟨_, by omega, rfl⟩
    · exact ih hx

/-- Among symbols and padding signs the look at the last one finds nothing to refuse. -/
theorem decode_eq_groups {symbols : List UInt8}
    (hs : ∀ x ∈ symbols, x = padding ∨ ∃ n < 64, x = symbol n) :
    decode symbols = groups 0 symbols := by
  rw [decode]
  split
  · next b hb =>
    rw [if_neg]
    rintro ⟨-, hv, hp⟩
    rcases hs b (List.mem_of_getLast? hb) with rfl | ⟨n, hn, rfl⟩
    · exact hp rfl
    · simp [value?_symbol n hn] at hv
  · next hb =>
    rw [List.getLast?_eq_none_iff.mp hb]
    rfl

theorem decode_encode (bytes : List UInt8) : decode (encode bytes) = .ok bytes := by
  rw [decode_eq_groups fun x hx => mem_encode hx, (groups_encode bytes 0).1]

theorem decode_unpadded (bytes : List UInt8) : decode (unpadded bytes) = .ok bytes := by
  have hs : ∀ x ∈ unpadded bytes, x = padding ∨ ∃ n < 64, x = symbol n :=
    fun x hx => mem_encode (List.mem_of_mem_filter hx)
  rw [decode_eq_groups hs, (groups_encode bytes 0).2]

end HeadAudit.Base64
