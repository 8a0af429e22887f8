import HeadAudit.Json.Reader
import HeadAudit.Json.Value
import HeadAudit.Proofs.Text.Utf8

namespace HeadAudit.Json

open Reader

variable {α β : Type} {r : Reader α} {f : α → Reader β} {xs ys bytes input : List UInt8} {v : α}
  {w : β} {b c : UInt8}

theorem bind_ok {rest : List UInt8} (h : r input = .ok (v, rest)) : (r >>= f) input = f v rest := by
  change (r input >>= fun p => f p.1 p.2) = _
  rw [h]
  rfl

theorem bind_error {fault : Fault} (h : r input = .error fault) :
    (r >>= f) input = .error fault := by
  change (r input >>= fun p => f p.1 p.2) = _
  rw [h]
  rfl

def Takes (r : Reader α) (bytes : List UInt8) (v : α) : Prop :=
  ∀ rest, r (bytes ++ rest) = .ok (v, rest)

/-- The reader reports that the text has ended wherever the bytes are cut. -/
def Starves (r : Reader α) (bytes : List UInt8) : Prop :=
  ∀ n < bytes.length, r (bytes.take n) = .error .truncated

structure Exact (r : Reader α) (bytes : List UInt8) (v : α) : Prop where
  takes : Takes r bytes v
  starves : Starves r bytes

/-- Between the members of an object the bytes are read as `v`. Cut anywhere, they have ended for
the reader or it has used all of them up. -/
structure Reads (r : Reader α) (bytes : List UInt8) (v : α) : Prop where
  takes : ∀ b rest, b = comma ∨ b = closeObject → r (bytes ++ b :: rest) = .ok (v, b :: rest)
  spent : ∀ n, r (bytes.take n) = .error .truncated ∨ ∃ u, r (bytes.take n) = .ok (u, [])

theorem Exact.reads (h : Exact r bytes v) : Reads r bytes v where
  takes b rest _ := h.takes (b :: rest)
  spent n := by
    by_cases hn : n < bytes.length
    · exact .inl (h.starves n hn)
    · have ht := h.takes []
      rw [List.append_nil] at ht
      rw [List.take_of_length_le (by omega)]
      exact .inr ⟨v, ht⟩

theorem take_append_of_le {n : Nat} (h : xs.length ≤ n) :
    (xs ++ ys).take n = xs ++ ys.take (n - xs.length) := by
  rw [List.take_append, List.take_of_length_le h]

theorem Takes.bind (hr : Takes r xs v) (hf : Takes (f v) ys w) : Takes (r >>= f) (xs ++ ys) w := by
  intro rest
  rw [List.append_assoc, bind_ok (hr (ys ++ rest)), hf rest]

theorem Exact.starves_bind (hr : Exact r xs v) (hf : Starves (f v) ys) :
    Starves (r >>= f) (xs ++ ys) := by
  intro n hn
  rw [List.length_append] at hn
  by_cases hx : n < xs.length
  · rw [List.take_append_of_le_length (by omega)]
    exact bind_error (hr.starves n hx)
  · rw [take_append_of_le (by omega), bind_ok (hr.takes _)]
    exact hf _ (by omega)

theorem Exact.bind (hr : Exact r xs v) (hf : Exact (f v) ys w) :
    Exact (r >>= f) (xs ++ ys) w :=
  ⟨hr.takes.bind hf.takes, hr.starves_bind hf.starves⟩

theorem Exact.map (hr : Exact r bytes v) (g : α → β) :
    Exact (r >>= fun a => pure (g a)) bytes (g v) where
  takes rest := bind_ok (hr.takes rest)
  starves n hn := bind_error (hr.starves n hn)

theorem Reads.map (hr : Reads r bytes v) (g : α → β) :
    Reads (r >>= fun a => pure (g a)) bytes (g v) where
  takes b rest hb := bind_ok (hr.takes b rest hb)
  spent n := by
    rcases hr.spent n with he | ⟨u, hu⟩
    · exact .inl (bind_error he)
    · exact .inr ⟨g u, bind_ok hu⟩

theorem Reads.takes_bind (hr : Reads r xs v) (hb : b = comma ∨ b = closeObject)
    (hf : Takes (f v) (b :: ys) w) : Takes (r >>= f) (xs ++ b :: ys) w := by
  intro rest
  rw [List.append_assoc, List.cons_append, bind_ok (hr.takes b _ hb)]
  exact hf rest

/-- What follows a value starves at the end of the text, so a number that is cut short and still
reads does no harm. -/
theorem Reads.starves_bind (hr : Reads r xs v) (hb : b = comma ∨ b = closeObject)
    (he : ∀ u, f u [] = .error .truncated) (hf : Starves (f v) (b :: ys)) :
    Starves (r >>= f) (xs ++ b :: ys) := by
  intro n hn
  rw [List.length_append] at hn
  by_cases hx : n ≤ xs.length
  · rw [List.take_append_of_le_length hx]
    rcases hr.spent n with h | ⟨u, hu⟩
    · exact bind_error h
    · rw [bind_ok hu, he]
  · have hs := hf (n - xs.length) (by omega)
    obtain ⟨k, hk⟩ : ∃ k, n - xs.length = k + 1 := ⟨n - xs.length - 1, by omega⟩
    rw [hk, List.take_succ_cons] at hs
    rw [take_append_of_le (by omega), hk, List.take_succ_cons, bind_ok (hr.takes b _ hb), hs]

theorem Takes.cons {r' : Reader α} (h' : ∀ input, r (b :: input) = r' input)
    (h : Takes r' bytes v) : Takes r (b :: bytes) v := by
  intro rest
  rw [List.cons_append, h']
  exact h rest

theorem Starves.cons {r' : Reader α} (he : r [] = .error .truncated)
    (h' : ∀ input, r (b :: input) = r' input) (h : Starves r' bytes) : Starves r (b :: bytes) := by
  intro n hn
  cases n with
  | zero => exact he
  | succ n =>
    rw [List.take_succ_cons, h']
    exact h n (by simpa using hn)

theorem Exact.cons {r' : Reader α} (he : r [] = .error .truncated)
    (h' : ∀ input, r (b :: input) = r' input) (h : Exact r' bytes v) : Exact r (b :: bytes) v :=
  ⟨h.takes.cons h', h.starves.cons he h'⟩

theorem byte_cons (b : UInt8) (rest : List UInt8) : byte (b :: rest) = .ok (b, rest) :=
  rfl

theorem advance_cons (b : UInt8) (rest : List UInt8) : advance (b :: rest) = .ok ((), rest) :=
  rfl

theorem peekByte_cons (h : isBlank b = false) (rest : List UInt8) :
    peekByte (b :: rest) = .ok (b, b :: rest) := by
  have hw : (b :: rest).dropWhile isBlank = b :: rest :=
    List.dropWhile_cons_of_neg (by rw [h]; exact Bool.false_ne_true)
  have hp : peek (b :: rest) = .ok (some b, b :: rest) := by
    change Except.ok (((b :: rest).dropWhile isBlank).head?, (b :: rest).dropWhile isBlank) = _
    rw [hw]
    rfl
  exact bind_ok hp

theorem exact_pure : Exact (pure v) [] v :=
  ⟨fun _ => rfl, fun n hn => absurd hn (Nat.not_lt_zero n)⟩

theorem exact_literal (bytes : List UInt8) : Exact (literal bytes) bytes () := by
  induction bytes with
  | nil => exact exact_pure
  | cons b bytes ih =>
    refine Exact.cons rfl (fun input => ?_) ih
    change (if (b == b) = true then literal bytes else _) input = _
    rw [if_pos (beq_self_eq_true b)]

end HeadAudit.Json
