import HeadAudit.Proofs.Json.Numbers
import HeadAudit.Proofs.Json.Strings

namespace HeadAudit.Json

open Reader

variable {σ α : Type} {fields : List (RecordField σ)} {closed : Bool} {s s' s'' : σ}
  {ms ns : List (String × Json)} {fuel : Nat}

/-- Each member names a field that is not yet filled and reads its own text. -/
inductive Fills (fields : List (RecordField σ)) : σ → List (String × Json) → σ → Prop where
  | nil {s : σ} : Fills fields s [] s
  | cons {s s' s'' : σ} {key : String} {item : Json} {ms : List (String × Json)}
      {field : RecordField σ} (hf : fields.find? (·.name == key) = some field)
      (hp : field.present s = false) (hr : Reads (field.read s) (Utf8.encode item.compact) s')
      (h : Fills fields s' ms s'') : Fills fields s ((key, item) :: ms) s''

theorem Fills.append (h : Fills fields s ms s') (h' : Fills fields s' ns s'') :
    Fills fields s (ms ++ ns) s'' := by
  induction h with
  | nil => exact h'
  | cons hf hp hr _ ih => exact .cons hf hp hr (ih h')

def memberBytes (key : String) (item : Json) (more : List UInt8) : List UInt8 :=
  key.toList.flatMap escapedBytes ++ [quote] ++ colon :: (Utf8.encode item.compact ++ more)

def moreBytes : List (String × Json) → List UInt8
  | [] => [closeObject]
  | (key, item) :: ms => comma :: quote :: memberBytes key item (moreBytes ms)

theorem moreBytes_eq_cons (ms : List (String × Json)) :
    ∃ b bytes, moreBytes ms = b :: bytes ∧ (b = comma ∨ b = closeObject) := by
  cases ms with
  | nil => exact ⟨_, _, rfl, .inr rfl⟩
  | cons m ms => exact ⟨_, _, rfl, .inl rfl⟩

theorem length_memberBytes (key : String) (item : Json) (more : List UInt8) :
    more.length < (memberBytes key item more).length := by
  simp only [memberBytes, List.length_append, List.length_cons]
  omega

theorem length_moreBytes (ms : List (String × Json)) : ms.length < (moreBytes ms).length := by
  induction ms with
  | nil => exact Nat.one_pos
  | cons m ms ih =>
    have hm := length_memberBytes m.1 m.2 (moreBytes ms)
    simp only [moreBytes, List.length_cons]
    omega

def member (fields : List (RecordField σ)) (closed : Bool) (fuel : Nat) (s : σ) : Reader σ := do
  let name ← string
  let field := fields.find? (·.name == name)
  if field.elim closed (·.present s) then throw .mismatch
  if (← peekByte) != colon then throw .malformed
  advance
  match field with
  | some field => members fields closed fuel false (← field.read s)
  | none =>
    skip (2 * (← get).length + 2)
    members fields closed fuel false s

theorem members_first (input : List UInt8) :
    members fields closed (fuel + 1) true s (quote :: input) = member fields closed fuel s input :=
  rfl

theorem members_next (input : List UInt8) :
    members fields closed (fuel + 1) false s (comma :: quote :: input) =
      member fields closed fuel s input :=
  rfl

theorem members_nil (first : Bool) : members fields closed fuel first s [] = .error .truncated := by
  cases fuel <;> rfl

def filled (fields : List (RecordField σ)) (closed : Bool) (fuel : Nat) (s : σ)
    (field : RecordField σ) : Reader σ := do
  if (← peekByte) != colon then throw .malformed
  advance
  members fields closed fuel false (← field.read s)

theorem member_eq {key : String} {field : RecordField σ} {input rest : List UInt8}
    (hk : string input = .ok (key, rest)) (hf : fields.find? (·.name == key) = some field)
    (hp : field.present s = false) :
    member fields closed fuel s input = filled fields closed fuel s field rest := by
  unfold member
  rw [bind_ok hk]
  simp only [hf, Option.elim_some, hp]
  rfl

theorem filled_colon (field : RecordField σ) (input : List UInt8) :
    filled fields closed fuel s field (colon :: input) =
      (field.read s >>= members fields closed fuel false) input :=
  rfl

variable {key : String} {item : Json} {field : RecordField σ}

theorem takes_member (hf : fields.find? (·.name == key) = some field)
    (hp : field.present s = false) (hr : Reads (field.read s) (Utf8.encode item.compact) s')
    (h : Takes (members fields closed fuel false s') (moreBytes ms) s'') :
    Takes (member fields closed fuel s) (memberBytes key item (moreBytes ms)) s'' := by
  obtain ⟨b, bytes, hm, hb⟩ := moreBytes_eq_cons ms
  rw [hm] at h ⊢
  have hc : Takes (filled fields closed fuel s field)
      (colon :: (Utf8.encode item.compact ++ b :: bytes)) s'' :=
    (hr.takes_bind hb h).cons (filled_colon field)
  intro rest
  rw [memberBytes, List.append_assoc _ (colon :: _),
    member_eq ((exact_string key).takes _) hf hp, hc rest]

theorem starves_member (hf : fields.find? (·.name == key) = some field)
    (hp : field.present s = false) (hr : Reads (field.read s) (Utf8.encode item.compact) s')
    (h : Starves (members fields closed fuel false s') (moreBytes ms)) :
    Starves (member fields closed fuel s) (memberBytes key item (moreBytes ms)) := by
  obtain ⟨b, bytes, hm, hb⟩ := moreBytes_eq_cons ms
  rw [hm] at h ⊢
  have hc : Starves (filled fields closed fuel s field)
      (colon :: (Utf8.encode item.compact ++ b :: bytes)) :=
    (hr.starves_bind (f := members fields closed fuel false) hb (fun _ => members_nil false)
      h).cons rfl (filled_colon field)
  intro n hn
  rw [memberBytes, List.length_append] at hn
  -- Either the key is cut, or what is cut stands behind its closing quote.
  by_cases hx : n < (key.toList.flatMap escapedBytes ++ [quote]).length
  · rw [memberBytes, List.take_append_of_le_length (by omega)]
    exact bind_error ((exact_string key).starves n hx)
  · rw [memberBytes, take_append_of_le (by omega), member_eq ((exact_string key).takes _) hf hp]
    exact hc _ (by omega)

/-- With fuel for each member and the end they fill the record; with any fuel a cut is noticed. -/
theorem members_more (closed : Bool) (h : Fills fields s ms s') (fuel : Nat) :
    (ms.length < fuel → Takes (members fields closed fuel false s) (moreBytes ms) s') ∧
      Starves (members fields closed fuel false s) (moreBytes ms) := by
  induction h generalizing fuel with
  | @nil s =>
    cases fuel with
    | zero => exact ⟨fun hf => absurd hf (Nat.not_lt_zero _), fun _ _ => rfl⟩
    | succ fuel =>
      have he : Exact (members fields closed (fuel + 1) false s) [closeObject] s :=
        Exact.cons rfl (fun _ => rfl) exact_pure
      exact ⟨fun _ => he.takes, he.starves⟩
  | cons hf hp hr _ ih =>
    cases fuel with
    | zero => exact ⟨fun hf => absurd hf (Nat.not_lt_zero _), fun _ _ => rfl⟩
    | succ fuel =>
      obtain ⟨iht, ihs⟩ := ih fuel
      refine ⟨fun hl rest => ?_, fun n hn => ?_⟩
      · have ht := takes_member hf hp hr (iht (by simpa using hl))
        rw [moreBytes, List.cons_append, List.cons_append, members_next, ht rest]
      · have hs := starves_member hf hp hr ihs
        match n with
        | 0 => rfl
        | 1 => rfl
        | n + 2 =>
          rw [moreBytes, List.take_succ_cons, List.take_succ_cons, members_next]
          exact hs n (by simpa [moreBytes] using hn)

theorem encode_compactMembers (key : String) (item : Json) (ms : List (String × Json)) :
    Utf8.encode (compactMembers ((key, item) :: ms)) ++ [closeObject] =
      quote :: memberBytes key item (moreBytes ms) := by
  have hcolon : Utf8.encode ":" = [colon] := by decide
  have hcomma : Utf8.encode "," = [comma] := by decide
  induction ms generalizing key item with
  | nil =>
    rw [compactMembers, Utf8.encode_append, Utf8.encode_append, encode_quoted, hcolon]
    simp [memberBytes, moreBytes]
  | cons m ms ih =>
    obtain ⟨key', item'⟩ := m
    have hm : compactMembers ((key, item) :: (key', item') :: ms) =
        quoted key ++ ":" ++ compact item ++ "," ++ compactMembers ((key', item') :: ms) := by
      rw [compactMembers]
      exact List.cons_ne_nil _ _
    rw [hm, Utf8.encode_append, Utf8.encode_append, Utf8.encode_append, Utf8.encode_append,
      encode_quoted, hcolon, hcomma, List.append_assoc _ _ [closeObject], ih]
    simp [memberBytes, moreBytes]

variable {start : σ} {finish : σ → Option α} {a : α}

theorem record_open (input : List UInt8) :
    record fields closed start finish (openObject :: input) =
      (members fields closed (input.length + 1) true start >>= fun s =>
        match finish s with
        | some a => pure a
        | none => throw .mismatch) input :=
  rfl

/-- An object with a member is read as the record that its members fill, and not if it is cut. -/
theorem exact_record {ms : List (String × Json)} (h : Fills fields start ms s) (hms : ms ≠ [])
    (hs : finish s = some a) :
    Exact (record fields closed start finish) (Utf8.encode (Json.obj ms).compact) a := by
  have hopen : Utf8.encode "\x7b" = [openObject] := by decide
  have hclose : Utf8.encode "\x7d" = [closeObject] := by decide
  cases h with
  | nil => exact absurd rfl hms
  | @cons _ s' _ key item ms field hf hp hr h =>
    have he : Utf8.encode (Json.obj ((key, item) :: ms)).compact =
        openObject :: quote :: memberBytes key item (moreBytes ms) := by
      rw [compact, Utf8.encode_append, Utf8.encode_append, hopen, hclose, List.append_assoc,
        encode_compactMembers]
      rfl
    rw [he]
    have hl : ms.length < (memberBytes key item (moreBytes ms)).length :=
      lt_trans (length_moreBytes ms) (length_memberBytes key item _)
    constructor
    · intro rest
      have ht := takes_member hf hp hr
        ((members_more closed h (quote :: memberBytes key item (moreBytes ms) ++ rest).length).1
          (by simp only [List.length_append, List.length_cons]; omega)) rest
      rw [← members_first, ← List.cons_append] at ht
      rw [List.cons_append, record_open, bind_ok ht, hs]
      rfl
    · intro n hn
      match n with
      | 0 => rfl
      | 1 => rfl
      | n + 2 =>
        rw [List.take_succ_cons, List.take_succ_cons, record_open]
        apply bind_error
        rw [members_first]
        exact starves_member hf hp hr (members_more closed h _).2 n (by simpa using hn)

end HeadAudit.Json
