import HeadAudit.Proofs.Json.Strings
import HeadAudit.Proofs.Text.Bytes
import HeadAudit.Proofs.Text.Numeral

namespace HeadAudit.Json

open List Numeral

variable {x y : List Char} {depth : Nat}

/-- What is written for `a` tells it from everything else, unless digits follow. -/
def Tells {α : Type} (f : α → List Char) (a : α) : Prop :=
  ∀ b x y, Breaks x → Breaks y → f a ++ x = f b ++ y → a = b ∧ x = y

section Scalars

theorem bool_append_inj {b c : Bool}
    (h : (if b then "true" else "false").toList ++ x =
      (if c then "true" else "false").toList ++ y) :
    b = c ∧ x = y := by
  cases b <;> cases c
  · exact ⟨rfl, append_cancel_left h⟩
  · exact absurd (cons.inj h).1 (by decide)
  · exact absurd (cons.inj h).1 (by decide)
  · exact ⟨rfl, append_cancel_left h⟩

theorem quoted_append_inj {s t : String} (h : (quoted s).toList ++ x = (quoted t).toList ++ y) :
    s = t ∧ x = y := by
  have hs := (exact_text s).takes (Utf8.bytesOf x)
  have ht := (exact_text t).takes (Utf8.bytesOf y)
  rw [Utf8.encode_eq_bytesOf, ← Utf8.bytesOf_append] at hs ht
  rw [h, ht] at hs
  obtain rfl : t = s := congrArg Prod.fst (Except.ok.inj hs)
  exact ⟨rfl, append_cancel_left h⟩

end Scalars

section Blocks

variable {α : Type} {f : α → List Char} {as bs : List α} {left right : Char}

def line (depth : Nat) (f : α → List Char) (a : α) : List Char :=
  '\n' :: (replicate (2 * depth) ' ' ++ f a)

def linesBehind (depth : Nat) (f : α → List Char) (as : List α) (rest : List Char) : List Char :=
  as.flatMap (fun a => ',' :: line depth f a) ++ '\n' :: rest

def block (left right : Char) (depth : Nat) (f : α → List Char) : List α → List Char
  | [] => [left, right]
  | a :: as => left :: (line (depth + 1) f a ++
      linesBehind (depth + 1) f as (replicate (2 * depth) ' ' ++ [right]))

theorem breaks_linesBehind (depth : Nat) (f : α → List Char) (as : List α) (rest : List Char) :
    Breaks (linesBehind depth f as rest) := by
  cases as <;> exact fun c hc => by cases hc; rfl

theorem linesBehind_inj (h : ∀ a ∈ as, Tells f a)
    (heq : linesBehind depth f as x = linesBehind depth f bs y) : as = bs ∧ x = y := by
  induction as generalizing bs with
  | nil =>
    cases bs with
    | nil => exact ⟨rfl, (cons.inj heq).2⟩
    | cons b bs => exact absurd (cons.inj heq).1 (by decide)
  | cons a as ih =>
    obtain ⟨ha, has⟩ := forall_mem_cons.mp h
    cases bs with
    | nil => exact absurd (cons.inj heq).1 (by decide)
    | cons b bs =>
      have hlines : f a ++ linesBehind depth f as x = f b ++ linesBehind depth f bs y := by
        simpa [linesBehind, line] using heq
      obtain ⟨rfl, hrest⟩ := ha b _ _ (breaks_linesBehind _ f _ _)
        (breaks_linesBehind _ f _ _) hlines
      obtain ⟨rfl, rfl⟩ := ih has hrest
      exact ⟨rfl, rfl⟩

theorem block_append_inj (h : ∀ a ∈ as, Tells f a) (hright : right ≠ '\n')
    (heq : block left right depth f as ++ x = block left right depth f bs ++ y) :
    as = bs ∧ x = y := by
  cases as with
  | nil =>
    cases bs with
    | nil => exact ⟨rfl, append_cancel_left heq⟩
    | cons b bs => exact absurd (cons.inj (cons.inj heq).2).1 hright
  | cons a as =>
    obtain ⟨ha, has⟩ := forall_mem_cons.mp h
    cases bs with
    | nil => exact absurd (cons.inj (cons.inj heq).2).1.symm hright
    | cons b bs =>
      have hlines : f a ++ linesBehind (depth + 1) f as (replicate (2 * depth) ' ' ++ right :: x) =
          f b ++ linesBehind (depth + 1) f bs (replicate (2 * depth) ' ' ++ right :: y) := by
        simpa [block, linesBehind, line] using heq
      obtain ⟨rfl, hrest⟩ := ha b _ _ (breaks_linesBehind _ f _ _)
        (breaks_linesBehind _ f _ _) hlines
      obtain ⟨rfl, hend⟩ := linesBehind_inj has hrest
      exact ⟨rfl, (cons.inj (append_cancel_left hend)).2⟩

def labelled (f : Json → List Char) (m : String × Json) : List Char :=
  (quoted m.1).toList ++ ':' :: ' ' :: f m.2

theorem tells_labelled {f : Json → List Char} {m : String × Json} (h : Tells f m.2) :
    Tells (labelled f) m := by
  intro m' x y hx hy heq
  rw [labelled, labelled, append_assoc, append_assoc] at heq
  obtain ⟨hkey, hvalue⟩ := quoted_append_inj heq
  obtain ⟨hitem, rfl⟩ := h m'.2 x y hx hy (cons.inj (cons.inj hvalue).2).2
  exact ⟨Prod.ext hkey hitem, rfl⟩

end Blocks

section Written

def written (depth : Nat) (j : Json) : List Char := (indented depth j).toList

theorem toList_newline (depth : Nat) :
    (newline depth).toList = '\n' :: replicate (2 * depth) ' ' := String.toList_ofList

theorem toList_indentedItems (items : List Json) (rest : List Char) :
    (indentedItems depth items).toList ++ '\n' :: rest =
      linesBehind depth (written depth) items rest := by
  rw [linesBehind]
  congr 1
  induction items with
  | nil => rfl
  | cons item items ih =>
    rw [flatMap_cons, ← ih]
    simp [indentedItems, toList_newline, line, written]

theorem toList_indentedMembers (members : List (String × Json)) (rest : List Char) :
    (indentedMembers depth members).toList ++ '\n' :: rest =
      linesBehind depth (labelled (written depth)) members rest := by
  rw [linesBehind]
  congr 1
  induction members with
  | nil => rfl
  | cons m members ih =>
    rw [flatMap_cons, ← ih]
    simp [indentedMembers, toList_newline, line, written, labelled]

theorem written_arr (items : List Json) :
    written depth (.arr items) = block '[' ']' depth (written (depth + 1)) items := by
  cases items with
  | nil => rw [written, indented]; rfl
  | cons item items =>
    rw [block, ← toList_indentedItems]
    simp [indented, toList_newline, line, written]

theorem written_obj (members : List (String × Json)) :
    written depth (.obj members) =
      block '\x7b' '\x7d' depth (labelled (written (depth + 1))) members := by
  cases members with
  | nil => rw [written, indented]; rfl
  | cons m members =>
    rw [block, ← toList_indentedMembers]
    simp [indented, toList_newline, line, written, labelled]

end Written

section Kinds

inductive Kind where
  | null
  | bool
  | num
  | str
  | arr
  | obj

def kind : Json → Kind
  | .null => .null
  | .bool _ => .bool
  | .num _ => .num
  | .str _ => .str
  | .arr _ => .arr
  | .obj _ => .obj

def Kind.of (c : Char) : Kind :=
  if c = 'n' then .null
  else if c = 't' ∨ c = 'f' then .bool
  else if c = '"' then .str
  else if c = '[' then .arr
  else if c = '\x7b' then .obj
  else .num

theorem Kind.of_isDigit {c : Char} (h : c.isDigit = true) : Kind.of c = .num := by
  have hne {d : Char} (hd : d.isDigit = false) : c ≠ d := by
    rintro rfl
    rw [h] at hd
    cases hd
  simp [Kind.of, hne]

theorem exists_block {α : Type} (left right : Char) (depth : Nat) (f : α → List Char)
    (as : List α) : ∃ cs, block left right depth f as = left :: cs := by
  cases as <;> exact ⟨_, rfl⟩

theorem exists_lead (depth : Nat) (j : Json) :
    ∃ c cs, written depth j = c :: cs ∧ Kind.of c = j.kind := by
  cases j with
  | null =>
    rw [written, indented]
    exact ⟨'n', "ull".toList, rfl, rfl⟩
  | bool b =>
    rw [written, indented]
    cases b with
    | true => exact ⟨'t', "rue".toList, rfl, rfl⟩
    | false => exact ⟨'f', "alse".toList, rfl, rfl⟩
  | num n =>
    rw [written, indented, toList_ofInt]
    split
    · exact ⟨'-', _, rfl, rfl⟩
    · obtain ⟨c, cs, hc, hdigit⟩ := exists_toString n.natAbs
      exact ⟨c, cs, hc, Kind.of_isDigit hdigit⟩
  | str s =>
    rw [written, indented]
    exact ⟨'"', _, String.toList_ofList, rfl⟩
  | arr items =>
    rw [written_arr]
    obtain ⟨cs, hcs⟩ := exists_block '[' ']' depth (written (depth + 1)) items
    exact ⟨'[', cs, hcs, rfl⟩
  | obj members =>
    rw [written_obj]
    obtain ⟨cs, hcs⟩ := exists_block '\x7b' '\x7d' depth (labelled (written (depth + 1))) members
    exact ⟨'\x7b', cs, hcs, rfl⟩

theorem kind_eq {j k : Json} (h : written depth j ++ x = written depth k ++ y) :
    j.kind = k.kind := by
  obtain ⟨c, cs, hc, hj⟩ := exists_lead depth j
  obtain ⟨d, ds, hd, hk⟩ := exists_lead depth k
  rw [hc, hd] at h
  rw [← hj, ← hk, (cons.inj h).1]

end Kinds

section Values

theorem tells_null (depth : Nat) : Tells (written depth) .null := by
  intro k x y _ _ h
  cases k with
  | null => exact ⟨rfl, append_cancel_left h⟩
  | _ => cases kind_eq h

theorem tells_bool (depth : Nat) (b : Bool) : Tells (written depth) (.bool b) := by
  intro k x y _ _ h
  cases k with
  | bool c =>
    rw [written, written, indented, indented] at h
    obtain ⟨rfl, rfl⟩ := bool_append_inj h
    exact ⟨rfl, rfl⟩
  | _ => cases kind_eq h

theorem tells_num (depth : Nat) (n : Int) : Tells (written depth) (.num n) := by
  intro k x y hx hy h
  cases k with
  | num m =>
    rw [written, written, indented, indented] at h
    obtain ⟨rfl, rfl⟩ := ofInt_append_inj hx hy h
    exact ⟨rfl, rfl⟩
  | _ => cases kind_eq h

theorem tells_str (depth : Nat) (s : String) : Tells (written depth) (.str s) := by
  intro k x y _ _ h
  cases k with
  | str t =>
    rw [written, written, indented, indented] at h
    obtain ⟨rfl, rfl⟩ := quoted_append_inj h
    exact ⟨rfl, rfl⟩
  | _ => cases kind_eq h

theorem tells_arr {items : List Json} (h : ∀ item ∈ items, Tells (written (depth + 1)) item) :
    Tells (written depth) (.arr items) := by
  intro k x y _ _ heq
  cases k with
  | arr others =>
    rw [written_arr, written_arr] at heq
    obtain ⟨rfl, rfl⟩ := block_append_inj h (by decide) heq
    exact ⟨rfl, rfl⟩
  | _ => cases kind_eq heq

theorem tells_obj {members : List (String × Json)}
    (h : ∀ m ∈ members, Tells (written (depth + 1)) m.2) :
    Tells (written depth) (.obj members) := by
  intro k x y _ _ heq
  cases k with
  | obj others =>
    rw [written_obj, written_obj] at heq
    obtain ⟨rfl, rfl⟩ := block_append_inj (fun m hm => tells_labelled (h m hm)) (by decide) heq
    exact ⟨rfl, rfl⟩
  | _ => cases kind_eq heq

theorem tells (depth : Nat) : (j : Json) → Tells (written depth) j
  | .null => tells_null depth
  | .bool b => tells_bool depth b
  | .num n => tells_num depth n
  | .str s => tells_str depth s
  | .arr items => tells_arr fun item _ => tells (depth + 1) item
  | .obj members => tells_obj fun m hm =>
    have hlt : sizeOf m.2 < sizeOf members :=
      lt_trans (by rw [Prod.mk.sizeOf_spec]; omega) (List.sizeOf_lt_of_mem hm)
    tells (depth + 1) m.2

end Values

theorem pretty_injective : Function.Injective pretty := by
  intro j k h
  have hbreaks : Breaks [] := fun c hc => by cases hc
  exact (tells 0 j k [] [] hbreaks hbreaks (congrArg (·.toList ++ []) h)).1

end HeadAudit.Json
