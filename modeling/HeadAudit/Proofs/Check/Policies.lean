import Mathlib
import HeadAudit.Markup.View
import HeadAudit.Proofs.Live.Attributes
import HeadAudit.Proofs.Selector.Tests
import HeadAudit.Proofs.Text.Dictionary
import HeadAudit.Proofs.Text.Pieces

namespace HeadAudit

open List

namespace Policy

variable {s part : String} {entry : String × List String}

def entryOf? (part : String) : Option (String × List String) :=
  match Text.words part with
  | [] => none
  | name :: values => some (Ascii.lower name, values)

def entries (s : String) : List (String × List String) :=
  (Text.pieces ';' s).filterMap entryOf?

def writtenEntry (entry : String × List String) : String := " ".intercalate (entry.1 :: entry.2)

def written (p : Policy) : String := ";".intercalate (p.directives.map writtenEntry)

structure IsToken (w : String) : Prop where
  word : Text.IsWord w
  semicolon : ';' ∉ w.toList

structure IsEntry (entry : String × List String) : Prop where
  name : IsToken entry.1
  lower : Ascii.lower entry.1 = entry.1
  values : ∀ value ∈ entry.2, IsToken value

theorem eq_of_directives {p q : Policy} (h : p.directives = q.directives) : p = q := by
  cases p
  cases q
  exact congrArg Policy.mk h

theorem add_eq (p : Policy) (part : String) : p.add part = match entryOf? part with
    | some entry => ⟨Dictionary.insertNew entry.1 entry.2 p.directives⟩
    | none => p := by
  rw [add, entryOf?]
  cases Text.words part <;> rfl

theorem directives_parse (s : String) : (parse s).directives = Dictionary.firsts (entries s) := by
  have hadd : ∀ (parts : List String) (p : Policy), (parts.foldl add p).directives =
      Dictionary.extend p.directives (parts.filterMap entryOf?) := by
    intro parts
    induction parts with
    | nil => exact fun _ => rfl
    | cons part parts ih =>
      intro p
      rw [foldl_cons, ih, add_eq, filterMap_cons]
      cases entryOf? part <;> rfl
  exact hadd (Text.pieces ';' s) ⟨[]⟩

section Tokens

theorem IsToken.of_mem_words {w : String} (hs : ';' ∉ s.toList) (h : w ∈ Text.words s) :
    IsToken w :=
  ⟨Text.isWord_of_mem_words h, fun hc => hs (Text.mem_of_mem_words h hc)⟩

theorem IsToken.lower {w : String} (h : IsToken w) : IsToken (Ascii.lower w) := by
  refine ⟨⟨fun he => h.word.1 ?_, fun c hc => ?_⟩, fun hc => ?_⟩
  · rw [← String.toList_inj, Ascii.toList_lower] at he
    rw [← String.toList_inj]
    exact map_eq_nil_iff.mp he
  · rw [Ascii.toList_lower, mem_map] at hc
    obtain ⟨x, hx, rfl⟩ := hc
    rw [Text.isBlank_toLower, h.word.2 x hx]
  · exact h.semicolon ((Text.mem_lower_iff rfl).mp hc)

theorem isEntry_of_entryOf? (hs : ';' ∉ part.toList) (h : entryOf? part = some entry) :
    IsEntry entry := by
  rw [entryOf?] at h
  cases hw : Text.words part with
  | nil =>
    rw [hw] at h
    cases h
  | cons name values =>
    rw [hw] at h
    cases h
    have ht : ∀ w ∈ name :: values, IsToken w := fun w hm => .of_mem_words hs (hw ▸ hm)
    obtain ⟨hname, hvalues⟩ := forall_mem_cons.mp ht
    exact ⟨hname.lower, Ascii.lower_lower name, hvalues⟩

theorem isEntry_of_mem (h : entry ∈ (parse s).directives) : IsEntry entry := by
  rw [directives_parse] at h
  obtain ⟨part, hp, he⟩ := mem_filterMap.mp (Dictionary.mem_of_mem_firsts h)
  exact isEntry_of_entryOf? (Text.not_mem_of_mem_pieces hp) he

end Tokens

section Written

theorem IsEntry.tokens (h : IsEntry entry) : ∀ w ∈ entry.1 :: entry.2, IsToken w :=
  forall_mem_cons.mpr ⟨h.name, h.values⟩

theorem IsEntry.entryOf?_written (h : IsEntry entry) :
    entryOf? (writtenEntry entry) = some entry := by
  have hw : Text.words (writtenEntry entry) = entry.1 :: entry.2 :=
    Text.words_intercalate rfl rfl fun w hm => (h.tokens w hm).word
  rw [entryOf?, hw]
  simp [h.lower]

theorem IsEntry.semicolon (h : IsEntry entry) : ';' ∉ (writtenEntry entry).toList := by
  intro hc
  rcases Text.mem_of_mem_intercalate hc with hc | ⟨w, hw, hc⟩
  · exact absurd hc (by decide)
  · exact (h.tokens w hw).semicolon hc

theorem entries_written {p : Policy} (h : ∀ entry ∈ p.directives, IsEntry entry) :
    entries (written p) = p.directives := by
  by_cases hn : p.directives = []
  · rw [entries, written, hn]
    rfl
  · have hpieces : Text.pieces ';' (written p) = p.directives.map writtenEntry := by
      apply Text.pieces_intercalate rfl (by simpa using hn)
      rw [forall_mem_map]
      exact fun entry hm => (h entry hm).semicolon
    rw [entries, hpieces, filterMap_map]
    exact (filterMap_congr fun entry hm => (h entry hm).entryOf?_written).trans filterMap_some

/-- A policy that was read is read again from what is written of it. -/
theorem parse_written (s : String) : parse (written (parse s)) = parse s := by
  have hs : Dictionary.Sorted (parse s).directives := by
    rw [directives_parse]
    exact Dictionary.sorted_firsts _
  have hd : (parse (written (parse s))).directives = (parse s).directives := by
    rw [directives_parse, entries_written fun _ => isEntry_of_mem, hs.firsts_eq]
  exact eq_of_directives hd

end Written

theorem directives_append (s t : String) : (parse (s ++ ";" ++ t)).directives =
    Dictionary.extend (parse s).directives (parse t).directives := by
  have hentries : entries (s ++ ";" ++ t) = entries s ++ entries t := by
    rw [entries, Text.pieces_append rfl, filterMap_append, entries, entries]
  rw [directives_parse, hentries, Dictionary.firsts_append, directives_parse, directives_parse]

/-- Reading a policy makes a map in which the first directive of a name counts. -/
structure FirstWins : Prop where
  append : ∀ s t : String, (parse (s ++ ";" ++ t)).directives =
    Dictionary.extend (parse s).directives (parse t).directives
  get?_append : ∀ s t name : String, (parse (s ++ ";" ++ t)).get? name =
    ((parse s).get? name).or ((parse t).get? name)
  isEntry : ∀ s : String, ∀ entry ∈ (parse s).directives, IsEntry entry
  parse_written : ∀ s : String, parse (written (parse s)) = parse s

theorem firstWins : FirstWins where
  append := directives_append
  get?_append := fun s t name => by
    rw [get?, directives_append, Dictionary.get?_extend]
    rfl
  isEntry := fun _ _ => isEntry_of_mem
  parse_written := parse_written

def names (s name : String) : Bool :=
  (Text.pieces ';' s).any fun part => (Text.words part).head?.any (Ascii.lower · == name)

theorem contains_parse (s name : String) : (parse s).contains name = names s name := by
  have hpart : ∀ part, (entryOf? part).any (·.1 == name) =
      (Text.words part).head?.any (Ascii.lower · == name) := by
    intro part
    rw [entryOf?]
    cases Text.words part <;> rfl
  rw [contains, Dictionary.contains, directives_parse, Dictionary.get?_firsts, Bool.eq_iff_iff,
    lookup_isSome_iff, names, any_eq_true]
  simp only [← hpart, entries, mem_filterMap, Option.any_eq_true]
  grind

end Policy

namespace Check.ContentPolicy

variable {ν : Type} {a : Adapter ν} {x : ν} {content : String}

/-- The warnings for the directives that a text names, in a fixed order. -/
def warned (content : String) : List String :=
  (headerOnly.filter fun entry => Policy.names content entry.1).map fun entry =>
    headerOnlyWarning entry.1 entry.2

theorem warnings_parse (content : String) : warnings (Policy.parse content) = warned content := by
  rw [warnings, warned]
  induction headerOnly with
  | nil => rfl
  | cons entry rest ih =>
    obtain ⟨directive, advice⟩ := entry
    rw [filterMap_cons, filter_cons, ih]
    dsimp only
    rw [Policy.contains_parse]
    cases Policy.names content directive <;> rfl

theorem not_selects_reportOnly (h : a.reads "http-equiv" "content-security-policy" x) :
    a.selects x "meta[http-equiv=content-security-policy-report-only i]" = false := by
  have hr : a.selects x "meta[http-equiv=content-security-policy-report-only i]" =
      (a.tagged "meta" x && a.reads "http-equiv" "content-security-policy-report-only" x) :=
    Adapter.selects_reads (by decide +kernel)
  have hlower : ∀ value ∈ ["content-security-policy", "content-security-policy-report-only"],
      Ascii.lower value = value := by decide +kernel
  rw [hr, Adapter.reads_eq (hlower _ (by simp))]
  rw [Adapter.reads_eq (hlower _ (by simp)), beq_iff_eq] at h
  rw [h]
  simp

theorem check_of_reads (h : a.reads "http-equiv" "content-security-policy" x)
    (hc : a.attr x "content" = some content) (hb : Text.blank content = false) : check a x =
      { warnings := warned content, payload := some (.contentPolicy (Policy.parse content)) } := by
  have hf : (a.attr x "content").filter (!Text.blank ·) = some content := by simp [hc, hb]
  rw [check, not_selects_reportOnly h, hf, ← warnings_parse]
  rfl

/-- Policies are maps in which the first directive of a name counts. For each directive that has no
place in a meta element there is one warning if some part of the text begins with its name. -/
theorem warns (a : Adapter ν) : Policy.FirstWins ∧
    headerOnly.map (·.1) = ["report-uri", "frame-ancestors", "sandbox"] ∧
    ∀ x content, a.reads "http-equiv" "content-security-policy" x →
      a.attr x "content" = some content → Text.blank content = false →
      check a x =
        { warnings := warned content, payload := some (.contentPolicy (Policy.parse content)) } :=
  ⟨Policy.firstWins, rfl, fun _ _ h hc hb => check_of_reads h hc hb⟩

def mixedContent : String :=
  "; SandBox allow-scripts;img-src report-uri;Report-URI /a ;;sandbox\u2003frame-ancestors"

def mixedPolicy : Markup.Document :=
  ⟨[.element "meta" [("http-equiv", "Content-Security-Policy"), ("content", mixedContent)] [] []]⟩

theorem warns_mixedPolicy :
    check (mixedPolicy.adapter none) [.child 0] =
      { warnings :=
          ["The report-uri directive is not supported in meta tags. " ++
              "Use the Content-Security-Policy-Report-Only HTTP header instead.",
            "The sandbox directive is not supported in meta tags. " ++
              "Use the Content-Security-Policy HTTP header instead."]
        payload := some (.contentPolicy ⟨[("img-src", ["report-uri"]), ("report-uri", ["/a"]),
          ("sandbox", ["allow-scripts"])]⟩) } := by
  have hp : (mixedPolicy.adapter none).attr [.child 0] "http-equiv" =
      some "Content-Security-Policy" := by decide +kernel
  have hr : (mixedPolicy.adapter none).reads "http-equiv" "content-security-policy" [.child 0] := by
    rw [Adapter.reads_eq (by decide +kernel), hp]
    decide +kernel
  have hc : (mixedPolicy.adapter none).attr [.child 0] "content" = some mixedContent := by
    decide +kernel
  have he : Policy.entries mixedContent = [("sandbox", ["allow-scripts"]),
      ("img-src", ["report-uri"]), ("report-uri", ["/a"]), ("sandbox", ["frame-ancestors"])] := by
    decide +kernel
  have hd : (Policy.parse mixedContent).directives =
      [("img-src", ["report-uri"]), ("report-uri", ["/a"]), ("sandbox", ["allow-scripts"])] := by
    rw [Policy.directives_parse, he]
    decide +kernel
  have h := (warns (mixedPolicy.adapter none)).2.2 [.child 0] mixedContent hr hc (by decide +kernel)
  have hw : warned mixedContent =
      ["The report-uri directive is not supported in meta tags. " ++
          "Use the Content-Security-Policy-Report-Only HTTP header instead.",
        "The sandbox directive is not supported in meta tags. " ++
          "Use the Content-Security-Policy HTTP header instead."] := by decide +kernel
  rw [h, ← hd, hw]

end Check.ContentPolicy

end HeadAudit
