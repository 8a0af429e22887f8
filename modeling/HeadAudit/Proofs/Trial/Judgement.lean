import Mathlib
import HeadAudit.Proofs.Text.Pieces
import HeadAudit.Proofs.Trial.RoundTrip

namespace HeadAudit.Trial

open List

section Hosts

variable {host parent : List Char} {u v : Url}

def labels (host : String) : List String := Text.pieces '.' host

theorem isBelow_iff :
    isBelow host parent ↔ ∃ front, front ≠ [] ∧ host = front ++ '.' :: parent := by
  constructor
  · intro h
    rw [isBelow, Bool.and_eq_true, isSuffixOf_iff_suffix] at h
    obtain ⟨⟨lead, rfl⟩, h⟩ := h
    rw [length_append, Nat.add_sub_cancel, take_left, Bool.and_eq_true, decide_eq_true_iff,
      beq_iff_eq, getLast?_eq_some_iff] at h
    obtain ⟨hl, front, rfl⟩ := h
    refine ⟨front, ?_, by simp⟩
    rintro rfl
    simp at hl
  · rintro ⟨front, hne, rfl⟩
    have hhost : front ++ '.' :: parent = (front ++ ['.']) ++ parent := by simp
    rw [isBelow, hhost, length_append, Nat.add_sub_cancel, take_left, Bool.and_eq_true,
      isSuffixOf_iff_suffix]
    exact ⟨suffix_append _ _, by simp [length_pos_iff, hne]⟩

/-- A host is below another if it has labels in front of those of the other, and more than a dot in
front of it. -/
theorem isBelow_iff_labels (host parent : String) : isBelow host.toList parent.toList ↔
    ∃ front, front ≠ [] ∧ labels host = front ++ labels parent ∧ ".".intercalate front ≠ "" := by
  rw [isBelow_iff]
  constructor
  · rintro ⟨front, hne, hhost⟩
    have hjoin : host = String.ofList front ++ "." ++ parent := by
      rw [← String.toList_inj, hhost]
      simp
    refine ⟨labels (String.ofList front), Text.pieces_ne_nil _ _, ?_, ?_⟩
    · rw [hjoin, labels, Text.pieces_append rfl, labels, labels]
    · rw [labels, Text.intercalate_pieces rfl, ne_eq, ← String.toList_inj, String.toList_ofList]
      exact hne
  · rintro ⟨front, hne, hlabels, hjoin⟩
    have hhost : host = ".".intercalate front ++ "." ++ parent := by
      have hj : ∀ name, ".".intercalate (labels name) = name := Text.intercalate_pieces rfl
      have hp : labels parent ≠ [] := Text.pieces_ne_nil _ _
      rw [← hj host, hlabels, String.intercalate_append_of_ne_nil hne hp, hj]
    refine ⟨(".".intercalate front).toList, ?_, ?_⟩
    · rwa [ne_eq, ← String.toList_inj] at hjoin
    · rw [hhost]
      simp

example : isBelow "a.b.com".toList "b.com".toList ∧ ¬isBelow "ab.com".toList "b.com".toList ∧
    ¬isBelow ".b.com".toList "b.com".toList := by decide

/-- The host of a document is below that of a token, label by label. -/
def Under (document token : Url) : Prop :=
  ∃ host parent front, document.hostText? = some host ∧ token.hostText? = some parent ∧
    front ≠ [] ∧ labels host = front ++ labels parent ∧ ".".intercalate front ≠ ""

theorem isSubdomainOf_iff : isSubdomainOf u v ↔ Under u v := by
  rw [isSubdomainOf, Under]
  cases u.hostText? with
  | none => simp
  | some host =>
    cases v.hostText? with
    | none => simp
    | some parent => simp [isBelow_iff_labels]

def SharesOrigin (u v : Url) : Prop := ∃ origin, u.origin? = some origin ∧ v.origin? = some origin

theorem sameOrigin_iff : sameOrigin u v ↔ SharesOrigin u v := by
  rw [sameOrigin, SharesOrigin]
  cases u.origin? with
  | none => simp
  | some origin =>
    cases v.origin? with
    | none => simp
    | some other =>
      simp only [Option.some.injEq, beq_iff_eq]
      exact ⟨fun h => ⟨origin, rfl, h.symm⟩, fun ⟨_, hu, hv⟩ => hu.trans hv.symm⟩

end Hosts

section Judgement

variable {p : Payload} {ctx : Context} {token : String} {document url : Url} {problem : Problem}

def judgement (p : Payload) (ctx : Context) : List String := (problems p ctx).map (·.message)

def further (p : Payload) (ctx : Context) : List String := (judgement p ctx).filter (· ≠ "expired")

theorem message_eq_expired_iff : problem.message = "expired" ↔ problem = .expired := by
  cases problem <;> decide

theorem judgement_eq (hu : p.originUrl? = some url) : judgement p ctx =
    (if p.expiry < ctx.now then ["expired"] else []) ++
      ((ctx.document.bind fun document => originProblem p document url).toList.map
        (·.message)) := by
  rw [judgement, problems, hu, map_append]
  congr 1
  · rw [Payload.isExpired, apply_ite (map Problem.message)]
    simp only [decide_eq_true_eq]
    rfl
  · cases ctx.document <;> rfl

theorem originProblem_ne_expired : originProblem p document url ≠ some .expired := by
  rw [originProblem]
  split_ifs <;> nofun

theorem further_eq (hu : p.originUrl? = some url) : further p ctx =
    (ctx.document.bind fun document => originProblem p document url).toList.map (·.message) := by
  have hlead : (if p.expiry < ctx.now then ["expired"] else []).filter (· ≠ "expired") = [] := by
    split <;> rfl
  rw [further, judgement_eq hu, filter_append, hlead, nil_append, filter_eq_self, forall_mem_map]
  intro problem hp
  rw [Option.mem_toList, Option.bind_eq_some_iff] at hp
  obtain ⟨document, -, hp⟩ := hp
  rw [decide_eq_true_iff, ne_eq, message_eq_expired_iff]
  rintro rfl
  exact originProblem_ne_expired hp

theorem originUrl_of_decodeBytes {bytes : List UInt8} (h : decodeBytes bytes = .ok p) :
    ∃ url, Url.parse p.origin = .ok url := by
  unfold decodeBytes at h
  simp only [bind, Except.bind, throw, throwThe, MonadExceptOf.throw, pure, Except.pure] at h
  split_ifs at h
  split at h
  · cases h
  split_ifs at h with ho
  cases h
  cases hu : Url.parse p.origin with
  | error fault => simp [hu, Except.toOption] at ho
  | ok url => exact ⟨url, rfl⟩

/-- A token that was decoded has an origin that is a URL. -/
theorem exists_url_of_decode (h : decode token = .ok p) : ∃ url, Url.parse p.origin = .ok url := by
  rw [decode] at h
  cases hb : Base64.decode
      (Utf8.encode (String.ofList (token.toList.filter (!Ascii.isBlank ·)))) with
  | error fault =>
    rw [hb] at h
    cases h
  | ok bytes =>
    rw [hb] at h
    exact originUrl_of_decodeBytes h

/-- How a token counts: its expiry is judged by the clock alone, and its origin by the document. -/
structure Judges (p : Payload) (url : Url) (ctx : Context) : Prop where
  expired_iff : "expired" ∈ judgement p ctx ↔ p.expiry < ctx.now
  judgement_eq : judgement p ctx =
    (if p.expiry < ctx.now then ["expired"] else []) ++ further p ctx
  unplaced : ctx.document = none → further p ctx = []
  home : ∀ document, ctx.document = some document → SharesOrigin document url → further p ctx = []
  under : ∀ document, ctx.document = some document → ¬SharesOrigin document url →
    Under document url → further p ctx = if p.isSubdomain then [] else ["invalid subdomain"]
  apart : ∀ document, ctx.document = some document → ¬SharesOrigin document url →
    ¬Under document url →
      further p ctx = if p.isThirdParty then [] else ["invalid third-party origin"]

theorem further_of_document (hu : p.originUrl? = some url) (hd : ctx.document = some document) :
    further p ctx = (originProblem p document url).toList.map (·.message) := by
  rw [further_eq hu, hd, Option.bind_some]

theorem judges_of_originUrl (hu : p.originUrl? = some url) (ctx : Context) : Judges p url ctx := by
  have hj :
      judgement p ctx = (if p.expiry < ctx.now then ["expired"] else []) ++ further p ctx := by
    rw [further_eq hu, judgement_eq hu]
  constructor
  case expired_iff =>
    have hn : "expired" ∉ further p ctx := by simp [further]
    rw [hj, mem_append, or_iff_left hn]
    split <;> simp [*]
  case judgement_eq => exact hj
  case unplaced =>
    intro hd
    rw [further_eq hu, hd]
    rfl
  case home =>
    intro document hd hs
    rw [← sameOrigin_iff] at hs
    rw [further_of_document hu hd, originProblem, if_pos hs]
    rfl
  case under =>
    intro document hd hs hb
    rw [← sameOrigin_iff] at hs
    rw [← isSubdomainOf_iff] at hb
    rw [further_of_document hu hd, originProblem, if_neg hs, if_pos hb]
    split <;> rfl
  case apart =>
    intro document hd hs hb
    rw [← sameOrigin_iff] at hs
    rw [← isSubdomainOf_iff] at hb
    rw [further_of_document hu hd, originProblem, if_neg hs, if_neg hb]
    split <;> rfl

theorem judges (h : decode token = .ok p) (ctx : Context) :
    ∃ url, Url.parse p.origin = .ok url ∧ Judges p url ctx := by
  obtain ⟨url, hu⟩ := exists_url_of_decode h
  exact ⟨url, hu, judges_of_originUrl (by rw [Payload.originUrl?, hu]; rfl) ctx⟩

def appGrant : Payload where
  origin := "app://example.com"
  feature := "Beta"
  expiry := 1704067200
  isThirdParty := true

def appUrl (host : String) : Url where
  scheme := "app"
  authority := some { host := some (.domain host) }

def betaContext : Context where
  now := 1735689600
  document := some (appUrl "beta.example.com")

theorem judges_appGrant : decode (encodeUnsigned appGrant) = .ok appGrant ∧
    judgement appGrant betaContext = ["expired", "invalid subdomain"] := by
  have hd : decode (encodeUnsigned appGrant) = .ok appGrant := by
    have hr : rawBytes appGrant unsignedVersion (replicate 64 0) [] = unsignedBytes appGrant := by
      rw [rawBytes, append_nil, unsignedBytes]
    have hs : Spells (encodeUnsigned appGrant) (Base64.encode (unsignedBytes appGrant)) :=
      spells_asciiText fun _ hb => hb
    rw [decode_of_spells (.inl hs), ← hr]
    exact decodeBytes_rawBytes (by decide +kernel) (by decide) (by decide +kernel) _ rfl _
  have hp : Url.parse appGrant.origin = .ok (appUrl "example.com") := by decide +kernel
  obtain ⟨url, hu, hj⟩ := judges hd betaContext
  cases hp.symm.trans hu
  have hs : ¬SharesOrigin (appUrl "beta.example.com") (appUrl "example.com") := by
    rw [← sameOrigin_iff]
    decide
  have hb : Under (appUrl "beta.example.com") (appUrl "example.com") := by
    rw [← isSubdomainOf_iff]
    decide +kernel
  refine ⟨hd, ?_⟩
  rw [hj.judgement_eq, hj.under _ rfl hs hb]
  rfl

end Judgement

end HeadAudit.Trial
