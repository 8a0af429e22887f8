import HeadAudit.Check.Element
import HeadAudit.Proofs.Trial.Token

namespace HeadAudit.Trial

def rawBytes (p : Payload) (version : UInt8) (signature trailing : List UInt8) : List UInt8 :=
  let json := Utf8.encode p.toJson.compact
  version :: signature ++ lengthBytes json.length ++ json ++ trailing

theorem unsignedBytes_eq_layout (p : Payload) :
    unsignedBytes p = layout unsignedVersion (List.replicate 64 0)
      (lengthBytes (Utf8.encode p.toJson.compact).length) (Utf8.encode p.toJson.compact) := by
  rw [unsignedBytes, layout]

theorem inRange_bounds {seconds : Int} (h : Instant.inRange seconds) :
    -Json.Reader.signedEnd ≤ seconds ∧ seconds < Json.Reader.signedEnd := by
  rw [Instant.inRange, Bool.and_eq_true, decide_eq_true_iff, decide_eq_true_iff, Instant.first,
    Instant.last] at h
  have hs : Json.Reader.signedEnd = 2 ^ 63 := rfl
  omega

theorem decodeBytes_rawBytes {p : Payload} (ho : (Url.parse p.origin).toOption.isSome)
    (he : Instant.inRange p.expiry) (hj : (Utf8.encode p.toJson.compact).length < 2 ^ 32)
    (version : UInt8) {signature : List UInt8} (hs : signature.length = 64)
    (trailing : List UInt8) : decodeBytes (rawBytes p version signature trailing) = .ok p := by
  obtain ⟨hl, hu⟩ := inRange_bounds he
  have hlayout : rawBytes p version signature trailing =
      layout version signature (lengthBytes (Utf8.encode p.toJson.compact).length)
        (Utf8.encode p.toJson.compact ++ trailing) := by
    rw [rawBytes, layout, List.append_assoc _ (Utf8.encode _) trailing]
  rw [hlayout, decodeBytes_layout hs rfl, bigEndian_lengthBytes hj, List.take_left,
    readPayload_toJson p hl hu, if_neg (by rw [List.length_append]; omega)]
  simp only [Option.isNone_eq_false_iff.mpr ho, he, Bool.not_true, Bool.false_eq_true, if_false]

/-- The token that is written for a payload is decoded to it, and so is every other token with its
JSON: with any version and signature, with bytes behind the JSON, with or without padding, and with
blanks anywhere. -/
theorem decode_encodeUnsigned (p : Payload) (ho : (Url.parse p.origin).toOption.isSome)
    (he : Instant.inRange p.expiry) (hj : (Utf8.encode p.toJson.compact).length < 2 ^ 32) :
    decode (encodeUnsigned p) = .ok p ∧
      ∀ (version : UInt8) (signature trailing : List UInt8) (token : String),
        signature.length = 64 →
        Spells token (Base64.encode (rawBytes p version signature trailing)) ∨
          Spells token (Base64.unpadded (rawBytes p version signature trailing)) →
        decode token = .ok p := by
  have hv : ∀ (version : UInt8) (signature trailing : List UInt8) (token : String),
      signature.length = 64 →
      Spells token (Base64.encode (rawBytes p version signature trailing)) ∨
        Spells token (Base64.unpadded (rawBytes p version signature trailing)) →
      decode token = .ok p := by
    intro version signature trailing token hs ht
    rw [decode_of_spells ht, decodeBytes_rawBytes ho he hj version hs trailing]
  refine ⟨hv unsignedVersion (List.replicate 64 0) [] _ rfl (.inl ?_), hv⟩
  have hr : rawBytes p unsignedVersion (List.replicate 64 0) [] = unsignedBytes p := by
    rw [rawBytes, List.append_nil, unsignedBytes]
  rw [hr]
  exact spells_asciiText fun _ hb => hb

def sampleGrant : Payload where
  origin := "https://[2001:db8::1]:8443"
  feature := "Caf\u00e9 \"beta\""
  expiry := 1893456000
  isSubdomain := true
  isThirdParty := false
  usage := some "subset"

theorem decode_encodeUnsigned_sampleGrant :
    decode (encodeUnsigned sampleGrant) = .ok sampleGrant ∧
      decode ("\n " ++ asciiText (Base64.unpadded
        (rawBytes sampleGrant 2 (List.replicate 64 7) [0x7B])) ++ "\t") = .ok sampleGrant := by
  have h := decode_encodeUnsigned sampleGrant (by decide +kernel) (by decide +kernel)
    (by decide +kernel)
  have hs : Spells (asciiText (Base64.unpadded
      (rawBytes sampleGrant 2 (List.replicate 64 7) [0x7B]))) _ :=
    spells_asciiText fun _ hb => List.mem_of_mem_filter hb
  have hl : Spells "\n " [] := by
    unfold Spells
    decide
  have ht : Spells "\t" [] := by
    unfold Spells
    decide
  have hb := (hl.append hs).append ht
  rw [List.nil_append, List.append_nil] at hb
  exact ⟨h.1, h.2 2 (List.replicate 64 7) [0x7B] _ rfl (.inr hb)⟩

theorem check_of_error {token : String} {fault : Fault} (h : decode token = .error fault) {ν : Type}
    [DecidableEq ν] {a : Adapter ν} {node : ν} (hn : Rule.isOriginTrial a node)
    (ht : a.attr node "content" = some token) (ctx : Context) :
    Check.Element.check a ctx node = { warnings := ["invalid token"], payload := none } := by
  have hd : decode (Check.TrialToken.token a node) = .error fault := by
    rw [Check.TrialToken.token, ht, Option.getD_some, h]
  rw [Check.Element.check, if_pos hn, Check.TrialToken.check, hd]
  rfl

def withLength (p : Payload) (value : List UInt8) : String :=
  asciiText (Base64.encode
    ((unsignedBytes p).take lengthOffset ++ value ++ (unsignedBytes p).drop payloadOffset))

/-- A length that is not that of the JSON goes beyond the bytes that are there, or cuts the JSON
short. Either is noticed, so no such token says anything about its document. -/
theorem decode_withLength (p : Payload) (hl : -2 ^ 63 ≤ p.expiry) (hu : p.expiry < 2 ^ 63)
    (value : List UInt8) (hv : value.length = 4)
    (hne : value ≠ lengthBytes (Utf8.encode p.toJson.compact).length) :
    ((Utf8.encode p.toJson.compact).length < bigEndian value ∧ decode (withLength p value) =
          .error (.lengthOutOfRange (bigEndian value) (Utf8.encode p.toJson.compact).length) ∨
        bigEndian value < (Utf8.encode p.toJson.compact).length ∧
          decode (withLength p value) = .error (.json .truncated)) ∧
    ∀ {ν : Type} [DecidableEq ν] (a : Adapter ν) (ctx : Context) (node : ν),
      Rule.isOriginTrial a node → a.attr node "content" = some (withLength p value) →
      Check.Element.check a ctx node = { warnings := ["invalid token"], payload := none } := by
  have hd : decode (withLength p value) = decodeBytes ((unsignedBytes p).take lengthOffset ++
      value ++ (unsignedBytes p).drop payloadOffset) :=
    decode_of_spells (.inl (spells_asciiText fun _ hb => hb))
  rw [unsignedBytes_eq_layout] at hd
  have hs : (List.replicate 64 (0 : UInt8)).length = 64 := List.length_replicate
  obtain ⟨htake, -, hdrop⟩ := layout_parts unsignedVersion hs
    (length_lengthBytes (Utf8.encode p.toJson.compact).length) (Utf8.encode p.toJson.compact)
  rw [htake, hdrop, ← layout, decodeBytes_layout hs hv] at hd
  have hn : bigEndian value ≠ (Utf8.encode p.toJson.compact).length := fun h =>
    hne (by rw [← lengthBytes_bigEndian hv, h])
  rcases lt_or_gt_of_ne hn with hlt | hgt
  · rw [if_neg (by omega), readPayload_take p hl hu hlt] at hd
    exact ⟨.inr ⟨hlt, hd⟩, fun a ctx node ho ht => check_of_error hd ho ht ctx⟩
  · rw [if_pos hgt] at hd
    exact ⟨.inl ⟨hgt, hd⟩, fun a ctx node ho ht => check_of_error hd ho ht ctx⟩

theorem decode_withLength_sampleGrant :
    decode (withLength sampleGrant [0, 0, 1, 0]) = .error (.lengthOutOfRange 256 122) ∧
      decode (withLength sampleGrant [0, 0, 0, 60]) = .error (.json .truncated) := by
  have h := decode_withLength sampleGrant (by decide) (by decide)
  have hl := (h [0, 0, 1, 0] rfl (by decide +kernel)).1
  have hs := (h [0, 0, 0, 60] rfl (by decide +kernel)).1
  have hn : (Utf8.encode sampleGrant.toJson.compact).length = 122 := by decide +kernel
  rw [hn] at hl hs
  exact ⟨(hl.resolve_right fun hx => absurd hx.1 (by decide)).2,
    (hs.resolve_left fun hx => absurd hx.1 (by decide)).2⟩

end HeadAudit.Trial
