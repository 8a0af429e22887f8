import HeadAudit.Proofs.Json.Records
import HeadAudit.Trial.Token

namespace HeadAudit.Trial

open Json Json.Reader

def Payload.draft (p : Payload) : Draft where
  origin := some p.origin
  feature := some p.feature
  expiry := some p.expiry
  isSubdomain := if p.isSubdomain then some true else none
  isThirdParty := if p.isThirdParty then some true else none
  usage := p.usage.map some

theorem finish_draft (p : Payload) : p.draft.finish = some p := by
  obtain ⟨origin, feature, expiry, isSubdomain, isThirdParty, usage⟩ := p
  cases isSubdomain <;> cases isThirdParty <;> cases usage <;> rfl

theorem fills_subdomain {d : Draft} (h : d.isSubdomain = none) (b : Bool) :
    Fills Draft.fields d (if b then [("isSubdomain", .bool true)] else [])
      { d with isSubdomain := if b then some true else none } := by
  cases b with
  | true => exact .cons rfl (congrArg Option.isSome h) ((exact_bool true).map _).reads .nil
  | false =>
    rw [show d = { d with isSubdomain := none } by rw [← h]]
    exact .nil

theorem fills_thirdParty {d : Draft} (h : d.isThirdParty = none) (b : Bool) :
    Fills Draft.fields d (if b then [("isThirdParty", .bool true)] else [])
      { d with isThirdParty := if b then some true else none } := by
  cases b with
  | true => exact .cons rfl (congrArg Option.isSome h) ((exact_bool true).map _).reads .nil
  | false =>
    rw [show d = { d with isThirdParty := none } by rw [← h]]
    exact .nil

theorem fills_usage {d : Draft} (h : d.usage = none) (usage : Option String) :
    Fills Draft.fields d (Json.optional "usage" .str usage) { d with usage := usage.map some } := by
  cases usage with
  | some usage =>
    have hr := ((exact_optionalText usage).map fun u => { d with usage := some u }).reads
    exact .cons rfl (congrArg Option.isSome h) hr .nil
  | none =>
    rw [show d = { d with usage := none } by rw [← h]]
    exact .nil

theorem fills_draft (p : Payload) (hl : -signedEnd ≤ p.expiry) (hu : p.expiry < signedEnd) :
    ∃ m ms, p.toJson = .obj (m :: ms) ∧ Fills Draft.fields {} (m :: ms) p.draft := by
  refine ⟨_, _, rfl, ?_⟩
  apply Fills.cons rfl rfl ((exact_text p.origin).map _).reads
  apply Fills.cons rfl rfl ((exact_text p.feature).map _).reads
  apply Fills.cons rfl rfl ((reads_integer hl hu).map _)
  exact ((fills_subdomain rfl p.isSubdomain).append (fills_thirdParty rfl p.isThirdParty)).append
    (fills_usage rfl p.usage)

theorem exact_toJson (p : Payload) (hl : -signedEnd ≤ p.expiry) (hu : p.expiry < signedEnd) :
    Exact (record Draft.fields false {} Draft.finish) (Utf8.encode p.toJson.compact) p := by
  obtain ⟨m, ms, he, hf⟩ := fills_draft p hl hu
  rw [he]
  exact exact_record hf (List.cons_ne_nil m ms) (finish_draft p)

theorem readPayload_toJson (p : Payload) (hl : -signedEnd ≤ p.expiry) (hu : p.expiry < signedEnd) :
    readPayload (Utf8.encode p.toJson.compact) = .ok p := by
  have ht := (exact_toJson p hl hu).takes []
  rw [List.append_nil] at ht
  rw [readPayload, whole, StateT.run, ht]
  rfl

/-- No text that goes on to be the JSON of a payload is JSON itself. -/
theorem readPayload_take (p : Payload) (hl : -signedEnd ≤ p.expiry) (hu : p.expiry < signedEnd)
    {n : Nat} (hn : n < (Utf8.encode p.toJson.compact).length) :
    readPayload ((Utf8.encode p.toJson.compact).take n) = .error .truncated := by
  rw [readPayload, whole, StateT.run, (exact_toJson p hl hu).starves n hn]
  rfl

end HeadAudit.Trial
