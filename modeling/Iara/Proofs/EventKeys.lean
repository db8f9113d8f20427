import Iara.Eligibility.Normalizer
import Mathlib.Logic.Equiv.Basic

/-!
# Idempotency keys of events

The key of an event is a hash of the tenant's key and the payload's own id, for which
a fresh UUID stands in.  It is the same for two receptions of one payload, and another
for another event, only as far as that id is there and tells events apart.
-/

namespace Iara.Eligibility

open Iara.Lib

/-- The payload has an id of its own. -/
def HasEventId (payload : Json) : Prop := (rawEventId payload).truthy = true

instance (payload : Json) : Decidable (HasEventId payload) := inferInstanceAs (Decidable (_ = _))

namespace ChatwootEventNormalizer

variable (normalizer : ChatwootEventNormalizer)

/-- The events that a key is to tell apart differ in their type, as the payload has it,
or in the message. -/
def DifferentEvents (p q : Json) : Prop :=
  rawEventType p ≠ rawEventType q ∨ normalizer.messageId p ≠ normalizer.messageId q

/-- The keys of two receptions are those of the events received. -/
structure KeysIdentify (p q : Json) (e f : NormalizedChatwootEvent) : Prop where
  same : p = q → e.idempotencyKey = f.idempotencyKey
  different : normalizer.DifferentEvents p q → e.idempotencyKey ≠ f.idempotencyKey

/-- Two payloads have ids of their own, which read the same. -/
structure SharedEventId (p q : Json) : Prop where
  left : HasEventId p
  right : HasEventId q
  same : normalizer.text.str (rawEventId p) = normalizer.text.str (rawEventId q)

/-- One payload received twice has an id, and two events do not share theirs. -/
structure IdsIdentify (p q : Json) : Prop where
  same : p = q → HasEventId p
  different : normalizer.SharedEventId p q → ¬ normalizer.DifferentEvents p q

/-- The UUIDs drawn in two receptions are distinct, and no payload's id. -/
structure FreshDraws (p q : Json) (d d' : String) : Prop where
  distinct : d ≠ d'
  left : normalizer.text.str (rawEventId q) ≠ d
  right : normalizer.text.str (rawEventId p) ≠ d'

variable {normalizer} {p q : Json} {d d' : String}

theorem eventId_of_hasEventId (h : HasEventId p) (d : String) :
    normalizer.eventId p d = normalizer.text.str (rawEventId p) := by
  unfold HasEventId at h
  unfold eventId Json.orElse
  rw [if_pos h]

theorem eventId_of_not_hasEventId (h : ¬ HasEventId p) (d : String) :
    normalizer.eventId p d = d := by
  unfold HasEventId at h
  unfold eventId Json.orElse
  rw [if_neg h, PyText.str_str]

/-- Two receptions get one event id only where the payloads share theirs. -/
theorem eventId_eq_iff (h : normalizer.FreshDraws p q d d') :
    normalizer.eventId p d = normalizer.eventId q d' ↔ normalizer.SharedEventId p q := by
  by_cases hp : HasEventId p
  · rw [eventId_of_hasEventId hp]
    by_cases hq : HasEventId q
    · rw [eventId_of_hasEventId hq]
      exact ⟨fun hsame => ⟨hp, hq, hsame⟩, fun hshared => hshared.same⟩
    · rw [eventId_of_not_hasEventId hq]
      exact ⟨fun hsame => absurd hsame h.right, fun hshared => absurd hshared.right hq⟩
  · rw [eventId_of_not_hasEventId hp]
    by_cases hq : HasEventId q
    · rw [eventId_of_hasEventId hq]
      exact ⟨fun hsame => absurd hsame.symm h.left, fun hshared => absurd hshared.left hp⟩
    · rw [eventId_of_not_hasEventId hq]
      exact ⟨fun hsame => absurd hsame h.distinct, fun hshared => absurd hshared.left hp⟩

/-- A key without collisions is as good as the event id. -/
theorem makeIdempotencyKey_injective (hsha : Function.Injective normalizer.sha256) :
    Function.Injective normalizer.makeIdempotencyKey := by
  intro a b h
  have htext := congrArg String.toList (hsha h)
  simp only [String.toList_append] at htext
  exact String.toList_injective (List.append_cancel_left htext)

variable {rawHash rawHash' correlationId correlationId' : String} {e f : NormalizedChatwootEvent}

theorem idempotencyKey_eq_iff (hsha : Function.Injective normalizer.sha256)
    (hp : normalizer.normalize p rawHash correlationId d = .ok e)
    (hq : normalizer.normalize q rawHash' correlationId' d' = .ok f)
    (hfresh : normalizer.FreshDraws p q d d') :
    e.idempotencyKey = f.idempotencyKey ↔ normalizer.SharedEventId p q := by
  rw [idempotencyKey_of_eq_ok hp, idempotencyKey_of_eq_ok hq,
    (makeIdempotencyKey_injective hsha).eq_iff, eventId_eq_iff hfresh]

/-- The keys of two receptions identify the events exactly where the ids of the
payloads do. -/
theorem keysIdentify_iff (normalizer : ChatwootEventNormalizer)
    (hsha : Function.Injective normalizer.sha256) (p q : Json)
    (rawHash rawHash' correlationId correlationId' d d' : String)
    (hfresh : normalizer.FreshDraws p q d d') (e f : NormalizedChatwootEvent)
    (hp : normalizer.normalize p rawHash correlationId d = .ok e)
    (hq : normalizer.normalize q rawHash' correlationId' d' = .ok f) :
    normalizer.KeysIdentify p q e f ↔ normalizer.IdsIdentify p q := by
  have hkeys := idempotencyKey_eq_iff hsha hp hq hfresh
  constructor
  · intro h
    refine ⟨fun hsame => (hkeys.mp (h.same hsame)).left, fun hshared hdifferent => ?_⟩
    exact h.different hdifferent (hkeys.mpr hshared)
  · intro h
    constructor
    · rintro rfl
      have hid := h.same rfl
      exact hkeys.mpr ⟨hid, hid, rfl⟩
    · intro hdifferent hsame
      exact h.different (hkeys.mp hsame) hdifferent

end ChatwootEventNormalizer

/-! ## Three payloads -/

section Example

/-- SHA-256 on the keys of two events and on no account, without collisions. -/
def sampleSha256 : String ≃ String :=
  (Equiv.swap "clinic:5" "ee56520782e89fd3fbad7c33716849ec27ee24d660353152a3981c09b55d276f").trans
    ((Equiv.swap "clinic:6"
        "1e1e7aabc373b62419ad83129e78ace17c0b9b9824a8330788dc28fce1ecbaab").trans
      (Equiv.swap "" "e3b0c44298fc1c149afbf4c8996fb92427ae41e4649b934ca495991b7852b855"))

def sampleNormalizer : ChatwootEventNormalizer where
  sha256 := sampleSha256
  text := plainText
  isInt _ := true
  tenant := { tenantId := 1, tenantKey := "clinic", providerAccountId := "11111" }

def samplePayload (event : String) (id : Option Int) : Json :=
  .obj (("event", .str event) :: id.toList.map fun n => ("id", .num n))

def created : Json := samplePayload "message_created" (some 5)

def updated : Json := samplePayload "message_updated" (some 5)

def updatedLater : Json := samplePayload "message_updated" (some 6)

def nameless : Json := samplePayload "conversation_updated" none

theorem sample_normalized (event : String) (id : Option Int) (draw : String) :
    ∃ e, sampleNormalizer.normalize (samplePayload event id) "hash" "correlation" draw = .ok e := by
  cases id with
  | none => exact ⟨_, rfl⟩
  | some n => exact ⟨_, rfl⟩

theorem ne_gen {text : String} (h : text ∈ ["5", "6", "None"]) (i : Nat) :
    text ≠ UuidSupply.unary.gen i := by
  rintro rfl
  have hlength := UuidSupply.unary.le_length_gen i
  simp only [List.mem_cons, List.not_mem_nil, or_false] at h
  rcases h with h | h | h
  · rw [h] at hlength
    exact absurd hlength (by decide)
  · rw [h] at hlength
    exact absurd hlength (by decide)
  · rw [h] at hlength
    exact absurd hlength (by decide)

theorem freshDraws_sample {p q : Json}
    (hp : plainText.str (rawEventId p) ∈ ["5", "6", "None"])
    (hq : plainText.str (rawEventId q) ∈ ["5", "6", "None"]) :
    sampleNormalizer.FreshDraws p q (UuidSupply.unary.gen 0) (UuidSupply.unary.gen 1) where
  distinct h := absurd (UuidSupply.unary.gen_injective h) (by decide)
  left := ne_gen hq 0
  right := ne_gen hp 1

theorem created_updatedLater_identify :
    ∃ e f, sampleNormalizer.normalize created "hash" "correlation" (UuidSupply.unary.gen 0) =
        .ok e ∧
      sampleNormalizer.normalize updatedLater "hash" "correlation" (UuidSupply.unary.gen 1) =
        .ok f ∧
      sampleNormalizer.KeysIdentify created updatedLater e f := by
  obtain ⟨e, he⟩ := sample_normalized "message_created" (some 5) (UuidSupply.unary.gen 0)
  obtain ⟨f, hf⟩ := sample_normalized "message_updated" (some 6) (UuidSupply.unary.gen 1)
  refine ⟨e, f, he, hf, ?_⟩
  refine (ChatwootEventNormalizer.keysIdentify_iff sampleNormalizer sampleSha256.injective created
    updatedLater _ _ _ _ _ _ (freshDraws_sample (by decide) (by decide)) e f he hf).mpr ?_
  exact ⟨fun h => absurd h (by decide), fun h => absurd h.same (by decide)⟩

/-- An update has the key of the creation before it, and an event without an id has two
keys when it is received twice. -/
theorem keys_confuse :
    (∃ e f, sampleNormalizer.normalize created "hash" "correlation" (UuidSupply.unary.gen 0) =
        .ok e ∧
      sampleNormalizer.normalize updated "hash" "correlation" (UuidSupply.unary.gen 1) = .ok f ∧
      ¬ sampleNormalizer.KeysIdentify created updated e f) ∧
    ∃ e f, sampleNormalizer.normalize nameless "hash" "correlation" (UuidSupply.unary.gen 0) =
        .ok e ∧
      sampleNormalizer.normalize nameless "hash" "correlation" (UuidSupply.unary.gen 1) = .ok f ∧
      ¬ sampleNormalizer.KeysIdentify nameless nameless e f := by
  constructor
  · obtain ⟨e, he⟩ := sample_normalized "message_created" (some 5) (UuidSupply.unary.gen 0)
    obtain ⟨f, hf⟩ := sample_normalized "message_updated" (some 5) (UuidSupply.unary.gen 1)
    refine ⟨e, f, he, hf, fun h => h.different (.inl (by decide)) ?_⟩
    exact (ChatwootEventNormalizer.idempotencyKey_eq_iff sampleSha256.injective he hf
      (freshDraws_sample (by decide) (by decide))).mpr ⟨by decide, by decide, by decide⟩
  · obtain ⟨e, he⟩ := sample_normalized "conversation_updated" none (UuidSupply.unary.gen 0)
    obtain ⟨f, hf⟩ := sample_normalized "conversation_updated" none (UuidSupply.unary.gen 1)
    refine ⟨e, f, he, hf, fun h => ?_⟩
    have hshared := (ChatwootEventNormalizer.idempotencyKey_eq_iff sampleSha256.injective he hf
      (freshDraws_sample (by decide) (by decide))).mp (h.same rfl)
    exact absurd hshared.left (by decide)

end Example

end Iara.Eligibility
