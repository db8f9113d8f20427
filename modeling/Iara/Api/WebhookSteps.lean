import Iara.Api.Webhooks

/-!
# What one step of a delivery can do

`ActEffect` says, for one step of one delivery, when a job is published, when a
receipt is committed, how a delivery passes the checks and how it is lost.
-/

namespace Iara.Api

open Iara.Lib Iara.Persistence Iara.Eligibility

/-- The delivery has passed both checks of the database and is on its way to the
broker, or there. -/
def Phase.passed : Phase → Bool
  | .eligible => true
  | .recorded _ _ => true
  | .debounced _ _ => true
  | .accepted => true
  | .published => true
  | _ => false

/-- The delivery has ended without a job. -/
def Phase.lost : Phase → Bool
  | .rejected _ => true
  | .unpublished => true
  | .abandoned => true
  | _ => false

/-- The delivery has passed the rules. -/
def Phase.checked : Phase → Bool
  | .notDuplicate _ => true
  | phase => phase.passed

theorem Phase.eq_published {phase : Phase} (hfinished : phase.finished = true)
    (hkept : phase.lost = false) : phase = .published := by
  cases phase with
  | published => rfl
  | rejected decision => cases hkept
  | unpublished => cases hkept
  | abandoned => cases hkept
  | _ => cases hfinished

def Delivery.publishedJob (d : Delivery) : PublishedJob where
  eventKey := d.request.eventKey
  payload := d.request.job

namespace WebhookRouter

variable {router : WebhookRouter}

/-- The debounce check of a delivery finds its conversation's window open. -/
def windowLive (s : Shared) (d : Delivery) : Bool :=
  match d.phase with
  | .notDuplicate now => DebounceRepository.isDebouncing now d.request.conversationKey s.windows
  | _ => false

/-- Why a delivery ends without a job in this step. -/
def LosesBy (router : WebhookRouter) (s : Shared) (d : Delivery) : DeliveryStep → Prop
  | .selectReceipt => d.phase = .received ∧
      (router.checkEvent d.request ≠ none ∨ s.receipts.hasKey d.request.eventKey = true)
  | .selectDebounce => windowLive s d = true
  | .publish broker => broker.took = false
  | .databaseFails => True
  | .abandon => True
  | _ => False

structure ActEffect (router : WebhookRouter) (s : Shared) (d : Delivery) (a : DeliveryStep)
    (d' : Delivery) (s' : Shared) : Prop where
  request : d'.request = d.request
  unfinished : d.phase.finished = false
  started : d'.phase ≠ .received
  jobs : (s'.jobs = s.jobs ∧ d'.phase ≠ .published) ∨
    ((∃ broker : Broker, a = .publish broker ∧ broker.took = true) ∧ d.phase = .accepted ∧
      d'.phase = .published ∧ s'.jobs = s.jobs ++ [d.publishedJob])
  receipts : s'.receipts = s.receipts ∨
    s'.receipts = s.receipts.insertOrIgnore d.request.receipt ∧ d.phase ≠ .received
  passed : d'.phase.passed = true → d.phase.passed = true ∨ a = .databaseFails ∨
    (a = .selectDebounce ∧ windowLive s d = false)
  lost : d'.phase.lost = true → LosesBy router s d a

@[simp] theorem releaseLocks_jobs (s : Shared) (d : Delivery) :
    (releaseLocks s d).jobs = s.jobs := by
  unfold releaseLocks
  split <;> rfl

@[simp] theorem releaseLocks_receipts (s : Shared) (d : Delivery) :
    (releaseLocks s d).receipts = s.receipts := by
  unfold releaseLocks
  split <;> rfl

theorem selectReceipt_effect {s : Shared} {d : Delivery} (hphase : d.phase = .received) :
    ActEffect router s d .selectReceipt { d with phase := router.selectReceipt s d.request } s := by
  have hcases : (∃ decision, router.selectReceipt s d.request = .rejected decision ∧
        (router.checkEvent d.request ≠ none ∨ s.receipts.hasKey d.request.eventKey = true)) ∨
      router.selectReceipt s d.request = .notDuplicate s.now := by
    unfold selectReceipt
    cases hcheck : router.checkEvent d.request with
    | some decision => exact Or.inl ⟨decision, rfl, by simp⟩
    | none =>
        simp only
        split
        next hduplicate => exact Or.inl ⟨_, rfl, Or.inr hduplicate⟩
        next => exact Or.inr rfl
  have hunfinished : d.phase.finished = false := by rw [hphase]; rfl
  rcases hcases with ⟨decision, hrejected, hwhy⟩ | hpassed
  · rw [hrejected]
    exact ⟨rfl, hunfinished, by simp, Or.inl ⟨rfl, by simp⟩, Or.inl rfl, by simp [Phase.passed],
      fun _ => ⟨hphase, hwhy⟩⟩
  · rw [hpassed]
    exact ⟨rfl, hunfinished, by simp, Or.inl ⟨rfl, by simp⟩, Or.inl rfl, by simp [Phase.passed],
      by simp [Phase.lost]⟩

theorem selectDebounce_effect {s : Shared} {d : Delivery} {now : Nat}
    (hphase : d.phase = .notDuplicate now) :
    ActEffect router s d .selectDebounce { d with phase := selectDebounce s d.request now } s := by
  have hunfinished : d.phase.finished = false := by rw [hphase]; rfl
  have hlive : windowLive s d =
      DebounceRepository.isDebouncing now d.request.conversationKey s.windows := by
    rw [windowLive, hphase]
  unfold selectDebounce
  rw [← hlive]
  split
  next hclosed =>
    exact ⟨rfl, hunfinished, by simp, Or.inl ⟨rfl, by simp⟩, Or.inl rfl, by simp [Phase.passed],
      fun _ => hclosed⟩
  next hopen =>
    exact ⟨rfl, hunfinished, by simp, Or.inl ⟨rfl, by simp⟩, Or.inl rfl,
      fun _ => Or.inr (Or.inr ⟨rfl, by simpa using hopen⟩), by simp [Phase.lost]⟩

/-- The statements that write: the delivery has passed and goes on. -/
theorem write_effect {s s' : Shared} {d : Delivery} {a : DeliveryStep} {phase : Phase}
    (hbefore : d.phase.passed = true) (hunfinished : d.phase.finished = false)
    (hphase : phase.passed = true) (hunpublished : phase ≠ .published) (hjobs : s'.jobs = s.jobs)
    (hreceipts : s'.receipts = s.receipts ∨
      s'.receipts = s.receipts.insertOrIgnore d.request.receipt) :
    ActEffect router s d a { d with phase := phase } s' where
  request := rfl
  unfinished := hunfinished
  started := by
    intro hreceived
    simp only at hreceived
    rw [hreceived] at hphase
    cases hphase
  jobs := Or.inl ⟨hjobs, hunpublished⟩
  receipts := by
    refine hreceipts.imp_right fun hinsert => ⟨hinsert, ?_⟩
    intro hreceived
    rw [hreceived] at hbefore
    cases hbefore
  passed _ := Or.inl hbefore
  lost := by
    intro hlost
    cases phase <;> cases hphase <;> cases hlost

theorem degrade_effect {s : Shared} {d : Delivery} (hphase : d.phase.inDatabase = true) :
    ActEffect router s d .databaseFails (router.degrade s d).1 (router.degrade s d).2 := by
  have hunfinished : d.phase.finished = false := by
    cases hd : d.phase <;> rw [hd] at hphase <;> first | rfl | cases hphase
  unfold degrade
  cases router.checkEvent d.request with
  | some decision =>
      exact ⟨rfl, hunfinished, by simp, Or.inl ⟨releaseLocks_jobs s d, by simp⟩,
        Or.inl (releaseLocks_receipts s d), fun _ => Or.inr (Or.inl rfl), fun _ => trivial⟩
  | none =>
      exact ⟨rfl, hunfinished, by simp, Or.inl ⟨releaseLocks_jobs s d, by simp⟩,
        Or.inl (releaseLocks_receipts s d), fun _ => Or.inr (Or.inl rfl), fun _ => trivial⟩

theorem publish_effect {s : Shared} {d : Delivery} (hphase : d.phase = .accepted)
    (broker : Broker) :
    ActEffect router s d (.publish broker) (queueProcessingJob s d broker).1
      (queueProcessingJob s d broker).2 := by
  have hunfinished : d.phase.finished = false := by rw [hphase]; rfl
  have hpassed : d.phase.passed = true := by rw [hphase]; rfl
  unfold queueProcessingJob
  split
  next htook =>
    exact ⟨rfl, hunfinished, by simp, Or.inr ⟨⟨broker, rfl, htook⟩, hphase, rfl, rfl⟩, Or.inl rfl,
      fun _ => Or.inl hpassed, by simp [Phase.lost]⟩
  next hfailed =>
    exact ⟨rfl, hunfinished, by simp, Or.inl ⟨rfl, by simp⟩, Or.inl rfl,
      fun _ => Or.inl hpassed, fun _ => by simpa [LosesBy] using hfailed⟩

/-- What any step of a delivery can do. -/
theorem act_effect {s s' : Shared} {d d' : Delivery} {a : DeliveryStep}
    (hact : router.act s d a = some (d', s')) : ActEffect router s d a d' s' := by
  unfold act at hact
  cases a with
  | selectReceipt =>
      simp only at hact
      split at hact
      next hphase =>
        cases hact
        exact selectReceipt_effect hphase
      next => cases hact
  | selectDebounce =>
      simp only at hact
      split at hact
      next now hphase =>
        cases hact
        exact selectDebounce_effect hphase
      next => cases hact
  | record =>
      simp only at hact
      split at hact
      next hphase =>
        split at hact
        · cases hact
        · have hrecord := Option.some.inj hact
          unfold recordReceipt at hrecord
          split at hrecord
          · cases hrecord
            exact write_effect (by rw [hphase]; rfl) (by rw [hphase]; rfl) rfl (by simp) rfl
              (Or.inl rfl)
          · cases hrecord
            exact write_effect (by rw [hphase]; rfl) (by rw [hphase]; rfl) rfl (by simp) rfl
              (Or.inl rfl)
      next => cases hact
  | setDebounce =>
      simp only at hact
      split at hact
      next inserted now hphase =>
        split at hact
        · cases hact
        · cases hact
          exact write_effect (by rw [hphase]; rfl) (by rw [hphase]; rfl) rfl (by simp) rfl
            (Or.inl rfl)
      next => cases hact
  | commit =>
      simp only at hact
      split at hact
      next inserted lockedUntil hphase =>
        cases hact
        refine write_effect (by rw [hphase]; rfl) (by rw [hphase]; rfl) rfl (by simp)
          (releaseLocks_jobs s d) ?_
        unfold commit
        cases inserted with
        | true => exact Or.inr rfl
        | false => exact Or.inl rfl
      next => cases hact
  | databaseFails =>
      simp only at hact
      split at hact
      next hphase =>
        have hdegrade := Option.some.inj hact
        have heffect : ActEffect router s d .databaseFails (router.degrade s d).1
            (router.degrade s d).2 := degrade_effect hphase
        rw [hdegrade] at heffect
        exact heffect
      next => cases hact
  | publish broker =>
      simp only at hact
      split at hact
      next hphase =>
        have hpublish := Option.some.inj hact
        have heffect : ActEffect router s d (.publish broker) (queueProcessingJob s d broker).1
            (queueProcessingJob s d broker).2 := publish_effect hphase broker
        rw [hpublish] at heffect
        exact heffect
      next => cases hact
  | abandon =>
      simp only at hact
      split at hact
      · cases hact
      next hunfinished =>
        cases hact
        exact ⟨rfl, by simpa using hunfinished, by simp,
          Or.inl ⟨releaseLocks_jobs s d, by simp⟩, Or.inl (releaseLocks_receipts s d),
          by simp [Phase.passed], fun _ => trivial⟩

/-- What the environment can do. -/
theorem environment_effect {s t : Shared} {e : Event} {ls : List Delivery}
    (h : environment s e = some (ls, t)) :
    t.jobs = s.jobs ∧ t.receipts = s.receipts ∧
      ∀ d ∈ ls, e = .deliver d.request ∧ d.phase = .received := by
  cases e with
  | deliver request =>
      cases h
      exact ⟨rfl, rfl, by simp⟩
  | tick elapsed =>
      cases h
      exact ⟨rfl, rfl, by simp⟩

/-- A published delivery stays published. -/
theorem published_of_step {c c' : State} {m : Action} (hstep : router.machine.step c m = some c')
    {d : Delivery} (hmem : d ∈ c.parties) (hphase : d.phase = .published) : d ∈ c'.parties := by
  obtain ⟨i, hi⟩ := List.mem_iff_getElem?.1 hmem
  obtain ⟨d', hi', rfl | ⟨a, -, hact⟩⟩ := Interleaving.party_of_step hstep hi
  · exact List.mem_of_getElem? hi'
  · have hunfinished := (act_effect hact).unfinished
    rw [hphase] at hunfinished
    cases hunfinished

/-- The jobs of a run are those of its published deliveries. -/
theorem published_of_job {s : Shared} (hstart : s.jobs = []) {actions : List Action} {c : State}
    (hrun : router.machine.run { shared := s } actions = some c) :
    ∀ job ∈ c.shared.jobs, ∃ d ∈ c.parties, d.phase = .published ∧ job = d.publishedJob := by
  refine router.machine.invariant_of_step
    (I := fun c => ∀ job ∈ c.shared.jobs,
      ∃ d ∈ c.parties, d.phase = .published ∧ job = d.publishedJob) ?_ ?_ hrun
  · intro c m c' hc hstep
    have hkept : ∀ job ∈ c.shared.jobs,
        ∃ d ∈ c'.parties, d.phase = .published ∧ job = d.publishedJob := by
      intro job hjob
      obtain ⟨d, hmem, hphase, hd⟩ := hc job hjob
      exact ⟨d, published_of_step hstep hmem hphase, hphase, hd⟩
    cases m with
    | environment e =>
        obtain ⟨ls, t, henv, rfl⟩ := Interleaving.step_environment hstep
        intro job hjob
        exact hkept job ((environment_effect henv).1 ▸ hjob)
    | party i a =>
        obtain ⟨d, d', t, hi, hact, rfl⟩ := Interleaving.step_party hstep
        have heffect := act_effect hact
        intro job hjob
        rcases heffect.jobs with ⟨hsame, -⟩ | ⟨-, -, hphase', hjobs⟩
        · exact hkept job (hsame ▸ hjob)
        · have hjob' : job ∈ c.shared.jobs ++ [d.publishedJob] := hjobs ▸ hjob
          rcases List.mem_append.1 hjob' with hold | hnew
          · exact hkept job hold
          · have hlt : i < c.parties.length := (List.getElem?_eq_some_iff.1 hi).1
            have hself : d'.publishedJob = d.publishedJob := by
              simp only [Delivery.publishedJob, heffect.request]
            exact ⟨d', List.mem_of_getElem? (List.getElem?_set_self hlt), hphase',
              (List.mem_singleton.1 hnew).trans hself.symm⟩
  · intro job hjob
    rw [hstart] at hjob
    cases hjob

theorem checkEvent_of_act {s s' : Shared} {d d' : Delivery} {a : DeliveryStep}
    (hact : router.act s d a = some (d', s')) (hchecked : d'.phase.checked = true) :
    d.phase.checked = true ∨ router.checkEvent d.request = none := by
  unfold act at hact
  cases a with
  | selectReceipt =>
      simp only at hact
      split at hact
      next =>
        cases hact
        right
        unfold selectReceipt at hchecked
        cases hcheck : router.checkEvent d.request with
        | none => rfl
        | some decision =>
            simp only [hcheck] at hchecked
            cases hchecked
      next => cases hact
  | databaseFails =>
      simp only at hact
      split at hact
      next =>
        cases hact
        right
        cases hcheck : router.checkEvent d.request with
        | none => rfl
        | some decision =>
            simp only [hcheck] at hchecked
            cases hchecked
      next => cases hact
  | abandon =>
      simp only at hact
      split at hact
      · cases hact
      · cases hact
        cases hchecked
  | _ =>
      simp only at hact
      split at hact
      next hphase =>
        left
        rw [hphase]
        rfl
      next => cases hact

/-- A published delivery has passed the rules, whatever became of the database. -/
theorem checkEvent_of_published {actions : List Action} {c : State}
    (hrun : router.machine.run { shared := {} } actions = some c) :
    ∀ d ∈ c.parties, d.phase = .published → router.checkEvent d.request = none := by
  have hinv := router.machine.invariant_of_step
    (I := fun c => ∀ d ∈ c.parties, d.phase.checked = true → router.checkEvent d.request = none)
    ?_ (by simp) hrun
  · intro d hmem hphase
    exact hinv d hmem (by rw [hphase]; rfl)
  · intro c m c' hc hstep
    refine Interleaving.parties_step
      (P := fun d => d.phase.checked = true → router.checkEvent d.request = none) ?_ ?_ hc hstep
    · intro s e ls t henv d hd hchecked
      have hreceived := ((environment_effect henv).2.2 d hd).2
      rw [hreceived] at hchecked
      cases hchecked
    · intro s d a d' t hact hd hchecked
      have hrequest := (act_effect hact).request
      rw [hrequest]
      exact (checkEvent_of_act hact hchecked).elim hd id

/-! ## A router to run -/

section Example

def plainRouter : WebhookRouter where
  sha256 s := s

def plainTenant : TenantContext where
  tenantId := 1
  tenantKey := "tenant"
  providerAccountId := "11111"

/-- A message of a contact in conversation 7. -/
def message (idempotencyKey content : String) : WebhookRequest where
  tenant := plainTenant
  event :=
    { correlationId := "c"
      idempotencyKey := idempotencyKey
      rawHash := "h"
      accountIdRef := makeAccountRef (fun s => s) "11111"
      conversationId := "7"
      messageType := some .incoming
      senderType := some .contact
      contentText := contentText false (some content) }

def greetingMessage : WebhookRequest := message "a" "Oi"

def questionMessage : WebhookRequest := message "b" "Que horas são?"

def checkSteps (i : Nat) : List Action :=
  [.party i .selectReceipt, .party i .selectDebounce]

def recordSteps (i : Nat) : List Action :=
  [.party i .record, .party i .setDebounce, .party i .commit]

/-- A delivery that is accepted, handled without another in between. -/
def acceptSteps (i : Nat) : List Action :=
  checkSteps i ++ recordSteps i ++ [.party i (.publish .takes)]

end Example

end WebhookRouter

end Iara.Api
