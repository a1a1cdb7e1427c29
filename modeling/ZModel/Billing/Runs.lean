import ZModel.Billing.Opening
import ZModel.Lib.Run

/-!
# Whole sessions

The calls of a session in any order and number, with the refund goroutine as a step of its own. The
four phases below are all a session can be in.
-/

namespace ZModel.Billing

open Lib Store Subscription BillingSession

inductive Closing where
  | settle (actual : Int)
  | refund

structure Conf where
  session : BillingSession
  accounts : Accounts
  pending : List RefundJob := []
  closedBy : Option Closing := none
  refundCalled : Bool := false
  refundsIssued : Nat := 0

inductive Event where
  | reserve (target : Int) (w : Write) (o : TokenOutcome)
  | settle (actual : Int) (w : Write)
  | refund
  | runRefund

/-- One call. A settlement closes the session when it marks it settled, a refund when it starts a
job. -/
def step (c : Conf) : Event → Conf
  | .reserve target w o =>
    let (s, a) := c.session.reserve w o c.accounts target
    { c with session := s, accounts := a }
  | .settle actual w =>
    let (_, s, a) := c.session.settle w .done c.accounts actual
    { c with
      session := s, accounts := a
      closedBy := if c.session.settled = false ∧ s.settled = true then
        c.closedBy.or (some (.settle actual)) else c.closedBy }
  | .refund =>
    match c.session.refund with
    | (none, s) => { c with session := s, refundCalled := true }
    | (some j, s) => { c with
        session := s, pending := c.pending ++ [j], closedBy := c.closedBy.or (some .refund)
        refundCalled := true, refundsIssued := c.refundsIssued + 1 }
  | .runRefund =>
    match c.pending with
    | [] => c
    | j :: rest => { c with accounts := j.run c.accounts, pending := rest }

/-- No settlement after a refund, and none that brings a used amount below 0. -/
def Allowed (a₀ : Accounts) (c : Conf) : Event → Prop
  | .settle actual _ =>
    c.refundCalled = false ∧ ∀ f row, c.session.funding = .subscription f →
      a₀.subscriptions.find? f.subscriptionId = some row → 0 ≤ row.amountUsed + actual
  | _ => True

structure Refunded (s : BillingSession) : Prop where
  refunded : s.refunded = true
  settled : s.settled = false
  fundingSettled : s.fundingSettled = false

inductive Phase (a₀ : Accounts) (c : Conf) : Prop where
  | opened (hopen : Open a₀ c.session c.accounts) (hpending : c.pending = [])
      (hby : c.closedBy = none)
  | settled (actual : Int) (hsettled : c.session.settled = true)
      (htook : c.session.Took actual a₀ c.accounts) (hpending : c.pending = [])
      (hby : c.closedBy = some (.settle actual))
  | refunding (j : RefundJob) (hrefunded : Refunded c.session) (hcalled : c.refundCalled = true)
      (htook : c.session.Took 0 a₀ (j.run c.accounts)) (hpending : c.pending = [j])
      (hby : c.closedBy = some .refund)
  | refunded (hrefunded : Refunded c.session) (hcalled : c.refundCalled = true)
      (htook : c.session.Took 0 a₀ c.accounts) (hpending : c.pending = [])
      (hby : c.closedBy = some .refund)

variable {s : BillingSession}

theorem reserve_closed (h : s.settled = true ∨ s.refunded = true) (w : Write)
    (o : TokenOutcome) (a : Accounts) (target : Int) : s.reserve w o a target = (s, a) := by
  unfold reserve
  rw [if_pos]
  obtain h | h := h
  · exact .inl h
  · exact .inr (.inl h)

theorem settle_settled (h : s.settled = true) (w w' : Write) (a : Accounts)
    (actual : Int) : s.settle w w' a actual = (.ok (), s, a) := by
  unfold settle
  rw [if_pos h]

theorem refund_closed (h : s.settled = true ∨ s.refunded = true) : s.refund = (none, s) := by
  unfold refund
  rw [if_pos]
  obtain h | h := h
  · exact .inl h
  · exact .inr (.inl h)

variable {a₀ : Accounts} {c : Conf}

section

variable (h : Phase a₀ c)

include h

theorem reserve_phase (target : Int) (w : Write) (o : TokenOutcome) :
    Phase a₀ (step c (.reserve target w o)) := by
  have hclosed : c.session.settled = true ∨ c.session.refunded = true →
      step c (.reserve target w o) = c := by
    intro hdone
    simp only [step, reserve_closed hdone]
  cases h with
  | opened hopen hpending hby => exact .opened (reserve_open hopen rfl) hpending hby
  | settled actual hsettled htook hpending hby =>
    rw [hclosed (.inl hsettled)]
    exact .settled actual hsettled htook hpending hby
  | refunding j hrefunded hcalled htook hpending hby =>
    rw [hclosed (.inr hrefunded.refunded)]
    exact .refunding j hrefunded hcalled htook hpending hby
  | refunded hrefunded hcalled htook hpending hby =>
    rw [hclosed (.inr hrefunded.refunded)]
    exact .refunded hrefunded hcalled htook hpending hby

theorem settle_phase {actual : Int} {w : Write}
    (hallowed : Allowed a₀ c (.settle actual w)) : Phase a₀ (step c (.settle actual w)) := by
  obtain ⟨hnotCalled, hfloor⟩ := hallowed
  cases h with
  | opened hopen hpending hby =>
    obtain ⟨r, s, a, hsettle⟩ :
        ∃ r s a, c.session.settle w .done c.accounts actual = (r, s, a) := ⟨_, _, _, rfl⟩
    simp only [step, hsettle]
    obtain ⟨rfl, rfl, -⟩ | ⟨-, hsettled, htook⟩ := settle_open hopen hfloor hsettle
    · exact .opened hopen hpending (by simp [hby])
    · exact .settled actual hsettled htook hpending (by simp [hsettled, hopen.settled, hby])
  | settled n hsettled htook hpending hby =>
    simp only [step, settle_settled hsettled]
    exact .settled n hsettled htook hpending (by simp [hby])
  | refunding _ _ hcalled => simp [hnotCalled] at hcalled
  | refunded _ hcalled => simp [hnotCalled] at hcalled

theorem refund_phase : Phase a₀ (step c .refund) := by
  have hclosed : c.session.settled = true ∨ c.session.refunded = true →
      step c .refund = { c with refundCalled := true } := by
    intro hdone
    simp only [step, refund_closed hdone]
  cases h with
  | opened hopen hpending hby =>
    obtain ⟨hrefund, -⟩ | hrefund := refund_open hopen
    · simp only [step, hrefund]
      exact .opened hopen hpending hby
    simp only [step, hrefund]
    exact .refunding c.session.refundJob ⟨rfl, hopen.settled, hopen.fundingSettled⟩ rfl
      (Took.congr (refundJob_spec hopen) rfl rfl rfl) (by simp [hpending]) (by simp [hby])
  | settled actual hsettled htook hpending hby =>
    rw [hclosed (.inl hsettled)]
    exact .settled actual hsettled htook hpending hby
  | refunding j hrefunded hcalled htook hpending hby =>
    rw [hclosed (.inr hrefunded.refunded)]
    exact .refunding j hrefunded rfl htook hpending hby
  | refunded hrefunded hcalled htook hpending hby =>
    rw [hclosed (.inr hrefunded.refunded)]
    exact .refunded hrefunded rfl htook hpending hby

theorem runRefund_phase : Phase a₀ (step c .runRefund) := by
  cases h with
  | opened hopen hpending hby =>
    simp only [step, hpending]
    exact .opened hopen hpending hby
  | settled actual hsettled htook hpending hby =>
    simp only [step, hpending]
    exact .settled actual hsettled htook hpending hby
  | refunding j hrefunded hcalled htook hpending hby =>
    simp only [step, hpending]
    exact .refunded hrefunded hcalled htook rfl hby
  | refunded hrefunded hcalled htook hpending hby =>
    simp only [step, hpending]
    exact .refunded hrefunded hcalled htook hpending hby

theorem step_phase {e : Event} (hallowed : Allowed a₀ c e) : Phase a₀ (step c e) := by
  cases e with
  | reserve target w o => exact reserve_phase h target w o
  | settle actual w => exact settle_phase h hallowed
  | refund => exact refund_phase h
  | runRefund => exact runRefund_phase h

end

theorem step_settled {e : Event} (h : c.session.settled = true) :
    (step c e).session.settled = true ∧ (step c e).refundsIssued = c.refundsIssued := by
  cases e with
  | reserve target w o =>
    simp only [step, reserve_closed (.inl h)]
    exact ⟨h, trivial⟩
  | settle actual w =>
    simp only [step, settle_settled h]
    exact ⟨h, trivial⟩
  | refund =>
    simp only [step, refund_closed (.inl h)]
    exact ⟨h, trivial⟩
  | runRefund =>
    simp only [step]
    split <;> exact ⟨h, rfl⟩

theorem Phase.settled_of_fundingSettled (h : Phase a₀ c)
    (hfunding : c.session.fundingSettled = true) : c.session.settled = true := by
  cases h with
  | opened hopen => simp [hopen.fundingSettled] at hfunding
  | settled actual hsettled => exact hsettled
  | refunding j hrefunded => simp [hrefunded.fundingSettled] at hfunding
  | refunded hrefunded => simp [hrefunded.fundingSettled] at hfunding

theorem run_settled (events : List Event) (h : c.session.settled = true) :
    (run step c events).refundsIssued = c.refundsIssued := by
  induction events generalizing c with
  | nil => rfl
  | cons e rest ih =>
    obtain ⟨hsettled, hissued⟩ := step_settled (e := e) h
    rw [run_cons, ih hsettled, hissued]

theorem Phase.took_zero (h : Phase a₀ c) (hby : c.closedBy = none)
    (hnothing : c.session.trusted = true ∨ c.session.refund.1 = none) :
    c.session.Took 0 a₀ c.accounts := by
  cases h with
  | opened hopen =>
    obtain htrusted | hnone := hnothing
    · exact hopen.trusted htrusted ▸ hopen.took
    obtain ⟨-, htook⟩ | hjob := refund_open hopen
    · exact htook
    · simp [hjob] at hnone
  | settled _ _ _ _ hsome => simp [hsome] at hby
  | refunding _ _ _ _ _ hsome => simp [hsome] at hby
  | refunded _ _ _ _ hsome => simp [hsome] at hby

theorem Phase.took_closed (h : Phase a₀ c) (hpending : c.pending = []) :
    (∀ actual, c.closedBy = some (.settle actual) → c.session.Took actual a₀ c.accounts) ∧
      (c.closedBy = some .refund → c.session.Took 0 a₀ c.accounts) := by
  cases h with
  | opened _ _ hby => simp [hby]
  | settled actual _ htook _ hby =>
    refine ⟨fun n hn => ?_, fun hrefund => ?_⟩
    · rw [hby] at hn
      cases hn
      exact htook
    · rw [hby] at hrefund
      cases hrefund
  | refunding _ _ _ _ hjob => simp [hjob] at hpending
  | refunded _ _ htook _ hby => exact ⟨by simp [hby], fun _ => htook⟩

/-- For every sequence of calls: with no refund job left, funding source and token have given the
actual quota if a settlement closed the session, nothing if a refund did; after a settlement's
funding part no refund is started. -/
theorem session_takes_actual_or_nothing {e : OpenEnv} {a₀ a : Accounts} {info : RelayInfo}
    {clamped : Bool} {quota : Int} {s : BillingSession} (earlier later : List Event)
    (hopened : preConsumeBilling e a₀ info clamped quota = (.ok s, a))
    (hfresh : a₀.preConsumeRecords.find? info.requestId = none)
    (hdue : NoResetDue e.zone e.now a₀ info.userId)
    (hallowed : Along step (Allowed a₀) { session := s, accounts := a } earlier) :
    let c := run step { session := s, accounts := a } earlier
    (c.pending = [] →
      (∀ actual, c.closedBy = some (.settle actual) → c.session.Took actual a₀ c.accounts) ∧
      (c.closedBy = some .refund → c.session.Took 0 a₀ c.accounts) ∧
      (c.closedBy = none → (c.session.trusted = true ∨ c.session.refund.1 = none) →
        c.session.Took 0 a₀ c.accounts)) ∧
    (c.session.fundingSettled = true →
      (run step c later).refundsIssued = c.refundsIssued) := by
  intro c
  have hopen : Open a₀ s a := preConsumeBilling_open hfresh hdue hopened
  have hphase : Phase a₀ c := by
    refine run_invariant step (Phase a₀) (fun _ _ h hok => step_phase h hok) ?_ hallowed
    exact .opened hopen rfl rfl
  refine ⟨fun hpending => ?_, fun hfunding => ?_⟩
  · obtain ⟨hsettle, hrefund⟩ := hphase.took_closed hpending
    exact ⟨hsettle, hrefund, hphase.took_zero⟩
  · exact run_settled later (hphase.settled_of_fundingSettled hfunding)

def sampleAccounts : Accounts where
  users := .single ⟨1, 0⟩
  tokens := .single ⟨1, 1, 80, 0, false, Nat.one_pos⟩
  subscriptions :=
    .single ⟨1, 1, 1, 50, 0, 0, 1000000, .active, 0, 0, true, Nat.one_pos,
      Int.natCast_nonneg .zero⟩
  plans := .single ⟨1, "never", 0⟩

def sampleEnv : OpenEnv where
  now := 10
  trustQuota := 1000
  tokenQuota := 80
  userQuota := some 0

def sampleInfo : RelayInfo where
  userId := 1
  tokenId := 1
  requestId := "req"

def sampleCalls : List Event :=
  [.reserve 15 .done ⟨some 70, .done⟩, .reserve 30 .done ⟨none, .done⟩, .settle 12 .done, .refund]

theorem session_takes_actual_sample :
    ∃ s a, preConsumeBilling sampleEnv sampleAccounts sampleInfo false 10 = (.ok s, a) ∧
      let c := run step { session := s, accounts := a } sampleCalls
      c.accounts.subscriptionUsed 1 = some 12 ∧ c.accounts.tokenRemain 1 = some 68 ∧
        c.session.Took 12 sampleAccounts c.accounts := by
  have hopened : preConsumeBilling sampleEnv sampleAccounts sampleInfo false 10 = (.ok _, _) := rfl
  refine ⟨_, _, hopened, by decide, by decide, ?_⟩
  refine ((session_takes_actual_or_nothing sampleCalls [] hopened (by decide) (by decide)
    ⟨trivial, trivial, ⟨rfl, fun _ row _ _ => ?_⟩, trivial, trivial⟩).1 rfl).1 12 rfl
  have hused := row.used_nonneg
  omega

end ZModel.Billing
