import Mathlib.Data.List.Sort
import ZModel.Subscription.Reset

/-!
# Charging the first subscription with room

`PreConsumeUserSubscription` and the image reservation both walk the active subscriptions in order
of their end, check each for a due reset, and charge the first one with room: `chargeFirst`.
-/

namespace ZModel.Subscription

open Lib Store

variable {a a' b : Accounts} {now zone : Int} {subs : List UserSubscription}
  {s s' : UserSubscription}

inductive ChargeError where
  | invalidPlanId
  | recordNotFound
  | duplicatedKey
  | resetDiverges
  deriving DecidableEq

def isActiveFor (userId : Nat) (now : Int) (s : UserSubscription) : Bool :=
  s.userId = userId ∧ s.status = .active ∧ now < s.endTime

def endsBefore (s t : UserSubscription) : Prop :=
  s.endTime < t.endTime ∨ (s.endTime = t.endTime ∧ s.id ≤ t.id)

instance (s t : UserSubscription) : Decidable (endsBefore s t) :=
  inferInstanceAs (Decidable (_ ∨ _))

def activeSubscriptions (a : Accounts) (userId : Nat) (now : Int) : List UserSubscription :=
  (a.subscriptions.rows.filter (isActiveFor userId now)).insertionSort endsBefore

def getSubscriptionPlanById (a : Accounts) (id : Nat) : Except ChargeError SubscriptionPlan :=
  if id = 0 then .error .invalidPlanId
  else match a.plans.find? id with
    | none => .error .recordNotFound
    | some plan => .ok plan

def checkReset (zone now : Int) (a : Accounts) (s : UserSubscription) :
    Except ChargeError (UserSubscription × Accounts) :=
  match getSubscriptionPlanById a s.planId with
  | .error e => .error e
  | .ok plan =>
    match maybeReset zone s plan now with
    | .unchanged => .ok (s, a)
    | .saved s' => .ok (s', a.saveSubscription s')
    | .diverges => .error .resetDiverges

structure ChargeRequest where
  requestId : String
  userId : Nat
  amount : Int
  amount_pos : 0 < amount

section

variable (r : ChargeRequest) (s : UserSubscription)

def ChargeRequest.record : SubscriptionPreConsumeRecord :=
  { requestId := r.requestId, userId := r.userId, userSubscriptionId := s.id,
    preConsumed := r.amount, status := .consumed }

def ChargeRequest.charge : UserSubscription :=
  s.setUsed (s.amountUsed + r.amount) (Int.add_nonneg s.used_nonneg (Int.le_of_lt r.amount_pos))

def ChargeRequest.Exceeds : Prop :=
  0 < s.amountTotal ∧ s.amountTotal - s.amountUsed < r.amount

end

instance (r : ChargeRequest) (s : UserSubscription) : Decidable (r.Exceeds s) :=
  inferInstanceAs (Decidable (_ ∧ _))

inductive Charged where
  | charged (s : UserSubscription) (a : Accounts)
  | exhausted (a : Accounts)

def chargeFirst (zone now : Int) (r : ChargeRequest) :
    List UserSubscription → Accounts → Except ChargeError Charged
  | [], a => .ok (.exhausted a)
  | s :: rest, a =>
    match checkReset zone now a s with
    | .error e => .error e
    | .ok (s, a) =>
      if r.Exceeds s then chargeFirst zone now r rest a
      else match a.preConsumeRecords.create (r.record s) with
        | none => .error .duplicatedKey
        | some records =>
          .ok (.charged s { a.saveSubscription (r.charge s) with preConsumeRecords := records })

/-! ## What a walk changes -/

def NoResetDue (zone now : Int) (a : Accounts) (userId : Nat) : Prop :=
  ∀ s ∈ activeSubscriptions a userId now, ∀ plan ∈ a.plans.rows, s.planId = plan.id →
    ¬ResetDue zone s plan now

instance (zone now : Int) (a : Accounts) (userId : Nat) :
    Decidable (NoResetDue zone now a userId) :=
  inferInstanceAs (Decidable (∀ s ∈ _, ∀ plan ∈ _, _ → ¬_))

structure Listed (a : Accounts) (subs : List UserSubscription) : Prop where
  current : ∀ s ∈ subs, a.subscriptions.find? s.id = some s
  nodup : (subs.map UserSubscription.id).Nodup

theorem listed_active (a : Accounts) (userId : Nat) (now : Int) :
    Listed a (activeSubscriptions a userId now) := by
  have hperm := List.perm_insertionSort endsBefore
    (a.subscriptions.rows.filter (isActiveFor userId now))
  constructor
  · intro s hs
    have hmem : s ∈ a.subscriptions.rows := List.mem_of_mem_filter (hperm.mem_iff.mp hs)
    exact Table.find?_eq_some_iff.mpr ⟨hmem, rfl⟩
  have hrows : (a.subscriptions.rows.map UserSubscription.id).Nodup := a.subscriptions.nodup
  have hsub := (List.filter_sublist (p := isActiveFor userId now)
    (l := a.subscriptions.rows)).map UserSubscription.id
  exact (hperm.map UserSubscription.id).nodup_iff.mpr (hrows.sublist hsub)

structure Frame (a a' : Accounts) : Prop where
  users : a'.users = a.users
  tokens : a'.tokens = a.tokens
  plans : a'.plans = a.plans

theorem Frame.refl (a : Accounts) : Frame a a := ⟨rfl, rfl, rfl⟩

theorem Frame.trans {c : Accounts} (h : Frame a b) (h' : Frame b c) : Frame a c :=
  ⟨h'.users.trans h.users, h'.tokens.trans h.tokens, h'.plans.trans h.plans⟩

theorem getSubscriptionPlanById_frame (h : Frame a a') (id : Nat) :
    getSubscriptionPlanById a' id = getSubscriptionPlanById a id := by
  simp only [getSubscriptionPlanById, h.plans]

theorem checkReset_stored (hs : a.subscriptions.find? s.id = some s)
    (h : checkReset zone now a s = .ok (s', a')) :
    Frame a a' ∧ s'.id = s.id ∧ a'.subscriptions.find? s.id = some s' ∧
      ∀ id ≠ s.id, a'.subscriptions.find? id = a.subscriptions.find? id := by
  unfold checkReset at h
  split at h
  · cases h
  split at h
  · cases h
    exact ⟨.refl a, rfl, hs, fun _ _ => rfl⟩
  next hsaved =>
    cases h
    have hid := maybeReset_saved_id hsaved
    refine ⟨⟨rfl, rfl, rfl⟩, hid, Table.find?_put_of_find? hs _ hid, fun id hne => ?_⟩
    exact Table.find?_put_of_ne (by rw [key_subscription, hid]; exact hne)
  · cases h

theorem checkReset_of_not_due (hs : a.subscriptions.find? s.id = some s)
    (hdue : ∀ plan, getSubscriptionPlanById a s.planId = .ok plan → ¬ResetDue zone s plan now)
    (h : checkReset zone now a s = .ok (s', a')) : a'.subscriptionUsed = a.subscriptionUsed := by
  unfold checkReset at h
  split at h
  · cases h
  rename_i plan hplan
  obtain hsame | ⟨last, next, hsaved⟩ := maybeReset_of_not_due (hdue plan hplan)
  · rw [hsame] at h
    cases h
    rfl
  rw [hsaved] at h
  cases h
  funext id
  have hsave := Accounts.subscriptionUsed_save hs
    { s with lastResetTime := last, nextResetTime := next } rfl id
  simpa using hsave

theorem checkReset_records (h : checkReset zone now a s = .ok (s', a')) :
    a'.preConsumeRecords = a.preConsumeRecords := by
  unfold checkReset at h
  split at h
  · cases h
  · split at h <;> cases h <;> rfl

theorem Listed.tail {rest : List UserSubscription} (h : Listed a (s :: rest))
    (hother : ∀ id ≠ s.id, a'.subscriptions.find? id = a.subscriptions.find? id) :
    Listed a' rest := by
  obtain ⟨hfresh, hnodup⟩ := List.nodup_cons.mp h.nodup
  refine ⟨fun t ht => ?_, hnodup⟩
  have hne : t.id ≠ s.id := fun he => hfresh (List.mem_map.mpr ⟨t, ht, he⟩)
  rw [hother t.id hne]
  exact h.current t (List.mem_cons_of_mem s ht)

variable {r : ChargeRequest}

theorem chargeFirst_charged (hlisted : Listed a subs)
    (h : chargeFirst zone now r subs a = .ok (.charged s a')) :
    ¬r.Exceeds s ∧ a'.subscriptions.find? s.id = some (r.charge s) ∧
      a'.preConsumeRecords.find? r.requestId = some (r.record s) := by
  induction subs generalizing a with
  | nil => cases h
  | cons t rest ih =>
    simp only [chargeFirst] at h
    split at h
    · cases h
    rename_i t' a₁ hcheck
    obtain ⟨-, hid, hrow, hother⟩ := checkReset_stored (hlisted.current t (.head _)) hcheck
    split at h
    · exact ih (hlisted.tail hother) h
    rename_i hroom
    split at h
    · cases h
    rename_i records hcreate
    cases h
    rw [← hid] at hrow
    refine ⟨hroom, Table.find?_put_of_find? hrow _ rfl, ?_⟩
    rw [Table.find?_create hcreate]
    exact if_pos rfl

def Charged.accounts : Charged → Accounts
  | .charged _ a => a
  | .exhausted a => a

def Charged.taken (r : ChargeRequest) : Charged → Nat → Int
  | .charged s _, id => if id = s.id then r.amount else 0
  | .exhausted _, _ => 0

theorem chargeFirst_of_not_due {c : Charged} (hlisted : Listed a subs)
    (hdue : ∀ s ∈ subs, ∀ plan, getSubscriptionPlanById a s.planId = .ok plan →
      ¬ResetDue zone s plan now) (h : chargeFirst zone now r subs a = .ok c) :
    Frame a c.accounts ∧
      ∀ id, c.accounts.subscriptionUsed id = (a.subscriptionUsed id).map (· + c.taken r id) := by
  induction subs generalizing a with
  | nil =>
    cases h
    refine ⟨.refl a, fun id => ?_⟩
    simp [Charged.accounts, Charged.taken]
  | cons s rest ih =>
    have hrow := hlisted.current s (.head _)
    simp only [chargeFirst] at h
    split at h
    · cases h
    rename_i s' a₁ hcheck
    obtain ⟨hframe, hid, hrow', hother⟩ := checkReset_stored hrow hcheck
    have hused := checkReset_of_not_due hrow (hdue s (.head _)) hcheck
    split at h
    · -- No room: the rest of the walk starts from the tables of the check.
      have hdue' : ∀ t ∈ rest, ∀ plan, getSubscriptionPlanById a₁ t.planId = .ok plan →
          ¬ResetDue zone t plan now := by
        intro t ht plan hplan
        rw [getSubscriptionPlanById_frame hframe] at hplan
        exact hdue t (List.mem_cons_of_mem s ht) plan hplan
      obtain ⟨hframe', hused'⟩ := ih (hlisted.tail hother) hdue' h
      refine ⟨hframe.trans hframe', fun id => ?_⟩
      rw [hused' id, hused]
    split at h
    · cases h
    cases h
    refine ⟨hframe.trans ⟨rfl, rfl, rfl⟩, fun id => ?_⟩
    rw [← hid] at hrow'
    have hsave := Accounts.subscriptionUsed_save hrow' (r.charge s') rfl id
    rw [hused] at hsave
    simpa [Charged.accounts, Charged.taken, ChargeRequest.charge,
      Accounts.subscriptionUsed] using hsave

theorem walk_of_not_due {c : Charged} (hdue : NoResetDue zone now a r.userId)
    (h : chargeFirst zone now r (activeSubscriptions a r.userId now) a = .ok c) :
    Frame a c.accounts ∧
      ∀ id, c.accounts.subscriptionUsed id = (a.subscriptionUsed id).map (· + c.taken r id) := by
  refine chargeFirst_of_not_due (listed_active a r.userId now) (fun s hs plan hplan => ?_) h
  unfold getSubscriptionPlanById at hplan
  split at hplan
  · cases hplan
  split at hplan
  · cases hplan
  rename_i hp
  cases hplan
  exact hdue s hs plan (Table.find?_mem hp) (Table.find?_key hp).symm

/-! ## What a walk chooses -/

def overflowFlags (a : Accounts) (userId : Nat) (now : Int) : List Bool :=
  (a.subscriptions.rows.filter (isActiveFor userId now)).map
    UserSubscription.allowWalletOverflow

theorem overflowFlags_eq (a : Accounts) (userId : Nat) (now : Int) :
    overflowFlags a userId now = ((a.subscriptions.rows.map fun s =>
      (isActiveFor userId now s, s.allowWalletOverflow)).filter Prod.fst).map Prod.snd := by
  rw [List.filter_map, List.map_map]
  rfl

theorem checkReset_flags (hs : a.subscriptions.find? s.id = some s)
    (h : checkReset zone now a s = .ok (s', a')) (userId : Nat) (time : Int) :
    overflowFlags a' userId time = overflowFlags a userId time := by
  unfold checkReset at h
  split at h
  · cases h
  split at h
  · cases h
    rfl
  next hsaved =>
    cases h
    obtain ⟨used, last, next, hused, rfl⟩ := maybeReset_saved hsaved
    rw [overflowFlags_eq, overflowFlags_eq]
    simp only [Accounts.saveSubscription]
    rw [Table.map_put hs]
    · rfl
    · rfl
  · cases h

theorem chargeFirst_exhausted_flags (hlisted : Listed a subs)
    (h : chargeFirst zone now r subs a = .ok (.exhausted a')) (userId : Nat) (time : Int) :
    overflowFlags a' userId time = overflowFlags a userId time ∧ Frame a a' := by
  induction subs generalizing a with
  | nil =>
    cases h
    exact ⟨rfl, .refl _⟩
  | cons s rest ih =>
    have hrow := hlisted.current s (.head _)
    simp only [chargeFirst] at h
    split at h
    · cases h
    rename_i s' a₁ hcheck
    obtain ⟨hframe, -, -, hother⟩ := checkReset_stored hrow hcheck
    split at h
    · obtain ⟨hflags, hframe'⟩ := ih (hlisted.tail hother) h
      exact ⟨hflags.trans (checkReset_flags hrow hcheck userId time), hframe.trans hframe'⟩
    · split at h <;> cases h

def firstWithRoom (zone now : Int) (a : Accounts) (r : ChargeRequest) :
    List UserSubscription → Except ChargeError (Option Nat)
  | [] => .ok none
  | s :: rest =>
    match checkReset zone now a s with
    | .error e => .error e
    | .ok (s', _) => if r.Exceeds s' then firstWithRoom zone now a r rest else .ok (some s.id)

theorem firstWithRoom_amount {r r' : ChargeRequest} (h : r'.amount = r.amount) :
    firstWithRoom zone now a r' = firstWithRoom zone now a r := by
  funext subs
  induction subs with
  | nil => rfl
  | cons s rest ih =>
    rw [firstWithRoom, firstWithRoom, ih]
    cases checkReset zone now a s with
    | error e => rfl
    | ok result =>
      have hexceeds : r'.Exceeds result.1 ↔ r.Exceeds result.1 := by
        simp only [ChargeRequest.Exceeds, h]
      simp only [hexceeds]

def Short (zone now : Int) (a : Accounts) (r : ChargeRequest) (s : UserSubscription) : Prop :=
  ∃ row a', checkReset zone now a s = .ok (row, a') ∧ r.Exceeds row

theorem firstWithRoom_none_iff :
    firstWithRoom zone now a r subs = .ok none ↔ ∀ s ∈ subs, Short zone now a r s := by
  induction subs with
  | nil => simp [firstWithRoom]
  | cons s rest ih =>
    rw [List.forall_mem_cons, ← ih, firstWithRoom]
    unfold Short
    cases hcheck : checkReset zone now a s with
    | error e => simp
    | ok result =>
      obtain ⟨row, a'⟩ := result
      dsimp only
      split
      next hexceeds =>
        simp [hexceeds]
      next hroom =>
        simp [hroom]

theorem checkReset_fst (h : b.plans = a.plans) (s : UserSubscription) :
    (checkReset zone now b s).map Prod.fst = (checkReset zone now a s).map Prod.fst := by
  have hplan : getSubscriptionPlanById b s.planId = getSubscriptionPlanById a s.planId := by
    simp only [getSubscriptionPlanById, h]
  unfold checkReset
  rw [hplan]
  split
  · rfl
  · split <;> rfl

def Charged.choice : Charged → Option Nat
  | .charged s _ => some s.id
  | .exhausted _ => none

theorem chargeFirst_choice (zone now : Int) (hlisted : Listed b subs)
    (hfresh : b.preConsumeRecords.find? r.requestId = none) (hplans : b.plans = a.plans) :
    (chargeFirst zone now r subs b).map Charged.choice = firstWithRoom zone now a r subs := by
  induction subs generalizing b with
  | nil => rfl
  | cons s rest ih =>
    have hrow := hlisted.current s (.head _)
    have hfst : (checkReset zone now b s).map Prod.fst =
        (checkReset zone now a s).map Prod.fst := checkReset_fst hplans s
    rw [chargeFirst, firstWithRoom]
    cases hb : checkReset zone now b s with
    | error e =>
      cases ha : checkReset zone now a s with
      | error e' =>
        rw [ha, hb] at hfst
        cases hfst
        rfl
      | ok result =>
        rw [ha, hb] at hfst
        cases hfst
    | ok result =>
      obtain ⟨row, b'⟩ := result
      obtain ⟨hframe, hid, -, hother⟩ := checkReset_stored hrow hb
      have hrecords := checkReset_records hb
      cases ha : checkReset zone now a s with
      | error e' =>
        rw [ha, hb] at hfst
        cases hfst
      | ok result =>
        obtain ⟨row', a'⟩ := result
        rw [ha, hb] at hfst
        cases hfst
        dsimp only
        split
        · exact ih (hlisted.tail hother) (hrecords ▸ hfresh) (hframe.plans.trans hplans)
        split
        next hcreate =>
          rw [← hrecords] at hfresh
          exact absurd hcreate (Table.create_ne_none (r := r.record row) hfresh)
        · simp only [Except.map, Charged.choice, hid]

end ZModel.Subscription
