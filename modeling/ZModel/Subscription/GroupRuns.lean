import ZModel.Subscription.Groups

/-!
# The group a user returns to

As long as a user buys only while no subscription of theirs is active, every subscription remembers
the group before the first purchase.
-/

namespace ZModel.Subscription

open Lib
open Store (Write SubscriptionStatus)

variable {db' : GroupDb} {plan : GroupPlan} {s : GroupSubscription} {now : Int}
  {rows : List GroupSubscription} {m : Moment} {user : Nat} {base : Option String}

structure Remembers (base : Option String) (s : GroupSubscription) : Prop where
  upgrade : s.upgradeGroup ≠ ""
  trimmed : trimSpace s.upgradeGroup = s.upgradeGroup
  downgrade : s.downgradeGroup = ""
  prev : s.prevUserGroup = if base.getD "" = s.upgradeGroup then "" else base.getD ""
  plain : ∀ g ∈ base, trimSpace g = g ∧ g ≠ ""

theorem Remembers.ended (h : Remembers base s) (status : SubscriptionStatus) (endTime : Int) :
    Remembers base { s with status, endTime } :=
  ⟨h.upgrade, h.trimmed, h.downgrade, h.prev, h.plain⟩

def returned (group : Option String) (s : GroupSubscription) : Option String :=
  let target := returnGroup (group.getD "") s
  if target = "" ∨ target = group.getD "" then group else group.map fun _ => target

variable (db : GroupDb)

theorem moveTo_group (user : Nat) (s : GroupSubscription) :
    (moveTo db user (returnGroup (db.userGroup user) s)).group user = returned (db.group user) s := by
  unfold moveTo returned GroupDb.userGroup
  dsimp only
  split
  · rfl
  · exact if_pos rfl

theorem moveTo_group_of_ne {other : Nat} (hne : other ≠ user) (target : String) :
    (moveTo db user target).group other = db.group other := by
  unfold moveTo
  split
  · rfl
  · exact if_neg hne

@[simp] theorem moveTo_subscriptions (user : Nat) (target : String) :
    (moveTo db user target).subscriptions = db.subscriptions := by
  unfold moveTo
  split <;> rfl

section Returned

variable {base : Option String} {s : GroupSubscription}

section

variable (h : Remembers base s)

include h

theorem returnGroup_eq (group : String) :
    returnGroup group s = if group ≠ s.upgradeGroup then "" else trimSpace s.prevUserGroup := by
  have hempty : trimSpace "" = "" := by decide
  unfold returnGroup
  rw [h.downgrade, hempty, if_neg (not_not.mpr rfl), h.trimmed]

theorem trimSpace_prev : trimSpace s.prevUserGroup = s.prevUserGroup := by
  have hempty : trimSpace "" = "" := by decide
  rw [h.prev]
  split
  · exact hempty
  cases base with
  | none => exact hempty
  | some g => exact (h.plain g rfl).1

theorem returned_base : returned base s = base := by
  unfold returned
  rw [returnGroup_eq h, trimSpace_prev h, h.prev]
  by_cases hsame : base.getD "" = s.upgradeGroup
  · simp [hsame]
  · simp [hsame]

theorem returned_upgrade (hbase : base ≠ none) : returned (some s.upgradeGroup) s = base := by
  obtain ⟨g, rfl⟩ := Option.ne_none_iff_exists'.mp hbase
  unfold returned
  rw [returnGroup_eq h, trimSpace_prev h, h.prev]
  have hne : g ≠ "" := (h.plain g rfl).2
  by_cases hsame : g = s.upgradeGroup
  · simp [hsame]
  · simp [hsame, hne]

theorem returned_cases (group : Option String) :
    returned group s = base ∨ returned group s = group := by
  by_cases hbase : base = none
  · -- A user that does not exist has no group to return to.
    right
    unfold returned
    rw [returnGroup_eq h, trimSpace_prev h, h.prev, hbase]
    simp
  by_cases hgroup : group = some s.upgradeGroup
  · left
    rw [hgroup]
    exact returned_upgrade h hbase
  right
  have hne : group.getD "" ≠ s.upgradeGroup := by
    cases group with
    | none => exact h.upgrade.symm
    | some current => exact fun heq => hgroup (congrArg some heq)
  unfold returned
  rw [returnGroup_eq h, if_pos hne]
  exact if_pos (.inl rfl)

end

end Returned

abbrev ActiveOf (user : Nat) (s : GroupSubscription) : Prop :=
  s.userId = user ∧ s.status = .active

/-- The subscriptions of a user whose group was `base`: at most one is active, and the user is in
the old group or in that of the active one. -/
structure Restorable (user : Nat) (base : Option String) (db : GroupDb) : Prop where
  remembers : ∀ s ∈ db.subscriptions.rows, s.userId = user → Remembers base s
  single : ∀ s ∈ db.subscriptions.rows, ∀ t ∈ db.subscriptions.rows,
    ActiveOf user s → ActiveOf user t → s = t
  last : ∀ s ∈ db.subscriptions.rows, ∀ t ∈ db.subscriptions.rows,
    ActiveOf user s → t.userId = user → t.status = .expired → t.endTime < s.endTime
  group : db.group user = base ∨
    base ≠ none ∧ ∃ s ∈ db.subscriptions.rows, ActiveOf user s ∧ db.group user = some s.upgradeGroup

inductive Ended (user : Nat) (rows : List GroupSubscription) : GroupSubscription → Prop where
  | kept {s : GroupSubscription} (hs : s ∈ rows) : Ended user rows s
  | cancelled {s : GroupSubscription} (hs : s ∈ rows) (now : Int) :
      Ended user rows { s with status := .cancelled, endTime := now }
  | expired {s : GroupSubscription} (hs : s ∈ rows) (hactive : ActiveOf user s) :
      Ended user rows { s with status := .expired }

section Ends

variable {user : Nat} {base : Option String} {db db' : GroupDb}

theorem Ended.mem (h : Ended user rows s) (hactive : s.status = .active) : s ∈ rows := by
  cases h with
  | kept hs => exact hs
  | cancelled hs now => cases hactive
  | expired hs hs' => cases hactive

theorem Restorable.ended (h : Restorable user base db)
    (hrows : ∀ s ∈ db'.subscriptions.rows, s.userId = user → Ended user db.subscriptions.rows s)
    (hgroup : db'.group user = base ∨
      db'.group user = db.group user ∧ ∃ s ∈ db'.subscriptions.rows, ActiveOf user s) :
    Restorable user base db' where
  remembers s hs huser := by
    cases hrows s hs huser with
    | kept hmem => exact h.remembers s hmem huser
    | @cancelled t hmem now => exact (h.remembers t hmem huser).ended .cancelled now
    | @expired t hmem hactive => exact (h.remembers t hmem huser).ended .expired t.endTime
  single s hs t ht hactive hactive' :=
    h.single s ((hrows s hs hactive.1).mem hactive.2) t ((hrows t ht hactive'.1).mem hactive'.2)
      hactive hactive'
  last s hs t ht hactive huser hexpired := by
    have hmem := (hrows s hs hactive.1).mem hactive.2
    cases hrows t ht huser with
    | kept hmem' => exact h.last s hmem t hmem' hactive huser hexpired
    | @cancelled u hmem' now => cases hexpired
    | @expired u hmem' hactive' =>
      -- The row that expires was the only active one, so it is not active now.
      obtain rfl : s = u := h.single s hmem u hmem' hactive hactive'
      have hsame := Table.eq_of_key_eq (t := db'.subscriptions) hs ht rfl
      have hstatus := congrArg GroupSubscription.status hsame
      rw [hactive.2] at hstatus
      cases hstatus
  group := by
    obtain hbase | ⟨hsame, s, hs, hactive⟩ := hgroup
    · exact .inl hbase
    rw [hsame]
    refine h.group.imp_right fun ⟨hbase, t, ht, hactive', hgroup⟩ => ⟨hbase, s, hs, hactive, ?_⟩
    have hmem := (hrows s hs hactive.1).mem hactive.2
    rw [hgroup, h.single s hmem t ht hactive hactive']

theorem Restorable.returned (h : Restorable user base db) (hs : s ∈ db.subscriptions.rows)
    (huser : s.userId = user) :
    returned (db.group user) s = base ∨ returned (db.group user) s = db.group user ∧
      ∃ t ∈ db.subscriptions.rows, ActiveOf user t ∧ t ≠ s := by
  have hremembers := h.remembers s hs huser
  obtain hgroup | ⟨hbase, t, ht, hactive, hgroup⟩ := h.group
  · left
    rw [hgroup]
    exact returned_base hremembers
  by_cases hts : t = s
  · left
    rw [hgroup, hts]
    exact returned_upgrade hremembers hbase
  · exact (returned_cases hremembers (db.group user)).imp_right fun hsame =>
      ⟨hsame, t, ht, hactive, hts⟩

end Ends

@[simp] theorem downgrade_subscriptions (sub : GroupSubscription) (now : Int) :
    (downgradeUserGroup db sub now).subscriptions = db.subscriptions := by
  unfold downgradeUserGroup
  split
  · rfl
  split
  · rfl
  · exact moveTo_subscriptions db sub.userId _

theorem downgrade_group_of_ne (sub : GroupSubscription) (now : Int)
    (hne : sub.userId ≠ user) : (downgradeUserGroup db sub now).group user = db.group user := by
  unfold downgradeUserGroup
  split
  · rfl
  split
  · rfl
  · exact moveTo_group_of_ne db hne.symm _

theorem downgrade_group {sub : GroupSubscription} (now : Int) (h : Remembers base sub) :
    (downgradeUserGroup db sub now).group sub.userId = returned (db.group sub.userId) sub ∨
    (downgradeUserGroup db sub now).group sub.userId = db.group sub.userId ∧
      ∃ s ∈ db.subscriptions.rows, ActiveOf sub.userId s ∧ s.id ≠ sub.id := by
  unfold downgradeUserGroup
  have hupgrade : ¬(trimSpace sub.downgradeGroup = "" ∧ trimSpace sub.upgradeGroup = "") := by
    rw [h.trimmed]
    exact fun hempty => h.upgrade hempty.2
  rw [if_neg hupgrade]
  split
  next hany =>
    obtain ⟨s, hs, hupgrading⟩ := List.any_eq_true.mp hany
    simp only [GroupSubscription.upgrading, Bool.and_eq_true, decide_eq_true_eq] at hupgrading
    exact .inr ⟨rfl, s, hs, ⟨hupgrading.1.1.1.1, hupgrading.1.1.1.2⟩, hupgrading.2⟩
  · exact .inl (moveTo_group db sub.userId sub)

section Steps

variable {user : Nat} {base : Option String} {db : GroupDb}

section

variable (h : Restorable user base db)

include h

theorem Restorable.downgrade {sub : GroupSubscription}
    (hsub : sub ∈ db.subscriptions.rows) (now : Int) (db₁ : GroupDb) (hgroup : db₁.group = db.group)
    (hrows : ∀ s ∈ db₁.subscriptions.rows, s.id ≠ sub.id → s ∈ db.subscriptions.rows) :
    (downgradeUserGroup db₁ sub now).group user = base ∨
    (downgradeUserGroup db₁ sub now).group user = db.group user ∧
      ∃ s ∈ db.subscriptions.rows, ActiveOf user s ∧ s.id ≠ sub.id := by
  have hother : ∀ t ∈ db.subscriptions.rows, t ≠ sub → t.id ≠ sub.id := fun t ht hne hid =>
    hne (Table.eq_of_key_eq ht hsub hid)
  by_cases huser : sub.userId = user
  · subst huser
    obtain hreturned | ⟨hsame, s, hs, hactive, hid⟩ :=
      downgrade_group db₁ now (h.remembers sub hsub rfl)
    · rw [hreturned, hgroup]
      refine (h.returned hsub rfl).imp_right ?_
      rintro ⟨hsame, t, ht, hactive, hne⟩
      exact ⟨hsame, t, ht, hactive, hother t ht hne⟩
    · rw [hsame, hgroup]
      exact .inr ⟨rfl, s, hrows s hs hid, hactive, hid⟩
  rw [downgrade_group_of_ne db₁ sub now huser, hgroup]
  refine h.group.imp_right ?_
  rintro ⟨-, t, ht, hactive, -⟩
  refine ⟨rfl, t, ht, hactive, hother t ht ?_⟩
  rintro rfl
  exact huser hactive.1

theorem Restorable.invalidate (m : Moment) (id : Nat) :
    Restorable user base (invalidate m db id) := by
  unfold Subscription.invalidate
  cases hsub : db.subscriptions.find? id with
  | none => exact h
  | some sub =>
    have hmem := Table.find?_mem hsub
    refine h.ended (fun s hs _ => ?_) ?_
    · rw [downgrade_subscriptions] at hs
      obtain rfl | hs := Table.mem_put hs
      · exact .cancelled hmem m.now
      · exact .kept hs
    rw [downgrade_subscriptions]
    refine (h.downgrade hmem m.now { db with
      subscriptions := db.subscriptions.put { sub with status := .cancelled, endTime := m.now } }
      rfl fun s hs hid => ?_).imp_right ?_
    · obtain rfl | hs := Table.mem_put hs
      · exact absurd rfl hid
      · exact hs
    · rintro ⟨hsame, t, ht, hactive, hid⟩
      exact ⟨hsame, t, Table.mem_put_of_ne ht hid, hactive⟩

theorem Restorable.delete (m : Moment) (id : Nat) : Restorable user base (delete m db id) := by
  unfold Subscription.delete
  cases hsub : db.subscriptions.find? id with
  | none => exact h
  | some sub =>
    have hmem := Table.find?_mem hsub
    have hid : sub.id = id := Table.find?_key hsub
    refine h.ended (fun s hs _ => ?_) ?_
    · dsimp only at hs
      rw [downgrade_subscriptions] at hs
      exact .kept (List.mem_of_mem_filter hs)
    dsimp only
    rw [downgrade_subscriptions]
    refine (h.downgrade hmem m.now db rfl fun s hs _ => hs).imp_right ?_
    rintro ⟨hsame, t, ht, hactive, hne⟩
    refine ⟨hsame, t, List.mem_filter.mpr ⟨ht, ?_⟩, hactive⟩
    rw [← hid]
    exact decide_eq_true hne

end

theorem latest_eq (hs : s ∈ rows) (hlast : ∀ t ∈ rows, t = s ∨ t.endTime < s.endTime) :
    latest rows = some s := by
  have hfirst : rows.all (fun t =>
      t.endTime < s.endTime || (t.endTime = s.endTime && t.id ≤ s.id)) = true := by
    refine List.all_eq_true.mpr fun t ht => ?_
    obtain rfl | hlt := hlast t ht
    · simp
    · simp [hlt]
  unfold latest
  cases hfind : rows.find? fun s => rows.all fun t =>
      t.endTime < s.endTime || (t.endTime = s.endTime && t.id ≤ s.id) with
  | none => exact absurd hfirst (List.find?_eq_none.mp hfind s hs)
  | some t =>
    have hall := List.find?_some hfind
    have hts := List.all_eq_true.mp hall s hs
    obtain rfl | hlt := hlast t (List.mem_of_find?_eq_some hfind)
    · rfl
    · simp only [Bool.or_eq_true, Bool.and_eq_true, decide_eq_true_eq] at hts
      omega

theorem mem_latest (h : latest rows = some s) : s ∈ rows :=
  List.mem_of_find?_eq_some h

theorem mem_markExpired (hs : s ∈ (markExpired db user now).rows) :
    s ∈ db.subscriptions.rows ∧ ¬(s.userId = user ∧ s.due now = true) ∨
    ∃ t ∈ db.subscriptions.rows, t.userId = user ∧ t.due now = true ∧
      s = { t with status := .expired } := by
  obtain ⟨t, ht, rfl⟩ := List.mem_map.mp hs
  by_cases hdue : t.userId = user ∧ t.due now = true
  · rw [if_pos (by simpa using hdue)]
    exact .inr ⟨t, ht, hdue.1, hdue.2, rfl⟩
  · rw [if_neg (by simpa using hdue)]
    exact .inl ⟨ht, hdue⟩

theorem markExpired_kept (hs : s ∈ db.subscriptions.rows)
    (hdue : ¬(s.userId = user ∧ s.due now = true)) : s ∈ (markExpired db user now).rows :=
  List.mem_map.mpr ⟨s, hs, if_neg (by simpa using hdue)⟩

theorem markExpired_due (hs : s ∈ db.subscriptions.rows) (huser : s.userId = user)
    (hdue : s.due now = true) : { s with status := .expired } ∈ (markExpired db user now).rows :=
  List.mem_map.mpr ⟨s, hs, if_pos (by simpa using ⟨huser, hdue⟩)⟩

theorem active_of_due (h : s.due now = true) : s.status = .active := by
  simp only [GroupSubscription.due, Bool.and_eq_true, decide_eq_true_eq] at h
  exact h.1.1

@[simp] theorem expireUser_subscriptions (db : GroupDb) (user : Nat) (now : Int) :
    (expireUser db user now).subscriptions = markExpired db user now := by
  unfold expireUser
  dsimp only
  split
  · rfl
  split
  · rfl
  · exact moveTo_subscriptions _ _ _

theorem expireUser_group_of_ne (db : GroupDb) {other : Nat} (hne : other ≠ user) (now : Int) :
    (expireUser db user now).group other = db.group other := by
  unfold expireUser
  dsimp only
  split
  · rfl
  split
  · rfl
  · exact moveTo_group_of_ne _ hne _

theorem expiryGroup_eq (h : Remembers base s) (group : String) :
    expiryGroup group s = returnGroup group s := by
  refine if_neg fun hempty => h.upgrade ?_
  rw [← h.trimmed]
  exact hempty.2

abbrev expiredOf (rows : List GroupSubscription) (user : Nat) : List GroupSubscription :=
  rows.filter fun s =>
    s.userId = user && s.status = .expired && (s.downgradeGroup ≠ "" || s.upgradeGroup ≠ "")

theorem expireUser_cases (db : GroupDb) (user : Nat) (now : Int) :
    ((expireUser db user now).group user = db.group user ∧
      (∃ s ∈ (markExpired db user now).rows, ActiveOf user s)) ∨
    ((expireUser db user now).group user = db.group user ∧
      latest (expiredOf (markExpired db user now).rows user) = none) ∨
    ∃ s, latest (expiredOf (markExpired db user now).rows user) = some s ∧
      (expireUser db user now).group user = (moveTo
        { db with subscriptions := markExpired db user now } user
        (expiryGroup (db.userGroup user) s)).group user := by
  unfold expireUser
  dsimp only
  split
  next hany =>
    obtain ⟨s, hs, hupgrading⟩ := List.any_eq_true.mp hany
    simp only [GroupSubscription.upgrading, Bool.and_eq_true, decide_eq_true_eq] at hupgrading
    exact .inl ⟨rfl, s, hs, hupgrading.1.1.1, hupgrading.1.1.2⟩
  · cases hlatest : latest (expiredOf (markExpired db user now).rows user) with
    | none => exact .inr (.inl ⟨rfl, rfl⟩)
    | some s => exact .inr (.inr ⟨s, rfl, rfl⟩)

section

variable (h : Restorable user base db)

include h

theorem Restorable.latest_due (hs : s ∈ db.subscriptions.rows)
    (hactive : ActiveOf user s) (hdue : s.due now = true) :
    latest (expiredOf (markExpired db user now).rows user) = some { s with status := .expired } := by
  refine latest_eq ?_ fun t ht => ?_
  · refine List.mem_filter.mpr ⟨markExpired_due hs hactive.1 hdue, ?_⟩
    simp [hactive.1, (h.remembers s hs hactive.1).upgrade]
  obtain ⟨ht, hexpired⟩ := List.mem_filter.mp ht
  simp only [Bool.and_eq_true, decide_eq_true_eq] at hexpired
  obtain ⟨ht, -⟩ | ⟨u, hu, huser, hdue', rfl⟩ := mem_markExpired ht
  · exact .inr (h.last s hs t ht hactive hexpired.1.1 hexpired.1.2)
  · left
    rw [h.single u hu s hs ⟨huser, active_of_due hdue'⟩ hactive]

theorem Restorable.remembers_latest
    (hs : latest (expiredOf (markExpired db user now).rows user) = some s) : Remembers base s := by
  obtain ⟨hmem, hexpired⟩ := List.mem_filter.mp (mem_latest hs)
  simp only [Bool.and_eq_true, decide_eq_true_eq] at hexpired
  obtain ⟨hmem, -⟩ | ⟨t, ht, huser, -, rfl⟩ := mem_markExpired hmem
  · exact h.remembers s hmem hexpired.1.1
  · exact (h.remembers t ht huser).ended .expired t.endTime

theorem Restorable.expireUser_group (now : Int) :
    (Subscription.expireUser db user now).group user = base ∨
    (Subscription.expireUser db user now).group user = db.group user ∧
      ∃ s ∈ (markExpired db user now).rows, ActiveOf user s := by
  obtain hheld | ⟨hsame, hnone⟩ | ⟨s, hlatest, hmoved⟩ := expireUser_cases db user now
  · exact .inr hheld
  · rw [hsame]
    refine h.group.imp_right ?_
    rintro ⟨-, s, hs, hactive, -⟩
    refine ⟨rfl, s, markExpired_kept hs ?_, hactive⟩
    rintro ⟨-, hdue⟩
    rw [h.latest_due hs hactive hdue] at hnone
    cases hnone
  have hremembers := h.remembers_latest hlatest
  have hreturned : (Subscription.expireUser db user now).group user =
      Subscription.returned (db.group user) s := by
    rw [hmoved, expiryGroup_eq hremembers]
    exact moveTo_group { db with subscriptions := markExpired db user now } user s
  rw [hreturned]
  obtain hgroup | ⟨hbase, t, ht, hactive, hgroup⟩ := h.group
  · left
    rw [hgroup]
    exact returned_base hremembers
  by_cases hdue : t.due now = true
  · left
    obtain rfl : _ = s := Option.some.inj ((h.latest_due ht hactive hdue).symm.trans hlatest)
    rw [hgroup]
    exact returned_upgrade hremembers hbase
  · refine (returned_cases hremembers (db.group user)).imp_right fun hsame => ?_
    exact ⟨hsame, t, markExpired_kept ht fun h => hdue h.2, hactive⟩

theorem Restorable.expireUser (user' : Nat) (now : Int) :
    Restorable user base (expireUser db user' now) := by
  refine h.ended (fun s hs huser => ?_) ?_
  · rw [expireUser_subscriptions] at hs
    obtain ⟨hs, -⟩ | ⟨t, ht, -, hdue, rfl⟩ := mem_markExpired hs
    · exact .kept hs
    · exact .expired ht ⟨huser, active_of_due hdue⟩
  rw [expireUser_subscriptions]
  by_cases huser : user = user'
  · subst huser
    exact h.expireUser_group now
  rw [expireUser_group_of_ne db huser]
  refine h.group.imp_right ?_
  rintro ⟨-, s, hs, hactive, -⟩
  refine ⟨rfl, s, markExpired_kept hs ?_, hactive⟩
  rintro ⟨huser', -⟩
  exact huser (hactive.1.symm.trans huser')

theorem Restorable.expireUsers (m : Moment) (users : List Nat) :
    Restorable user base (expireUsers m users db) := by
  induction users generalizing db with
  | nil => exact h
  | cons user' users ih =>
    unfold Subscription.expireUsers
    split
    · exact h
    · exact ih (h.expireUser user' m.now)

end

def GroupPlan.Upgrades (plan : GroupPlan) : Prop :=
  trimSpace plan.upgradeGroup ≠ "" ∧ trimSpace plan.downgradeGroup = ""

instance (plan : GroupPlan) : Decidable plan.Upgrades := inferInstanceAs (Decidable (_ ∧ _))

/-- The user buys while nothing is active, for a later end, from a group without space around it. -/
def Fresh (user : Nat) (plan : GroupPlan) (m : Moment) (db : GroupDb) : Prop :=
  (∀ s ∈ db.subscriptions.rows, ¬ActiveOf user s) ∧
  (∀ s ∈ db.subscriptions.rows, s.userId = user ∧ s.status = .expired →
    ∀ endTime ∈ calcPlanEndTime m plan, s.endTime < endTime) ∧
  ∀ g ∈ db.group user, trimSpace g = g ∧ g ≠ ""

instance (user : Nat) (plan : GroupPlan) (m : Moment) (db : GroupDb) :
    Decidable (Fresh user plan m db) :=
  inferInstanceAs (Decidable (_ ∧ _))

theorem createUserSubscription_some {db : GroupDb}
    (h : createUserSubscriptionFromPlan m db user plan = some db') :
    ∃ endTime subscriptions, calcPlanEndTime m plan = some endTime ∧
      db.subscriptions.create (newSubscription m user plan endTime (db.userGroup user)) =
        some subscriptions ∧
      db' = { (if trimSpace plan.upgradeGroup ≠ "" ∧ db.userGroup user ≠ trimSpace plan.upgradeGroup
        then db.setGroup user (trimSpace plan.upgradeGroup) else db) with
        subscriptions } := by
  unfold createUserSubscriptionFromPlan at h
  split at h
  · cases h
  split at h
  · cases h
  simp only [Option.bind_eq_bind, Option.bind_eq_some_iff] at h
  obtain ⟨endTime, hend, subscriptions, hcreate, hdb⟩ := h
  exact ⟨endTime, subscriptions, hend, hcreate, (Option.some.inj hdb).symm⟩

theorem Restorable.purchase (h : Restorable user base db) (hplan : plan.Upgrades)
    (hfresh : Fresh user plan m db)
    (hbuy : createUserSubscriptionFromPlan m db user plan = some db') :
    Restorable user base db' := by
  obtain ⟨hidle, hlater, hplain⟩ := hfresh
  have hgroup : db.group user = base := by
    obtain hgroup | ⟨-, s, hs, hactive, -⟩ := h.group
    · exact hgroup
    · exact absurd hactive (hidle s hs)
  rw [hgroup] at hplain
  obtain ⟨endTime, subscriptions, hend, hcreate, rfl⟩ := createUserSubscription_some hbuy
  have hcurrent : db.userGroup user = base.getD "" := by rw [GroupDb.userGroup, hgroup]
  rw [hcurrent] at hcreate ⊢
  generalize hnew : newSubscription m user plan endTime (base.getD "") = new at hcreate
  have hactive : ∀ s ∈ subscriptions.rows, ActiveOf user s → s = new := fun s hs hs' =>
    ((Table.mem_create hcreate).mp hs).resolve_left fun hold => hidle s hold hs'
  refine ⟨fun s hs huser => ?_, fun s hs t ht hs' ht' => ?_, fun s hs t ht hs' huser hexpired => ?_,
    ?_⟩
  · obtain hs | rfl := (Table.mem_create hcreate).mp hs
    · exact h.remembers s hs huser
    · subst hnew
      refine ⟨hplan.1, trimSpace_trimSpace _, hplan.2, ?_, hplain⟩
      show (if trimSpace plan.upgradeGroup ≠ "" ∧ base.getD "" ≠ trimSpace plan.upgradeGroup then
        base.getD "" else "") = if base.getD "" = trimSpace plan.upgradeGroup then "" else base.getD ""
      by_cases hsame : base.getD "" = trimSpace plan.upgradeGroup
      · rw [if_pos hsame, if_neg fun hne => hne.2 hsame]
      · rw [if_neg hsame, if_pos ⟨hplan.1, hsame⟩]
  · exact (hactive s hs hs').trans (hactive t ht ht').symm
  · obtain rfl := hactive s hs hs'
    obtain ht | rfl := (Table.mem_create hcreate).mp ht
    · rw [← hnew]
      exact hlater t ht ⟨huser, hexpired⟩ endTime hend
    · rw [hs'.2] at hexpired
      cases hexpired
  dsimp only
  split
  · -- The user is put into the group of the new subscription, if they exist.
    show (if user = user then (db.group user).map _ else _) = base ∨ _
    rw [if_pos rfl, hgroup]
    cases base with
    | none => exact .inl rfl
    | some g =>
      refine .inr ⟨nofun, new, (Table.mem_create hcreate).mpr (.inr rfl), ?_, ?_⟩
      · subst hnew
        exact ⟨rfl, rfl⟩
      subst hnew
      show (if user = user then (db.group user).map _ else _) = _
      rw [if_pos rfl, hgroup]
      rfl
  · exact .inl hgroup

theorem Restorable.purchase_other (h : Restorable user base db) {user' : Nat} (hne : user' ≠ user)
    (hbuy : createUserSubscriptionFromPlan m db user' plan = some db') :
    Restorable user base db' := by
  obtain ⟨endTime, subscriptions, hend, hcreate, rfl⟩ := createUserSubscription_some hbuy
  refine h.ended (fun s hs huser => .kept ?_) ?_
  · obtain hs | rfl := (Table.mem_create hcreate).mp hs
    · exact hs
    · exact absurd huser hne
  have hgroup : ∀ target, (db.setGroup user' target).group user = db.group user := fun target =>
    if_neg hne.symm
  refine h.group.imp (fun hbase => ?_) ?_
  · rw [← hbase]
    split
    · exact hgroup _
    · rfl
  rintro ⟨-, s, hs, hactive, -⟩
  refine ⟨?_, s, (Table.mem_create hcreate).mpr (.inl hs), hactive⟩
  split
  · exact hgroup _
  · rfl

end Steps

/-- The purchases of the user are of plans that upgrade, while nothing is active. -/
def Meets (user : Nat) (db : GroupDb) : GroupStep × Moment → Prop
  | (.purchase user' plan, m) => user' = user → plan.Upgrades ∧ Fresh user plan m db
  | _ => True

instance (user : Nat) (db : GroupDb) : (i : GroupStep × Moment) → Decidable (Meets user db i)
  | (.purchase user' _, _) => inferInstanceAs (Decidable (user' = user → _))
  | (.expireDueSubscriptions _, _) => isTrue trivial
  | (.invalidate _, _) => isTrue trivial
  | (.delete _, _) => isTrue trivial

theorem Restorable.step {db : GroupDb} (h : Restorable user base db) {i : GroupStep × Moment}
    (hmeets : Meets user db i) : Restorable user base (groupStep db i) := by
  obtain ⟨step, m⟩ := i
  cases step with
  | purchase user' plan =>
    unfold groupStep
    dsimp only
    split
    · exact h
    cases hbuy : createUserSubscriptionFromPlan m db user' plan with
    | none => exact h
    | some db' =>
      by_cases huser : user' = user
      · obtain ⟨hplan, hfresh⟩ := hmeets huser
        exact h.purchase hplan hfresh (huser ▸ hbuy)
      · exact h.purchase_other huser hbuy
  | expireDueSubscriptions limit => exact h.expireUsers m _
  | invalidate id =>
    unfold groupStep
    dsimp only
    split
    · exact h
    · exact h.invalidate m id
  | delete id =>
    unfold groupStep
    dsimp only
    split
    · exact h
    · exact h.delete m id

/-- If this user buys only upgrading plans without a downgrade group, and only while nothing of
theirs is active, the group is the one at the start whenever no subscription is active. -/
theorem group_restored (user : Nat) (db : GroupDb)
    (hnew : ∀ s ∈ db.subscriptions.rows, s.userId ≠ user) (steps : List (GroupStep × Moment))
    (hmeets : Along groupStep (Meets user) db steps)
    (hidle : ∀ s ∈ (run groupStep db steps).subscriptions.rows, ¬ActiveOf user s) :
    (run groupStep db steps).group user = db.group user := by
  have hstart : Restorable user (db.group user) db :=
    ⟨fun s hs huser => absurd huser (hnew s hs), fun s hs _ _ hs' => absurd hs'.1 (hnew s hs),
      fun s hs _ _ hs' => absurd hs'.1 (hnew s hs), .inl rfl⟩
  have hend := run_invariant groupStep (Restorable user (db.group user))
    (fun _ _ h hmeets => h.step hmeets) hstart hmeets
  obtain hgroup | ⟨-, s, hs, hactive, -⟩ := hend.group
  · exact hgroup
  · exact absurd hactive (hidle s hs)

def sampleGroups : GroupDb where
  subscriptions := .empty
  group u := if u = 1 then some "default" else none

def vipPlan : GroupPlan := { id := 1, durationUnit := some .day, upgradeGroup := "vip" }

def svipPlan : GroupPlan := { id := 2, durationUnit := some .day, upgradeGroup := "svip" }

def overlapping (first second : GroupPlan) : List (GroupStep × Moment) :=
  [(.purchase 1 first, { now := 1000, newId := 1 }), (.purchase 1 second, { now := 4600, newId := 2 }),
    (.expireDueSubscriptions 0, { now := 88000 }), (.expireDueSubscriptions 0, { now := 91600 })]

/-- After a renewal, or an upgrade on top of another, the user does not return. -/
theorem group_not_restored :
    (let db := run groupStep sampleGroups (overlapping vipPlan vipPlan)
     (∀ s ∈ db.subscriptions.rows, ¬ActiveOf 1 s) ∧ db.group 1 = some "vip") ∧
    (let db := run groupStep sampleGroups (overlapping vipPlan svipPlan)
     (∀ s ∈ db.subscriptions.rows, ¬ActiveOf 1 s) ∧ db.group 1 = some "vip") ∧
    sampleGroups.group 1 = some "default" := by
  decide +kernel

theorem group_restored_sample :
    let steps : List (GroupStep × Moment) :=
      [(.purchase 1 vipPlan, { now := 1000, newId := 1 }),
        (.expireDueSubscriptions 0, { now := 88000 }),
        (.purchase 1 svipPlan, { now := 90000, newId := 2 }), (.invalidate 2, { now := 91000 })]
    (run groupStep sampleGroups steps).group 1 = sampleGroups.group 1 :=
  group_restored 1 sampleGroups (by decide) _ (by decide +kernel) (by decide +kernel)

end ZModel.Subscription
