import ZModel.Subscription.GroupRuns

/-!
# Which subscription decides on a group at expiry

`ExpireDueSubscriptions` marks the due subscriptions as expired and then asks for the latest expired
one with a group transition, which need not be one that this run has marked.
-/

namespace ZModel.Subscription

open Lib
open Store (Write SubscriptionStatus)

variable {s : GroupSubscription} {users : List Nat} (db : GroupDb)

def rowsOf (user : Nat) : List GroupSubscription :=
  db.subscriptions.rows.filter fun s => s.userId = user

def GroupSubscription.expire (s : GroupSubscription) : GroupSubscription :=
  { s with status := .expired }

variable (rows : List GroupSubscription)

def transitions (now : Int) : List GroupSubscription :=
  rows.filter fun s =>
    (s.status = .expired || s.due now) && (s.downgradeGroup ≠ "" || s.upgradeGroup ≠ "")

def movedTo (group : Option String) (target : String) : Option String :=
  if target = "" ∨ target = group.getD "" then group else group.map fun _ => target

variable (user : Nat)

def expiredGroup (now : Int) (group : Option String) : Option String :=
  if rows.any fun s => s.upgrading user now then group
  else match latest (transitions rows now) with
    | none => group
    | some last => movedTo group (expiryGroup (group.getD "") last)

section Rows

variable {db : GroupDb} {user : Nat} {now : Int}

theorem mem_rowsOf : s ∈ rowsOf db user ↔ s ∈ db.subscriptions.rows ∧ s.userId = user := by
  simp [rowsOf]

theorem not_due_of_upgrading (h : s.upgrading user now = true) : s.due now = false := by
  simp only [GroupSubscription.upgrading, Bool.and_eq_true, decide_eq_true_eq] at h
  simp only [GroupSubscription.due, Bool.and_eq_false_iff, decide_eq_false_iff_not]
  omega

variable (db : GroupDb)

variable (user : Nat)

variable (now : Int)

theorem any_upgrading_markExpired :
    ((markExpired db user now).rows.any fun s => s.upgrading user now) =
      (rowsOf db user).any fun s => s.upgrading user now := by
  rw [Bool.eq_iff_iff, List.any_eq_true, List.any_eq_true]
  constructor
  · rintro ⟨s, hs, hupgrading⟩
    obtain ⟨hs, -⟩ | ⟨t, -, -, -, rfl⟩ := mem_markExpired hs
    · refine ⟨s, mem_rowsOf.mpr ⟨hs, ?_⟩, hupgrading⟩
      simp only [GroupSubscription.upgrading, Bool.and_eq_true, decide_eq_true_eq] at hupgrading
      exact hupgrading.1.1.1
    · simp [GroupSubscription.upgrading] at hupgrading
  rintro ⟨s, hs, hupgrading⟩
  refine ⟨s, markExpired_kept (mem_rowsOf.mp hs).1 ?_, hupgrading⟩
  rw [not_due_of_upgrading hupgrading]
  exact fun h => Bool.false_ne_true h.2

theorem expiredOf_markExpired :
    expiredOf (markExpired db user now).rows user =
      (transitions (rowsOf db user) now).map GroupSubscription.expire := by
  unfold expiredOf transitions rowsOf markExpired
  rw [List.filter_map, List.filter_filter]
  have hfilter : ∀ s ∈ db.subscriptions.rows,
      ((fun s : GroupSubscription => decide (s.userId = user) && decide (s.status = .expired) &&
          (decide (s.downgradeGroup ≠ "") || decide (s.upgradeGroup ≠ ""))) ∘ fun s =>
        if (decide (s.userId = user) && s.due now) = true then { s with status := .expired } else s)
        s =
      (((decide (s.status = .expired) || s.due now) &&
        (decide (s.downgradeGroup ≠ "") || decide (s.upgradeGroup ≠ ""))) &&
          decide (s.userId = user)) := by
    intro s _
    by_cases huser : s.userId = user
    · by_cases hdue : s.due now = true
      · simp [huser, hdue]
      · simp [huser, hdue]
    · simp [huser]
  rw [List.filter_congr hfilter]
  refine List.map_congr_left fun s hs => ?_
  obtain ⟨-, hs⟩ := List.mem_filter.mp hs
  simp only [Bool.and_eq_true, Bool.or_eq_true, decide_eq_true_eq] at hs
  by_cases hdue : s.due now = true
  · rw [if_pos (by simpa using ⟨hs.2, hdue⟩)]
    rfl
  -- The row has expired before and is left as it is.
  rw [if_neg (by simpa using fun _ => hdue)]
  have hexpired : s.status = .expired := hs.1.1.resolve_right hdue
  unfold GroupSubscription.expire
  rw [← hexpired]

theorem latest_map_expire :
    latest (rows.map GroupSubscription.expire) = (latest rows).map GroupSubscription.expire := by
  unfold latest
  rw [List.find?_map]
  simp only [List.all_map]
  rfl

theorem expireUser_group : (expireUser db user now).group user =
      expiredGroup (rowsOf db user) user now (db.group user) := by
  have hlatest : latest (expiredOf (markExpired db user now).rows user) =
      (latest (transitions (rowsOf db user) now)).map .expire := by
    rw [expiredOf_markExpired, latest_map_expire]
  unfold expireUser expiredGroup
  dsimp only
  rw [any_upgrading_markExpired, hlatest]
  split
  · rfl
  cases latest (transitions (rowsOf db user) now) with
  | none => rfl
  | some last =>
    dsimp only [Option.map_some]
    unfold moveTo movedTo
    split
    next h =>
      exact (if_pos h).symm
    next h =>
      exact (if_pos rfl).trans (if_neg h).symm

end Rows

variable (m : Moment)

def reached (users : List Nat) : List Nat :=
  users.takeWhile fun user => m.write user = .done

def expireRow (users : List Nat) (now : Int) (s : GroupSubscription) : GroupSubscription :=
  if s.userId ∈ users ∧ s.due now = true then s.expire else s

def MovedBy (db db' : GroupDb) (s : GroupSubscription) : Prop :=
  s ∈ db.subscriptions.rows ∧ s.status = .active ∧ s.expire ∈ db'.subscriptions.rows

theorem rowsOf_expireUser {user other : Nat} (hne : other ≠ user) (now : Int) :
    rowsOf (expireUser db user now) other = rowsOf db other := by
  unfold rowsOf
  rw [expireUser_subscriptions]
  unfold markExpired
  rw [List.filter_map]
  have hkept : ∀ s ∈ db.subscriptions.rows, ((fun s : GroupSubscription =>
      decide (s.userId = other)) ∘ fun s => if (decide (s.userId = user) && s.due now) = true then
        { s with status := .expired } else s) s = decide (s.userId = other) := by
    intro s _
    dsimp only [Function.comp]
    split <;> rfl
  rw [List.filter_congr hkept]
  conv_rhs => rw [← List.map_id (List.filter _ _)]
  refine List.map_congr_left fun s hs => if_neg ?_
  have hother : s.userId = other := by simpa using (List.mem_filter.mp hs).2
  simp [hother, hne]

theorem expireUsers_group (user : Nat) (db : GroupDb) (hnodup : users.Nodup) :
    (expireUsers m users db).group user =
      if user ∈ reached m users then expiredGroup (rowsOf db user) user m.now (db.group user)
      else db.group user := by
  induction users generalizing db with
  | nil => rfl
  | cons other users ih =>
    obtain ⟨hother, hnodup⟩ := List.nodup_cons.mp hnodup
    unfold expireUsers
    cases hwrite : m.write other with
    | fails => simp [reached, hwrite]
    | done =>
      have hreached : reached m (other :: users) = other :: reached m users := by
        simp [reached, hwrite]
      rw [hreached, ih _ hnodup]
      by_cases heq : user = other
      · subst heq
        have hout : user ∉ reached m users := fun h =>
          hother ((List.takeWhile_sublist _).mem h)
        rw [if_neg hout, if_pos (.head _), expireUser_group]
      · rw [rowsOf_expireUser db heq, expireUser_group_of_ne db heq]
        simp [heq]

theorem dueUsers_nodup (db : GroupDb) (limit : Int) : (dueUsers m db limit).Nodup := by
  exact (List.perm_insertionSort _ _).nodup_iff.mpr (List.nodup_dedup _)

theorem expireRow_due {now : Int} (huser : s.userId ∈ users) (hdue : s.due now = true) :
    expireRow users now s = s.expire :=
  if_pos ⟨huser, hdue⟩

theorem expireRow_kept {now : Int} (h : ¬(s.userId ∈ users ∧ s.due now = true)) :
    expireRow users now s = s :=
  if_neg h

theorem expireRow_nil (now : Int) (s : GroupSubscription) : expireRow [] now s = s :=
  expireRow_kept fun h => List.not_mem_nil h.1

theorem expire_due (s : GroupSubscription) (now : Int) : s.expire.due now = false := by
  simp [GroupSubscription.due, GroupSubscription.expire]

theorem expireRow_cons (other : Nat) (users : List Nat) (now : Int) (s : GroupSubscription) :
    expireRow users now (expireRow [other] now s) = expireRow (other :: users) now s := by
  by_cases hdue : s.due now = true
  · by_cases hother : s.userId = other
    · have hmem : s.userId ∈ [other] := List.mem_singleton.mpr hother
      rw [expireRow_due hmem hdue, expireRow_due (hother ▸ (.head _)) hdue]
      exact expireRow_kept fun h => Bool.false_ne_true ((expire_due s now).symm.trans h.2)
    · rw [expireRow_kept fun h => hother (List.mem_singleton.mp h.1)]
      simp [expireRow, hother]
  · rw [expireRow_kept fun h => hdue h.2, expireRow_kept fun h => hdue h.2,
      expireRow_kept fun h => hdue h.2]

theorem markExpired_rows (now : Int) :
    (markExpired db user now).rows = db.subscriptions.rows.map (expireRow [user] now) := by
  refine List.map_congr_left fun s _ => ?_
  simp [expireRow, GroupSubscription.expire]

theorem expireUsers_rows (users : List Nat) (db : GroupDb) :
    (expireUsers m users db).subscriptions.rows =
      db.subscriptions.rows.map (expireRow (reached m users) m.now) := by
  induction users generalizing db with
  | nil =>
    have hreached : reached m [] = [] := rfl
    rw [hreached, List.map_congr_left fun s _ => expireRow_nil m.now s, List.map_id']
    rfl
  | cons other users ih =>
    unfold expireUsers
    cases hwrite : m.write other with
    | fails =>
      have hreached : reached m (other :: users) = [] := by simp [reached, hwrite]
      rw [hreached, List.map_congr_left fun s _ => expireRow_nil m.now s, List.map_id']
    | done =>
      have hreached : reached m (other :: users) = other :: reached m users := by
        simp [reached, hwrite]
      rw [hreached, ih, expireUser_subscriptions, markExpired_rows, List.map_map]
      exact List.map_congr_left fun s _ => expireRow_cons other (reached m users) m.now s

theorem movedBy_expireUsers {m : Moment} {db : GroupDb} : MovedBy db (expireUsers m users db) s ↔
      s ∈ db.subscriptions.rows ∧ s.userId ∈ reached m users ∧ s.due m.now = true := by
  unfold MovedBy
  rw [expireUsers_rows]
  constructor
  · rintro ⟨hs, hactive, hexpire⟩
    obtain ⟨t, ht, heq⟩ := List.mem_map.mp hexpire
    have hid : (expireRow (reached m users) m.now t).id = t.id := by
      unfold expireRow
      split <;> rfl
    have hsame : t.id = s.expire.id := hid.symm.trans (congrArg _ heq)
    obtain rfl : t = s := Table.eq_of_key_eq ht hs hsame
    refine ⟨hs, ?_⟩
    by_contra hkept
    rw [expireRow_kept hkept] at heq
    have hstatus : t.status = .expired := congrArg GroupSubscription.status heq
    rw [hactive] at hstatus
    cases hstatus
  · rintro ⟨hs, hreached, hdue⟩
    exact ⟨hs, active_of_due hdue, List.mem_map.mpr ⟨s, hs, expireRow_due hreached hdue⟩⟩

/-! ## Who moves a user -/

/-- The group is as before, or as the snapshot of a subscription that has just expired says. -/
def FollowsMoved (db db' : GroupDb) (user : Nat) : Prop :=
  db'.group user = db.group user ∨ ∃ s, MovedBy db db' s ∧ s.userId = user ∧
    db'.group user = some (expiryGroup (db.userGroup user) s)

/-- A subscription keeps the user in an upgraded group, or the latest one with a transition names
the user's group, or a due one names the same group. -/
def DueDecides (now : Int) : Prop :=
  ∀ current ∈ db.group user, (∃ s ∈ rowsOf db user, s.upgrading user now = true) ∨
    ∀ last ∈ latest (transitions (rowsOf db user) now),
      expiryGroup current last = "" ∨ expiryGroup current last = current ∨
        ∃ s ∈ rowsOf db user, s.due now = true ∧ expiryGroup current s = expiryGroup current last

theorem expiredGroup_cases (now : Int) (current : String) :
    expiredGroup rows user now (some current) = some current ∧
      ((∃ s ∈ rows, s.upgrading user now = true) ∨ ∀ last ∈ latest (transitions rows now),
        expiryGroup current last = "" ∨ expiryGroup current last = current) ∨
    ∃ last ∈ latest (transitions rows now), (¬∃ s ∈ rows, s.upgrading user now = true) ∧
      expiryGroup current last ≠ "" ∧ expiryGroup current last ≠ current ∧
      expiredGroup rows user now (some current) = some (expiryGroup current last) := by
  unfold expiredGroup
  by_cases hheld : (rows.any fun s => s.upgrading user now) = true
  · exact .inl ⟨if_pos hheld, .inl (List.any_eq_true.mp hheld)⟩
  rw [if_neg hheld]
  cases hlast : latest (transitions rows now) with
  | none => exact .inl ⟨rfl, .inr nofun⟩
  | some last =>
    by_cases hstays : expiryGroup current last = "" ∨ expiryGroup current last = current
    · refine .inl ⟨if_pos hstays, .inr fun last' hlast' => ?_⟩
      obtain rfl := Option.some.inj hlast'
      exact hstays
    · obtain ⟨hempty, hsame⟩ := not_or.mp hstays
      refine .inr ⟨last, rfl, ?_, hempty, hsame, if_neg hstays⟩
      exact fun h => hheld (List.any_eq_true.mpr h)

/-- A run of the expiry moves the user as the snapshot of a subscription that it has expired says,
exactly if the user is not reached or a due subscription decides. -/
theorem expiry_follows_moved_iff (m : Moment) (db : GroupDb) (limit : Int) (user : Nat) :
    FollowsMoved db (groupStep db (.expireDueSubscriptions limit, m)) user ↔
      (user ∈ reached m (dueUsers m db limit) → DueDecides db user m.now) := by
  have hgroup := expireUsers_group m user db (dueUsers_nodup m db limit)
  dsimp only [groupStep]
  unfold FollowsMoved
  simp only [movedBy_expireUsers]
  rw [hgroup]
  by_cases hreached : user ∈ reached m (dueUsers m db limit)
  · rw [if_pos hreached]
    simp only [hreached, true_imp_iff]
    unfold DueDecides GroupDb.userGroup
    cases hcurrent : db.group user with
    | none =>
      refine iff_of_true (.inl ?_) nofun
      unfold expiredGroup
      split
      · rfl
      split
      · rfl
      · unfold movedTo
        split <;> rfl
    | some current =>
      have hdecides : ∀ last, (∃ s, (s ∈ db.subscriptions.rows ∧ s.userId ∈ reached m
          (dueUsers m db limit) ∧ s.due m.now = true) ∧ s.userId = user ∧
            expiryGroup current last = expiryGroup current s) ↔
          ∃ s ∈ rowsOf db user, s.due m.now = true ∧
            expiryGroup current s = expiryGroup current last := by
        intro last
        constructor
        · rintro ⟨s, ⟨hs, -, hdue⟩, huser, htarget⟩
          exact ⟨s, mem_rowsOf.mpr ⟨hs, huser⟩, hdue, htarget.symm⟩
        rintro ⟨s, hs, hdue, htarget⟩
        obtain ⟨hmem, rfl⟩ := mem_rowsOf.mp hs
        exact ⟨s, ⟨hmem, hreached, hdue⟩, rfl, htarget.symm⟩
      simp only [Option.mem_some_iff, forall_eq', Option.getD_some]
      obtain ⟨hsame, hstays⟩ | ⟨last, hlast, hfree, hempty, hother, hmoved⟩ :=
        expiredGroup_cases (rowsOf db user) user m.now current
      · refine iff_of_true (.inl hsame) (hstays.imp_right fun h last hlast => ?_)
        exact (h last hlast).imp_right .inl
      rw [hmoved]
      simp only [Option.some.injEq]
      rw [hdecides last]
      constructor
      · rintro (hsame | hdue)
        · exact absurd hsame hother
        · refine .inr fun last' hlast' => .inr (.inr ?_)
          obtain rfl : last = last' := Option.some.inj (hlast.symm.trans hlast')
          exact hdue
      · rintro (hheld | hlatest)
        · exact absurd hheld hfree
        · exact .inr (((hlatest last hlast).resolve_left hempty).resolve_left hother)
  · rw [if_neg hreached]
    exact iff_of_true (.inl rfl) fun h => absurd h hreached

/-- User 1 is in `vip` by hand. An upgrade to `vip` has expired at 1000, and a subscription without
a group ends at 2000. -/
def regrouped : GroupDb where
  subscriptions := ⟨[{ id := 1, userId := 1, planId := 1, endTime := 1000, status := .expired,
                       upgradeGroup := "vip", prevUserGroup := "default" },
                     { id := 2, userId := 1, planId := 2, endTime := 2000 }], by decide⟩
  group u := if u = 1 then some "vip" else none

/-- The end of the subscription without a group takes the user out of the group. -/
theorem earlier_expiry_moves :
    let db' := groupStep regrouped (.expireDueSubscriptions 0, { now := 2500 })
    db'.group 1 = some "default" ∧ ¬FollowsMoved regrouped db' 1 := by
  refine ⟨by decide +kernel, ?_⟩
  rintro (hsame | ⟨s, ⟨hs, hactive, -⟩, -, hgroup⟩)
  · revert hsame
    decide +kernel
  · revert s
    decide +kernel

end ZModel.Subscription
