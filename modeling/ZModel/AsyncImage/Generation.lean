import ZModel.AsyncImage.Fencing

/-!
# One generation per task

If a worker can neither settle nor refund a task whose images it received, the task stays reserved,
and the next run generates the images once more.
-/

namespace ZModel.AsyncImage

open Lib Store

variable {k : Lease} {f : Phase} {code message owner reason taskID : String}

instance (a : Accounts) (t : AsyncImageTask) (delta : Int) : Decidable (FundingCovers a t delta) :=
  inferInstanceAs (Decidable (_ ∨ ite _ _ _))

instance (a : Accounts) (t : AsyncImageTask) (delta : Int) : Decidable (TokenCovers a t delta) :=
  inferInstanceAs (Decidable (_ ∨ _))

instance (a : Accounts) (t : AsyncImageTask) (delta : Int) : Decidable (Covers a t delta) :=
  inferInstanceAs (Decidable (_ ∧ _))

/-- A claim does not find the lease of a worker that is still generating expired. -/
def LeaseKept (s : Shared) : Op → Prop
  | .update taskID (.claim _ now) => ∀ t ∈ s.db.tasks.find? taskID,
      (t.lifecycle.leaseOwner, taskID) ∈ s.generating → now < t.lifecycle.leaseExpiresAt
  | _ => True

/-- A received generation can be closed: the transaction is not aborted and the accounts bear it. -/
def Closable (w : World) (s : Shared) : Op → Prop
  | .settle st => w.write = .done ∧ 0 ≤ w.actualQuota ∧
      (∀ x ∈ st.objects, isBlank x.businessID = false) ∧
      ∀ t ∈ s.db.tasks.find? st.taskID, Covers s.db.accounts t (w.actualQuota - t.reservedQuota)
  | .refund owner taskID _ _ _ => (owner, taskID) ∈ s.generations → w.write = .done ∧
      ∀ t ∈ s.db.tasks.find? taskID, Covers s.db.accounts t (-t.reservedQuota)
  | _ => True

theorem lawfulBEq_string_pairs : LawfulBEq (String × String) := inferInstance

instance (s : Shared) (o : Op) : Decidable (LeaseKept s o) := by
  have := lawfulBEq_string_pairs
  unfold LeaseKept
  split <;> infer_instance

instance (w : World) (s : Shared) (o : Op) : Decidable (Closable w s o) := by
  have := lawfulBEq_string_pairs
  apply Op.casesOn (motive := fun o => Decidable (Closable w s o)) o <;> intros <;>
    first
    | exact isTrue trivial
    | exact inferInstanceAs (Decidable (_ ∧ _))
    | exact inferInstanceAs (Decidable (_ → _))

def NotAgain (o : Op) (w : World) (s : Shared) : Prop :=
  ∀ owner taskID now, o = .update taskID (.claim owner now) →
    (exec (.update taskID (.claim owner now)) w s).1 = some true →
    taskID ∈ s.generations.map Prod.snd →
    ∀ t ∈ s.db.tasks.find? taskID, t.billingStatus ≠ .reserved

/-! ## Tasks in the hands of a worker -/

def Held (k : Lease) (s : Shared) : Prop :=
  ∃ v, s.db.view k.2 = some v ∧ v.billing = .reserved ∧ v.owner = k.1 ∧ v.status = .running

def Closed (id : String) (s : Shared) : Prop :=
  ∃ v, s.db.view id = some v ∧ v.billing ≠ .reserved

section Tasks

variable {k : Lease} {id : String} {o : Op} {w : World} {s : Shared}

theorem Closed.step (h : Closed id s) : Closed id (exec o w s).2 := by
  obtain ⟨v, hv, hbilling⟩ := h
  obtain ⟨v', hv', hsame⟩ := (exec_moves o w s id).closed hv hbilling
  exact ⟨v', hv', hsame ▸ hbilling⟩

theorem Held.claim {now : Int} (h : Held k s) (howner : k.1 ≠ "") (hmem : k ∈ s.generating)
    (hkept : LeaseKept s (.update k.2 (.claim owner now))) :
    (exec (.update k.2 (.claim owner now)) w s).1 ≠ some true ∧
      (exec (.update k.2 (.claim owner now)) w s).2.db.view k.2 = s.db.view k.2 := by
  obtain ⟨v, hv, -, hlease, -⟩ := h
  obtain ⟨t, ht, rfl⟩ := Option.map_eq_some_iff.mp hv
  have hlease : t.lifecycle.leaseOwner = k.1 := hlease
  have hexpires : now < t.lifecycle.leaseExpiresAt := hkept t ht (hlease ▸ hmem)
  obtain ⟨hnot, hkeep⟩ | ⟨u, hu, hguard, -⟩ :=
    ((Statement.claim owner now).update w.now).exec_cases w.write s.db.tasks k.2
  · refine ⟨hnot, ?_⟩
    rw [exec_update_db, hkeep]
  obtain rfl : t = u := Option.some.inj (ht.symm.trans hu)
  simp only [Statement.update, claimRunnableAsyncImageTask, Lifecycle.leaseFree,
    Bool.and_eq_true, Bool.or_eq_true, decide_eq_true_eq, hlease] at hguard
  obtain ⟨-, hempty | hexpired⟩ := hguard
  · exact absurd hempty howner
  · omega

theorem Held.step (h : Held k s) (hbase : Base s) (howner : k.1 ≠ "") (hmem : k ∈ s.generating)
    (hkept : LeaseKept s o) (hpostpone : o.act k.2 ≠ some (.postpone k.1)) :
    Held k (exec o w s).2 ∨ Closed k.2 (exec o w s).2 := by
  by_cases hclaim : ∃ owner, o.act k.2 = some (.claim owner)
  · obtain ⟨owner, hact⟩ := hclaim
    obtain ⟨now, rfl⟩ := Op.eq_of_claim hact
    obtain ⟨v, hv, hrest⟩ := h
    have hview := (Held.claim (w := w) ⟨v, hv, hrest⟩ howner hmem hkept).2
    exact .inl ⟨v, hview.trans hv, hrest⟩
  obtain ⟨v, hv, hreserved, hlease, hstatus⟩ := h
  have hlawful := hbase.lawful hv
  have hgenerated : ¬v.generated := fun h => by
    cases hreserved.symm.trans h.2
  generalize hafter : (exec o w s).2.db.view k.2 = after
  have hmoves := exec_moves o w s k.2
  rw [hv, hafter] at hmoves
  cases hmoves with
  | stay => exact .inl ⟨v, hafter, hreserved, hlease, hstatus⟩
  | act a _ ha henabled =>
    cases a with
    | claim owner => exact absurd ⟨owner, ha⟩ hclaim
    | start owner => exact .inl ⟨_, hafter, hreserved, hlease, rfl⟩
    | postpone owner =>
      obtain rfl : k.1 = owner := hlease.symm.trans henabled.1
      exact absurd ha hpostpone
    | complete | completeUnarchived | bill | refund => exact .inr ⟨_, hafter, nofun⟩
    | publish | retryArchive | failArchive => exact absurd henabled.2 hgenerated
    | incident => exact absurd henabled hgenerated
    | reset => exact absurd henabled.1 hgenerated
    | expire =>
      have hpending := (hlawful.of_reserved hreserved).2
      rw [show v.output = .available from henabled] at hpending
      cases hpending

theorem refund_closed {db db' : DB} {now : Int}
    (h : refundAsyncImageBilling now db taskID code message reason = .ok db') :
    ∃ v, db'.view taskID = some v ∧ v.billing ≠ .reserved := by
  obtain ⟨t, ht, -, ⟨hrefunded, rfl⟩ | ⟨-, hput, -⟩⟩ := refund_cases h
  · refine ⟨t.view, view_of_find? ht, ?_⟩
    rw [show t.view.billing = .refunded from hrefunded]
    nofun
  · have hview := (view_put (u := t.refunded now code message reason) ht rfl hput taskID).trans
      (if_pos rfl)
    exact ⟨_, hview, nofun⟩

theorem Held.refund (h : Held k s) (hwrite : w.write = .done)
    (hcovers : ∀ t ∈ s.db.tasks.find? k.2, Covers s.db.accounts t (-t.reservedQuota)) :
    Closed k.2 (exec (.refund k.1 k.2 code message reason) w s).2 := by
  obtain ⟨v, hv, hreserved, -⟩ := h
  obtain ⟨t, ht, rfl⟩ := Option.map_eq_some_iff.mp hv
  have hid : t.taskID = k.2 := Table.find?_key ht
  obtain ⟨db, htx⟩ := (refund_ok_iff (hid.symm ▸ ht) hreserved w.now code message reason).mpr
    (hcovers t ht)
  rw [hid] at htx
  show ∃ v, (s.commit w _).2.db.view k.2 = some v ∧ v.billing ≠ .reserved
  rw [commit_db hwrite htx]
  exact refund_closed htx

theorem Held.settle {st : AsyncImageBillingSettler} (h : Held (st.leaseOwner, st.taskID) s)
    (hbase : Base s) (hbuilt : st.Built) (hclosable : Closable w s (.settle st)) :
    Closed st.taskID (exec (.settle st) w s).2 := by
  obtain ⟨v, hv, hreserved, hlease, hrunning⟩ := h
  obtain ⟨t, ht, rfl⟩ := Option.map_eq_some_iff.mp hv
  obtain ⟨hwrite, hactual, hbusiness, hcovers⟩ := hclosable
  have hid : t.taskID = st.taskID := Table.find?_key ht
  have hcovers := hcovers t ht
  -- The objects of the task are not stored yet: stored ones belong to settled tasks.
  have hfresh : ∀ row ∈ s.db.objects.rows, row.resourceID ≠ t.taskID := by
    intro row hrow heq
    obtain ⟨u, hu, hsettled⟩ := hbase.settled (Table.find?_eq_some_iff.mpr ⟨hrow, rfl⟩)
    rw [heq, hid, view_of_find? ht] at hu
    cases hu
    rw [hreserved] at hsettled
    cases hsettled
  have hsettle : ∀ c : Settlement, c.Proper t → st.settle w.now s.db w.actualQuota =
        c.transaction w.now s.db t.taskID w.actualQuota →
      Closed st.taskID (exec (.settle st) w s).2 := by
    intro c hproper heq
    obtain ⟨db, htx⟩ := (settlement_ok_iff (hid.symm ▸ ht) hreserved w.now hactual c hproper
      hfresh).mpr hcovers
    rw [← heq] at htx
    obtain ⟨u, hu, hsettled⟩ := settle_settled htx
    show ∃ v, (s.commit w _).2.db.view st.taskID = some v ∧ v.billing ≠ .reserved
    rw [commit_db hwrite htx]
    exact ⟨u, hu, by rw [hsettled]; nofun⟩
  cases hbuilt with
  | staged hmanifest hobjects hplaced hindex =>
    have hcomplete : st.manifest ≠ "" ∧ 0 < st.objects.length := by
      refine ⟨fun hempty => ?_, List.length_pos_iff.mpr hobjects⟩
      rw [hempty] at hmanifest
      exact absurd hmanifest (by decide)
    have hnodup : (st.objects.map fun x => (x.businessID, x.objectIndex)).Nodup := by
      refine List.Nodup.of_map Prod.snd ?_
      rw [List.map_map]
      exact hindex
    refine hsettle (.generation st.leaseOwner st.manifest st.sourceKind st.objects)
      ⟨.inr hlease, hrunning, hmanifest, hobjects, hbusiness, hnodup⟩ ?_
    rw [AsyncImageBillingSettler.settle, if_pos hcomplete, hid]
    rfl
  | failed hmanifest hcode =>
    refine hsettle (.archiveFailure st.leaseOwner st.sourceKind st.archiveErrorCode
      st.archiveError) (.inr hlease) ?_
    rw [AsyncImageBillingSettler.settle, if_neg (by simp [hmanifest]), if_pos hcode, hid]
    rfl

end Tasks

structure Once (s : Shared) : Prop where
  once : (s.generations.map Prod.snd).Nodup
  single : (s.generating.map Prod.snd).Nodup
  received : ∀ k ∈ s.generations, Closed k.2 s ∨ k ∈ s.generating
  running : ∀ k ∈ s.generating, Held k s ∨ Closed k.2 s
  owned : ∀ k, k ∈ s.generations ∨ k ∈ s.generating → k.1 ≠ "" ∧ k.1 ∈ s.owners

namespace Once

variable {s : Shared} {k k' : Lease} {v : View}

theorem not_closed (_ : Once s) (hid : k'.2 = k.2) (hv : s.db.view k.2 = some v)
    (hreserved : v.billing = .reserved) : ¬Closed k'.2 s := by
  rintro ⟨u, hu, hclosed⟩
  rw [hid, hv] at hu
  cases hu
  exact hclosed hreserved

theorem generating_eq (h : Once s) (hmem : k' ∈ s.generating) (hid : k'.2 = k.2)
    (hv : s.db.view k.2 = some v) (hreserved : v.billing = .reserved) (hlease : v.owner = k.1) :
    k' = k := by
  obtain ⟨u, hu, -, hholder, -⟩ := (h.running k' hmem).resolve_right (h.not_closed hid hv hreserved)
  rw [hid, hv] at hu
  cases hu
  exact Prod.ext (hholder.symm.trans hlease) hid

end Once

namespace Outline

/-- A worker is recorded as generating until the generation is over; a received one is closed. -/
def once : Outline where
  good := Once
  means k f s := match f with
    | .claimable | .claimed | .ready _ => k ∉ s.generating ∧ k ∉ s.generations
    | .running => k ∈ s.generating ∧ k.2 ∉ s.generations.map Prod.snd
    | .received => k ∈ s.generating
    | _ => k ∈ s.generations → Closed k.2 s
  allowed o w s := LeaseKept s o ∧ Closable w s o
  crashes := False
  check := NotAgain

end Outline

structure Op.Fits (o : Op) (s : Shared) : Prop where
  start : ∀ owner taskID, o = .update taskID (.markRunning owner) →
    (owner, taskID) ∉ s.generating ∧ (owner, taskID) ∉ s.generations ∧ owner ≠ "" ∧ owner ∈ s.owners
  attempt : ∀ owner taskID, o = .executeImageAttempt owner taskID →
    (owner, taskID) ∈ s.generating ∧ taskID ∉ s.generations.map Prod.snd
  finish : ∀ owner taskID, o = .finish owner taskID → (owner, taskID) ∈ s.generations →
    Closed taskID s
  postpone : ∀ owner taskID, o.act taskID = some (.postpone owner) → (owner, taskID) ∉ s.generating

section Step

variable {o : Op} {w : World} {s : Shared}

theorem Op.fits_of_common (h : o.common = true) : o.Fits s where
  start := by
    rintro owner taskID rfl
    cases h
  attempt := by
    rintro owner taskID rfl
    cases h
  finish := by
    rintro owner taskID rfl
    cases h
  postpone owner taskID hact := by
    cases Op.actor_of_common h hact

theorem WorkerStep.fits {next : o.Ret → Phase} (h : WorkerStep owner taskID f o next)
    (howner : owner ≠ "") (hmem : owner ∈ s.owners)
    (hmeans : Outline.once.means (owner, taskID) f s) : o.Fits s where
  start := by
    rintro owner' id rfl
    cases h with
    | start => exact ⟨hmeans.1, hmeans.2, howner, hmem⟩
    | endArchive f hf st hst => cases hst
  attempt := by
    rintro owner' id rfl
    cases h with
    | attempt => exact hmeans
  finish := by
    rintro owner' id rfl
    cases h with
    | finish => exact hmeans
  postpone owner' id hact := by
    obtain ⟨rfl, hactor⟩ := h.actor hact
    cases hactor
    cases Op.acts_of_act hact with
    | update st _ hst =>
      cases h with
      | postpone => exact hmeans.1
      | claim | start | choose => cases hst
      | endArchive f hf st harchive => cases harchive <;> cases hst
    | settle st _ hid hst =>
      obtain hs | hs | hs := st.act_cases
      · cases hs.symm.trans hst
      · cases hs.symm.trans hst
      · cases hs.symm.trans hst

theorem Once.step (h : Once s) (hbase : Base s) (hkept : LeaseKept s o) (hfits : o.Fits s) :
    Once (exec o w s).2 := by
  have hheld : ∀ k ∈ s.generating, Held k (exec o w s).2 ∨ Closed k.2 (exec o w s).2 := by
    intro k hk
    obtain hheld | hclosed := h.running k hk
    · refine hheld.step hbase (h.owned k (.inr hk)).1 hk hkept fun hact => ?_
      exact hfits.postpone k.1 k.2 hact hk
    · exact .inr hclosed.step
  have hreceived : ∀ k ∈ s.generations, Closed k.2 (exec o w s).2 ∨ k ∈ s.generating :=
    fun k hk => (h.received k hk).imp_left .step
  have howned : ∀ k, k ∈ s.generations ∨ k ∈ s.generating →
      k.1 ≠ "" ∧ k.1 ∈ (exec o w s).2.owners :=
    fun k hk => ⟨(h.owned k hk).1, exec_owners o w (h.owned k hk).2⟩
  have hrecords := exec_records o w s
  generalize hs' : (exec o w s).2 = s' at *
  cases hrecords with
  | nothing _ hgenerations hgenerating | claim _ _ _ _ _ hgenerations hgenerating =>
    exact ⟨hgenerations ▸ h.once, hgenerating ▸ h.single,
      hgenerations ▸ hgenerating ▸ hreceived, hgenerating ▸ hheld,
      hgenerations ▸ hgenerating ▸ howned⟩
  | start owner taskID ho haffected _ hgenerations hgenerating =>
    subst ho
    obtain ⟨hnew, hunreceived, howner, hmem⟩ := hfits.start owner taskID rfl
    obtain ⟨v, hv, ⟨hlease, -, hreserved⟩, hafter⟩ := exec_update_true rfl haffected
    rw [hs'] at hafter
    -- Another worker that generates the task would hold its lease.
    have hfresh : taskID ∉ s.generating.map Prod.snd := by
      intro hmap
      obtain ⟨k, hk, hid⟩ := List.mem_map.mp hmap
      exact hnew (h.generating_eq (k := (owner, taskID)) hk hid hv hreserved hlease ▸ hk)
    refine ⟨hgenerations ▸ h.once, ?_, ?_, ?_, ?_⟩
    · rw [hgenerating]
      exact List.nodup_cons.mpr ⟨hfresh, h.single⟩
    · rw [hgenerations, hgenerating]
      exact fun k hk => (hreceived k hk).imp_right (List.mem_cons_of_mem _)
    · rw [hgenerating, List.forall_mem_cons]
      exact ⟨.inl ⟨_, hafter, hreserved, hlease, rfl⟩, hheld⟩
    rw [hgenerations, hgenerating]
    rintro k (hk | hk)
    · exact howned k (.inl hk)
    obtain rfl | hk := List.mem_cons.mp hk
    · exact ⟨howner, hs' ▸ exec_owners _ w hmem⟩
    · exact howned k (.inr hk)
  | receive owner taskID ho _ _ hgenerations hgenerating =>
    obtain ⟨hmem, hfresh⟩ := hfits.attempt owner taskID ho
    refine ⟨?_, hgenerating ▸ h.single, ?_, hgenerating ▸ hheld, ?_⟩
    · rw [hgenerations]
      exact List.nodup_cons.mpr ⟨hfresh, h.once⟩
    · rw [hgenerations, hgenerating, List.forall_mem_cons]
      exact ⟨.inr hmem, hreceived⟩
    rw [hgenerations, hgenerating]
    rintro k (hk | hk)
    · obtain rfl | hk := List.mem_cons.mp hk
      · exact howned _ (.inr hmem)
      · exact howned k (.inl hk)
    · exact howned k (.inr hk)
  | finish owner taskID ho _ hgenerations hgenerating =>
    have hsub : ∀ k, k ∈ s'.generating → k ∈ s.generating := by
      intro k hk
      rw [hgenerating] at hk
      exact List.mem_of_mem_filter hk
    refine ⟨hgenerations ▸ h.once, ?_, ?_, fun k hk => hheld k (hsub k hk), ?_⟩
    · rw [hgenerating]
      exact h.single.sublist (List.filter_sublist.map _)
    · rw [hgenerations]
      intro k hk
      by_cases heq : k = (owner, taskID)
      · subst heq
        exact .inl (hs' ▸ (hfits.finish owner taskID ho hk).step)
      refine (hreceived k hk).imp_right fun hmem => ?_
      rw [hgenerating]
      exact List.mem_filter.mpr ⟨hmem, decide_eq_true heq⟩
    · exact fun k hk => howned k (hk.imp (hgenerations ▸ ·) (hsub k))

theorem Foreign.recorded (h : Foreign k o)
    (ho : o = .update taskID (.markRunning owner) ∨ o = .executeImageAttempt owner taskID ∨
      o = .finish owner taskID) : k ≠ (owner, taskID) := by
  cases h with
  | common hcommon => obtain rfl | rfl | rfl := ho <;> cases hcommon
  | step owner' id f next hstep _ hother =>
    obtain rfl | rfl | rfl := ho
    · cases hstep with
      | start => exact hother.symm
      | endArchive f hf st hst => cases hst
    · cases hstep
      exact hother.symm
    · cases hstep
      exact hother.symm

theorem exec_unrecorded (w : World) (s : Shared)
    (hstart : ∀ owner taskID, o ≠ .update taskID (.markRunning owner))
    (hattempt : ∀ owner taskID, o ≠ .executeImageAttempt owner taskID)
    (hfinish : ∀ owner taskID, o ≠ .finish owner taskID) :
    (exec o w s).2.generating = s.generating ∧ (exec o w s).2.generations = s.generations := by
  cases exec_records o w s with
  | nothing _ hgenerations hgenerating | claim _ _ _ _ _ hgenerations hgenerating =>
    exact ⟨hgenerating, hgenerations⟩
  | start owner taskID ho => exact absurd ho (hstart owner taskID)
  | receive owner taskID ho => exact absurd ho (hattempt owner taskID)
  | finish owner taskID ho => exact absurd ho (hfinish owner taskID)

def Phase.done : Phase → Bool
  | .settled | .ended => true
  | f => f.archives

theorem Phase.done_of_archives (h : f.archives = true) : f.done = true := by
  cases f with
  | archiving | listed | uploading | stored => rfl
  | _ => cases h

namespace Outline

theorem once_foreign (h : Foreign k o) (hgood : Once s) (hfits : o.Fits s)
    (hmeans : Outline.once.means k f s) : Outline.once.means k f (exec o w s).2 := by
  -- Both histories agree with the former ones on this lease.
  have hkeep : (k ∈ (exec o w s).2.generating ↔ k ∈ s.generating) ∧
      (k ∈ (exec o w s).2.generations ↔ k ∈ s.generations) ∧
      (k ∈ s.generating → k.2 ∉ s.generations.map Prod.snd →
        k.2 ∉ (exec o w s).2.generations.map Prod.snd) := by
    cases exec_records o w s with
    | nothing _ hgenerations hgenerating | claim _ _ _ _ _ hgenerations hgenerating =>
      rw [hgenerations, hgenerating]
      exact ⟨Iff.rfl, Iff.rfl, fun _ h => h⟩
    | start owner taskID ho _ _ hgenerations hgenerating =>
      rw [hgenerations, hgenerating, List.mem_cons, or_iff_right (h.recorded (.inl ho))]
      exact ⟨Iff.rfl, Iff.rfl, fun _ h => h⟩
    | receive owner taskID ho _ _ hgenerations hgenerating =>
      have hne := h.recorded (.inr (.inl ho))
      rw [hgenerations, hgenerating, List.mem_cons, or_iff_right hne]
      refine ⟨Iff.rfl, Iff.rfl, fun hk hfresh hmem => ?_⟩
      obtain heq | hmem := List.mem_cons.mp hmem
      · -- One worker generates the task at a time.
        have hmem := (hfits.attempt owner taskID ho).1
        exact hne (List.inj_on_of_nodup_map hgood.single hk hmem heq)
      · exact hfresh hmem
    | finish owner taskID ho _ hgenerations hgenerating =>
      have hne := h.recorded (.inr (.inr ho))
      rw [hgenerations, hgenerating, List.mem_filter, decide_eq_true_eq, and_iff_left hne]
      exact ⟨Iff.rfl, Iff.rfl, fun _ h => h⟩
  obtain ⟨hgenerating, hgenerations, hfresh⟩ := hkeep
  cases f with
  | claimable | claimed | ready =>
    exact ⟨fun h => hmeans.1 (hgenerating.mp h), fun h => hmeans.2 (hgenerations.mp h)⟩
  | running => exact ⟨hgenerating.mpr hmeans.1, hfresh hmeans.1 hmeans.2⟩
  | received => exact hgenerating.mpr hmeans
  | settled | archiving | listed | uploading | stored | ended =>
    exact fun hk => (hmeans (hgenerations.mp hk)).step

theorem notAgain (hgood : Once s) (hkept : LeaseKept s o) : NotAgain o w s := by
  rintro owner taskID now rfl haffected hmem t ht hreserved
  obtain ⟨k, hk, rfl⟩ := List.mem_map.mp hmem
  have hopen : ¬Closed k.2 s := by
    rintro ⟨v, hv, hclosed⟩
    rw [view_of_find? ht] at hv
    cases hv
    exact hclosed hreserved
  have hgenerating := (hgood.received k hk).resolve_left hopen
  have hheld := (hgood.running k hgenerating).resolve_right hopen
  have howner := (hgood.owned k (.inl hk)).1
  exact (hheld.claim howner hgenerating hkept).1 haffected

theorem once_means_done (hf : f.done = true) :
    Outline.once.means k f s ↔ (k ∈ s.generations → Closed k.2 s) := by
  cases f with
  | ended | settled | archiving | listed | uploading | stored => exact Iff.rfl
  | _ => cases hf

theorem once_settle {st : AsyncImageBillingSettler} (hgood : Once s) (hbase : Base s)
    (hbuilt : st.Built) (hclosable : Closable w s (.settle st))
    (hmem : (st.leaseOwner, st.taskID) ∈ s.generating) :
    Closed st.taskID (exec (.settle st) w s).2 := by
  obtain hheld | hclosed := hgood.running _ hmem
  · exact hheld.settle hbase hbuilt hclosable
  · exact hclosed.step

theorem once_refund (hgood : Once s)
    (hclosable : Closable w s (.refund owner taskID code message reason))
    (hmem : (owner, taskID) ∈ s.generating) (hreceived : (owner, taskID) ∈ s.generations) :
    Closed taskID (exec (.refund owner taskID code message reason) w s).2 := by
  obtain hheld | hclosed := hgood.running _ hmem
  · obtain ⟨hwrite, hcovers⟩ := hclosable hreceived
    exact hheld.refund hwrite hcovers
  · exact hclosed.step

theorem once_next {next : o.Ret → Phase} (h : WorkerStep owner taskID f o next) (hbase : Base s)
    (hgood : Once s) (hclosable : Closable w s o)
    (hmeans : Outline.once.means (owner, taskID) f s) :
    Outline.once.means (owner, taskID) (next (exec o w s).1) (exec o w s).2 := by
  have hsame := exec_unrecorded (o := o) w s
  -- After the generation, a step leaves what is closed.
  have hdone : ∀ {g : Phase}, g.done = true → f.done = true →
      (exec o w s).2.generations = s.generations →
      Outline.once.means (owner, taskID) g (exec o w s).2 := by
    intro g hg hf hgenerations
    rw [once_means_done hg, hgenerations]
    exact fun hk => ((once_means_done hf).mp hmeans hk).step
  -- A worker that has received nothing may stop.
  have hover : (owner, taskID) ∉ s.generations → (exec o w s).2.generations = s.generations →
      Outline.once.means (owner, taskID) .ended (exec o w s).2 := by
    intro hk hgenerations hmem
    exact absurd (hgenerations ▸ hmem) hk
  cases h with
  | claim now =>
    obtain ⟨hgenerating, hgenerations⟩ := hsame (by simp) (by simp) (by simp)
    beta_reduce
    split
    · exact ⟨hgenerating ▸ hmeans.1, hgenerations ▸ hmeans.2⟩
    · exact hover hmeans.2 hgenerations
  | readBack =>
    cases (exec (.getTask taskID) w s).1 with
    | none => exact hover hmeans.2 rfl
    | some t => exact hmeans
  | postpone => exact hover hmeans.2 (hsame (by simp) (by simp) (by simp)).2
  | start t =>
    have hgenerations : (exec (.update taskID (.markRunning owner)) w s).2.generations =
        s.generations := by
      simp only [exec]
      split <;> rfl
    beta_reduce
    split
    next haffected =>
      obtain ⟨v, hv, ⟨hlease, -, hreserved⟩, -⟩ := exec_update_true rfl haffected
      have hgenerating : (exec (.update taskID (.markRunning owner)) w s).2.generating =
          (owner, taskID) :: s.generating := by
        simp only [exec] at haffected ⊢
        rw [if_pos haffected]
        rfl
      refine ⟨hgenerating ▸ (.head _), fun hmap => ?_⟩
      rw [hgenerations] at hmap
      obtain ⟨k, hk, hid⟩ := List.mem_map.mp hmap
      obtain hclosed | hmem := hgood.received k hk
      · exact hgood.not_closed hid hv hreserved hclosed
      · have heq := hgood.generating_eq hmem hid hv hreserved hlease
        exact hmeans.2 (heq ▸ hk)
    · exact hover hmeans.2 hgenerations
  | choose =>
    obtain ⟨hgenerating, hgenerations⟩ := hsame (by simp) (by simp) (by simp)
    exact ⟨hgenerating ▸ hmeans.1, hgenerations ▸ hmeans.2⟩
  | attempt =>
    obtain ⟨hmem, hfresh⟩ := hmeans
    simp only [exec]
    cases w.attempt with
    | failed e retry => exact ⟨hmem, hfresh⟩
    | executed images =>
      rcases images with _ | _ | images
      · exact ⟨hmem, hfresh⟩
      · exact ⟨hmem, hfresh⟩
      · exact hmem
  | refund f hf code message reason =>
    have hgenerations := (hsame (by simp) (by simp) (by simp)).2
    obtain rfl | rfl := hf
    · exact hover (fun hk => hmeans.2 (List.mem_map.mpr ⟨_, hk, rfl⟩)) hgenerations
    · intro hk
      exact once_refund hgood hclosable hmeans (hgenerations ▸ hk)
  | settle st hbuilt htask hlease =>
    subst htask hlease
    have hclosed := once_settle hgood hbase hbuilt hclosable hmeans
    beta_reduce
    split <;> exact fun _ => hclosed
  | readAgain => exact hdone rfl rfl rfl
  | list =>
    cases (exec (.listStorageObjects taskID) w s).1 <;> exact hdone rfl rfl rfl
  | head x rest =>
    refine hdone ?_ rfl (hsame (by simp) (by simp) (by simp)).2
    unfold Phase.afterHead
    split <;> rfl
  | markUploading x rest =>
    refine hdone ?_ rfl (hsame (by simp) (by simp) (by simp)).2
    beta_reduce
    split <;> rfl
  | put x rest r =>
    refine hdone ?_ rfl (hsame (by simp) (by simp) (by simp)).2
    beta_reduce
    split <;> rfl
  | markFailed | markAvailable => exact hdone rfl rfl (hsame (by simp) (by simp) (by simp)).2
  | endArchive f hf st hst =>
    have hunrecorded := (hsame (by rintro _ _ ho; cases ho; cases hst) (by simp) (by simp)).2
    exact hdone rfl (Phase.done_of_archives hf) hunrecorded
  | finish => exact hdone rfl rfl rfl

theorem once_valid : Outline.once.Valid where
  common {o w s} hcommon hbuilt hallowed hbase hgood := by
    have hfits : o.Fits s := Op.fits_of_common hcommon
    refine ⟨notAgain hgood hallowed.1, hgood.step hbase hallowed.1 hfits, fun k f _ _ _ => ?_⟩
    exact once_foreign (.common hcommon hbuilt) hgood hfits
  fresh {limit w s} id _ hgood hfresh := by
    obtain ⟨hgenerating, hgenerations⟩ :=
      exec_unrecorded (o := .runnableTasks limit) w s nofun nofun nofun
    refine ⟨fun hk => ?_, fun hk => ?_⟩
    · rw [hgenerating] at hk
      exact hfresh (hgood.owned _ (.inr hk)).2
    · rw [hgenerations] at hk
      exact hfresh (hgood.owned _ (.inl hk)).2
  step {owner taskID f o next w s} h howner hmem hallowed hbase hgood hmeans := by
    have hfits := h.fits howner hmem hmeans
    refine ⟨⟨notAgain hgood hallowed.1, hgood.step hbase hallowed.1 hfits, ?_⟩,
      once_next h hbase hgood hallowed.2 hmeans⟩
    intro k f' hown _ _ hmeans'
    refine once_foreign (.step owner taskID f next h howner fun heq => ?_) hgood hfits hmeans'
    exact hown (congrArg some heq)
  yields {owner taskID f g s} h _ _ _ hmeans := by
    cases h with
    | ended f hf =>
      intro hk
      cases f with
      | claimable | claimed | ready => exact absurd hk hmeans.2
      | running => exact absurd (List.mem_map.mpr ⟨_, hk, rfl⟩) hmeans.2
      | received => exact absurd rfl hf
      | settled | archiving | listed | uploading | stored | ended => exact hmeans hk
    | archive t => exact fun hk => absurd hk hmeans.2
    | keep | replace => exact hmeans

end Outline

end Step

/-- Without crashes, with no lease expiring during a generation and every received generation
closable, images are received for a task at most once. -/
theorem generated_once (accounts : Accounts) (moves : List (Move Job World))
    (hrun : Along (System.step machine program)
      (imageConditions (fun o w s => LeaseKept s o ∧ Closable w s o) False).Meets
      ⟨.start accounts, []⟩ moves) :
    ((run (System.step machine program) ⟨.start accounts, []⟩ moves).state.generations.map
      Prod.snd).Nodup ∧
    Along (System.step machine program) (Performed NotAgain) ⟨.start accounts, []⟩ moves := by
  have hgood : Outline.once.good (.start accounts) := by
    refine ⟨List.nodup_nil, List.nodup_nil, ?_, ?_, ?_⟩
    · rintro k hk
      cases hk
    · rintro k hk
      cases hk
    · rintro k (hk | hk) <;> cases hk
  have hend := (Outline.once_valid.along (Base.start accounts) hgood hrun).1.2
  exact ⟨hend.once, Outline.once_valid.performed (Base.start accounts) hgood hrun⟩

theorem generated_once_sample : ((run (System.step machine program) ⟨.start sampleAccounts, []⟩
      (sampleFailedArchive ++ sampleRetried)).state.generations.map Prod.snd).Nodup ∧
    (run (System.step machine program) ⟨.start sampleAccounts, []⟩
      (sampleFailedArchive ++ sampleRetried)).state.generations = [("node:1", "task_a")] ∧
    Along (System.step machine program) (Performed NotAgain) ⟨.start sampleAccounts, []⟩
      (sampleFailedArchive ++ sampleRetried) := by
  obtain ⟨hnodup, hagain⟩ :=
    generated_once sampleAccounts (sampleFailedArchive ++ sampleRetried) (by decide +kernel)
  exact ⟨hnodup, by decide +kernel, hagain⟩

def sampleUnsettled : List (Move Job World) :=
  [.start 0 (.submit (sampleSubmission "wallet_only"))] ++ steps 0 1 (sampleWorld "") ++
    [.start 0 .process] ++ steps 1 8 (sampleWorld "1") ++
    steps 2 30 { sampleWorld "1" with actualQuota := 200 } ++
    [.start 0 .process] ++ steps 3 8 { sampleWorld "2" with now := 400 } ++
    steps 4 30 { sampleWorld "2" with now := 400 }

theorem generated_twice : Along (System.step machine program)
      (imageConditions (fun o _ s => LeaseKept s o) False).Meets ⟨.start sampleAccounts, []⟩
      sampleUnsettled ∧
    (run (System.step machine program) ⟨.start sampleAccounts, []⟩
      sampleUnsettled).state.generations = [("node:2", "task_a"), ("node:1", "task_a")] := by
  decide +kernel

end ZModel.AsyncImage
