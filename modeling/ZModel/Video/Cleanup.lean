import ZModel.Video.Recorded

/-!
# Deleting what is stored

The cleaner alone, when all retention times have passed and the outside works;
`stored_videos_deleted` joins this to the runs of the whole archiver.
-/

namespace ZModel.Video

open Lib Store
open Program (eval_bind eval)
open AsyncImage (ObjectStatus StagingStatus)

variable {taskID : String} {o : VideoObject}

structure World.Works (w : World) : Prop where
  write : w.write = .done
  remote : w.remote = .done
  storageReady : w.storageReady = true
  cancelled : w.cancelled = false

def VideoObject.remains (now : Int) (o : VideoObject) : Nat := if o.claimable now then 1 else 0

structure Remaining (now : Int) (s : Shared) (n : Nat) : Prop where
  recorded : Recorded s 0
  due : s.objects.All fun o => o.ForCleanup → o.claimable now = true
  count : s.objects.sum (VideoObject.remains now) = n

section Steps

variable {w : World} {s : Shared} {n : Nat} {now : Int}

theorem claimable_iff (o : VideoObject) (now : Int) :
    o.claimable now = true ↔ o.ForCleanup ∧ (o.status = .available → o.expiresAt ≤ now) := by
  unfold VideoObject.claimable VideoObject.ForCleanup
  cases o.status <;> simp

theorem remains_eq_one (h : o.claimable now = true) : o.remains now = 1 := by
  unfold VideoObject.remains
  rw [if_pos h]

theorem length_filter_claimable (now : Int) (t : Table VideoObject) :
    (t.rows.filter fun o => o.claimable now).length = t.sum (VideoObject.remains now) := by
  unfold Table.sum
  induction t.rows with
  | nil => rfl
  | cons o rows ih =>
    rw [List.filter_cons, List.map_cons, List.sum_cons, ← ih]
    unfold VideoObject.remains
    split
    · exact Nat.add_comm _ 1
    · exact (Nat.zero_add _).symm

theorem exec_update_found (st : Statement) (hw : w.write = .done)
    (ho : s.objects.find? taskID = some o) :
    exec (.update taskID st) w s =
      (some ((st.update w.now).guard o), { s with objects := s.objects.put (st.after w.now o) }) := by
  dsimp only [exec, Statement.exec]
  rw [hw, ho]

theorem exec_update_other {id : String} (st : Statement) (hne : taskID ≠ id) :
    (exec (.update id st) w s).2.objects.find? taskID = s.objects.find? taskID := by
  show (st.exec w.write w.now s.objects id).2.find? taskID = _
  cases w.write with
  | fails => rfl
  | done => rw [Statement.find?_exec_done, if_neg hne]

section

variable (h : Remaining w.now s n) (hw : w.write = .done) (ho : s.objects.find? taskID = some o)

include h hw ho

theorem Remaining.update {st : Statement} {m : Nat}
    (hstored : st.Loses w.now o → s.stored o.location = none)
    (hdue : (st.after w.now o).ForCleanup → (st.after w.now o).claimable w.now = true)
    (hcount : m + o.remains w.now = n + (st.after w.now o).remains w.now) :
    Remaining w.now (exec (.update taskID st) w s).2 m := by
  have hkey : key (st.after w.now o) = taskID :=
    (st.after_taskID w.now o).trans (Table.find?_key ho)
  refine ⟨h.recorded.of_rows (fun _ hloc => hloc) ?_, ?_, ?_⟩
  · rintro _ _ o' ⟨⟩ - ho' hloses
    obtain rfl : o = o' := Option.some.inj (ho.symm.trans ho')
    exact hstored hloses
  · rw [exec_update_found st hw ho]
    exact h.due.put hdue
  rw [exec_update_found st hw ho]
  have hsum := Table.sum_put s.objects (VideoObject.remains w.now) ho hkey
  rw [h.count] at hsum
  exact Nat.add_right_cancel (hsum.trans hcount.symm)

theorem Remaining.same {st : Statement} (hstatus : (st.after w.now o).status = o.status)
    (hloc : (st.after w.now o).location = o.location)
    (hexpires : (st.after w.now o).expiresAt = o.expiresAt) :
    Remaining w.now (exec (.update taskID st) w s).2 n := by
  have hclaimable : (st.after w.now o).claimable w.now = o.claimable w.now := by
    unfold VideoObject.claimable
    rw [hstatus, hexpires]
  have hcleanup : (st.after w.now o).ForCleanup ↔ o.ForCleanup := by
    unfold VideoObject.ForCleanup
    rw [hstatus, hexpires]
  refine h.update hw ho ?_ ?_ ?_
  · rintro (⟨hbefore, hafter⟩ | hmoved)
    · exact absurd (hcleanup.mpr hbefore) hafter
    · exact absurd hloc hmoved
  · intro hafter
    rw [hclaimable]
    exact h.due.find? ho (hcleanup.mp hafter)
  · unfold VideoObject.remains
    rw [hclaimable]

theorem Remaining.claim (havailable : o.status = .available)
    (hclaimable : o.claimable w.now = true) :
    (exec (.update taskID (.claimExpired w.now)) w s).1 = some true ∧
      Remaining w.now (exec (.update taskID (.claimExpired w.now)) w s).2 n ∧
      ∃ row, (exec (.update taskID (.claimExpired w.now)) w s).2.objects.find? taskID = some row ∧
        row.status = .deletePending ∧ row.location = o.location := by
  have hguard : ((Statement.claimExpired w.now).update w.now).guard o = true := by
    have hexpired := ((claimable_iff o w.now).mp hclaimable).2 havailable
    simp [Statement.update, claimExpiredStorageObject, havailable, hexpired]
  have hafter := after_of_guard (.claimExpired w.now) w.now o hguard
  have hrow := exec_update_row (.claimExpired w.now) hw ho
  have hpending : ((Statement.claimExpired w.now).after w.now o).ForCleanup := by
    rw [hafter]
    exact .inl rfl
  have hclaimable' : ((Statement.claimExpired w.now).after w.now o).claimable w.now = true := by
    rw [hafter]
    exact (claimable_iff _ _).mpr ⟨.inl rfl, by intro h; cases h⟩
  refine ⟨?_, h.update hw ho ?_ (fun _ => hclaimable') ?_, _, hrow, ?_, ?_⟩
  · rw [exec_update_found _ hw ho, hguard]
  · rintro (⟨-, hnot⟩ | hmoved)
    · exact absurd hpending hnot
    · rw [hafter] at hmoved
      exact absurd rfl hmoved
  · rw [remains_eq_one hclaimable, remains_eq_one hclaimable']
  · rw [hafter]
    rfl
  · rw [hafter]
    rfl

end

theorem deleteClaimed_eval (hw : w.Works) (o : VideoObject) (s : Shared) :
    ((deleteClaimed o).eval machine 0 w s).2 =
      (exec (.update o.taskID .deleted) w (exec (.deleteObject o.location) w s).2).2 := by
  have hdeleted : (exec (.deleteObject o.location) w s).1 = true := by
    show decide (w.remote = .done) = true
    rw [hw.remote]
    rfl
  unfold deleteClaimed
  rw [eval_bind]
  show (eval machine 0 w (if w.storageReady then _ else _) s).2 = _
  rw [if_pos hw.storageReady]
  show (eval machine 0 w (call (.update o.taskID
    (if (exec (.deleteObject o.location) w s).1 then .deleted else .deleteFailed)) >>=
      fun _ => pure ()) (exec (.deleteObject o.location) w s).2).2 = _
  rw [hdeleted]
  rfl

theorem Remaining.delete (h : Remaining w.now s (n + 1)) (hw : w.Works) {row : VideoObject}
    (hrow : s.objects.find? o.taskID = some row) (hpending : row.status = .deletePending)
    (hloc : row.location = o.location) :
    Remaining w.now ((deleteClaimed o).eval machine 0 w s).2 n ∧ ∀ taskID, taskID ≠ o.taskID →
        ((deleteClaimed o).eval machine 0 w s).2.objects.find? taskID = s.objects.find? taskID := by
  have hexec : (exec (.deleteObject o.location) w s).2 =
      { s with stored := Function.update s.stored o.location none } := by
    dsimp only [exec]
    rw [hw.remote]
    rfl
  -- first the object goes, and the row still asks for its deletion
  have hgone : Remaining w.now (exec (.deleteObject o.location) w s).2 (n + 1) := by
    refine ⟨h.recorded.exec rfl trivial, ?_, ?_⟩
    · rw [hexec]
      exact h.due
    · rw [hexec]
      exact h.count
  have hrow' : (exec (.deleteObject o.location) w s).2.objects.find? o.taskID = some row := by
    rw [hexec]
    exact hrow
  have hafter := after_of_guard .deleted w.now row (by
    simp [Statement.update, markStorageObjectDeleted, hpending])
  have hclaimable : row.claimable w.now = true :=
    (claimable_iff row w.now).mpr ⟨.inl hpending, by rw [hpending]; intro h; cases h⟩
  have hdone : (Statement.deleted.after w.now row).claimable w.now = false := by
    rw [hafter]
    rfl
  rw [deleteClaimed_eval hw]
  refine ⟨hgone.update hw.write hrow' ?_ ?_ ?_, ?_⟩
  · intro _
    rw [hexec, hloc]
    exact Function.update_self _ _ _
  · intro hcleanup
    rw [hafter] at hcleanup
    exact absurd hcleanup (by rintro (hstatus | ⟨hstatus, -⟩) <;> cases hstatus)
  · rw [remains_eq_one hclaimable]
    unfold VideoObject.remains
    rw [hdone]
    rfl
  · intro taskID hne
    rw [exec_update_other _ hne, hexec]

theorem Remaining.staging (h : Remaining w.now s n) (hw : w.write = .done) {op : Op}
    (hop : op.staging = true) : Remaining w.now (exec op w s).2 n := by
  cases op with
  | update taskID st =>
    cases ho : s.objects.find? taskID with
    | none =>
      have hsame : (exec (.update taskID st) w s).2 = s := by
        dsimp only [exec, Statement.exec]
        rw [hw, ho]
      rwa [hsame]
    | some o =>
      have hkept : (st.after w.now o).status = o.status ∧ (st.after w.now o).location = o.location ∧
          (st.after w.now o).expiresAt = o.expiresAt := by
        unfold Statement.after ObjectUpdate.row
        split
        · cases st with
          | stagingDeletePending issuer | stagingDeleted issuer => exact ⟨rfl, rfl, rfl⟩
          | _ => cases hop
        · exact ⟨rfl, rfl, rfl⟩
      exact h.same hw ho hkept.1 hkept.2.1 hkept.2.2
  | deleteStagedVideo path =>
    dsimp only [exec]
    split <;> exact ⟨h.recorded, h.due, h.count⟩
  | stagingCandidates limit | oldFiles | hasStagingReference path => exact h
  | _ => cases hop

theorem Remaining.nothing_stored (h : Remaining now s 0) (loc : Location) :
    s.stored loc = none := by
  by_contra hstored
  obtain ⟨taskID, o, ho, -, hcovered⟩ := h.recorded loc hstored
  have hcleanup : o.ForCleanup := hcovered.resolve_right (by simp)
  have hclaimable : o.claimable now = true := h.due.find? ho hcleanup
  have hnone : (s.objects.rows.filter fun o => o.claimable now) = [] :=
    List.length_eq_zero_iff.mp ((length_filter_claimable now s.objects).trans h.count)
  have hmem : o ∈ s.objects.rows.filter fun o => o.claimable now :=
    List.mem_filter.mpr ⟨Table.find?_mem ho, hclaimable⟩
  rw [hnone] at hmem
  cases hmem

end Steps

section Loops

variable {w : World} {s : Shared} {n : Nat}

def Claimed (s : Shared) (o : VideoObject) : Prop :=
  ∃ row, s.objects.find? o.taskID = some row ∧ row.status = .deletePending ∧
    row.location = o.location

theorem claimExpired_step (hw : w.Works) (h : Remaining w.now s n)
    (ho : s.objects.find? o.taskID = some o) (hclaimable : o.claimable w.now = true) (limit : Nat)
    (rest : List VideoObject) :
    ∃ s₁, (claimExpired w.now (limit + 1) (o :: rest)).eval machine 0 w s =
        (((claimExpired w.now limit rest).eval machine 0 w s₁).1.map (o :: ·),
          ((claimExpired w.now limit rest).eval machine 0 w s₁).2) ∧
      Remaining w.now s₁ n ∧ Claimed s₁ o ∧
      ∀ taskID, taskID ≠ o.taskID → s₁.objects.find? taskID = s.objects.find? taskID := by
  rw [claimExpired]
  by_cases havailable : o.status = .available
  · obtain ⟨hresult, h₁, hclaimed⟩ := h.claim hw.write ho havailable hclaimable
    refine ⟨_, ?_, h₁, hclaimed, fun taskID hne => exec_update_other _ hne⟩
    have hcall : (eval machine 0 w
        (call (.update o.taskID (.claimExpired w.now)) : Prog (Option Bool)) s).1 = some true :=
      hresult
    rw [if_pos havailable, eval_bind, hcall]
    exact eval_bind ..
  have hpending : o.status = .deletePending :=
    ((claimable_iff o w.now).mp hclaimable).1.resolve_right fun hboth => havailable hboth.1
  refine ⟨s, ?_, h, ⟨o, ho, hpending, rfl⟩, fun _ _ => rfl⟩
  rw [if_neg havailable]
  exact eval_bind ..

theorem claimExpired_eval (hw : w.Works) (limit : Nat) {l : List VideoObject} {s : Shared}
    (hl : (l.map VideoObject.taskID).Nodup)
    (hrows : ∀ o ∈ l, s.objects.find? o.taskID = some o ∧ o.claimable w.now = true)
    (h : Remaining w.now s n) :
    ((claimExpired w.now limit l).eval machine 0 w s).1 = some (l.take limit) ∧
      Remaining w.now ((claimExpired w.now limit l).eval machine 0 w s).2 n ∧
      (∀ o ∈ l.take limit, Claimed ((claimExpired w.now limit l).eval machine 0 w s).2 o) ∧
      ∀ taskID, taskID ∉ l.map VideoObject.taskID →
        ((claimExpired w.now limit l).eval machine 0 w s).2.objects.find? taskID =
          s.objects.find? taskID := by
  induction l generalizing limit s with
  | nil =>
    have heval : (claimExpired w.now limit []).eval machine 0 w s = (some [], s) := by
      cases limit <;> rfl
    rw [heval]
    simpa using h
  | cons o rest ih =>
    cases limit with
    | zero => exact ⟨rfl, h, by simp, fun _ _ => rfl⟩
    | succ limit =>
      obtain ⟨ho, hclaimable⟩ := hrows o (.head _)
      obtain ⟨hfresh, hrest⟩ := List.nodup_cons.mp hl
      obtain ⟨s₁, heval, h₁, ⟨row, hrow, hpending⟩, hothers⟩ :=
        claimExpired_step hw h ho hclaimable limit rest
      have hrows₁ : ∀ o' ∈ rest,
          s₁.objects.find? o'.taskID = some o' ∧ o'.claimable w.now = true := by
        intro o' ho'
        have hne : o'.taskID ≠ o.taskID := fun heq => hfresh (heq ▸ List.mem_map_of_mem ho')
        rw [hothers _ hne]
        exact hrows o' (List.mem_cons_of_mem o ho')
      obtain ⟨hlist, hend, hclaimed, hframe⟩ := ih limit hrest hrows₁ h₁
      rw [heval, hlist]
      refine ⟨rfl, hend, ?_, ?_⟩
      · intro o' ho'
        rcases List.mem_cons.mp ho' with rfl | ho'
        · exact ⟨row, (hframe _ hfresh).trans hrow, hpending⟩
        · exact hclaimed o' ho'
      · intro taskID hout
        rw [List.map_cons, List.mem_cons, not_or] at hout
        exact (hframe taskID hout.2).trans (hothers taskID hout.1)

theorem deleteAllClaimed_eval (hw : w.Works) {l : List VideoObject} {s : Shared}
    (hl : (l.map VideoObject.taskID).Nodup) (hclaimed : ∀ o ∈ l, Claimed s o)
    (h : Remaining w.now s (n + l.length)) :
    Remaining w.now ((deleteAllClaimed l).eval machine 0 w s).2 n := by
  induction l generalizing s with
  | nil => exact h
  | cons o rest ih =>
    obtain ⟨hfresh, hrest⟩ := List.nodup_cons.mp hl
    obtain ⟨row, hrow, hpending, hloc⟩ := hclaimed o (.head _)
    obtain ⟨hdeleted, hothers⟩ := h.delete hw hrow hpending hloc
    have hclaimed₁ : ∀ o' ∈ rest, Claimed ((deleteClaimed o).eval machine 0 w s).2 o' := by
      intro o' ho'
      have hne : o'.taskID ≠ o.taskID := fun heq => hfresh (heq ▸ List.mem_map_of_mem ho')
      obtain ⟨row', hrow', hpending'⟩ := hclaimed o' (List.mem_cons_of_mem o ho')
      exact ⟨row', (hothers _ hne).trans hrow', hpending'⟩
    have heval : (deleteAllClaimed (o :: rest)).eval machine 0 w s =
        (deleteAllClaimed rest).eval machine 0 w ((deleteClaimed o).eval machine 0 w s).2 := by
      rw [deleteAllClaimed]
      show eval machine 0 w (if w.cancelled then _ else _) s = _
      rw [hw.cancelled]
      exact eval_bind ..
    rw [heval]
    exact ih hrest hclaimed₁ hdeleted

def cleanupRun (w : World) (s : Shared) : Shared := (runCleanup.eval machine 0 w s).2

theorem Remaining.cleanupRun (h : Remaining w.now s n) (hw : w.Works) :
    Remaining w.now (cleanupRun w s) (n - 100) := by
  have hread : exec (.expiredObjects 100) w s =
      (some (w.now, expiredStorageObjects s.objects w.now 100), s) := by
    dsimp only [exec, World.read]
    rw [hw.write]
  generalize hcandidates : expiredStorageObjects s.objects w.now 100 = candidates at hread
  have hlength : candidates.length = min 200 n := by
    rw [← hcandidates, expiredStorageObjects, List.length_take, length_filter_claimable, h.count]
  have hsub : candidates.Sublist (s.objects.rows.filter fun o => o.claimable w.now) := by
    rw [← hcandidates]
    exact List.take_sublist _ _
  have hnodup : (candidates.map VideoObject.taskID).Nodup :=
    s.objects.nodup.sublist ((hsub.trans List.filter_sublist).map key)
  have hrows : ∀ o ∈ candidates,
      s.objects.find? o.taskID = some o ∧ o.claimable w.now = true := by
    intro o ho
    obtain ⟨hmem, hclaimable⟩ := List.mem_filter.mp (hsub.subset ho)
    exact ⟨Table.find?_eq_some_iff.mpr ⟨hmem, rfl⟩, hclaimable⟩
  obtain ⟨hlist, hclaims, hclaimed, -⟩ := claimExpired_eval hw 100 hnodup hrows h
  have hdeleted : Remaining w.now ((deleteAllClaimed (candidates.take 100)).eval machine 0 w
      ((claimExpired w.now 100 candidates).eval machine 0 w s).2).2 (n - 100) := by
    refine deleteAllClaimed_eval hw (hnodup.sublist ((List.take_sublist 100 _).map _)) hclaimed ?_
    have hsum : n - 100 + (candidates.take 100).length = n := by
      rw [List.length_take]
      omega
    rwa [hsum]
  have hcall : eval machine 0 w
      (call (.expiredObjects 100) : Prog (Option (Int × List VideoObject))) s =
        (some (w.now, candidates), s) := hread
  unfold Video.cleanupRun runCleanup
  rw [eval_bind, hcall]
  rw [eval_bind, hlist]
  rw [eval_bind]
  exact cleanupStaging_only.eval (I := fun s => Remaining w.now s (n - 100))
    (fun o ho s hs => hs.staging hw.write ho) hdeleted

theorem Remaining.cleanupRuns (h : Remaining w.now s n) (hw : w.Works) (k : Nat) :
    Remaining w.now ((Video.cleanupRun w)^[k] s) (n - 100 * k) := by
  induction k with
  | zero => exact h
  | succ k ih =>
    rw [Function.iterate_succ_apply']
    have hnext := ih.cleanupRun hw
    rwa [Nat.sub_sub, ← Nat.mul_succ] at hnext

theorem cleanup_completes (hrecorded : Recorded s 0) (hw : w.Works)
    (hexpired : s.objects.All fun o => o.expiresAt ≤ w.now) :
    ∃ k, ∀ k' ≥ k, ∀ loc, ((Video.cleanupRun w)^[k'] s).stored loc = none := by
  have h : Remaining w.now s (s.objects.sum (VideoObject.remains w.now)) := by
    refine ⟨hrecorded, fun o ho hcleanup => ?_, rfl⟩
    exact (claimable_iff o w.now).mpr ⟨hcleanup, fun _ => hexpired o ho⟩
  refine ⟨s.objects.sum (VideoObject.remains w.now), fun k hk => ?_⟩
  have hend := h.cleanupRuns hw k
  rw [Nat.sub_eq_zero_of_le (by omega)] at hend
  exact hend.nothing_stored

theorem cleanupRun_idle (hw : w.write = .done)
    (hobjects : expiredStorageObjects s.objects w.now 100 = [])
    (hstaged : listVideoStorageStagingCleanupCandidates s.objects 100 = [])
    (hfiles : w.oldFiles = []) : cleanupRun w s = s := by
  have hread : eval machine 0 w
      (call (.expiredObjects 100) : Prog (Option (Int × List VideoObject))) s =
        (some (w.now, []), s) := by
    show (w.read (w.now, expiredStorageObjects s.objects w.now 100), s) = _
    rw [hobjects, World.read, hw]
  have hstaging : eval machine 0 w
      (call (.stagingCandidates 100) : Prog (List VideoObject)) s = ([], s) := by
    show ((w.read (listVideoStorageStagingCleanupCandidates s.objects 100)).getD [], s) = _
    rw [hstaged, World.read, hw]
    rfl
  have hold : eval machine 0 w (call .oldFiles : Prog (List String)) s = ([], s) := by
    show (w.oldFiles.filter fun p => (s.files p).isSome, s) = _
    rw [hfiles]
    rfl
  have hclean : cleanupStaging.eval machine 0 w s = ((), s) := by
    unfold cleanupStaging
    rw [eval_bind, hstaging]
    show eval machine 0 w (call .oldFiles >>= fun files => _) s = _
    rw [eval_bind, hold]
    rfl
  unfold Video.cleanupRun runCleanup
  rw [eval_bind, hread]
  exact congrArg Prod.snd hclean

end Loops

/-- **After a run of the archiver that meets the conditions, when no thread is running,** every
stored object has a row that the cleaner claims; and when all retention times have passed and the
outside works, enough runs of the cleaner delete everything. -/
theorem stored_videos_deleted {s : Shared} (hs : ∀ loc, s.stored loc = none)
    {moves : List (Move Job World)}
    (hrun : Along (System.step machine program) recordedConditions.Meets ⟨s, []⟩ moves)
    (hquiet : (run (System.step machine program) ⟨s, []⟩ moves).Quiet) :
    (∀ loc, (run (System.step machine program) ⟨s, []⟩ moves).state.stored loc ≠ none →
      ∃ taskID o, (run (System.step machine program) ⟨s, []⟩ moves).state.objects.find? taskID =
        some o ∧ o.location = loc ∧ o.ForCleanup) ∧
    ∀ w : World, w.Works → ((run (System.step machine program) ⟨s, []⟩ moves).state.objects.All
        fun o => o.expiresAt ≤ w.now) →
      ∃ k, ∀ k' ≥ k, ∀ loc,
        ((cleanupRun w)^[k'] (run (System.step machine program) ⟨s, []⟩ moves).state).stored loc =
          none := by
  have hrecorded := recorded_when_quiet (fun loc hloc => absurd (hs loc) hloc) hrun hquiet
  refine ⟨fun loc hloc => ?_, fun w hw hexpired => cleanup_completes hrecorded hw hexpired⟩
  obtain ⟨taskID, o, ho, hlocation, hcovered⟩ := hrecorded loc hloc
  exact ⟨taskID, o, ho, hlocation, hcovered.resolve_right (by simp)⟩

def archivedRun : List (Move Job World) := [.start 0 (.archive "t")] ++ runs 0 17 { now := 100 }

theorem stored_videos_deleted_sample :
    let s := (run (System.step machine program) ⟨{}, []⟩ archivedRun).state
    s.stored (({} : VideoSettings).location "t" "mp4") ≠ none ∧
      ∃ k, ∀ k' ≥ k, ∀ loc, ((cleanupRun { now := 100000 })^[k'] s).stored loc = none := by
  intro s
  have hrun : Along (.step machine program) recordedConditions.Meets ⟨{}, []⟩ archivedRun := by
    decide +kernel
  have hquiet : (run (System.step machine program) ⟨{}, []⟩ archivedRun).Quiet := by
    decide +kernel
  have hexpired : s.objects.All fun o => o.expiresAt ≤ 100000 := by
    decide +kernel
  refine ⟨by decide +kernel, ?_⟩
  exact (stored_videos_deleted (fun _ => rfl) hrun hquiet).2 { now := 100000 }
    ⟨rfl, rfl, rfl, rfl⟩ hexpired

def oneAttempt : VideoSettings := { archiveMaxAttempts := 1 }

def crashedRun : List (Move Job World) :=
  [.start 0 (.archive "t")] ++ runs 0 13 { now := 100, settings := oneAttempt } ++ [.crash 0] ++
    [.start 1 .scheduledRetries] ++ runs 0 4 { now := 1000, settings := oneAttempt }

/-- The video is stored, but the row is failed: runs of the cleaner leave the video where it is. -/
theorem crashed_upload_is_kept :
    let sys := run (System.step machine program) ⟨{}, []⟩ crashedRun
    sys.Quiet ∧
      sys.state.objects.rows.map (fun o => (o.status, o.archiveNextAttemptAt, o.expiresAt)) =
        [(.failed, 0, 0)] ∧
      ∀ k, ((cleanupRun { now := 1000000 })^[k] sys.state).stored
        (oneAttempt.location "t" "mp4") ≠ none := by
  intro sys
  have hidle : cleanupRun { now := 1000000 } sys.state = sys.state :=
    cleanupRun_idle rfl (by decide +kernel) (by decide +kernel) rfl
  refine ⟨by decide +kernel, by decide +kernel, fun k => ?_⟩
  rw [Function.iterate_fixed hidle]
  decide +kernel

end ZModel.Video
