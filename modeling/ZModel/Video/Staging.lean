import ZModel.Video.Fencing

/-!
# Staged files

The marks of the row, the rename of a file and the deletions are steps of their own: an overtaken
operation stages over the file of another, and a cleaner deletes what it listed before.
-/

namespace ZModel.Video

open Lib Store
open AsyncImage (ObjectStatus StagingStatus)

def Shared.HasStaged (s : Shared) (o : VideoObject) : Prop :=
  o.stagingRelativePath.bind s.files = some ⟨o.stagingSizeBytes, o.stagingSHA256⟩

instance (s : Shared) (o : VideoObject) : Decidable (s.HasStaged o) :=
  inferInstanceAs (Decidable (_ = _))

/-- Every row whose staging status is available records a file that is there. -/
def Intact (s : Shared) : Prop :=
  s.objects.All fun o => o.stagingStatus = .available → s.HasStaged o

/-- A mark finds the file that it records; a rename and a deletion find no row that records another
file under the path. -/
def keepsStaged : Op → World → Shared → Prop
  | .update taskID (.staged _ f), w, s =>
    w.write = .done → (s.objects.find? taskID).isSome →
      f.relativePath.bind s.files = some ⟨f.sizeBytes, f.sha256⟩
  | .stageVideo path, w, s =>
    s.objects.All fun o => o.stagingStatus = .available → o.stagingRelativePath = some path →
      ∀ v ∈ w.source, v.sizeBytes = o.stagingSizeBytes ∧ v.sha256 = o.stagingSHA256
  | .deleteStagedVideo path, w, s =>
    w.write = .done →
      s.objects.All fun o => o.stagingStatus = .available → o.stagingRelativePath ≠ some path
  | _, _, _ => True

instance (o : Op) (w : World) (s : Shared) : Decidable (keepsStaged o w s) := by
  unfold keepsStaged
  split <;> infer_instance

section Steps

variable {s : Shared} {w : World}

theorem intact_iff : Intact s ↔ ∀ taskID o, s.objects.find? taskID = some o →
    o.stagingStatus = .available → s.HasStaged o := by
  constructor
  · intro h taskID o ho
    exact h.find? ho
  · intro h o ho
    exact h o.taskID o (Table.find?_eq_some_iff.mpr ⟨ho, rfl⟩)

def SameRecord (o o' : VideoObject) : Prop :=
  o'.stagingRelativePath = o.stagingRelativePath ∧ o'.stagingSizeBytes = o.stagingSizeBytes ∧
    o'.stagingSHA256 = o.stagingSHA256

theorem record_of_after (st : Statement) (now : Int) (o : VideoObject)
    (hst : ∀ x f, st ≠ .staged x f) (h : (st.after now o).stagingStatus = .available) :
    o.stagingStatus = .available ∧ SameRecord o (st.after now o) := by
  unfold Statement.after ObjectUpdate.row at h ⊢
  split at h
  next hguard =>
    rw [if_pos hguard]
    cases st with
    | staged x f => exact absurd rfl (hst x f)
    | stagingFailed x => cases h
    | stagingDeletePending issuer => cases h
    | stagingDeleted issuer => cases h
    | _ => exact ⟨h, rfl, rfl, rfl⟩
  next hguard =>
    rw [if_neg hguard]
    exact ⟨h, rfl, rfl, rfl⟩

theorem HasStaged.congr {s' : Shared} {o o' : VideoObject} (h : s.HasStaged o)
    (hrecord : SameRecord o o') (hfiles : s'.files = s.files) : s'.HasStaged o' := by
  obtain ⟨hpath, hsize, hsha⟩ := hrecord
  unfold Shared.HasStaged
  rw [hpath, hsize, hsha, hfiles]
  exact h

section

variable (h : Intact s)

include h

theorem intact_of_rows {op : Op} (hfiles : (exec op w s).2.files = s.files)
    (hmarked : ∀ taskID st o, op = .update taskID st → w.write = .done →
      s.objects.find? taskID = some o → (st.after w.now o).stagingStatus = .available →
      (exec op w s).2.HasStaged (st.after w.now o)) : Intact (exec op w s).2 := by
  rw [intact_iff] at h ⊢
  intro taskID o' ho' havailable
  obtain hkept | ⟨settings, now, -, rfl⟩ | ⟨st, o, hop, hw, ho, rfl⟩ := exec_row_cases ho'
  · exact HasStaged.congr (h taskID o' hkept havailable) ⟨rfl, rfl, rfl⟩ hfiles
  · -- a new row is pending
    cases havailable
  · exact hmarked taskID st o hop hw ho havailable

theorem update_intact {st : Statement} (hst : ∀ x f, st ≠ .staged x f)
    (taskID : String) : Intact (exec (.update taskID st) w s).2 := by
  refine intact_of_rows h rfl ?_
  rintro _ _ o ⟨⟩ hw ho havailable
  obtain ⟨hbefore, hrecord⟩ := record_of_after st w.now o hst havailable
  exact HasStaged.congr (intact_iff.mp h taskID o ho hbefore) hrecord rfl

theorem staged_intact_iff (taskID : String) (x : OperationID) (f : VideoStagedFile) :
    Intact (exec (.update taskID (.staged x f)) w s).2 ↔
      keepsStaged (.update taskID (.staged x f)) w s := by
  constructor
  · intro hafter hw hfound
    obtain ⟨o, ho⟩ := Option.isSome_iff_exists.mp hfound
    exact intact_iff.mp hafter taskID _ (exec_update_row (.staged x f) hw ho) rfl
  intro hfile
  refine intact_of_rows h rfl ?_
  rintro _ _ o ⟨⟩ hw ho -
  exact hfile hw (by rw [ho]; rfl)

theorem intact_update_files_iff (path : String) (file : Option File) :
    Intact { s with files := Function.update s.files path file } ↔
      s.objects.All fun o => o.stagingStatus = .available → o.stagingRelativePath = some path →
        file = some ⟨o.stagingSizeBytes, o.stagingSHA256⟩ := by
  refine forall₂_congr fun o ho => imp_congr_right fun havailable => ?_
  show o.stagingRelativePath.bind (Function.update s.files path file) = _ ↔ _
  by_cases hpath : o.stagingRelativePath = some path
  · rw [hpath, Option.bind_some, Function.update_self]
    exact ⟨fun hfile _ => hfile, fun hfile => hfile rfl⟩
  refine iff_of_true ?_ fun hsame => absurd hsame hpath
  have hkept : s.HasStaged o := h o ho havailable
  unfold Shared.HasStaged at hkept
  cases hrecorded : o.stagingRelativePath with
  | none =>
    rw [hrecorded] at hkept
    exact hkept
  | some other =>
    rw [hrecorded] at hkept hpath
    have hne : other ≠ path := fun heq => hpath (congrArg some heq)
    rw [Option.bind_some, Function.update_of_ne hne]
    exact hkept

theorem stageVideo_intact_iff (path : String) :
    Intact (exec (.stageVideo path) w s).2 ↔ keepsStaged (.stageVideo path) w s := by
  dsimp only [exec, keepsStaged]
  cases w.source with
  | none => exact iff_of_true h fun o _ _ _ v hv => by cases hv
  | some v =>
    refine (intact_update_files_iff h path _).trans ?_
    refine forall₂_congr fun o ho => imp_congr_right fun _ => imp_congr_right fun _ => ?_
    constructor
    · intro hfile v' hv'
      cases hv'
      have heq := Option.some.inj hfile
      exact ⟨congrArg File.sizeBytes heq, congrArg File.sha256 heq⟩
    · intro hfile
      obtain ⟨hsize, hsha⟩ := hfile v rfl
      rw [hsize, hsha]

theorem deleteStagedVideo_intact_iff (path : String) :
    Intact (exec (.deleteStagedVideo path) w s).2 ↔ keepsStaged (.deleteStagedVideo path) w s := by
  dsimp only [exec, keepsStaged]
  cases w.write with
  | fails => exact iff_of_true h (by nofun)
  | done =>
    refine (intact_update_files_iff h path none).trans ?_
    rw [forall_prop_of_true rfl]
    refine forall₂_congr fun o ho => imp_congr_right fun _ => imp_congr_right fun _ => ?_
    exact iff_of_false nofun id

end

theorem exec_intact_iff (o : Op) (w : World) (s : Shared) (h : Intact s) :
    Intact (exec o w s).2 ↔ keepsStaged o w s := by
  cases o with
  | stageVideo path => exact stageVideo_intact_iff h path
  | deleteStagedVideo path => exact deleteStagedVideo_intact_iff h path
  | update taskID st =>
    cases st with
    | staged x f => exact staged_intact_iff h taskID x f
    | _ => exact iff_of_true (update_intact h (by rintro x f ⟨⟩) taskID) trivial
  | ensureObject settings now id =>
    exact iff_of_true (intact_of_rows h rfl (by rintro _ _ _ ⟨⟩)) trivial
  | newOperation | headObject _ | putObject _ _ _ | deleteObject _ =>
    refine iff_of_true ?_ trivial
    dsimp only [exec]
    split <;> exact h
  | _ => exact iff_of_true h trivial

end Steps

/-- **In every state of a run whose steps are all of `keepsStaged`,** a row whose staging status is
available records a file that is there with the recorded size and checksum. -/
theorem staged_files_kept {s : Shared} (hs : Intact s) {moves : List (Move Job World)}
    (hrun : Along (System.step machine program) (Conditions.operations keepsStaged).Meets ⟨s, []⟩
      moves) {before : List (Move Job World)} (hbefore : before <+: moves) :
    ∀ taskID o,
      (run (System.step machine program) ⟨s, []⟩ before).state.objects.find? taskID = some o →
      o.stagingStatus = .available →
      (run (System.step machine program) ⟨s, []⟩ before).state.HasStaged o := by
  have hinv : (∀ before, before <+: moves →
      Intact (run (System.step machine program) ⟨s, []⟩ before).state) ↔ _ :=
    System.invariant_iff Intact (fun _ o w s h => exec_intact_iff o w s h) (fun _ _ _ => rfl)
      (fun _ _ => rfl) hs moves
  exact intact_iff.mp (hinv.mpr hrun before hbefore)

def stagingRun : List (Move Job World) :=
  [.start 0 (.archive "t")] ++ runs 0 9 { now := 100 }

theorem staged_files_kept_sample :
    let s := (run (System.step machine program) ⟨{}, []⟩ stagingRun).state
    ∃ o, s.objects.find? "t" = some o ∧ o.status = .uploading ∧ o.stagingStatus = .available ∧
      s.HasStaged o := by
  intro s
  have hrow : (s.objects.find? "t").map (fun o => (o.status, o.stagingStatus)) =
      some (.uploading, .available) := by
    decide +kernel
  obtain ⟨o, ho, hcolumns⟩ := Option.map_eq_some_iff.mp hrow
  have hstatus : o.status = .uploading := congrArg Prod.fst hcolumns
  have hstaged : o.stagingStatus = .available := congrArg Prod.snd hcolumns
  refine ⟨o, ho, hstatus, hstaged, ?_⟩
  have hrun : Along (System.step machine program) (Conditions.operations keepsStaged).Meets
      ⟨{}, []⟩ stagingRun := by
    decide +kernel
  exact staged_files_kept (fun o ho => by cases ho) hrun (List.prefix_refl _) "t" o ho hstaged

def restagedRun : List (Move Job World) :=
  [.start 0 (.archive "t")] ++ runs 0 15 { now := 100 } ++ [.crash 0] ++
    [.start 1 .cleanup] ++ runs 0 2 { now := 200 } ++
    [.start 1 (.administratorRetry "t")] ++ runs 1 5 { now := 300 } ++
    [.start 1 (.retry "t")] ++ runs 2 10 { now := 400 } ++ runs 0 1 { now := 400 }

theorem cleaner_deletes_staged_file :
    let s := (run (System.step machine program) ⟨{}, []⟩ restagedRun).state
    (s.objects.find? "t").map (fun o => (o.status, o.stagingStatus, o.stagingRelativePath)) =
        some (.uploading, .available, some "t") ∧
      s.files "t" = none := by
  decide +kernel

end ZModel.Video
