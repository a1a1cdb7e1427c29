import ZModel.Channels.Programs

/-!
# Operations on the keys of one channel

`ManageMultiKeys` and `UpdateChannelStatus` read the row of a channel, change their copy and write
it back. If another write falls between the two, an effect can be lost.
-/

namespace ZModel.Channels

open Lib

inductive KeyAction where
  | disable (keyIndex : Option Int)
  | enable (keyIndex : Option Int)
  | disableAll
  | enableAll
  | delete (keyIndex : Option Int)
  | deleteDisabled

def positionIn (length : Nat) (i : Int) : Option Nat :=
  if i < 0 ∨ (length : Int) ≤ i then none else some i.toNat

def atKey (c : Channel) (keyIndex : Option Int) (missing : String)
    (change : Nat → Except String Channel) : Except String Channel :=
  match keyIndex with
  | none => .error missing
  | some i =>
    match positionIn c.channelInfo.multiKeySize i with
    | none => .error "密钥索引超出范围"
    | some i => change i

def KeyAction.change (c : Channel) : KeyAction → Except String Channel
  | .disable keyIndex => atKey c keyIndex "未指定要禁用的密钥索引" fun i =>
    .ok { c with
      channelInfo :=
        { c.channelInfo with
          multiKeyStatusList :=
            Function.update c.channelInfo.multiKeyStatusList i (some .manuallyDisabled) } }
  | .enable keyIndex => atKey c keyIndex "未指定要启用的密钥索引" fun i =>
    .ok { c with
      channelInfo :=
        { c.channelInfo with
          multiKeyStatusList := Function.update c.channelInfo.multiKeyStatusList i none
          multiKeyDisabledTime := Function.update c.channelInfo.multiKeyDisabledTime i none
          multiKeyDisabledReason := Function.update c.channelInfo.multiKeyDisabledReason i none } }
  | .disableAll =>
    if (List.range c.channelInfo.multiKeySize).any fun i => c.channelInfo.keyStatus i = .enabled then
      .ok { c with
        channelInfo :=
          { c.channelInfo with
            multiKeyStatusList := fun i =>
              if i < c.channelInfo.multiKeySize ∧ c.channelInfo.keyStatus i = .enabled then
                some .manuallyDisabled
              else c.channelInfo.multiKeyStatusList i } }
    else .error "没有可禁用的密钥"
  | .enableAll =>
    .ok { c with
      channelInfo :=
        { c.channelInfo with
          multiKeyStatusList := fun _ => none
          multiKeyDisabledTime := fun _ => none
          multiKeyDisabledReason := fun _ => none } }
  | .delete keyIndex => atKey c keyIndex "未指定要删除的密钥索引" fun i =>
    let keep := fun j => decide (j ≠ i)
    if remainingKeys c keep = [] then .error "不能删除最后一个密钥"
    else .ok (keepKeys c keep fun _ => true)
  | .deleteDisabled =>
    let keep := fun i => decide (c.channelInfo.keyStatus i ≠ .autoDisabled)
    if (remainingKeys c keep).length = c.getKeys.length then .error "没有需要删除的自动禁用密钥"
    else .ok (keepKeys c keep fun i => c.channelInfo.keyStatus i ≠ .enabled)

def Channel.writeKeys (stored c : Channel) : Channel :=
  stored.updates { c with channelInfo := (c.update stored).channelInfo }

inductive KeyOperation where
  | manage (action : KeyAction)
  | disableChannel (usingKey reason : String)

def KeyOperation.write (now : Int) (c stored : Channel) : KeyOperation → Channel
  | .manage action =>
    match action.change c with
    | .error _ => stored
    | .ok c' => stored.writeKeys c'
  | .disableChannel usingKey reason =>
    if c.status = .autoDisabled then stored
    else { c.withStatus usingKey .autoDisabled reason now with key := stored.key }

structure KeyState where
  row : Channel
  copy : Nat → Option Channel := fun _ => none

inductive KeyMove where
  | read (i : Nat)
  | write (i : Nat) (now : Int)

variable (operation : Nat → KeyOperation)

def keyStep (s : KeyState) : KeyMove → KeyState
  | .read i => { s with copy := Function.update s.copy i (some s.row) }
  | .write i now =>
    match s.copy i with
    | none => s
    | some c =>
      { row := (operation i).write now c s.row, copy := Function.update s.copy i none }

def Channel.keyStates (c : Channel) : List (String × ChannelStatus) :=
  c.getKeys.mapIdx fun i k => (k, c.channelInfo.keyStatus i)

def keepAt {α : Type} (keep : Nat → Bool) (l : List α) : List α :=
  ((List.range l.length).filter keep).filterMap fun i => l[i]?

/-- What an action is for: the key at a position is changed, or all of them; the last one stays. -/
def KeyAction.effect (l : List (String × ChannelStatus)) : KeyAction → List (String × ChannelStatus)
  | .disable keyIndex =>
    ((keyIndex.bind (positionIn l.length)).map fun i =>
      l.modify i fun e => (e.1, .manuallyDisabled)).getD l
  | .enable keyIndex =>
    ((keyIndex.bind (positionIn l.length)).map fun i => l.modify i fun e => (e.1, .enabled)).getD l
  | .disableAll => l.map fun e => (e.1, if e.2 = .enabled then .manuallyDisabled else e.2)
  | .enableAll => l.map fun e => (e.1, .enabled)
  | .delete keyIndex =>
    ((keyIndex.bind (positionIn l.length)).map fun i =>
      if keepAt (fun j => j ≠ i) l = [] then l else keepAt (fun j => j ≠ i) l).getD l
  | .deleteDisabled => keepAt (fun i => (l[i]?).all fun e => e.2 ≠ .autoDisabled) l

def KeyOperation.effect (l : List (String × ChannelStatus)) :
    KeyOperation → List (String × ChannelStatus)
  | .manage action => action.effect l
  | .disableChannel usingKey _ =>
    l.modify ((l.map Prod.fst).idxOf usingKey) fun e => (e.1, .autoDisabled)

section Lists

variable {α β : Type}

variable {l : List α}

theorem getElem?_filterMap {f : α → Option β} (h : ∀ a ∈ l, (f a).isSome = true)
    (j : Nat) : (l.filterMap f)[j]? = l[j]?.bind f := by
  induction l generalizing j with
  | nil => rfl
  | cons a l ih =>
    obtain ⟨b, hb⟩ := Option.isSome_iff_exists.mp (h a (.head _))
    rw [List.filterMap_cons_some hb]
    cases j with
    | zero => exact hb.symm
    | succ j => exact ih (fun a ha => h a (.tail _ ha)) j

theorem getElem?_keepAt (keep : Nat → Bool) (l : List α) (j : Nat) :
    (keepAt keep l)[j]? = ((List.range l.length).filter keep)[j]?.bind fun i => l[i]? := by
  refine getElem?_filterMap (fun i hi => ?_) j
  rw [List.getElem?_eq_getElem (List.mem_range.mp (List.mem_filter.mp hi).1)]
  rfl

theorem keepAt_all {keep : Nat → Bool} (h : ∀ i < l.length, keep i = true) : keepAt keep l = l := by
  refine List.ext_getElem? fun j => ?_
  rw [getElem?_keepAt, List.filter_eq_self.mpr fun i hi => h i (List.mem_range.mp hi)]
  by_cases hj : j < l.length
  · rw [List.getElem?_range hj]
    rfl
  · simp [hj]

theorem keepAt_congr {keep keep' : Nat → Bool} (h : ∀ i < l.length, keep i = keep' i) :
    keepAt keep l = keepAt keep' l := by
  unfold keepAt
  rw [List.filter_congr fun i hi => h i (List.mem_range.mp hi)]

end Lists

/-! ## Writes that find the row as it was read -/

structure Channel.KeysCounted (c : Channel) : Prop where
  multi : c.channelInfo.isMultiKey = true
  size : c.channelInfo.multiKeySize = c.getKeys.length
  nonempty : c.getKeys ≠ []

section Writes

variable {c c' stored : Channel} {keys : List String}

/-- A copy that is written gives the stored row its keys, with the statuses of the copy. -/
theorem writeKeys_spec (hmulti : c'.channelInfo.isMultiKey = true)
    (hkeys : parseKeys (orText c'.key stored.key) = keys) (hne : keys ≠ []) :
    (stored.writeKeys c').KeysCounted ∧
      (stored.writeKeys c').keyStates = keys.mapIdx fun i k => (k, c'.channelInfo.keyStatus i) := by
  have htext : (if c'.key ≠ "" then c'.key else stored.key) = orText c'.key stored.key := ite_not ..
  have hupdated : (c'.update stored).getKeys = keys := by
    rw [Channel.getKeys, update_key, htext, hkeys]
  have hinfo : (stored.writeKeys c').channelInfo = (c'.update stored).channelInfo := rfl
  have hstored : (stored.writeKeys c').getKeys = keys := hkeys
  refine ⟨⟨?_, ?_, ?_⟩, ?_⟩
  · rw [hinfo, Channel.update, if_pos hmulti]
    exact hmulti
  · rw [hinfo, hstored, Channel.update, if_pos hmulti]
    rw [htext, updateKeys_eq (hkeys ▸ hne), hkeys]
  · rwa [hstored]
  rw [Channel.keyStates, hstored, hinfo]
  refine List.ext_getElem? fun i => ?_
  rw [List.getElem?_mapIdx, List.getElem?_mapIdx]
  by_cases hi : i < keys.length
  · rw [update_keyStatus (hupdated ▸ hi)]
  · rw [List.getElem?_eq_none (Nat.le_of_not_lt hi)]
    rfl

variable {info : ChannelInfo}

theorem writeKeys_info (hc : c.KeysCounted) (hmulti : info.isMultiKey = true) :
    let stored := c.writeKeys { c with channelInfo := info }
    stored.KeysCounted ∧ stored.keyStates = c.getKeys.mapIdx fun i k => (k, info.keyStatus i) :=
  writeKeys_spec hmulti (by rw [orText, ite_self]; rfl) hc.nonempty

theorem mapIdx_update {old new : Nat → ChannelStatus} {j : Nat} {status : ChannelStatus}
    (h : ∀ i, new i = if i = j then status else old i) :
    keys.mapIdx (fun i k => (k, new i)) =
      (keys.mapIdx fun i k => (k, old i)).modify j fun e => (e.1, status) := by
  refine List.ext_getElem? fun i => ?_
  rw [List.getElem?_mapIdx, h]
  by_cases hi : i = j
  · simp [hi]
    rfl
  · simp [hi, Ne.symm hi]

theorem length_keyStates (c : Channel) : c.keyStates.length = c.getKeys.length :=
  List.length_mapIdx

theorem keepKeys_keyStates (c : Channel) (keep noted : Nat → Bool) : (remainingKeys c keep).mapIdx
        (fun j k => (k, (keepKeys c keep noted).channelInfo.keyStatus j)) =
      keepAt keep c.keyStates := by
  refine List.ext_getElem? fun j => ?_
  have hkeys : (remainingKeys c keep)[j]? = (keptIndices c keep)[j]?.bind fun i => c.getKeys[i]? :=
    getElem?_keepAt keep c.getKeys j
  rw [List.getElem?_mapIdx, getElem?_keepAt, length_keyStates, hkeys]
  show _ = (keptIndices c keep)[j]?.bind _
  cases hj : (keptIndices c keep)[j]? with
  | none => rfl
  | some i =>
    rw [Option.bind_some, Option.bind_some, Channel.keyStates, List.getElem?_mapIdx,
      keepKeys_keyStatus hj]

theorem keepAt_eq_nil {keep : Nat → Bool} : keepAt keep c.keyStates = [] ↔ remainingKeys c keep = [] := by
  rw [← keepKeys_keyStates c keep fun _ => true, List.mapIdx_eq_nil_iff]

theorem writeKeys_keepKeys (hc : c.KeysCounted) {keep : Nat → Bool} (noted : Nat → Bool)
    (h : RoundTrips (remainingKeys c keep)) :
    (c.writeKeys (keepKeys c keep noted)).KeysCounted ∧
      (c.writeKeys (keepKeys c keep noted)).keyStates = keepAt keep c.keyStates := by
  rw [← keepKeys_keyStates c keep noted]
  refine writeKeys_spec hc.multi ?_ h.nonempty
  show parseKeys (orText (joinKeys (remainingKeys c keep)) c.key) = _
  rw [orText, if_neg h.joinKeys_ne, h.parse]

def KeyAction.kept (c : Channel) : KeyAction → Option (Nat → Bool)
  | .delete (some i) => some fun j => j ≠ i.toNat
  | .deleteDisabled => some fun i => c.channelInfo.keyStatus i ≠ .autoDisabled
  | _ => none

/-- The keys that a deletion leaves are found again in the column. -/
def KeyAction.Written (action : KeyAction) (c : Channel) : Prop :=
  ∀ keep ∈ action.kept c, (∃ c', action.change c = .ok c') → RoundTrips (remainingKeys c keep)

def Yields (c : Channel) (l : List (String × ChannelStatus)) : Except String Channel → Prop
  | .error _ => l = c.keyStates
  | .ok c' => (c.writeKeys c').KeysCounted ∧ (c.writeKeys c').keyStates = l

theorem yields_atKey (hc : c.KeysCounted) (keyIndex : Option Int) (missing : String)
    {change : Nat → Except String Channel} {f : Nat → List (String × ChannelStatus)}
    (h : ∀ i ∈ keyIndex.bind (positionIn c.channelInfo.multiKeySize), Yields c (f i) (change i)) :
    Yields c (((keyIndex.bind (positionIn c.keyStates.length)).map f).getD c.keyStates)
      (atKey c keyIndex missing change) := by
  rw [length_keyStates, ← hc.size]
  unfold atKey
  cases keyIndex with
  | none => rfl
  | some i =>
    rw [Option.bind_some] at h ⊢
    dsimp only
    cases hi : positionIn c.channelInfo.multiKeySize i with
    | none => rfl
    | some i => exact h i hi

theorem keyStatus_update (info : ChannelInfo) (j : Nat) (status : Option ChannelStatus) (i : Nat) :
    (Function.update info.multiKeyStatusList j status i).getD .enabled =
      if i = j then status.getD .enabled else info.keyStatus i := by
  rw [Function.update_apply]
  split <;> rfl

theorem yields_setStatus (hc : c.KeysCounted)
    (hmulti : info.isMultiKey = true) {j : Nat} {status : ChannelStatus}
    (hstatus : ∀ i, info.keyStatus i = if i = j then status else c.channelInfo.keyStatus i) :
    Yields c (c.keyStates.modify j fun e => (e.1, status)) (.ok { c with channelInfo := info }) := by
  obtain ⟨hcounted, hstates⟩ := writeKeys_info hc hmulti
  exact ⟨hcounted, hstates.trans (mapIdx_update hstatus)⟩

theorem yields_map (hc : c.KeysCounted) (hmulti : info.isMultiKey = true)
    {f : ChannelStatus → ChannelStatus}
    (hf : ∀ i < c.getKeys.length, info.keyStatus i = f (c.channelInfo.keyStatus i)) :
    Yields c (c.keyStates.map fun e => (e.1, f e.2)) (.ok { c with channelInfo := info }) := by
  obtain ⟨hcounted, hstates⟩ := writeKeys_info hc hmulti
  refine ⟨hcounted, hstates.trans (List.ext_getElem? fun i => ?_)⟩
  rw [List.getElem?_map, Channel.keyStates, List.getElem?_mapIdx, List.getElem?_mapIdx,
    Option.map_map]
  by_cases hi : i < c.getKeys.length
  · rw [hf i hi]
    rfl
  · rw [List.getElem?_eq_none (Nat.le_of_not_lt hi)]
    rfl

/-- What an action does to the row that it has read is its effect on the keys. -/
theorem change_yields (hc : c.KeysCounted) {action : KeyAction} (hwritten : action.Written c) :
    Yields c (action.effect c.keyStates) (action.change c) := by
  cases action with
  | disable keyIndex =>
    exact yields_atKey hc keyIndex _ fun i _ =>
      yields_setStatus hc (by exact hc.multi) (keyStatus_update c.channelInfo i _)
  | enable keyIndex =>
    exact yields_atKey hc keyIndex _ fun i _ =>
      yields_setStatus hc (by exact hc.multi) (keyStatus_update c.channelInfo i _)
  | disableAll =>
    rw [KeyAction.change]
    split
    · refine yields_map hc (by exact hc.multi) (f := fun st => if st = .enabled then .manuallyDisabled else st)
        fun i hi => ?_
      rw [← hc.size] at hi
      show Option.getD (if _ then _ else _) _ = _
      by_cases henabled : c.channelInfo.keyStatus i = .enabled
      · rw [if_pos ⟨hi, henabled⟩, if_pos henabled]
        rfl
      · rw [if_neg fun h => henabled h.2, if_neg henabled]
        rfl
    -- no key is enabled
    rename_i hnone
    refine (List.map_congr_left fun e he => ?_).trans (List.map_id _)
    obtain ⟨i, hi, rfl⟩ := List.mem_mapIdx.mp he
    rw [if_neg]
    · rfl
    intro henabled
    refine hnone (List.any_eq_true.mpr ⟨i, List.mem_range.mpr (hc.size ▸ hi), ?_⟩)
    exact decide_eq_true henabled
  | enableAll => exact yields_map hc (by exact hc.multi) (f := fun _ => .enabled) fun i _ => rfl
  | delete keyIndex =>
    refine yields_atKey hc keyIndex _ fun i hi => ?_
    by_cases hlast : remainingKeys c (fun j => decide (j ≠ i)) = []
    · rw [if_pos hlast, if_pos (keepAt_eq_nil.mpr hlast)]
      rfl
    rw [if_neg hlast, if_neg (mt keepAt_eq_nil.mp hlast)]
    cases keyIndex with
    | none => cases hi
    | some k =>
      have hposition : positionIn c.channelInfo.multiKeySize k = some i := hi
      have hk : k.toNat = i := by
        unfold positionIn at hposition
        split at hposition
        · cases hposition
        · exact Option.some.inj hposition
      subst hk
      have hchange : KeyAction.change c (.delete (some k)) =
          .ok (keepKeys c (fun j => j ≠ k.toNat) fun _ => true) := by
        simp only [KeyAction.change, atKey, hposition]
        exact if_neg hlast
      exact writeKeys_keepKeys hc _ (hwritten _ rfl ⟨_, hchange⟩)
  | deleteDisabled =>
    have hkeep : (KeyAction.deleteDisabled).effect c.keyStates =
        keepAt (fun i => c.channelInfo.keyStatus i ≠ .autoDisabled) c.keyStates := by
      refine keepAt_congr fun i hi => ?_
      rw [length_keyStates] at hi
      rw [Channel.keyStates, List.getElem?_mapIdx, List.getElem?_eq_getElem hi]
      rfl
    rw [hkeep, KeyAction.change]
    split
    next hall =>
      refine keepAt_all fun i hi => ?_
      rw [length_remainingKeys] at hall
      conv_rhs at hall => rw [← List.length_range (n := c.getKeys.length)]
      rw [length_keyStates] at hi
      exact List.length_filter_eq_length_iff.mp hall i (List.mem_range.mpr hi)
    next hsome =>
      exact writeKeys_keepKeys hc _ (hwritten _ rfl ⟨_, if_neg hsome⟩)

theorem keyStates_map_fst (c : Channel) : c.keyStates.map Prod.fst = c.getKeys := by
  refine List.ext_getElem? fun i => ?_
  rw [List.getElem?_map, Channel.keyStates, List.getElem?_mapIdx, Option.map_map]
  exact Option.map_id'

theorem afterKeyStatus_keyStates (c : Channel) (keys : List String) (status : ChannelStatus)
    (now : Int) :
    (c.afterKeyStatus keys status now).key = c.key ∧
      (c.afterKeyStatus keys status now).channelInfo = c.channelInfo := by
  unfold Channel.afterKeyStatus
  split
  · exact ⟨rfl, rfl⟩
  · split <;> exact ⟨rfl, rfl⟩

theorem withStatus_yields (hc : c.KeysCounted) (usingKey reason : String) (now : Int) :
    (c.withStatus usingKey .autoDisabled reason now).key = c.key ∧
      (c.withStatus usingKey .autoDisabled reason now).KeysCounted ∧
      (c.withStatus usingKey .autoDisabled reason now).keyStates =
        (KeyOperation.disableChannel usingKey reason).effect c.keyStates := by
  rw [Channel.withStatus, if_pos hc.multi, KeyOperation.effect, keyStates_map_fst]
  unfold handlerMultiKeyUpdate
  rw [if_neg hc.nonempty]
  split
  · dsimp only
    obtain ⟨hkey, hinfo⟩ := afterKeyStatus_keyStates
      { c with
        channelInfo := c.channelInfo.setKeyStatus (c.getKeys.idxOf usingKey) .autoDisabled reason now }
      c.getKeys .autoDisabled now
    have hkeys := congrArg parseKeys hkey
    refine ⟨hkey, ⟨?_, ?_, ?_⟩, ?_⟩
    · rw [hinfo]
      exact hc.multi
    · rw [hinfo]
      exact hc.size.trans (congrArg List.length hkeys).symm
    · exact fun hnil => hc.nonempty (hkeys.symm.trans hnil)
    unfold Channel.keyStates
    rw [hinfo, show Channel.getKeys _ = _ from hkeys]
    exact mapIdx_update (keyStatus_update c.channelInfo _ (some .autoDisabled))
  rename_i hmissing
  have hnone : c.keyStates.modify (c.getKeys.idxOf usingKey) (fun e => (e.1, .autoDisabled)) =
      c.keyStates := by
    refine List.modify_eq_self ?_
    rw [length_keyStates, List.idxOf_eq_length hmissing]
  rw [hnone]
  split
  · exact ⟨rfl, hc, rfl⟩
  · exact ⟨rfl, ⟨hc.multi, hc.size, hc.nonempty⟩, rfl⟩

end Writes

/-- A write finds the row as its operation has read it; the keys that a deletion leaves are found
again, and the channel is not disabled already when a key of it is. -/
def Undisturbed (s : KeyState) : KeyMove → Prop
  | .read _ => True
  | .write i _ => s.copy i = some s.row ∧
    match operation i with
    | .manage action => action.Written s.row
    | .disableChannel _ _ => s.row.status ≠ .autoDisabled

def writes (moves : List KeyMove) : List KeyOperation :=
  moves.filterMap fun
    | .read _ => none
    | .write i _ => some (operation i)

theorem write_spec {operation : Nat → KeyOperation} {s : KeyState} (hs : s.row.KeysCounted)
    {i : Nat} {now : Int} (h : Undisturbed operation s (.write i now)) :
    (keyStep operation s (.write i now)).row.KeysCounted ∧
      (keyStep operation s (.write i now)).row.keyStates = (operation i).effect s.row.keyStates := by
  obtain ⟨hcopy, h⟩ := h
  rw [keyStep, hcopy]
  dsimp only
  cases hoperation : operation i with
  | manage action =>
    rw [hoperation] at h
    have hyields := change_yields hs h
    rw [KeyOperation.write]
    cases hchange : action.change s.row with
    | error =>
      rw [hchange] at hyields
      exact ⟨hs, hyields.symm⟩
    | ok c' =>
      rw [hchange] at hyields
      exact hyields
  | disableChannel usingKey reason =>
    rw [hoperation] at h
    obtain ⟨hkey, hyields⟩ := withStatus_yields hs usingKey reason now
    rw [KeyOperation.write, if_neg h, ← hkey]
    exact hyields

theorem run_keyStates {s : KeyState} (hs : s.row.KeysCounted)
    {moves : List KeyMove} (h : Along (keyStep operation) (Undisturbed operation) s moves) :
    (run (keyStep operation) s moves).row.keyStates =
      (writes operation moves).foldl KeyOperation.effect s.row.keyStates := by
  induction moves generalizing s with
  | nil => rfl
  | cons m moves ih =>
    obtain ⟨hm, h⟩ := h
    cases m with
    | read i => exact ih hs h
    | write i now =>
      obtain ⟨hcounted, hstates⟩ := write_spec hs hm
      refine (ih hcounted h).trans ?_
      rw [hstates]
      rfl

/-- If all writes find the row as it was read, the stored keys and statuses are the effects of the
operations in the order of their writes. -/
theorem keys_after_operations (operation : Nat → KeyOperation) {row : Channel}
    (hrow : row.KeysCounted) {moves : List KeyMove}
    (h : Along (keyStep operation) (Undisturbed operation) { row := row } moves) :
    (run (keyStep operation) { row := row } moves).row.keyStates =
      (writes operation moves).foldl KeyOperation.effect row.keyStates :=
  run_keyStates operation hrow h

def twoKeys : Channel :=
  { id := 1
    models := "m"
    key := "a\nb"
    channelInfo := { isMultiKey := true, multiKeySize := 2 } }

def disableBoth : Nat → KeyOperation
  | 0 => .manage (.disable (some 1))
  | _ => .disableChannel "a" "error"

theorem keys_after_operations_sample : (run (keyStep disableBoth) { row := twoKeys }
        [.read 0, .write 0 0, .read 1, .write 1 0]).row.keyStates =
      [("a", .autoDisabled), ("b", .manuallyDisabled)] := by
  have hcounted : twoKeys.KeysCounted := ⟨rfl, by decide +kernel, by decide +kernel⟩
  have halong : Along (keyStep disableBoth) (Undisturbed disableBoth) { row := twoKeys }
      [.read 0, .write 0 0, .read 1, .write 1 0] :=
    ⟨trivial, ⟨rfl, nofun⟩, trivial, ⟨rfl, (nofun : ChannelStatus.enabled ≠ .autoDisabled)⟩, trivial⟩
  exact (keys_after_operations disableBoth hcounted halong).trans (by decide +kernel)

/-- The administrator has read the row before the automatic step writes: its effect is lost. -/
theorem automatic_disable_lost : (run (keyStep disableBoth) { row := twoKeys }
        [.read 0, .read 1, .write 1 0, .write 0 0]).row.keyStates =
      [("a", .enabled), ("b", .manuallyDisabled)] := by decide +kernel

end ZModel.Channels
