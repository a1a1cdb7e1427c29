import ZModel.Channels.Programs

/-!
# Runs of the synchronisation

A synchronisation panics exactly if a group of a channel that it read as enabled has no ability. A
removed channel is selected again if it is listed twice or an older read is swapped in.
-/

namespace ZModel.Channels

open Lib

variable {cache : ChannelCache} {s : Shared}

/-- When the abilities are read, every group of a channel that was read as enabled has one. -/
def Covered : Op → World → Shared → Prop
  | .findAbilities channels, w, s => ∀ c ∈ channels.rows, c.status = .enabled →
      w.write = .done ∧ ∀ group ∈ c.groups, ∃ a ∈ s.db.abilities.rows, a.group = group
  | _, _, _ => True

instance : ∀ o w s, Decidable (Covered o w s)
  | .findAbilities channels, w, s =>
    inferInstanceAs (Decidable (∀ c ∈ channels.rows, c.status = .enabled →
      w.write = .done ∧ ∀ group ∈ c.groups, ∃ a ∈ s.db.abilities.rows, a.group = group))
  | .observe, _, _ | .getChannel _, _, _ | .findChannels, _, _ | .statement _, _, _
  | .cacheGetChannel _, _, _ | .storeCached _ _, _, _ | .cacheUpdateStatus _ _, _, _
  | .swap _, _, _ => inferInstanceAs (Decidable True)

section Panics

variable {channels : Table Channel} {w : World} {s : Shared}

theorem covered_iff : Covered (.findAbilities channels) w s ↔
      (buildIndex channels.rows (readAbilities w s).rows).isSome = true := by
  rw [buildIndex_isSome_iff]
  refine forall₃_congr fun c _ _ => ?_
  unfold readAbilities World.read
  cases w.write with
  | done => simp
  | fails =>
    -- a failed read returns no abilities, and a channel has some group
    obtain ⟨group, hgroup⟩ := List.exists_mem_of_ne_nil _ (split_ne_nil ',' c.group)
    refine iff_of_false (fun h => by cases h.1) fun h => ?_
    obtain ⟨a, ha, -⟩ := h group hgroup
    cases ha

theorem exec_panics_iff (node : Nat) (o : Op) (w : World) (s : Shared) (h : s.panics = 0) :
    (exec node o w s).2.panics = 0 ↔ Covered o w s := by
  cases o with
  | findAbilities channels =>
    rw [covered_iff]
    show (if _ then s else { s with panics := s.panics + 1 }).panics = 0 ↔ _
    split
    · exact iff_of_true h ‹_›
    · exact iff_of_false (Nat.succ_ne_zero _) ‹_›
  | statement st =>
    refine iff_of_true ?_ trivial
    show (execStatement st w s).2.panics = 0
    unfold execStatement
    split <;> exact h
  | _ => exact iff_of_true h trivial

end Panics

section Selectable

variable [Regexp]

def Selectable (cache : ChannelCache) (c : Channel) : Prop :=
  ∀ group ∈ c.groups, ∀ model ∈ c.modelNames,
    c.id ∈ cache.candidates group model "" ∧ (cache.channelsIDM c.id).isSome = true

theorem selectable_of_list {c : Channel}
    (h : ∀ group ∈ c.groups, ∀ model ∈ c.modelNames, c.id ∈ cache.list group model) :
    Selectable cache c := by
  intro group hgroup model hmodel
  have hlist := h group hgroup model hmodel
  refine ⟨?_, cache.listed group model c.id hlist⟩
  unfold ChannelCache.candidates ChannelCache.filterByPath
  rw [if_pos rfl, if_neg (List.ne_nil_of_mem hlist)]
  exact hlist

theorem swap_selectable {channels : Table Channel} {abilities : Table Ability}
    (h : (buildIndex channels.rows abilities.rows).isSome = true) :
    ∃ snapshot : Snapshot, buildAndSwap channels abilities = perform (.swap snapshot) ∧
      ∀ (node : Nat) (w : World) (s : Shared), ∀ c ∈ channels.rows, c.status = .enabled →
        Selectable ((exec node (.swap snapshot) w s).2.nodes node).cache c := by
  obtain ⟨index, hindex⟩ := Option.isSome_iff_exists.mp h
  refine ⟨⟨channels, abilities, index, hindex⟩, ?_, fun node w s c hc hstatus => ?_⟩
  · unfold buildAndSwap
    split
    next hnone =>
      rw [hindex] at hnone
      cases hnone
    next index' hindex' =>
      obtain rfl : index = index' := Option.some.inj (hindex.symm.trans hindex')
      rfl
  refine selectable_of_list fun group hgroup model hmodel => ?_
  show c.id ∈ (Function.update s.nodes node _ node).cache.list group model
  rw [Function.update_self]
  refine (ChannelCache.mem_sync_list (ChannelCache.sync_eq_swapIn _ _)).mpr ⟨c, hc, hstatus, ?_, rfl⟩
  simp [Channel.serves, hgroup, hmodel]

/-- In every run, no synchronisation panics if and only if at every read of the abilities each group
of a channel read as enabled has one; and one that does not panic leaves every such channel
selectable. -/
theorem sync_panics_iff (cfg : Config) (db : Database) (moves : List (Move Job World)) :
    ((∀ before, before <+: moves → (run (step cfg) (initial db) before).state.panics = 0) ↔
      Along (step cfg) (Conditions.operations Covered).Meets (initial db) moves) ∧
    ∀ (channels : Table Channel) (abilities : Table Ability),
      (buildIndex channels.rows abilities.rows).isSome = true →
      ∃ snapshot : Snapshot, buildAndSwap channels abilities = perform (.swap snapshot) ∧
        ∀ (node : Nat) (w : World) (s : Shared), ∀ c ∈ channels.rows, c.status = .enabled →
          Selectable ((exec node (.swap snapshot) w s).2.nodes node).cache c :=
  ⟨System.invariant_iff (fun s : Shared => s.panics = 0) exec_panics_iff (fun _ _ _ => rfl)
    (fun _ _ => rfl) rfl moves, fun _ _ h => swap_selectable h⟩

end Selectable

def withAbilities (channels : Table Channel) : Database := ⟨channels, abilitiesOf channels⟩

def oneChannel (models : String) : Database :=
  withAbilities ⟨[{ id := 1, models, group := "g" }], List.nodup_singleton _⟩

def cached : Config := ⟨true⟩

def runs (i n : Nat) : List (Move Job World) := List.replicate n (.run i {})

theorem one_sync_lists_channel :
    let moves := .start 0 .syncChannelCache :: runs 0 3
    (∀ before, before <+: moves →
      (run (step cached) (initial (oneChannel "m")) before).state.panics = 0) ∧
    ((run (step cached) (initial (oneChannel "m")) moves).state.nodes 0).cache.list "g" "m" = [1] := by
  let _ : Regexp := ⟨fun _ _ => false⟩
  exact ⟨(sync_panics_iff cached (oneChannel "m") _).1.mpr (by decide +kernel), by decide +kernel⟩

/-- Between the two reads of a synchronisation the repair empties the abilities. -/
theorem sync_panics_during_repair : (run (step cached) (initial (oneChannel "m"))
      ([.start 0 .syncChannelCache, .start 0 .fixAbility] ++ runs 0 1 ++ runs 1 1 ++
        runs 0 1)).state.panics = 1 := by decide +kernel

/-- The lists have no channel twice and none that is stored as disabled. -/
def SwapFits : Op → World → Shared → Prop
  | .swap snapshot, _, s => ∀ c ∈ snapshot.channels.rows, c.status = .enabled →
      c.groups.Nodup ∧ c.modelNames.Nodup ∧ s.db.disabled c.id = false
  | _, _, _ => True

instance : ∀ o w s, Decidable (SwapFits o w s)
  | .swap snapshot, _, s =>
    inferInstanceAs (Decidable (∀ c ∈ snapshot.channels.rows, c.status = .enabled →
      c.groups.Nodup ∧ c.modelNames.Nodup ∧ s.db.disabled c.id = false))
  | .observe, _, _ | .getChannel _, _, _ | .findChannels, _, _ | .findAbilities _, _, _
  | .statement _, _, _ | .cacheGetChannel _, _, _ | .storeCached _ _, _, _
  | .cacheUpdateStatus _ _, _, _ => inferInstanceAs (Decidable True)

structure Node.Clean (n : Node) (disabled : Nat → Bool) : Prop where
  nodup : ∀ group model, (n.cache.list group model).Nodup
  unlisted : ∀ id, n.dropped id = true ∨ n.removed id = true →
    ∀ group model, id ∉ n.cache.list group model
  disabled : ∀ id, n.removed id = true → disabled id = true

section Removed

variable {n : Node} {disabled : Nat → Bool}

theorem Node.Clean.note (hnodup : ∀ group model, (n.cache.list group model).Nodup)
    (hunlisted : ∀ id, n.dropped id = true ∨ disabled id = true ∧ n.removed id = true →
      ∀ group model, id ∉ n.cache.list group model) : (n.note disabled).Clean disabled where
  nodup := hnodup
  unlisted id h := by
    refine hunlisted id ?_
    obtain h | h := h
    · exact .inl h
    · obtain ⟨hdisabled, h⟩ := Bool.and_eq_true_iff.mp h
      exact (Bool.or_eq_true_iff.mp h).symm.imp_right fun h => ⟨hdisabled, h⟩
  disabled id h := (Bool.and_eq_true_iff.mp h).1

theorem Node.Clean.updateStatus (h : n.Clean disabled) (id : Nat) (status : ChannelStatus) :
    ((n.updateStatus id status).note disabled).Clean disabled := by
  have hlist : ∀ group model, (n.updateStatus id status).cache.list group model =
      if status = .enabled then n.cache.list group model
      else (n.cache.list group model).erase id := n.cache.updateStatus_list id status
  have hsub : ∀ group model, ((n.updateStatus id status).cache.list group model).Sublist
      (n.cache.list group model) := by
    intro group model
    rw [hlist]
    split
    · exact List.Sublist.refl _
    · exact List.erase_sublist
  refine .note (fun group model => (h.nodup group model).sublist (hsub group model))
    fun id' hid' group model hmem => ?_
  have hold := (hsub group model).subset hmem
  by_cases hid : id' = id
  · subst hid
    unfold Node.updateStatus at hid'
    dsimp only at hid'
    rw [Function.update_self, Function.update_self, decide_eq_true_eq, Bool.and_eq_true] at hid'
    obtain hstatus | ⟨-, hremoved, -⟩ := hid'
    · rw [hlist, if_neg hstatus] at hmem
      exact (h.nodup group model).not_mem_erase hmem
    · exact h.unlisted id' (.inr hremoved) group model hold
  unfold Node.updateStatus at hid'
  dsimp only at hid'
  rw [Function.update_of_ne hid, Function.update_of_ne hid] at hid'
  exact h.unlisted id' (hid'.imp_right And.right) group model hold

theorem nodup_indexEntries {channels : Table Channel}
    (h : ∀ c ∈ channels.rows, c.status = .enabled → c.groups.Nodup ∧ c.modelNames.Nodup) :
    (indexEntries channels.rows).Nodup := by
  unfold indexEntries
  rw [List.nodup_flatMap]
  constructor
  · intro c hc
    obtain ⟨hc, hstatus⟩ := List.mem_filter.mp hc
    obtain ⟨hgroups, hmodels⟩ := h c hc (by simpa using hstatus)
    rw [List.nodup_flatMap]
    refine ⟨fun group _ => hmodels.map fun m m' heq => by cases heq; rfl, hgroups.imp ?_⟩
    intro group group' hne e he he'
    obtain ⟨m, -, rfl⟩ := List.mem_map.mp he
    obtain ⟨m', -, heq⟩ := List.mem_map.mp he'
    cases heq
    exact hne rfl
  have hids : channels.rows.Pairwise fun c c' => c.id ≠ c'.id := List.pairwise_map.mp channels.nodup
  refine (hids.filter _).imp ?_
  intro c c' hne e he he'
  obtain ⟨g, -, he⟩ := List.mem_flatMap.mp he
  obtain ⟨m, -, rfl⟩ := List.mem_map.mp he
  obtain ⟨g', -, he'⟩ := List.mem_flatMap.mp he'
  obtain ⟨m', -, heq⟩ := List.mem_map.mp he'
  exact hne (congrArg Prod.snd heq).symm

theorem nodup_swapIn_list {snapshot : Snapshot}
    (h : ∀ c ∈ snapshot.channels.rows, c.status = .enabled → c.groups.Nodup ∧ c.modelNames.Nodup)
    (group model : String) : ((cache.swapIn snapshot).list group model).Nodup := by
  obtain ⟨index, hindex, hlist, -⟩ := ChannelCache.sync_eq (cache.sync_eq_swapIn snapshot)
  rw [hlist]
  refine (List.perm_insertionSort _ _).nodup_iff.mpr ?_
  rw [buildIndex_list hindex]
  refine ((nodup_indexEntries h).filter _).map_on ?_
  rintro ⟨p, id⟩ he ⟨p', id'⟩ he' rfl
  have hp := (List.mem_filter.mp he).2
  have hp' := (List.mem_filter.mp he').2
  rw [decide_eq_true_eq] at hp hp'
  rw [Prod.mk.injEq]
  exact ⟨hp.trans hp'.symm, rfl⟩

theorem Node.Clean.swapIn {snapshot : Snapshot} {w : World}
    (hfits : SwapFits (.swap snapshot) w s) :
    ((n.swapIn snapshot).note s.db.disabled).Clean s.db.disabled := by
  refine .note (fun group model => nodup_swapIn_list
    (fun c hc hs => ⟨(hfits c hc hs).1, (hfits c hc hs).2.1⟩) group model)
    fun id hid group model hmem => ?_
  obtain ⟨c, hc, hstatus, -, rfl⟩ :=
    (ChannelCache.mem_sync_list (n.cache.sync_eq_swapIn snapshot)).mp hmem
  obtain hdropped | ⟨hdisabled, -⟩ := hid
  · have henabled : snapshot.readEnabled c.id = true :=
      List.any_eq_true.mpr ⟨c, hc, by simp [hstatus]⟩
    have hdropped : (!snapshot.readEnabled c.id) = true := hdropped
    rw [henabled] at hdropped
    cases hdropped
  · rw [(hfits c hc hstatus).2.2] at hdisabled
    cases hdisabled

theorem clean_setNode {node : Nat} (h : ∀ node, (s.nodes node).Clean s.db.disabled)
    (hn : n.Clean s.db.disabled) (node' : Nat) :
    ((s.setNode node n).nodes node').Clean s.db.disabled :=
  (Function.forall_update_iff s.nodes fun _ n => n.Clean s.db.disabled).mpr
    ⟨hn, fun node' _ => h node'⟩ node'

theorem exec_clean (h : ∀ node, (s.nodes node).Clean s.db.disabled) {o : Op} {w : World}
    (hfits : SwapFits o w s) (node node' : Nat) :
    ((exec node o w s).2.nodes node').Clean (exec node o w s).2.db.disabled := by
  cases o with
  | statement st =>
    show ((execStatement st w s).2.nodes node').Clean (execStatement st w s).2.db.disabled
    unfold execStatement
    split
    · exact .note (h node').nodup fun id hid => (h node').unlisted id (hid.imp_right And.right)
    · exact h node'
  | findAbilities channels =>
    dsimp only [exec]
    split <;> exact h node'
  | storeCached generation c =>
    have hstore : Node.Clean { s.nodes node with cache := (s.nodes node).cache.store generation c }
        s.db.disabled := ⟨(h node).nodup, (h node).unlisted, (h node).disabled⟩
    exact clean_setNode h hstore node'
  | cacheUpdateStatus id status => exact clean_setNode h ((h node).updateStatus id status) node'
  | swap snapshot => exact clean_setNode h (.swapIn hfits) node'
  | _ => exact h node'

theorem id_ne_of_selected [Regexp] {id : Nat} (h : ∀ group model, id ∉ cache.list group model)
    {group model requestPath : String} {retry : Nat} {rand : Rand} {c : Channel}
    (hc : cache.getRandomSatisfiedChannel group model retry requestPath rand = .ok (some c)) :
    c.id ≠ id := by
  rintro rfl
  obtain ⟨-, hnone⟩ | ⟨c', hc', hselect, -⟩ :=
    cache.getRandomSatisfiedChannel_spec group model retry requestPath rand
  · rw [hnone] at hc
    cases hc
  rw [hselect] at hc
  cases hc
  obtain hlist | hlist := ChannelCache.mem_candidates (ChannelCache.mem_cached hc')
  · exact h _ _ hlist
  · exact h _ _ hlist

/-- If no synchronisation swaps in a repeated name or a channel stored as disabled, a channel
disabled and removed from a cache is not selected from it until it is enabled again. -/
theorem removed_never_selected [Regexp] (cfg : Config) (db : Database)
    (moves : List (Move Job World))
    (hfits : Along (step cfg) (Conditions.operations SwapFits).Meets (initial db) moves)
    (node id : Nat)
    (hremoved : ((run (step cfg) (initial db) moves).state.nodes node).removed id = true)
    (group model : String) (retry : Nat) (requestPath : String) (rand : Rand) (c : Channel)
    (hc : ((run (step cfg) (initial db) moves).state.nodes node).cache.getRandomSatisfiedChannel
      group model retry requestPath rand = .ok (some c)) : c.id ≠ id := by
  let Clean (s : Shared) : Prop := ∀ node, (s.nodes node).Clean s.db.disabled
  have hinitial : Clean (initial db).state := fun _ =>
    ⟨fun _ _ => List.nodup_nil, fun _ _ _ _ => List.not_mem_nil, fun _ h => by cases h⟩
  have hclean : Clean (run (step cfg) (initial db) moves).state :=
    System.run_keeps (I := Clean) (fun _ _ _ => rfl) (fun _ _ => rfl)
      (fun _ _ _ _ h hfit _ => exec_clean h hfit _ _) hinitial hfits
  exact id_ne_of_selected ((hclean node).unlisted id (.inr hremoved)) hc

end Removed

section Samples

local instance : Regexp := ⟨fun _ _ => false⟩

def firstDraw : Rand := ⟨fun _ => 0, id⟩

def syncThenDisable : List (Move Job World) :=
  .start 0 .syncChannelCache :: runs 0 3 ++ .start 0 (.disableChannel 1 "" "error") :: runs 1 6

def selected (db : Database) (moves : List (Move Job World)) : Option Nat :=
  let s := (run (step cached) (initial db) moves).state
  match (s.nodes 0).cache.getRandomSatisfiedChannel "g" "m" 0 "" firstDraw with
  | .ok c => c.map Channel.id
  | .error _ => none

def twoServing : Database :=
  let channel (id : Nat) : Channel := { id, models := "m", group := "g" }
  withAbilities (.pair (channel 1) (channel 2))

/-- Of two channels one is disabled: the other is selected, by every draw. -/
theorem removed_channel_not_selected :
    let n := (run (step cached) (initial twoServing) syncThenDisable).state.nodes 0
    n.removed 1 = true ∧ selected twoServing syncThenDisable = some 2 ∧
      ∀ rand c, n.cache.getRandomSatisfiedChannel "g" "m" 0 "" rand = .ok (some c) → c.id ≠ 1 := by
  have hremoved : ((run (step cached) (initial twoServing) syncThenDisable).state.nodes
      0).removed 1 = true := by decide +kernel
  refine ⟨hremoved, by decide +kernel, fun rand c hc => ?_⟩
  exact removed_never_selected cached twoServing syncThenDisable (by decide +kernel) 0 1 hremoved
    "g" "m" 0 "" rand c hc

/-- The disabled channel is selected again: with a model that is named twice, and when a
synchronisation that has read it before ends after it. -/
theorem removed_channel_selected :
    (let moves := syncThenDisable
    ((run (step cached) (initial (oneChannel "m,m")) moves).state.nodes 0).removed 1 = true ∧
      selected (oneChannel "m,m") moves = some 1) ∧
    let moves := .start 0 .syncChannelCache :: runs 0 3 ++ .start 0 .syncChannelCache :: runs 1 1 ++
      .start 0 (.disableChannel 1 "" "error") :: runs 2 6 ++ runs 1 2
    ((run (step cached) (initial (oneChannel "m")) moves).state.nodes 0).removed 1 = true ∧
      selected (oneChannel "m") moves = some 1 := by decide +kernel

end Samples

end ZModel.Channels
