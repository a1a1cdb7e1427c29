import ZModel.Channels.Channel
import ZModel.Channels.Draw

/-!
# The memory cache of channels

`model/channel_cache.go`. A synchronisation reads the channels, then the abilities, builds an index
and swaps it in; it panics if a group has no ability (`buildIndex_isSome_iff`).
-/

namespace ZModel.Channels

open Lib
open Function (update update_self update_of_ne)

variable {channels : List Channel} {id : Nat}

/-- `group2model2channels`. A group without an inner map is `none`. -/
abbrev ChannelIndex := String → Option (String → List Nat)

variable (index : ChannelIndex)

def ChannelIndex.list (group model : String) : List Nat :=
  ((index group).map (· model)).getD []

def indexEntries (channels : List Channel) : List ((String × String) × Nat) :=
  (channels.filter fun c => c.status = .enabled).flatMap fun c =>
    c.groups.flatMap fun group => c.modelNames.map fun model => ((group, model), c.id)

/-- One write. A write into a map that does not exist panics. -/
def ChannelIndex.append (e : (String × String) × Nat) : Option ChannelIndex :=
  (index e.1.1).map fun models =>
    update index e.1.1 (some (update models e.1.2 (models e.1.2 ++ [e.2])))

def emptyIndex (abilities : List Ability) : ChannelIndex := fun group =>
  if abilities.any fun a => a.group = group then some fun _ => [] else none

def buildIndex (channels : List Channel) (abilities : List Ability) : Option ChannelIndex :=
  (indexEntries channels).foldlM ChannelIndex.append (emptyIndex abilities)

def channelById (channels : List Channel) (id : Nat) : Option Channel :=
  channels.find? fun c => c.id = id

def sortByPriority (channels : List Channel) (ids : List Nat) : List Nat :=
  ids.insertionSort fun i j =>
    ((channelById channels j).map Channel.getPriority).getD 0 ≤
      ((channelById channels i).map Channel.getPriority).getD 0

section Index

variable {channels : List Channel} {abilities : List Ability} {group model : String} {id : Nat}

theorem mem_indexEntries : ((group, model), id) ∈ indexEntries channels ↔
      ∃ c ∈ channels, c.status = .enabled ∧ c.serves group model = true ∧ c.id = id := by
  unfold indexEntries Channel.serves
  constructor
  · intro h
    obtain ⟨c, hc, h⟩ := List.mem_flatMap.mp h
    obtain ⟨g, hg, h⟩ := List.mem_flatMap.mp h
    obtain ⟨m, hm, heq⟩ := List.mem_map.mp h
    cases heq
    obtain ⟨hc, hstatus⟩ := List.mem_filter.mp hc
    exact ⟨c, hc, by simpa using hstatus, by simp [hg, hm], rfl⟩
  rintro ⟨c, hc, hstatus, hserves, rfl⟩
  simp only [Bool.and_eq_true, decide_eq_true_eq] at hserves
  refine List.mem_flatMap.mpr ⟨c, List.mem_filter.mpr ⟨hc, by simpa using hstatus⟩, ?_⟩
  refine List.mem_flatMap.mpr ⟨group, hserves.1, ?_⟩
  exact List.mem_map.mpr ⟨model, hserves.2, rfl⟩

def ChannelIndex.extend (entries : List ((String × String) × Nat)) :
    ChannelIndex := fun group =>
  (index group).map fun models model =>
    models model ++ (entries.filter fun e => e.1 = (group, model)).map Prod.snd

theorem ChannelIndex.extend_nil : index.extend [] = index := by
  funext group
  unfold ChannelIndex.extend
  simp

theorem ChannelIndex.extend_cons {index index' : ChannelIndex} {e : (String × String) × Nat}
    (h : index.append e = some index') (entries : List ((String × String) × Nat)) :
    index'.extend entries = index.extend (e :: entries) := by
  obtain ⟨⟨g, m⟩, id⟩ := e
  obtain ⟨models, hmodels, rfl⟩ := Option.map_eq_some_iff.mp h
  funext group
  unfold ChannelIndex.extend
  by_cases hg : group = g
  · subst hg
    rw [update_self, hmodels]
    simp only [Option.map_some, Option.some.injEq]
    funext model
    by_cases hm : model = m
    · subst hm
      simp
    · rw [update_of_ne hm]
      simp [Ne.symm hm]
  · rw [update_of_ne hg]
    simp [Ne.symm hg]

theorem ChannelIndex.append_isSome {index index' : ChannelIndex} {e : (String × String) × Nat}
    (h : index.append e = some index') (group : String) :
    (index' group).isSome = (index group).isSome := by
  obtain ⟨models, hmodels, rfl⟩ := Option.map_eq_some_iff.mp h
  by_cases hg : group = e.1.1
  · subst hg
    rw [update_self, hmodels]
    rfl
  · rw [update_of_ne hg]

theorem foldlM_append_eq (entries : List ((String × String) × Nat)) (index : ChannelIndex) :
    entries.foldlM ChannelIndex.append index =
      if ∀ e ∈ entries, (index e.1.1).isSome = true then some (index.extend entries) else none := by
  induction entries generalizing index with
  | nil => simp [ChannelIndex.extend_nil]
  | cons e entries ih =>
    rw [List.foldlM_cons]
    cases hmodels : index e.1.1 with
    | none =>
      have hnone : index.append e = none := by
        unfold ChannelIndex.append
        rw [hmodels, Option.map_none]
      rw [hnone, if_neg (by simp [hmodels])]
      rfl
    | some models =>
      obtain ⟨index', happend⟩ : ∃ index', index.append e = some index' := by
        unfold ChannelIndex.append
        rw [hmodels]
        exact ⟨_, rfl⟩
      have hcond : (∀ e' ∈ entries, (index' e'.1.1).isSome = true) ↔
          ∀ e' ∈ e :: entries, (index e'.1.1).isSome = true := by
        simp [ChannelIndex.append_isSome happend, hmodels]
      rw [happend]
      show entries.foldlM ChannelIndex.append index' = _
      rw [ih index', ChannelIndex.extend_cons happend]
      exact if_congr hcond rfl rfl

theorem emptyIndex_isSome : (emptyIndex abilities group).isSome = true ↔
    ∃ a ∈ abilities, a.group = group := by
  unfold emptyIndex
  split
  next h =>
    refine iff_of_true rfl ?_
    simpa using h
  next h =>
    refine iff_of_false (by simp) ?_
    simpa using h

theorem buildIndex_isSome_iff : (buildIndex channels abilities).isSome = true ↔
      ∀ c ∈ channels, c.status = .enabled → ∀ group ∈ c.groups, ∃ a ∈ abilities,
        a.group = group := by
  unfold buildIndex
  rw [foldlM_append_eq]
  constructor
  · intro h c hc hstatus group hgroup
    split at h
    next hall =>
      obtain ⟨model, hmodel⟩ := List.exists_mem_of_ne_nil _ (split_ne_nil ',' c.models)
      have hentry : ((group, model), c.id) ∈ indexEntries channels :=
        mem_indexEntries.mpr ⟨c, hc, hstatus, by
          unfold Channel.serves Channel.modelNames
          simp [hgroup, hmodel], rfl⟩
      exact emptyIndex_isSome.mp (hall _ hentry)
    · cases h
  intro h
  rw [if_pos]
  · rfl
  rintro ⟨⟨group, model⟩, id⟩ hentry
  obtain ⟨c, hc, hstatus, hserves, -⟩ := mem_indexEntries.mp hentry
  unfold Channel.serves at hserves
  simp only [Bool.and_eq_true, decide_eq_true_eq] at hserves
  exact emptyIndex_isSome.mpr (h c hc hstatus group hserves.1)

theorem buildIndex_list {index : ChannelIndex} (h : buildIndex channels abilities = some index)
    (group model : String) :
    index.list group model =
      ((indexEntries channels).filter fun e => e.1 = (group, model)).map Prod.snd := by
  unfold buildIndex at h
  rw [foldlM_append_eq] at h
  split at h
  swap
  · cases h
  rename_i hall
  cases h
  unfold ChannelIndex.list ChannelIndex.extend
  cases hempty : emptyIndex abilities group with
  | none =>
    -- no write goes to a group without an inner map
    have hnone : (indexEntries channels).filter (fun e => e.1 = (group, model)) = [] := by
      rw [List.filter_eq_nil_iff]
      intro e he heq
      have hsome := hall e he
      rw [decide_eq_true_eq] at heq
      rw [heq, hempty] at hsome
      cases hsome
    rw [hnone]
    rfl
  | some models =>
    have hmodels : models = fun _ => [] := by
      unfold emptyIndex at hempty
      split at hempty
      · cases hempty
        rfl
      · cases hempty
    rw [hmodels]
    rfl

theorem mem_buildIndex_list {index : ChannelIndex} (h : buildIndex channels abilities = some index) :
    id ∈ index.list group model ↔
      ∃ c ∈ channels, c.status = .enabled ∧ c.serves group model = true ∧ c.id = id := by
  rw [buildIndex_list h, ← mem_indexEntries]
  constructor
  · intro hmem
    obtain ⟨⟨p, id'⟩, he, rfl⟩ := List.mem_map.mp hmem
    obtain ⟨he, hp⟩ := List.mem_filter.mp he
    rw [decide_eq_true_eq] at hp
    cases hp
    exact he
  · intro he
    exact List.mem_map.mpr ⟨_, List.mem_filter.mpr ⟨he, by simp⟩, rfl⟩

end Index

structure ChannelCache where
  group2model2channels : ChannelIndex := fun _ => none
  channelsIDM : Nat → Option Channel := fun _ => none
  channel2advancedCustomConfig : Nat → Option AdvancedCustomConfig := fun _ => none
  generation : Nat := 0
  listed : ∀ group model, ∀ id ∈ group2model2channels.list group model,
    (channelsIDM id).isSome = true := by intro _ _ _ h; cases h
  named : ∀ id c, channelsIDM id = some c → c.id = id := by intro _ _ h; cases h

def ChannelCache.empty : ChannelCache := {}

def ChannelCache.list (cache : ChannelCache) (group model : String) : List Nat :=
  cache.group2model2channels.list group model

def keepPollingIndex (old : Option Channel) (info : ChannelInfo) : ChannelInfo :=
  match old with
  | none => info
  | some o =>
    if info.isMultiKey && info.multiKeyMode = some .polling && o.channelInfo.isMultiKey &&
        o.channelInfo.multiKeyMode = some .polling then
      { info with multiKeyPollingIndex := o.channelInfo.multiKeyPollingIndex }
    else info

def cachedChannel (old : Option Channel) (c : Channel) : Channel :=
  { c with channelInfo := keepPollingIndex old c.channelInfo }

def sortIndex (channels : List Channel) (index : ChannelIndex) : ChannelIndex := fun group =>
  (index group).map fun models model => sortByPriority channels (models model)

theorem sortIndex_list (channels : List Channel) (index : ChannelIndex) (group model : String) :
    (sortIndex channels index).list group model =
      sortByPriority channels (index.list group model) := by
  unfold sortIndex ChannelIndex.list
  dsimp only
  cases index group with
  | none => rfl
  | some models => rfl

theorem mem_sortIndex_list {index : ChannelIndex} {group model : String} :
    id ∈ (sortIndex channels index).list group model ↔ id ∈ index.list group model := by
  rw [sortIndex_list]
  exact List.mem_insertionSort _

theorem channelById_isSome :
    (channelById channels id).isSome = true ↔ ∃ c ∈ channels, c.id = id := by
  unfold channelById
  simp

theorem channelById_id {c : Channel} (h : channelById channels id = some c) : c.id = id := by
  simpa using List.find?_some h

variable (cache : ChannelCache)

def ChannelCache.sync (channels : List Channel) (abilities : List Ability) : Option ChannelCache :=
  match hindex : buildIndex channels abilities with
  | none => none
  | some index =>
    some
      { group2model2channels := sortIndex channels index
        channelsIDM := fun id =>
          (channelById channels id).map (cachedChannel (cache.channelsIDM id))
        channel2advancedCustomConfig := fun id =>
          (channelById channels id).bind fun c =>
            if c.type = channelTypeAdvancedCustom then c.advancedCustom else none
        generation := cache.generation + 1
        listed := by
          intro group model id hid
          obtain ⟨c, hc, -, -, hcid⟩ := (mem_buildIndex_list hindex).mp (mem_sortIndex_list.mp hid)
          rw [Option.isSome_map]
          exact channelById_isSome.mpr ⟨c, hc, hcid⟩
        named := by
          intro id c hc
          obtain ⟨row, hrow, rfl⟩ := Option.map_eq_some_iff.mp hc
          exact (channelById_id hrow : row.id = id) }

def ChannelIndex.remove (id : Nat) : ChannelIndex := fun group =>
  (index group).map fun models model => (models model).erase id

theorem ChannelIndex.remove_list (id : Nat) (group model : String) :
    (index.remove id).list group model = (index.list group model).erase id := by
  unfold ChannelIndex.remove ChannelIndex.list
  dsimp only
  cases index group with
  | none => rfl
  | some models => rfl

theorem isSome_update_map {β : Type} (f : Nat → Option β) (id id' : Nat) (g : β → β) :
    (update f id ((f id).map g) id').isSome = (f id').isSome := by
  by_cases h : id' = id
  · subst h
    rw [update_self, Option.isSome_map]
  · rw [update_of_ne h]

def ChannelCache.updateStatus (id : Nat) (status : ChannelStatus) :
    ChannelCache where
  group2model2channels :=
    if status = .enabled then cache.group2model2channels else cache.group2model2channels.remove id
  channelsIDM :=
    update cache.channelsIDM id
      ((cache.channelsIDM id).map fun c => { c with status })
  channel2advancedCustomConfig := cache.channel2advancedCustomConfig
  generation := cache.generation
  listed := by
    intro group model id' hid'
    rw [isSome_update_map]
    refine cache.listed group model id' ?_
    split at hid'
    · exact hid'
    · rw [ChannelIndex.remove_list] at hid'
      exact List.mem_of_mem_erase hid'
  named := by
    intro id' c hc
    by_cases h : id' = id
    · subst h
      rw [update_self] at hc
      obtain ⟨old, hold, rfl⟩ := Option.map_eq_some_iff.mp hc
      exact cache.named id' old hold
    · rw [update_of_ne h] at hc
      exact cache.named id' c hc

/-- A change of a cached channel, lost if the object was swapped out. -/
def ChannelCache.store (generation : Nat) (c : Channel) : ChannelCache where
  group2model2channels := cache.group2model2channels
  channelsIDM :=
    if generation = cache.generation then
      update cache.channelsIDM c.id ((cache.channelsIDM c.id).map fun _ => c)
    else cache.channelsIDM
  channel2advancedCustomConfig := cache.channel2advancedCustomConfig
  generation := cache.generation
  listed := by
    intro group model id hid
    have hsome := cache.listed group model id hid
    split
    · rwa [isSome_update_map]
    · exact hsome
  named := by
    intro id c' hc
    split at hc
    · by_cases h : id = c.id
      · subst h
        rw [update_self] at hc
        obtain ⟨old, -, rfl⟩ := Option.map_eq_some_iff.mp hc
        rfl
      · rw [update_of_ne h] at hc
        exact cache.named id c' hc
    · exact cache.named id c' hc

theorem ChannelCache.updateStatus_list (id : Nat) (status : ChannelStatus) (group model : String) :
    (cache.updateStatus id status).list group model =
      if status = .enabled then cache.list group model
      else (cache.list group model).erase id := by
  unfold ChannelCache.updateStatus ChannelCache.list
  split
  · rfl
  · rw [ChannelIndex.remove_list]

theorem ChannelCache.sync_isSome (channels : List Channel) (abilities : List Ability) :
    (cache.sync channels abilities).isSome = (buildIndex channels abilities).isSome := by
  unfold ChannelCache.sync
  split
  next h =>
    exact (congrArg Option.isSome h).symm
  next index h =>
    exact (congrArg Option.isSome h).symm

section Sync

variable {cache cache' : ChannelCache} {channels : List Channel} {abilities : List Ability}

theorem ChannelCache.sync_eq (h : cache.sync channels abilities = some cache') :
    ∃ index, buildIndex channels abilities = some index ∧ (∀ group model, cache'.list group model =
        sortByPriority channels (index.list group model)) ∧
      (∀ id, cache'.channelsIDM id =
        (channelById channels id).map (cachedChannel (cache.channelsIDM id))) ∧
      ∀ id, cache'.channel2advancedCustomConfig id = (channelById channels id).bind fun c =>
          if c.type = channelTypeAdvancedCustom then c.advancedCustom else none := by
  unfold ChannelCache.sync at h
  split at h
  · cases h
  rename_i index hindex
  cases h
  exact ⟨index, hindex, sortIndex_list channels index, fun _ => rfl, fun _ => rfl⟩

theorem ChannelCache.mem_sync_list (h : cache.sync channels abilities = some cache')
    {group model : String} :
    id ∈ cache'.list group model ↔
      ∃ c ∈ channels, c.status = .enabled ∧ c.serves group model = true ∧ c.id = id := by
  obtain ⟨index, hindex, hlist, -, -⟩ := ChannelCache.sync_eq h
  rw [hlist, ← mem_buildIndex_list hindex]
  exact List.mem_insertionSort _

end Sync

def handleThinkingBudgetModel (name first wildcard : String) : String :=
  if hasPrefix first name && containsText "-thinking-" name then wildcard else name

def formatGemini (name : String) : String :=
  if hasPrefix "gemini-2.5-flash-lite" name then
    handleThinkingBudgetModel name "gemini-2.5-flash-lite" "gemini-2.5-flash-lite-thinking-*"
  else if hasPrefix "gemini-2.5-flash" name then
    handleThinkingBudgetModel name "gemini-2.5-flash" "gemini-2.5-flash-thinking-*"
  else if hasPrefix "gemini-2.5-pro" name then
    handleThinkingBudgetModel name "gemini-2.5-pro" "gemini-2.5-pro-thinking-*"
  else name

def formatMatchingModelName (name : String) : String :=
  let name := formatGemini name
  let name := if hasPrefix "gpt-4-gizmo" name then "gpt-4-gizmo-*" else name
  if hasPrefix "gpt-4o-gizmo" name then "gpt-4o-gizmo-*" else name

structure Rand where
  intn : Nat → Nat
  lt : ∀ {n}, 0 < n → intn n < n

def inconsistent (id : Nat) : String :=
  "数据库一致性错误，渠道# " ++ toString id ++ " 不存在，请联系管理员修复"

section Select

variable [Regexp]

/-- Whether a channel of this type serves a path. Only advanced custom channels are checked. -/
def servesPath (type : Nat) (config : Option AdvancedCustomConfig) (requestPath model : String) :
    Bool :=
  requestPath = "" || type ≠ channelTypeAdvancedCustom ||
    (config.map fun c => c.supportsPathForModel requestPath model).getD false

variable (cache : ChannelCache)

def ChannelCache.filterByPath (ids : List Nat) (requestPath model : String) : List Nat :=
  if requestPath = "" then ids
  else
    ids.filter fun id =>
      match cache.channelsIDM id with
      | none => true
      | some c => servesPath c.type (cache.channel2advancedCustomConfig id) requestPath model

def ChannelCache.candidates (group model requestPath : String) : List Nat :=
  let channels := cache.filterByPath (cache.list group model) requestPath model
  if channels = [] then
    cache.filterByPath (cache.list group (formatMatchingModelName model)) requestPath model
  else channels

def ChannelCache.load (cache : ChannelCache) : List Nat → Except String (List Channel)
  | [] => .ok []
  | id :: ids =>
    match cache.channelsIDM id with
    | none => .error (inconsistent id)
    | some c => (cache.load ids).map (c :: ·)

def drawTarget (targets : List Channel) (rand : Rand) : Option Channel :=
  let weights := targets.map Channel.getWeight
  (drawCached weights (rand.intn (cachedTotal weights))).bind fun i => targets[i]?

def selectFrom (group model : String) (channels : List Channel) (retry : Nat) (rand : Rand) :
    Except String (Option Channel) :=
  match level (channels.map Channel.getPriority) retry with
  | none => .ok none
  | some targetPriority =>
    let targets := channels.filter fun c => c.getPriority = targetPriority
    if targets = [] then
      .error ("no channel found, group: " ++ group ++ ", model: " ++ model ++ ", priority: " ++
        toString targetPriority)
    else
      match drawTarget targets rand with
      | some c => .ok (some c)
      | none => .error "channel not found"

def ChannelCache.getRandomSatisfiedChannel (group model : String)
    (retry : Nat) (requestPath : String) (rand : Rand) : Except String (Option Channel) :=
  match cache.candidates group model requestPath with
  | [] => .ok none
  | [id] =>
    match cache.channelsIDM id with
    | some c => .ok (some c)
    | none => .error (inconsistent id)
  | ids => (cache.load ids).bind fun channels => selectFrom group model channels retry rand

def ChannelCache.cached (ids : List Nat) : List Channel :=
  ids.filterMap cache.channelsIDM

section Spec

variable {cache : ChannelCache} {group model requestPath : String} {rand : Rand} {retry : Nat}

omit [Regexp] in
theorem ChannelCache.load_eq {ids : List Nat}
    (h : ∀ id ∈ ids, (cache.channelsIDM id).isSome = true) :
    cache.load ids = .ok (cache.cached ids) := by
  induction ids with
  | nil => rfl
  | cons id ids ih =>
    obtain ⟨c, hc⟩ := Option.isSome_iff_exists.mp (h id (.head _))
    rw [ChannelCache.load, hc, ih fun i hi => h i (.tail _ hi)]
    unfold ChannelCache.cached
    rw [List.filterMap_cons_some hc]
    rfl

omit [Regexp] in
theorem drawTarget_mem {targets : List Channel} (hne : targets ≠ []) (rand : Rand) :
    ∃ c ∈ targets, drawTarget targets rand = some c := by
  have hweights : targets.map Channel.getWeight ≠ [] := by simpa using hne
  have hfair := fair_cached hweights
  obtain ⟨i, hi, hlt⟩ := hfair.picked _ (rand.lt hfair.positive)
  rw [List.length_map] at hlt
  refine ⟨targets[i], List.getElem_mem hlt, ?_⟩
  unfold drawTarget
  dsimp only
  rw [hi, Option.bind_some, List.getElem?_eq_getElem hlt]

omit [Regexp] in
theorem selectFrom_spec (hne : channels ≠ []) (group model : String) (retry : Nat) (rand : Rand) :
    ∃ c ∈ channels, selectFrom group model channels retry rand = .ok (some c) ∧
      level (channels.map Channel.getPriority) retry = some c.getPriority := by
  unfold selectFrom
  cases hlevel : level (channels.map Channel.getPriority) retry with
  | none => exact absurd (level_eq_none_iff.mp hlevel) (by simpa using hne)
  | some p =>
    obtain ⟨c, hc, hp⟩ := List.mem_map.mp (level_mem hlevel)
    have htargets : channels.filter (fun c => c.getPriority = p) ≠ [] :=
      List.ne_nil_of_mem (List.mem_filter.mpr ⟨hc, by simpa using hp⟩)
    obtain ⟨t, ht, hdraw⟩ := drawTarget_mem htargets rand
    obtain ⟨ht, htp⟩ := List.mem_filter.mp ht
    rw [decide_eq_true_eq] at htp
    dsimp only
    rw [if_neg htargets, hdraw]
    exact ⟨t, ht, rfl, by rw [htp]⟩

theorem ChannelCache.filterByPath_subset (ids : List Nat) :
    cache.filterByPath ids requestPath model ⊆ ids := by
  unfold ChannelCache.filterByPath
  split
  · exact List.Subset.refl ids
  · exact List.filter_sublist.subset

theorem ChannelCache.mem_candidates (h : id ∈ cache.candidates group model requestPath) :
    id ∈ cache.list group model ∨ id ∈ cache.list group (formatMatchingModelName model) := by
  unfold ChannelCache.candidates at h
  dsimp only at h
  split at h
  · exact .inr (ChannelCache.filterByPath_subset _ h)
  · exact .inl (ChannelCache.filterByPath_subset _ h)

theorem ChannelCache.candidates_cached (h : id ∈ cache.candidates group model requestPath) :
    (cache.channelsIDM id).isSome = true := by
  obtain h | h := ChannelCache.mem_candidates h
  · exact cache.listed _ _ id h
  · exact cache.listed _ _ id h

omit [Regexp] in
theorem ChannelCache.mem_cached {ids : List Nat} {c : Channel} (h : c ∈ cache.cached ids) :
    c.id ∈ ids := by
  obtain ⟨id, hid, hc⟩ := List.mem_filterMap.mp h
  rw [cache.named id c hc]
  exact hid

theorem ChannelCache.getRandomSatisfiedChannel_spec (cache : ChannelCache)
    (group model : String) (retry : Nat) (requestPath : String) (rand : Rand) :
    cache.candidates group model requestPath = [] ∧
        cache.getRandomSatisfiedChannel group model retry requestPath rand = .ok none ∨
      ∃ c ∈ cache.cached (cache.candidates group model requestPath),
        cache.getRandomSatisfiedChannel group model retry requestPath rand = .ok (some c) ∧
          level ((cache.cached (cache.candidates group model requestPath)).map
            Channel.getPriority) retry = some c.getPriority := by
  have hcached : ∀ id ∈ cache.candidates group model requestPath,
      (cache.channelsIDM id).isSome = true := fun id => ChannelCache.candidates_cached
  unfold ChannelCache.getRandomSatisfiedChannel
  split
  next hids =>
    exact .inl ⟨hids, rfl⟩
  next id hids =>
    obtain ⟨c, hc⟩ := Option.isSome_iff_exists.mp (hcached id (by simp [hids]))
    refine .inr ⟨c, ?_, ?_, ?_⟩
    · simp [ChannelCache.cached, hids, hc]
    · rw [hc]
    · simp [ChannelCache.cached, hids, hc, level_singleton]
  rename_i ids hnil hsingle
  have hload := ChannelCache.load_eq hcached
  have hne : cache.cached (cache.candidates group model requestPath) ≠ [] := by
    obtain ⟨id, hid⟩ := List.exists_mem_of_ne_nil _ hnil
    obtain ⟨c, hc⟩ := Option.isSome_iff_exists.mp (hcached id hid)
    exact List.ne_nil_of_mem (List.mem_filterMap.mpr ⟨id, hid, hc⟩)
  obtain ⟨c, hc, hselect, hlevel⟩ := selectFrom_spec hne group model retry rand
  rw [hload]
  exact .inr ⟨c, hc, hselect, hlevel⟩

end Spec

end Select

end ZModel.Channels
