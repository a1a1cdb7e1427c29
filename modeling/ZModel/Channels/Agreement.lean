import ZModel.Channels.Cache

/-!
# Selection through the database

`GetChannel` of `model/ability.go` filters by path only what is on the level of the retry; the
memory cache filters first, and goes on to the wildcard name.
-/

namespace ZModel.Channels

open Lib

variable {a : Ability} {c : Channel} {p : Int}

def enabledAbilities (abilities : Table Ability) (group model : String) : List Ability :=
  abilities.rows.filter fun a => a.group = group && a.model = model && a.enabled

def getPriority (rows : List Ability) (retry : Nat) : Except String Int :=
  match level (rows.map Ability.priority) retry with
  | none => .error "数据库一致性被破坏"
  | some priorityToUse => .ok priorityToUse

def getChannelQuery (rows : List Ability) (retry : Nat) : Except String (List Ability) :=
  if retry = 0 then
    .ok (rows.filter fun a => some a.priority = (rows.map Ability.priority).max?)
  else (getPriority rows retry).map fun p => rows.filter fun a => a.priority = p

def orderByWeight (rows : List Ability) : List Ability :=
  rows.insertionSort fun a b => b.weight ≤ a.weight

def recordNotFound : String := "record not found"

section Select

variable [Regexp]

def filterAbilities (channels : Table Channel) (rows : List Ability) (requestPath model : String) :
    List Ability :=
  rows.filter fun a =>
    match channels.find? a.channelId with
    | none => true
    | some c => servesPath c.type c.advancedCustom requestPath model

def drawAbility (rows : List Ability) (rand : Rand) : Option Ability :=
  let weights := rows.map Ability.weight
  (drawDatabase weights (rand.intn (databaseTotal weights))).bind fun i => rows[i]?

def getChannel (channels : Table Channel) (abilities : Table Ability) (group model : String)
    (retry : Nat) (requestPath : String) (rand : Rand) : Except String (Option Channel) :=
  (getChannelQuery (enabledAbilities abilities group model) retry).bind fun rows =>
    let rows := filterAbilities channels (orderByWeight rows) requestPath model
    if rows = [] then .ok none
    else
      match (drawAbility rows rand).bind fun a => channels.find? a.channelId with
      | some c => .ok (some c)
      | none => .error recordNotFound

end Select

theorem drawAbility_mem {rows : List Ability} (hne : rows ≠ []) (rand : Rand) :
    ∃ a ∈ rows, drawAbility rows rand = some a := by
  have hweights : rows.map Ability.weight ≠ [] := by simpa using hne
  obtain ⟨i, hi, hlt⟩ := picked_database hweights (rand.lt (databaseTotal_pos hweights))
  rw [List.length_map] at hlt
  refine ⟨rows[i], List.getElem_mem hlt, ?_⟩
  unfold drawAbility
  dsimp only
  rw [hi, Option.bind_some, List.getElem?_eq_getElem hlt]

theorem getChannelQuery_spec (rows : List Ability) (retry : Nat) :
    level (rows.map Ability.priority) retry = none ∧
        (getChannelQuery rows retry = .ok [] ∨ ∃ e, getChannelQuery rows retry = .error e) ∨
      ∃ p, level (rows.map Ability.priority) retry = some p ∧
        getChannelQuery rows retry = .ok (rows.filter fun a => a.priority = p) := by
  unfold getChannelQuery getPriority
  by_cases hretry : retry = 0
  · subst hretry
    rw [if_pos rfl, level_zero]
    cases hmax : (rows.map Ability.priority).max? with
    | none =>
      refine .inl ⟨rfl, .inl ?_⟩
      simp
    | some p =>
      refine .inr ⟨p, rfl, ?_⟩
      simp only [Option.some.injEq]
  rw [if_neg hretry]
  cases level (rows.map Ability.priority) retry with
  | none => exact .inl ⟨rfl, .inr ⟨_, rfl⟩⟩
  | some p => exact .inr ⟨p, rfl, rfl⟩

def selectedLevel : Except String (Option Channel) → Option Int
  | .ok (some c) => some c.getPriority
  | _ => none

section Agreement

variable [Regexp]

def serving (channels : Table Channel) (group model : String) : List Channel :=
  channels.rows.filter fun c => decide (c.status = .enabled) && c.serves group model

def withAbility (channels : Table Channel) (group model : String) : List Channel :=
  channels.rows.filter fun c =>
    decide (c.status = .enabled) && decide ((group, model) ∈ c.abilityNames)

def onPath (channels : List Channel) (requestPath model : String) : List Channel :=
  channels.filter fun c => servesPath c.type c.advancedCustom requestPath model

def priorities (channels : List Channel) : List Int := channels.map Channel.getPriority

variable {channels : Table Channel} {group model requestPath : String} {retry : Nat}

omit [Regexp] in
theorem mem_withAbility : c ∈ withAbility channels group model ↔
    c ∈ channels.rows ∧ c.status = .enabled ∧ (group, model) ∈ c.abilityNames := by
  unfold withAbility
  rw [List.mem_filter, Bool.and_eq_true, decide_eq_true_eq, decide_eq_true_eq]

omit [Regexp] in
theorem mem_serving : c ∈ serving channels group model ↔
    c ∈ channels.rows ∧ c.status = .enabled ∧ c.serves group model = true := by
  unfold serving
  rw [List.mem_filter, Bool.and_eq_true, decide_eq_true_eq]

omit [Regexp] in
theorem withAbility_subset : withAbility channels group model ⊆ serving channels group model := by
  intro c hc
  obtain ⟨hrow, hstatus, hname⟩ := mem_withAbility.mp hc
  exact mem_serving.mpr ⟨hrow, hstatus, serves_of_mem_abilityNames hname⟩

omit [Regexp] in
theorem mem_enabledAbilities : a ∈ enabledAbilities (abilitiesOf channels) group model ↔
      ∃ c ∈ withAbility channels group model, a ∈ c.abilities ∧ a.group = group ∧
        a.model = model := by
  unfold enabledAbilities abilitiesOf
  rw [List.mem_filter, List.mem_flatMap]
  simp only [Bool.and_eq_true, decide_eq_true_eq]
  constructor
  · rintro ⟨⟨c, hc, ha⟩, ⟨rfl, rfl⟩, henabled⟩
    obtain ⟨hname, -, hstatus, -⟩ := mem_abilities.mp ha
    rw [henabled] at hstatus
    exact ⟨c, mem_withAbility.mpr ⟨hc, by simpa using hstatus.symm, hname⟩, ha, rfl, rfl⟩
  rintro ⟨c, hc, ha, hgroup, hmodel⟩
  obtain ⟨hrow, hstatus, -⟩ := mem_withAbility.mp hc
  obtain ⟨-, -, henabled, -⟩ := mem_abilities.mp ha
  exact ⟨⟨c, hrow, ha⟩, ⟨hgroup, hmodel⟩, by rw [henabled, decide_eq_true_eq]; exact hstatus⟩

omit [Regexp] in
theorem find?_of_mem_enabledAbilities
    (h : a ∈ enabledAbilities (abilitiesOf channels) group model) :
    ∃ c ∈ withAbility channels group model, channels.find? a.channelId = some c ∧
      a.priority = c.getPriority := by
  obtain ⟨c, hc, ha, -, -⟩ := mem_enabledAbilities.mp h
  obtain ⟨-, hid, -, hpriority, -⟩ := mem_abilities.mp ha
  refine ⟨c, hc, ?_, hpriority⟩
  exact Table.find?_eq_some_iff.mpr ⟨(mem_withAbility.mp hc).1, hid.symm⟩

omit [Regexp] in
theorem exists_mem_enabledAbilities (hc : c ∈ withAbility channels group model) :
    ∃ a ∈ enabledAbilities (abilitiesOf channels) group model,
      channels.find? a.channelId = some c ∧ a.priority = c.getPriority := by
  obtain ⟨hrow, -, hname⟩ := mem_withAbility.mp hc
  obtain ⟨a, ha, hnames⟩ : ∃ a ∈ c.abilities, (a.group, a.model) = (group, model) := by
    exact ⟨_, List.mem_map.mpr ⟨(group, model), hname, rfl⟩, rfl⟩
  cases hnames
  have hmem : a ∈ enabledAbilities (abilitiesOf channels) a.group a.model :=
    mem_enabledAbilities.mpr ⟨c, hc, ha, rfl, rfl⟩
  obtain ⟨-, hid, -, hpriority, -⟩ := mem_abilities.mp ha
  exact ⟨a, hmem, Table.find?_eq_some_iff.mpr ⟨hrow, hid.symm⟩, hpriority⟩

omit [Regexp] in
theorem level_enabledAbilities (channels : Table Channel) (group model : String) (retry : Nat) :
    level ((enabledAbilities (abilitiesOf channels) group model).map Ability.priority) retry =
      level (priorities (withAbility channels group model)) retry := by
  refine level_congr (fun p => ?_) retry
  unfold priorities
  simp only [List.mem_map]
  constructor
  · rintro ⟨a, ha, rfl⟩
    obtain ⟨c, hc, -, hp⟩ := find?_of_mem_enabledAbilities ha
    exact ⟨c, hc, hp.symm⟩
  · rintro ⟨c, hc, rfl⟩
    obtain ⟨a, ha, -, hp⟩ := exists_mem_enabledAbilities hc
    exact ⟨a, ha, hp⟩

theorem mem_filterAbilities : a ∈ filterAbilities channels (orderByWeight
        ((enabledAbilities (abilitiesOf channels) group model).filter fun a => a.priority = p))
        requestPath model ↔
      a ∈ enabledAbilities (abilitiesOf channels) group model ∧ a.priority = p ∧
        ∃ c ∈ onPath (withAbility channels group model) requestPath model,
          channels.find? a.channelId = some c := by
  unfold filterAbilities orderByWeight onPath
  rw [List.mem_filter, List.mem_insertionSort, List.mem_filter, decide_eq_true_eq, and_assoc]
  refine and_congr_right fun ha => and_congr_right fun _ => ?_
  obtain ⟨c, hc, hfind, -⟩ := find?_of_mem_enabledAbilities ha
  rw [hfind]
  constructor
  · intro hpath
    exact ⟨c, List.mem_filter.mpr ⟨hc, hpath⟩, rfl⟩
  rintro ⟨c', hc', heq⟩
  cases heq
  exact (List.mem_filter.mp hc').2

theorem selectedLevel_getChannel (rand : Rand) (p : Int) :
    selectedLevel (getChannel channels (abilitiesOf channels) group model retry requestPath rand) =
        some p ↔
      level (priorities (withAbility channels group model)) retry = some p ∧
        ∃ c ∈ onPath (withAbility channels group model) requestPath model, c.getPriority = p := by
  unfold getChannel
  rw [← level_enabledAbilities]
  obtain ⟨hnone, hquery⟩ | ⟨q, hq, hquery⟩ :=
    getChannelQuery_spec (enabledAbilities (abilitiesOf channels) group model) retry
  · rw [hnone]
    obtain hquery | ⟨e, hquery⟩ := hquery
    · rw [hquery]
      exact iff_of_false (by simp [Except.bind, filterAbilities, orderByWeight, selectedLevel])
        (by simp)
    · rw [hquery]
      exact iff_of_false (by simp [Except.bind, selectedLevel]) (by simp)
  rw [hquery, hq]
  dsimp only [Except.bind]
  split
  next hempty =>
    refine iff_of_false (by simp [selectedLevel]) ?_
    rintro ⟨hpq, c, hc, hcp⟩
    cases hpq
    obtain ⟨a, ha, hfind, hp⟩ := exists_mem_enabledAbilities (List.mem_filter.mp hc).1
    have hmem := mem_filterAbilities.mpr ⟨ha, hp.trans hcp, c, hc, hfind⟩
    rw [hempty] at hmem
    cases hmem
  rename_i hne
  obtain ⟨a, ha, hdraw⟩ := drawAbility_mem hne rand
  obtain ⟨ha, hap, c, hc, hfind⟩ := mem_filterAbilities.mp ha
  have hcp : c.getPriority = q := by
    obtain ⟨c', -, hfind', hp⟩ := find?_of_mem_enabledAbilities ha
    rw [hfind] at hfind'
    cases hfind'
    rw [← hp, hap]
  rw [hdraw, Option.bind_some, hfind]
  show some c.getPriority = some p ↔ some q = some p ∧ _
  rw [hcp]
  constructor
  · rintro ⟨⟩
    exact ⟨rfl, c, hc, hcp⟩
  · exact And.left

omit [Regexp] in
theorem sync_abilitiesOf (cache : ChannelCache) (channels : Table Channel) :
    ∃ cache', cache.sync channels.rows (abilitiesOf channels).rows = some cache' := by
  refine Option.isSome_iff_exists.mp ?_
  rw [ChannelCache.sync_isSome, buildIndex_isSome_iff]
  intro c hc hstatus group hgroup
  obtain ⟨model, hmodel⟩ := exists_mem_abilityNames hgroup
  have ha : ∃ a ∈ c.abilities, a.group = group := by
    exact ⟨_, List.mem_map.mpr ⟨_, hmodel, rfl⟩, rfl⟩
  obtain ⟨a, ha, hg⟩ := ha
  exact ⟨a, List.mem_flatMap.mpr ⟨c, hc, ha⟩, hg⟩

section Synced

variable {old cache : ChannelCache} {abilities : List Ability}

omit [Regexp] in
theorem channelById_eq (channels : Table Channel) (id : Nat) :
    channelById channels.rows id = channels.find? id := rfl

theorem mem_cached_filterByPath (hsync : old.sync channels.rows abilities = some cache)
    {name : String} :
    p ∈ (cache.cached (cache.filterByPath (cache.list group name) requestPath model)).map
        Channel.getPriority ↔
      p ∈ priorities (onPath (serving channels group name) requestPath model) := by
  obtain ⟨index, hindex, hlist, hidm, hconfig⟩ := ChannelCache.sync_eq hsync
  have hkeep : ∀ id c, channels.find? id = some c →
      (id ∈ cache.filterByPath (cache.list group name) requestPath model ↔
        id ∈ cache.list group name ∧
          servesPath c.type c.advancedCustom requestPath model = true) := by
    intro id c hc
    unfold ChannelCache.filterByPath
    split
    next hempty =>
      have hserves : servesPath c.type c.advancedCustom requestPath model = true := by
        simp [servesPath, hempty]
      rw [hserves]
      simp
    rw [List.mem_filter]
    simp only [hidm, hconfig, channelById_eq, hc, Option.map_some, Option.bind_some,
      cachedChannel]
    by_cases htype : c.type = channelTypeAdvancedCustom
    · rw [if_pos htype]
    · simp [servesPath, htype]
  unfold priorities onPath ChannelCache.cached
  simp only [List.mem_map, List.mem_filterMap, List.mem_filter, mem_serving]
  constructor
  · rintro ⟨c, ⟨id, hid, hc⟩, rfl⟩
    rw [hidm, channelById_eq] at hc
    obtain ⟨row, hrow, rfl⟩ := Option.map_eq_some_iff.mp hc
    obtain ⟨hmem, hpath⟩ := (hkeep id row hrow).mp hid
    obtain ⟨c, hc, hstatus, hserves, hcid⟩ := (ChannelCache.mem_sync_list hsync).mp hmem
    have hsame : row = c := by
      have hfind : channels.find? id = some c := Table.find?_eq_some_iff.mpr ⟨hc, hcid⟩
      rw [hrow] at hfind
      cases hfind
      rfl
    subst hsame
    exact ⟨row, ⟨⟨hc, hstatus, hserves⟩, hpath⟩, rfl⟩
  rintro ⟨c, ⟨⟨hc, hstatus, hserves⟩, hpath⟩, rfl⟩
  have hfind : channels.find? c.id = some c := Table.find?_eq_some_iff.mpr ⟨hc, rfl⟩
  have hmem : c.id ∈ cache.list group name :=
    (ChannelCache.mem_sync_list hsync).mpr ⟨c, hc, hstatus, hserves, rfl⟩
  refine ⟨cachedChannel (old.channelsIDM c.id) c, ⟨c.id, ?_, ?_⟩, rfl⟩
  · exact (hkeep c.id c hfind).mpr ⟨hmem, hpath⟩
  · rw [hidm, channelById_eq, hfind, Option.map_some]

def offered (channels : Table Channel) (group model requestPath : String) : List Channel :=
  if onPath (serving channels group model) requestPath model = [] then
    onPath (serving channels group (formatMatchingModelName model)) requestPath model
  else onPath (serving channels group model) requestPath model

section

variable (hsync : old.sync channels.rows abilities = some cache)

include hsync

theorem filterByPath_eq_nil_iff {name : String} :
    cache.filterByPath (cache.list group name) requestPath model = [] ↔
      onPath (serving channels group name) requestPath model = [] := by
  have hsome : ∀ id ∈ cache.filterByPath (cache.list group name) requestPath model,
      (cache.channelsIDM id).isSome = true := fun id hid =>
    cache.listed group name id (ChannelCache.filterByPath_subset _ hid)
  constructor
  · intro hnil
    rw [List.eq_nil_iff_forall_not_mem]
    intro c hc
    have hp := (mem_cached_filterByPath hsync).mpr (List.mem_map.mpr ⟨c, hc, rfl⟩)
    rw [hnil] at hp
    cases hp
  intro hnil
  rw [List.eq_nil_iff_forall_not_mem]
  intro id hid
  obtain ⟨c, hc⟩ := Option.isSome_iff_exists.mp (hsome id hid)
  have hp := (mem_cached_filterByPath hsync).mp
    (List.mem_map.mpr ⟨c, List.mem_filterMap.mpr ⟨id, hid, hc⟩, rfl⟩)
  rw [hnil] at hp
  cases hp

theorem mem_cached_candidates :
    p ∈ (cache.cached (cache.candidates group model requestPath)).map Channel.getPriority ↔
      p ∈ priorities (offered channels group model requestPath) := by
  unfold ChannelCache.candidates offered
  by_cases hnil : onPath (serving channels group model) requestPath model = []
  · rw [if_pos hnil, if_pos ((filterByPath_eq_nil_iff hsync).mpr hnil)]
    exact mem_cached_filterByPath hsync
  · rw [if_neg hnil, if_neg (mt (filterByPath_eq_nil_iff hsync).mp hnil)]
    exact mem_cached_filterByPath hsync

theorem selectedLevel_cached (rand : Rand) :
    selectedLevel (cache.getRandomSatisfiedChannel group model retry requestPath rand) =
      level (priorities (offered channels group model requestPath)) retry := by
  rw [← level_congr (fun p => mem_cached_candidates hsync) retry]
  obtain ⟨hnil, hselect⟩ | ⟨c, -, hselect, hlevel⟩ :=
    cache.getRandomSatisfiedChannel_spec group model retry requestPath rand
  · rw [hselect, hnil]
    rfl
  · rw [hselect, hlevel]
    rfl

end

end Synced

end Agreement

/-- When the two selections agree: the wildcard name adds nothing, and the path filter leaves the
level of the retry where it is. -/
structure PathKeepsLevel [Regexp] (channels : Table Channel) (group model requestPath : String)
    (retry : Nat) : Prop where
  noWildcard : onPath (serving channels group model) requestPath model = [] →
    onPath (serving channels group (formatMatchingModelName model)) requestPath model = []
  sameLevel : onPath (serving channels group model) requestPath model ≠ [] →
    level (priorities (withAbility channels group model)) retry =
      level (priorities (onPath (serving channels group model) requestPath model)) retry
  onLevel : onPath (serving channels group model) requestPath model ≠ [] →
    ∃ c ∈ onPath (withAbility channels group model) requestPath model,
      level (priorities (withAbility channels group model)) retry = some c.getPriority

section Iff

variable [Regexp] {channels : Table Channel} {group model requestPath : String} {retry : Nat}

theorem onPath_withAbility_subset : onPath (withAbility channels group model) requestPath model ⊆
      onPath (serving channels group model) requestPath model := by
  intro c hc
  obtain ⟨hc, hpath⟩ := List.mem_filter.mp hc
  exact List.mem_filter.mpr ⟨withAbility_subset hc, hpath⟩

theorem agrees_of_nil (hnil : onPath (serving channels group model) requestPath model = [])
    (rand : Rand) :
    level (priorities (offered channels group model requestPath)) retry = selectedLevel
          (getChannel channels (abilitiesOf channels) group model retry requestPath rand) ↔
      PathKeepsLevel channels group model requestPath retry := by
  have hnone : selectedLevel
      (getChannel channels (abilitiesOf channels) group model retry requestPath rand) = none := by
    rw [Option.eq_none_iff_forall_ne_some]
    intro p hp
    obtain ⟨-, c, hc, -⟩ := (selectedLevel_getChannel rand p).mp hp
    have hmem := onPath_withAbility_subset hc
    rw [hnil] at hmem
    cases hmem
  rw [hnone, level_eq_none_iff, offered, if_pos hnil, priorities, List.map_eq_nil_iff]
  constructor
  · intro hwildcard
    exact ⟨fun _ => hwildcard, fun hne => absurd hnil hne, fun hne => absurd hnil hne⟩
  · intro h
    exact h.noWildcard hnil

theorem agrees_of_ne_nil (hne : onPath (serving channels group model) requestPath model ≠ [])
    (rand : Rand) :
    level (priorities (offered channels group model requestPath)) retry = selectedLevel
          (getChannel channels (abilitiesOf channels) group model retry requestPath rand) ↔
      PathKeepsLevel channels group model requestPath retry := by
  rw [offered, if_neg hne]
  cases hlevel : level (priorities (onPath (serving channels group model) requestPath model)) retry
    with
  | none => exact absurd (List.map_eq_nil_iff.mp (level_eq_none_iff.mp hlevel)) hne
  | some p =>
    rw [eq_comm, selectedLevel_getChannel]
    constructor
    · rintro ⟨hsame, c, hc, hp⟩
      refine ⟨fun hnil => absurd hnil hne, fun _ => hsame.trans hlevel.symm, fun _ => ?_⟩
      exact ⟨c, hc, by rw [hsame, hp]⟩
    intro h
    have hsame := (h.sameLevel hne).trans hlevel
    obtain ⟨c, hc, hp⟩ := h.onLevel hne
    rw [hsame] at hp
    exact ⟨hsame, c, hc, (Option.some.inj hp).symm⟩

end Iff

/-- With a synchronised cache the two selections agree on finding a channel and on its priority
exactly where the path filter keeps the retry's level and the wildcard name adds nothing. -/
theorem selection_agrees_iff [Regexp] (old : ChannelCache) (channels : Table Channel)
    (group model requestPath : String) (retry : Nat) (rand rand' : Rand) :
    ∃ cache, old.sync channels.rows (abilitiesOf channels).rows = some cache ∧
      (selectedLevel (cache.getRandomSatisfiedChannel group model retry requestPath rand) =
          selectedLevel
            (getChannel channels (abilitiesOf channels) group model retry requestPath rand') ↔
        PathKeepsLevel channels group model requestPath retry) := by
  obtain ⟨cache, hsync⟩ := sync_abilitiesOf old channels
  refine ⟨cache, hsync, ?_⟩
  rw [selectedLevel_cached hsync]
  by_cases hnil : onPath (serving channels group model) requestPath model = []
  · exact agrees_of_nil hnil rand'
  · exact agrees_of_ne_nil hnil rand'

def routedChannels : Table Channel where
  rows := [
    { id := 1, type := channelTypeAdvancedCustom, models := "gpt-4o", priority := some 10,
      otherSettings := .decoded (some ⟨[⟨"/v1/responses", []⟩]⟩) },
    { id := 2, models := "gpt-4o" }]
  nodup := by decide

def firstRandom : Rand := ⟨fun _ => 0, fun h => h⟩

/-- For another path the cache selects the plain channel, and the database finds nothing. -/
theorem database_finds_nothing : ∃ (_ : Regexp) (cache : ChannelCache),
      ({} : ChannelCache).sync routedChannels.rows (abilitiesOf routedChannels).rows = some cache ∧
      selectedLevel (cache.getRandomSatisfiedChannel "default" "gpt-4o" 0 "/v1/chat/completions"
        firstRandom) = some 0 ∧
      selectedLevel (getChannel routedChannels (abilitiesOf routedChannels) "default" "gpt-4o" 0
        "/v1/chat/completions" firstRandom) = none := by
  obtain ⟨cache, hsync⟩ := sync_abilitiesOf {} routedChannels
  let noRegexp : Regexp := ⟨fun _ _ => false⟩
  refine ⟨noRegexp, cache, hsync, ?_, ?_⟩
  · rw [selectedLevel_cached hsync]
    decide +kernel
  · decide +kernel

end ZModel.Channels
