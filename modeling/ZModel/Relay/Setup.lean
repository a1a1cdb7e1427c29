import ZModel.Channels.Channel

/-!
# The context of an attempt

`SetupContextForSelectedChannel` writes the selected channel into the context of the request, and
`InitChannelMeta` reads it from there. Some values are written for some channels only, so that those
of an earlier channel stay.
-/

namespace ZModel.Relay.Setup

open Channels Lib

inductive KeyError where
  | noKeysAvailable
  | noEnabledKeys
  | channelInfo (message : String)

/-- The draw of `rand.Intn`, and what `CacheGetChannelInfo` returns as the polling position. -/
structure KeyEnv where
  draw : Nat := 0
  pollingIndex : Except String Int := .ok 0

def enabledIdx (c : Channel) : List Nat :=
  (List.range c.getKeys.length).filter fun i => c.channelInfo.keyStatus i = .enabled

def pollStart (c : Channel) (position : Int) : Nat :=
  if position < 0 ∨ (c.getKeys.length : Int) ≤ position then 0 else position.toNat

def pollFrom (c : Channel) (position : Int) : Option Nat :=
  let n := c.getKeys.length
  ((List.range n).map fun i => (pollStart c position + i) % n).find? fun i =>
    c.channelInfo.keyStatus i = .enabled

def getNextEnabledKey (c : Channel) (env : KeyEnv) : Except KeyError (String × Nat) :=
  if c.channelInfo.isMultiKey = false then .ok (c.key, 0)
  else if c.getKeys = [] then .error .noKeysAvailable
  else
    match enabledIdx c with
    | [] => .error .noEnabledKeys
    | first :: rest =>
      match c.channelInfo.multiKeyMode with
      | some .random => pick ((first :: rest).getD (env.draw % (first :: rest).length) first)
      | some .polling =>
        match env.pollingIndex with
        | .error message => .error (.channelInfo message)
        | .ok position => pick ((pollFrom c position).getD first)
      | none => pick first
where
  pick (i : Nat) := .ok (c.getKeys.getD i "", i)

def IsEnabledKey (c : Channel) (key : String) : Prop :=
  ∃ i, c.getKeys[i]? = some key ∧ c.channelInfo.keyStatus i = .enabled

variable {c : Channel} {i : Nat}

theorem mem_enabledIdx :
    i ∈ enabledIdx c ↔ i < c.getKeys.length ∧ c.channelInfo.keyStatus i = .enabled := by
  simp only [enabledIdx, List.mem_filter, List.mem_range, decide_eq_true_eq]

theorem pollFrom_mem {position : Int} (h : pollFrom c position = some i) : i ∈ enabledIdx c := by
  have hmem := List.mem_of_find?_eq_some h
  have henabled := List.find?_some h
  obtain ⟨j, hj, rfl⟩ := List.mem_map.mp hmem
  refine mem_enabledIdx.mpr ⟨Nat.mod_lt _ ?_, of_decide_eq_true henabled⟩
  exact Nat.zero_lt_of_lt (List.mem_range.mp hj)

theorem isEnabledKey_pick {i j : Nat} {key : String} (hi : i ∈ enabledIdx c)
    (h : getNextEnabledKey.pick c i = .ok (key, j)) : IsEnabledKey c key := by
  obtain ⟨hlt, henabled⟩ := mem_enabledIdx.mp hi
  cases h
  refine ⟨i, ?_, henabled⟩
  simp only [List.getD_eq_getElem?_getD, List.getElem?_eq_getElem hlt, Option.getD_some]

section Chosen

variable {c : Channel} {env : KeyEnv} {key : String} {i : Nat}

theorem isEnabledKey_of_next (hmulti : c.channelInfo.isMultiKey = true)
    (h : getNextEnabledKey c env = .ok (key, i)) : IsEnabledKey c key := by
  unfold getNextEnabledKey at h
  rw [hmulti, if_neg (by decide)] at h
  split at h
  · cases h
  split at h
  · cases h
  rename_i first rest hidx
  have hfirst : first ∈ enabledIdx c := hidx ▸ (.head _)
  split at h
  · refine isEnabledKey_pick ?_ h
    have hlt := Nat.mod_lt env.draw (List.length_pos_of_mem (hidx ▸ hfirst))
    rw [hidx, List.getD_eq_getElem?_getD, List.getElem?_eq_getElem hlt]
    exact List.getElem_mem hlt
  · split at h
    · cases h
    · refine isEnabledKey_pick ?_ h
      rename_i position _
      cases hpoll : pollFrom c position with
      | none => exact hfirst
      | some j => exact pollFrom_mem hpoll
  · exact isEnabledKey_pick hfirst h

/-- A key is found unless none is enabled or the polling position cannot be read. -/
def Offers (c : Channel) (env : KeyEnv) : Prop :=
  (∃ key, IsEnabledKey c key) ∧
    (c.channelInfo.multiKeyMode = some .polling → ∃ position, env.pollingIndex = .ok position)

theorem next_of_offers (h : Offers c env) : ∃ r, getNextEnabledKey c env = .ok r := by
  obtain ⟨⟨key, i, hkey, henabled⟩, hpolling⟩ := h
  have hi : i < c.getKeys.length := (List.getElem?_eq_some_iff.mp hkey).1
  have hmem : i ∈ enabledIdx c := mem_enabledIdx.mpr ⟨hi, henabled⟩
  unfold getNextEnabledKey
  split
  · exact ⟨_, rfl⟩
  split
  next hnone =>
    rw [hnone] at hi
    cases hi
  split
  next hnone =>
    rw [hnone] at hmem
    cases hmem
  split
  · exact ⟨_, rfl⟩
  next hmode =>
    obtain ⟨position, hposition⟩ := hpolling hmode
    rw [hposition]
    exact ⟨_, rfl⟩
  · exact ⟨_, rfl⟩

theorem offers_of_next (hmulti : c.channelInfo.isMultiKey = true)
    (h : getNextEnabledKey c env = .ok (key, i)) : Offers c env := by
  refine ⟨⟨key, isEnabledKey_of_next hmulti h⟩, fun hmode => ?_⟩
  unfold getNextEnabledKey at h
  rw [hmulti, if_neg (by decide), hmode] at h
  cases hposition : env.pollingIndex with
  | ok position => exact ⟨position, rfl⟩
  | error message =>
    rw [hposition] at h
    split at h
    · cases h
    · split at h <;> cases h

end Chosen

/-- A map of headers, the entry that is walked last first: of two that are written under one name,
it stays. -/
abbrev Headers := List (String × String)

def asMap (headers : Headers) (name : String) : Option String := headers.lookup name

/-- What an attempt meets besides its channel: the key, and for the override program the body, the
number of the retry and the last error. Not every handler applies the program. -/
structure Env where
  key : KeyEnv := {}
  body : String := ""
  retryIndex : Nat := 0
  lastError : Option String := none
  appliesOverride : Bool := true

/-- The parameter override of a channel, by what it makes of the header override; `none` is an
error. Besides it may read the request and what the attempt meets. -/
abbrev Override := Env → (String → Option String) → Option Headers

structure Request where
  originalModel : String := ""
  apiVersion : String := ""
  affinityTemplate : Option Override → Option Override := id

structure SelectedChannel where
  row : Channel
  createdTime : Int := 0
  setting : String := ""
  otherSettings : String := ""
  paramOverride : Option Override := none
  headerOverride : Headers := []
  organization : String := ""
  baseURL : String := ""
  other : String := ""

structure Context where
  channelId : Nat := 0
  channelType : Nat := 0
  createTime : Int := 0
  setting : String := ""
  otherSettings : String := ""
  paramOverride : Option Override := none
  headerOverride : Headers := []
  organization : String := ""
  isMultiKey : Bool := false
  multiKeyIndex : Nat := 0
  key : String := ""
  baseURL : String := ""
  apiVersion : String := ""
  region : String := ""

def azure : Nat := 3

def vertexAi : Nat := 41

def setsVersion (channelType : Nat) : Bool := channelType ∈ [azure, 18, 24, 39, 44]

def setOther (ctx : Context) (c : SelectedChannel) : Context :=
  { ctx with
    apiVersion := if setsVersion c.row.type then c.other else ctx.apiVersion
    region := if c.row.type = vertexAi then c.other else ctx.region }

def setRow (req : Request) (ctx : Context) (c : SelectedChannel) : Context :=
  { ctx with
    channelId := c.row.id
    channelType := c.row.type
    createTime := c.createdTime
    setting := c.setting
    otherSettings := c.otherSettings
    paramOverride := req.affinityTemplate c.paramOverride
    headerOverride := c.headerOverride
    organization := if c.organization ≠ "" then c.organization else ctx.organization }

def setKey (ctx : Context) (c : SelectedChannel) (key : String) (index : Nat) : Context :=
  { ctx with
    isMultiKey := c.row.channelInfo.isMultiKey
    multiKeyIndex := if c.row.channelInfo.isMultiKey then index else ctx.multiKeyIndex
    key := key
    baseURL := c.baseURL }

def setupContext (req : Request) (ctx : Context) (c : SelectedChannel) (env : KeyEnv) :
    Context × Option KeyError :=
  let ctx := setRow req ctx c
  match getNextEnabledKey c.row env with
  | .error e => (ctx, some e)
  | .ok (key, index) => (setOther (setKey ctx c key index) c, none)

structure Selection where
  channel : Option SelectedChannel
  key : KeyEnv := {}

structure Attempt where
  channel : SelectedChannel
  key : String

/-- `Distribute` goes on whether or not the channel could be set up. -/
def distribute (req : Request) (s : Selection) : Context :=
  match s.channel with
  | none => {}
  | some c => (setupContext req {} c s.key).1

/-- The attempts after the first: `getChannel`, and the setup of a locked channel. -/
def retries (req : Request) (ctx : Context) : List Selection → List Attempt
  | [] => []
  | s :: rest =>
    match s.channel with
    | none => []
    | some c =>
      match setupContext req ctx c s.key with
      | (_, some _) => []
      | (ctx, none) => ⟨c, ctx.key⟩ :: retries req ctx rest

/-- How a request comes to its first attempt: with the channel of the distributor, with the other
channel of an origin task (`ResolveOriginTask`), or, in the image worker, like a retry. -/
inductive Start where
  | distributed (s : Selection)
  | origin (s : Selection) (c : SelectedChannel) (env : KeyEnv)
  | worker

def Start.first (req : Request) : Start → Option (Context × List Attempt)
  | .distributed s =>
    s.channel.map fun c => (distribute req s, [⟨c, (distribute req s).key⟩])
  | .origin s c env =>
    match getNextEnabledKey c.row env with
    | .error _ => none
    | .ok (key, _) =>
      let ctx := { distribute req s with
        key, channelType := c.row.type, baseURL := c.baseURL, channelId := c.row.id }
      some (ctx, [⟨c, key⟩])
  | .worker => some ({}, [])

/-- The attempts that are handed to an adaptor, which may still fail before it sends. -/
def attempts (req : Request) (start : Start) (selections : List Selection) : List Attempt :=
  match start.first req with
  | none => []
  | some (ctx, first) => first ++ retries req ctx selections

def Attempt.UsesEnabledKey (a : Attempt) : Prop :=
  a.channel.row.channelInfo.isMultiKey = true → IsEnabledKey a.channel.row a.key

def Start.Served : Start → Prop
  | .distributed s => ∀ c, s.channel = some c → c.row.channelInfo.isMultiKey = true →
    Offers c.row s.key ∨ IsEnabledKey c.row ""
  | _ => True

section Equations

variable {req : Request} {c : SelectedChannel} {env : KeyEnv}

theorem setupContext_of_ok (ctx : Context) {key : String} {i : Nat}
    (h : getNextEnabledKey c.row env = .ok (key, i)) :
    setupContext req ctx c env = (setOther (setKey (setRow req ctx c) c key i) c, none) := by
  simp only [setupContext, h]

theorem setupContext_of_error (ctx : Context) {e : KeyError}
    (h : getNextEnabledKey c.row env = .error e) :
    setupContext req ctx c env = (setRow req ctx c, some e) := by
  simp only [setupContext, h]

end Equations

variable {c : SelectedChannel}

theorem retry_key {req : Request} {ctx ctx' : Context} {env : KeyEnv}
    (h : setupContext req ctx c env = (ctx', none)) :
    ∃ i, getNextEnabledKey c.row env = .ok (ctx'.key, i) := by
  cases hkey : getNextEnabledKey c.row env with
  | error e =>
    rw [setupContext_of_error ctx hkey] at h
    cases h
  | ok r =>
    rw [setupContext_of_ok ctx hkey] at h
    cases h
    exact ⟨r.2, rfl⟩

theorem retries_enabled (req : Request) (ctx : Context) (selections : List Selection) :
    ∀ a ∈ retries req ctx selections, a.UsesEnabledKey := by
  induction selections generalizing ctx with
  | nil => exact fun a ha => nomatch ha
  | cons s rest ih =>
    intro a ha
    unfold retries at ha
    split at ha
    · cases ha
    split at ha
    · cases ha
    rename_i ctx' hsetup
    obtain rfl | ha := List.mem_cons.mp ha
    · intro hmulti
      obtain ⟨i, hi⟩ := retry_key hsetup
      exact isEnabledKey_of_next hmulti hi
    · exact ih ctx' a ha

theorem distribute_key (req : Request) {s : Selection} (hc : s.channel = some c) :
    (∃ i, getNextEnabledKey c.row s.key = .ok ((distribute req s).key, i)) ∨
      (∃ e, getNextEnabledKey c.row s.key = .error e) ∧ (distribute req s).key = "" := by
  unfold distribute
  rw [hc]
  dsimp only
  cases hkey : getNextEnabledKey c.row s.key with
  | error e =>
    rw [setupContext_of_error {} hkey]
    exact .inr ⟨⟨e, rfl⟩, rfl⟩
  | ok r =>
    rw [setupContext_of_ok {} hkey]
    exact .inl ⟨r.2, rfl⟩

/-- The key of the first attempt is an enabled one exactly if the distributor found one, or the text
that is left without a key is one. -/
theorem distributed_enabled_iff (req : Request) {s : Selection}
    (hc : s.channel = some c) (hmulti : c.row.channelInfo.isMultiKey = true) :
    IsEnabledKey c.row (distribute req s).key ↔ Offers c.row s.key ∨ IsEnabledKey c.row "" := by
  obtain ⟨i, hi⟩ | ⟨⟨e, herror⟩, hkey⟩ := distribute_key req hc
  · exact iff_of_true (isEnabledKey_of_next hmulti hi) (.inl (offers_of_next hmulti hi))
  rw [hkey]
  refine ⟨.inr, fun h => h.resolve_left fun hoffers => ?_⟩
  obtain ⟨r, hr⟩ := next_of_offers hoffers
  rw [herror] at hr
  cases hr

/-- For all channels met and all retries: every attempt through a multi-key channel uses a key
enabled at its selection, and there is none without one, exactly if the distributor's channel offers
a key. -/
theorem attempts_use_enabled_keys_iff (req : Request) (start : Start)
    (selections : List Selection) :
    (∀ a ∈ attempts req start selections, a.UsesEnabledKey) ↔ start.Served := by
  unfold attempts
  cases start with
  | distributed s =>
    obtain ⟨channel, env⟩ := s
    cases channel with
    | none => exact iff_of_true (fun a ha => nomatch ha) fun c hc => nomatch hc
    | some c =>
      have hfirst := distributed_enabled_iff req (s := ⟨some c, env⟩) rfl
      constructor
      · rintro h c' hc' hmulti
        cases hc'
        exact (hfirst hmulti).mp (h _ (.head _) hmulti)
      intro h a ha
      obtain rfl | ha := List.mem_cons.mp ha
      · exact fun hmulti => (hfirst hmulti).mpr (h c rfl hmulti)
      · exact retries_enabled _ _ _ a ha
  | origin s c env =>
    refine iff_of_true (fun a ha => ?_) trivial
    simp only [Start.first] at ha
    split at ha
    · cases ha
    rename_i ctx first hfirst
    split at hfirst
    · cases hfirst
    rename_i key i hkey
    cases hfirst
    obtain rfl | ha := List.mem_cons.mp ha
    · exact fun hmulti => isEnabledKey_of_next hmulti hkey
    · exact retries_enabled _ _ _ a ha
  | worker => exact iff_of_true (fun a ha => retries_enabled _ _ _ a ha) trivial

def disabledKey : SelectedChannel where
  row := { id := 1, models := "m", key := "k", channelInfo :=
    { isMultiKey := true, multiKeyStatusList := fun _ => some .autoDisabled } }

/-- No key is enabled, and the request is sent with the empty key. -/
theorem sent_without_enabled_key : (∀ key, ¬IsEnabledKey disabledKey.row key) ∧
      (attempts {} (.distributed ⟨some disabledKey, {}⟩) []).map Attempt.key = [""] := by
  refine ⟨?_, by decide +kernel⟩
  rintro key ⟨i, -, hi⟩
  cases hi

structure ChannelMeta where
  channelType : Nat
  channelId : Nat
  channelIsMultiKey : Bool
  channelMultiKeyIndex : Nat
  channelBaseUrl : String
  apiVersion : String
  apiKey : String
  organization : String
  channelCreateTime : Int
  paramOverride : Option Override
  headersOverride : Headers
  upstreamModelName : String
  channelSetting : String
  channelOtherSettings : String

/-- `InitChannelMeta`: all is read from the context, also what an earlier channel left there. -/
def initChannelMeta (req : Request) (ctx : Context) : ChannelMeta where
  channelType := ctx.channelType
  channelId := ctx.channelId
  channelIsMultiKey := ctx.isMultiKey
  channelMultiKeyIndex := ctx.multiKeyIndex
  channelBaseUrl := ctx.baseURL
  apiVersion :=
    if ctx.channelType = azure then
      if req.apiVersion = "" then ctx.apiVersion else req.apiVersion
    else if ctx.channelType = vertexAi then ctx.region
    else ctx.apiVersion
  apiKey := ctx.key
  organization := ctx.organization
  channelCreateTime := ctx.createTime
  paramOverride := ctx.paramOverride
  headersOverride := ctx.headerOverride
  upstreamModelName := req.originalModel
  channelSetting := ctx.setting
  channelOtherSettings := ctx.otherSettings

def isHeaderPassthroughRuleKey (key : String) : Bool :=
  key = "*" || hasPrefix "re:" key || hasPrefix "regex:" key

def sanitizeEntry (entry : String × String) : Option (String × String) :=
  let key := trimSpace (lower entry.1)
  let value := trimSpace entry.2
  if key = "" ∨ value = "" ∧ isHeaderPassthroughRuleKey key = false then none
  else some (key, value)

def sanitizeHeaderOverrideMap (source : Headers) : Headers := source.filterMap sanitizeEntry

theorem sanitizeEntry_idem {entry clean : String × String} (h : sanitizeEntry entry = some clean) :
    sanitizeEntry clean = some clean := by
  unfold sanitizeEntry at h
  dsimp only at h
  split at h
  · cases h
  next hkept =>
    obtain rfl := Option.some.inj h
    simp only [sanitizeEntry, trimSpace_lower, lower_lower, trimSpace_trimSpace]
    rw [trimSpace_lower] at hkept
    exact if_neg hkept

theorem sanitize_sanitize (source : Headers) :
    sanitizeHeaderOverrideMap (sanitizeHeaderOverrideMap source) =
      sanitizeHeaderOverrideMap source := by
  refine (List.filterMap_congr fun clean hclean => ?_).trans List.filterMap_some
  obtain ⟨entry, -, hentry⟩ := List.mem_filterMap.mp hclean
  exact sanitizeEntry_idem hentry

/-- What a request carries from one attempt to the next: its context, and the runtime header
override of its `RelayInfo` once that is in use. -/
structure Carried where
  context : Context := {}
  runtimeHeadersOverride : Option Headers := none

def getEffectiveHeaderOverride (runtime : Option Headers) (channel : Headers) : Headers :=
  sanitizeHeaderOverrideMap (runtime.getD channel)

/-- `ApplyParamOverrideWithRelayInfo` with `syncRuntimeHeaderOverrideFromContext`: the runtime
header override after it, or `none` if the program fails. -/
def applyParamOverride (program : Option Override) (e : Env) (runtime : Option Headers)
    (channel : Headers) : Option (Option Headers) :=
  match if e.appliesOverride then program else none with
  | none => some runtime
  | some program =>
    (program e (asMap (sanitizeHeaderOverrideMap (getEffectiveHeaderOverride runtime channel)))).map
      fun headers => some (sanitizeHeaderOverrideMap headers)

structure Used where
  channelMeta : ChannelMeta
  headers : Option (String → Option String)

def effectiveHeaders (program : Option Override) (e : Env) (runtime : Option Headers)
    (channel : Headers) : Option (String → Option String) :=
  (applyParamOverride program e runtime channel).map fun runtime =>
    asMap (getEffectiveHeaderOverride runtime channel)

def proceed (req : Request) (ctx : Context) (runtime : Option Headers) (e : Env) : Carried × Used :=
  ({ context := ctx
     runtimeHeadersOverride :=
      (applyParamOverride ctx.paramOverride e runtime ctx.headerOverride).getD runtime },
    { channelMeta := initChannelMeta req ctx
      headers := effectiveHeaders ctx.paramOverride e runtime ctx.headerOverride })

def attempt (req : Request) (s : Carried) (c : SelectedChannel) (e : Env) : Carried × Option Used :=
  match setupContext req s.context c e.key with
  | (ctx, some _) => ({ s with context := ctx }, none)
  | (ctx, none) => (proceed req ctx s.runtimeHeadersOverride e).map id some

def carriedAfter (req : Request) : List (SelectedChannel × Env) → Carried
  | [] => {}
  | first :: rest =>
    rest.foldl (fun s later => (attempt req s later.1 later.2).1)
      (proceed req (setupContext req {} first.1 first.2.key).1 none first.2).1

/-- What is carried does not reach the attempt: the channel sets the position of its key, the API
version and the organization, or finds none, and finds no runtime header override or one that is the
same map as its own headers. -/
structure Unaffected (s : Carried) (c : SelectedChannel) : Prop where
  multiKeyIndex : c.row.channelInfo.isMultiKey = true ∨ s.context.multiKeyIndex = 0
  apiVersion : setsVersion c.row.type = true ∨ c.row.type = vertexAi ∨ s.context.apiVersion = ""
  organization : c.organization ≠ "" ∨ s.context.organization = ""
  headers : ∀ left, s.runtimeHeadersOverride = some left →
    asMap (sanitizeHeaderOverrideMap left) = asMap (sanitizeHeaderOverrideMap c.headerOverride)

/-- The channel writes nothing that a later one does not overwrite. -/
structure LeavesNothing (req : Request) (c : SelectedChannel) : Prop where
  isMultiKey : c.row.channelInfo.isMultiKey = false
  version : setsVersion c.row.type = false
  organization : c.organization = ""
  program : req.affinityTemplate c.paramOverride = none

/-- Nothing is carried that an attempt could read. -/
def Untouched (s : Carried) : Prop :=
  s.context.multiKeyIndex = 0 ∧ s.context.apiVersion = "" ∧ s.context.organization = "" ∧
    s.runtimeHeadersOverride = none

theorem ite_eq_ite_iff {α : Type} {p : Prop} [Decidable p] {a b b' : α} :
    ((if p then a else b) = if p then a else b') ↔ p ∨ b = b' := by
  by_cases hp : p
  · simp only [hp, if_true, true_or]
  · simp only [hp, if_false, false_or]

theorem meta_eq_iff {req : Request} {ctx : Context} {key : String} :
    initChannelMeta req (setOther (setKey (setRow req ctx c) c key i) c) =
        initChannelMeta req (setOther (setKey (setRow req {} c) c key i) c) ↔
      (c.row.channelInfo.isMultiKey = true ∨ ctx.multiKeyIndex = 0) ∧
        (setsVersion c.row.type = true ∨ c.row.type = vertexAi ∨ ctx.apiVersion = "") ∧
        (c.organization ≠ "" ∨ ctx.organization = "") := by
  simp only [initChannelMeta, setOther, setKey, setRow, ChannelMeta.mk.injEq, true_and, and_true,
    ite_eq_ite_iff]
  refine and_congr_right' (and_congr_left' ?_)
  by_cases hversion : setsVersion c.row.type = true
  · simp only [hversion, true_or, iff_true]
    split
    · rfl
    · split <;> rfl
  have hazure : c.row.type ≠ azure := fun h => hversion (h ▸ rfl)
  by_cases hvertex : c.row.type = vertexAi
  · simp only [if_neg hazure, if_pos hvertex]
    exact iff_of_true trivial (.inr (.inl hvertex))
  · simp only [hversion, hazure, hvertex, if_false, false_or, Bool.false_eq_true]

/-- A program sees the same map, whether it is sanitized once more or not. -/
theorem effectiveHeaders_congr {left : Headers} (program : Option Override) (e : Env)
    (h : asMap (sanitizeHeaderOverrideMap left) =
      asMap (sanitizeHeaderOverrideMap c.headerOverride)) :
    effectiveHeaders program e (some left) c.headerOverride =
      effectiveHeaders program e none c.headerOverride := by
  unfold effectiveHeaders applyParamOverride
  cases if e.appliesOverride then program else none with
  | none => exact congrArg some h
  | some program =>
    simp only [getEffectiveHeaderOverride, Option.getD_some, Option.getD_none, sanitize_sanitize, h,
      Option.map_map]

section Untouched

variable {req : Request} {s : Carried} {e : Env}

theorem proceed_untouched (hc : LeavesNothing req c) (hs : Untouched s) (env : KeyEnv) :
    Untouched (proceed req (setupContext req s.context c env).1 s.runtimeHeadersOverride e).1 := by
  obtain ⟨hindex, hversion, horganization, hruntime⟩ := hs
  have happly : applyParamOverride none e none c.headerOverride = some none := by
    simp [applyParamOverride]
  cases hkey : getNextEnabledKey c.row env with
  | error error =>
    simp [Untouched, proceed, setupContext_of_error _ hkey, setRow, hc.organization, hc.program,
      happly, hindex, hversion, horganization, hruntime]
  | ok r =>
    simp [Untouched, proceed, setupContext_of_ok _ hkey, setOther, setKey, setRow, hc.isMultiKey,
      hc.version, hc.organization, hc.program, happly, hindex, hversion, horganization, hruntime]

/-- An attempt through a channel that leaves nothing keeps what is carried untouched. -/
theorem attempt_untouched (hc : LeavesNothing req c) (hs : Untouched s) :
    Untouched (attempt req s c e).1 := by
  have hproceed := proceed_untouched (e := e) hc hs e.key
  cases hkey : getNextEnabledKey c.row e.key with
  | error error =>
    obtain ⟨hindex, hversion, horganization, hruntime⟩ := hs
    simp [attempt, setupContext_of_error _ hkey, Untouched, setRow, hc.organization, hindex,
      hversion, horganization, hruntime]
  | ok r => simpa [attempt, setupContext_of_ok _ hkey] using hproceed

theorem carriedAfter_untouched {earlier : List (SelectedChannel × Env)}
    (h : ∀ a ∈ earlier, LeavesNothing req a.1) : Untouched (carriedAfter req earlier) := by
  have hnew : Untouched {} := ⟨rfl, rfl, rfl, rfl⟩
  cases earlier with
  | nil => exact hnew
  | cons first rest =>
    exact List.foldlRecOn rest _ (proceed_untouched (h first (.head _)) hnew first.2.key)
      fun s hs later hlater => attempt_untouched (h later (.tail _ hlater)) hs

end Untouched

/-- After any attempts, and for every override program, the metadata and effective header override
of the next one are those of its channel alone exactly if the channel has no key to offer or is not
affected by what the attempts left. Nothing affects it if the earlier channels leave nothing. -/
theorem attempt_independent_iff (req : Request) (earlier : List (SelectedChannel × Env))
    (c : SelectedChannel) (e : Env) :
    ((∀ template, let req' := { req with affinityTemplate := template }
      (attempt req' (carriedAfter req earlier) c e).2 = (attempt req' {} c e).2) ↔
        (∃ error, getNextEnabledKey c.row e.key = .error error) ∨
          Unaffected (carriedAfter req earlier) c) ∧
    ((∀ a ∈ earlier, LeavesNothing req a.1) → Unaffected (carriedAfter req earlier) c) := by
  refine ⟨?_, fun h => ?_⟩
  · generalize carriedAfter req earlier = s
    cases hkey : getNextEnabledKey c.row e.key with
    | error error =>
      refine iff_of_true (fun template => ?_) (.inl ⟨error, rfl⟩)
      simp only [attempt, setupContext_of_error _ hkey]
    | ok r =>
      have hno : ¬∃ error, Except.ok r = Except.error (ε := KeyError) error := nofun
      simp only [attempt, setupContext_of_ok _ hkey, proceed, Prod.map, Option.some.injEq,
        Used.mk.injEq, meta_eq_iff]
      rw [or_iff_right hno]
      constructor
      · intro h
        obtain ⟨⟨hindex, hversion, horganization⟩, hheaders⟩ := h fun _ => none
        refine ⟨hindex, hversion, horganization, fun left hleft => ?_⟩
        -- Without a program the headers are those of the carried map.
        rw [hleft] at hheaders
        change effectiveHeaders none e (some left) c.headerOverride =
          effectiveHeaders none e none c.headerOverride at hheaders
        simpa [effectiveHeaders, applyParamOverride, getEffectiveHeaderOverride] using hheaders
      · rintro ⟨hindex, hversion, horganization, hheaders⟩ template
        refine ⟨⟨hindex, hversion, horganization⟩, ?_⟩
        cases hleft : s.runtimeHeadersOverride with
        | none => rfl
        | some left => exact effectiveHeaders_congr _ e (hheaders left hleft)
  · obtain ⟨hindex, hversion, horganization, hruntime⟩ := carriedAfter_untouched h
    refine ⟨.inr hindex, .inr (.inr hversion), .inr horganization, fun left hleft => ?_⟩
    rw [hruntime] at hleft
    cases hleft

def withSecrets : SelectedChannel where
  row := { id := 1, models := "m", key := "a" }
  organization := "org"
  paramOverride := some fun _ _ => some [("x-secret", "s")]

def plainChannel : SelectedChannel where
  row := { id := 2, models := "m", key := "b" }

/-- The second channel is sent the organization and the header of the first. -/
theorem later_attempt_gets_secrets :
    (attempt {} (carriedAfter {} [(withSecrets, {})]) plainChannel {}).2.map (fun u =>
      (u.channelMeta.organization, u.headers.bind fun headers => headers "x-secret")) =
        some ("org", some "s") ∧
    (attempt {} {} plainChannel {}).2.map (fun u =>
      (u.channelMeta.organization, u.headers.bind fun headers => headers "x-secret")) =
        some ("", none) := by
  decide +kernel

end ZModel.Relay.Setup
