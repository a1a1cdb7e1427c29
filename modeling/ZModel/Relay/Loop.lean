import Mathlib.Data.List.Basic
import Mathlib.Tactic.Ring

/-!
# The relay loop

The retries of `Relay` in `controller/relay.go`. The loop goes through the ranks of the attempts
upwards (`relayLoop_ranks`); a channel taken by affinity is outside this order.
-/

namespace ZModel.Relay

variable {first fuel g : Nat}

structure RelayConfig where
  retryTimes : Int
  tokenGroup : String
  autoGroups : List String := []
  crossGroupRetry : Bool := false
  skipRetryAfterAffinityFailure : Bool := false
  specificChannel : Bool := false
  shouldRetryByStatusCode : Int → Bool := fun code => decide (500 ≤ code)

structure RelayError where
  isChannelError : Bool := false
  isSkipRetryError : Bool := false
  statusCode : Int := 500
  isAlwaysSkipRetryCode : Bool := false

def shouldRetry (cfg : RelayConfig) (e : RelayError) (retryTimes : Int) : Bool :=
  if cfg.skipRetryAfterAffinityFailure then false
  else if e.isChannelError then true
  else if e.isSkipRetryError then false
  else if retryTimes ≤ 0 then false
  else if cfg.specificChannel then false
  else if 200 ≤ e.statusCode ∧ e.statusCode < 300 then false
  else if e.statusCode < 100 ∨ 599 < e.statusCode then true
  else if e.isAlwaysSkipRetryCode then false
  else cfg.shouldRetryByStatusCode e.statusCode

structure RetryState where
  retry : Nat := 0
  resetNextTry : Bool := false
  autoGroupIndex : Option Nat := none

def RetryState.increaseRetry (s : RetryState) : RetryState :=
  if s.resetNextTry then { s with resetNextTry := false } else { s with retry := s.retry + 1 }

structure Attempt (α : Type) where
  group : Nat
  priorityRetry : Nat
  channel : α

variable {α : Type}

section

variable (cfg : RelayConfig)

def RetryState.found (s : RetryState) (i : Nat) : RetryState :=
  if cfg.crossGroupRetry = true ∧ cfg.retryTimes ≤ s.retry then
    { retry := 0, resetNextTry := true, autoGroupIndex := some (i + 1) }
  else { s with autoGroupIndex := some i }

def selectAuto (cfg : RelayConfig) (get : String → Nat → Option α) :
    Nat → List String → RetryState → Option (Attempt α) × RetryState
  | _, [], s => (none, s)
  | i, autoGroup :: groups, s =>
    match get autoGroup s.retry with
    | none =>
      -- the next group starts with its first priority
      selectAuto cfg get (i + 1) groups { s with retry := 0, autoGroupIndex := some (i + 1) }
    | some c => (some ⟨i, s.retry, c⟩, s.found cfg i)

def cacheGetRandomSatisfiedChannel (get : String → Nat → Option α)
    (s : RetryState) : Option (Attempt α) × RetryState :=
  if cfg.tokenGroup = "auto" then
    let startGroupIndex := s.autoGroupIndex.getD 0
    selectAuto cfg get startGroupIndex (cfg.autoGroups.drop startGroupIndex) s
  else ((get cfg.tokenGroup s.retry).map fun c => ⟨0, s.retry, c⟩, s)

structure Preferred (α : Type) where
  channel : α
  enabledFor : String → Bool

def Preferred.group (p : Preferred α) : Option Nat :=
  if cfg.tokenGroup = "auto" then cfg.autoGroups.findIdx? p.enabledFor
  else if p.enabledFor cfg.tokenGroup then some 0
  else none

/-- `Distribute` for a token without a specific channel. -/
def distribute (preferred : Option (Preferred α))
    (get : String → Nat → Option α) : Option (Attempt α × RetryState) :=
  match preferred.bind fun p => (p.group cfg).map fun g => (⟨g, 0, p.channel⟩ : Attempt α) with
  | some a => some (a, {})
  | none =>
    match cacheGetRandomSatisfiedChannel cfg get {} with
    | (none, _) => none
    | (some a, s) => some (a, { autoGroupIndex := s.autoGroupIndex })

structure Iteration (α : Type) where
  get : String → Nat → Option α
  setup : Bool := true
  body : Bool := true
  error : Option RelayError

def getChannel (it : Iteration α) (s : RetryState) :
    Option (Attempt α) → Option (Attempt α × RetryState)
  | some a => some (a, s)
  | none =>
    match cacheGetRandomSatisfiedChannel cfg it.get s with
    | (none, _) => none
    | (some a, s') => if it.setup then some (a, s') else none

def Iteration.retries (it : Iteration α) (s : RetryState) : Bool :=
  match it.error with
  | none => false
  | some e => shouldRetry cfg e (cfg.retryTimes - s.retry)

/-- The attempts from the `k`-th iteration on; `none` without enough fuel. -/
def relayLoop (cfg : RelayConfig) (env : Nat → Iteration α) :
    Nat → Nat → RetryState → Option (Attempt α) → Option (List (Attempt α))
  | 0, _, _, _ => none
  | fuel + 1, k, s, distributed =>
    if (s.retry : Int) ≤ cfg.retryTimes then
      match getChannel cfg (env k) s distributed with
      | none => some []
      | some (a, s') =>
        if (env k).body then
          if (env k).retries cfg s' then
            (relayLoop cfg env fuel (k + 1) s'.increaseRetry none).map (a :: ·)
          else some [a]
        else some []
    else some []

def relay (preferred : Option (Preferred α)) (get : String → Nat → Option α)
    (env : Nat → Iteration α) (fuel : Nat) : Option (List (Attempt α)) :=
  match distribute cfg preferred get with
  | none => some []
  | some (a, s) => relayLoop cfg env fuel 0 s (some a)

def RelayConfig.perGroup : Nat := (cfg.retryTimes + 1).toNat

def RelayConfig.groupCount : Nat :=
  if cfg.tokenGroup = "auto" then cfg.autoGroups.length else 1

def RetryState.group (s : RetryState) : Nat :=
  if cfg.tokenGroup = "auto" then s.autoGroupIndex.getD 0 else 0

def RetryState.rank (s : RetryState) : Nat :=
  s.group cfg * cfg.perGroup + s.retry

def Attempt.rank (a : Attempt α) : Nat :=
  a.group * cfg.perGroup + a.priorityRetry

structure Attempt.Valid (a : Attempt α) : Prop where
  group : a.group < cfg.groupCount
  retry : a.priorityRetry < cfg.perGroup

end

section Ranks

variable {cfg : RelayConfig} {get : String → Nat → Option α} {s s' : RetryState} {a : Attempt α}

theorem retry_le_iff {n : Nat} : (n : Int) ≤ cfg.retryTimes ↔ n < cfg.perGroup := by
  unfold RelayConfig.perGroup
  omega

theorem Attempt.Valid.rank_lt (h : a.Valid cfg) : a.rank cfg < (a.group + 1) * cfg.perGroup := by
  have := h.retry
  unfold Attempt.rank
  rw [Nat.succ_mul]
  omega

theorem Attempt.Valid.rank_lt_total (h : a.Valid cfg) :
    a.rank cfg < cfg.groupCount * cfg.perGroup :=
  h.rank_lt.trans_le (Nat.mul_le_mul_right _ h.group)

theorem selectAuto_spec {i : Nat} {groups : List String}
    (h : selectAuto cfg get i groups s = (some a, s')) :
    i ≤ a.group ∧ a.group < i + groups.length ∧
      (a.group = i ∧ a.priorityRetry = s.retry ∨ i < a.group ∧ a.priorityRetry = 0) ∧
      s' = RetryState.found cfg { s with retry := a.priorityRetry } a.group := by
  induction groups generalizing i s with
  | nil => cases h
  | cons g groups ih =>
    unfold selectAuto at h
    split at h
    · obtain ⟨hle, hlt, hretry, hs'⟩ := ih h
      dsimp only at hretry
      rw [List.length_cons]
      exact ⟨by omega, by omega, .inr (by omega), hs'⟩
    · cases h
      exact ⟨le_refl i, Nat.lt_add_of_pos_right (Nat.succ_pos _), .inl ⟨rfl, rfl⟩, rfl⟩

theorem RetryState.found_of_lt {i : Nat} (h : s.retry + 1 < cfg.perGroup) :
    s.found cfg i = { s with autoGroupIndex := some i } := by
  unfold RetryState.found
  rw [if_neg]
  unfold RelayConfig.perGroup at h
  omega

theorem select_rank (hreset : s.resetNextTry = false) (hretry : s.retry < cfg.perGroup)
    (h : cacheGetRandomSatisfiedChannel cfg get s = (some a, s')) :
    a.Valid cfg ∧ s.rank cfg ≤ a.rank cfg ∧ a.rank cfg < s'.increaseRetry.rank cfg ∧
      s'.increaseRetry.resetNextTry = false := by
  unfold cacheGetRandomSatisfiedChannel at h
  by_cases hauto : cfg.tokenGroup = "auto"
  · rw [if_pos hauto] at h
    obtain ⟨hle, hlt, hcases, hs'⟩ := selectAuto_spec h
    rw [List.length_drop] at hlt
    have hgroup : s.group cfg = s.autoGroupIndex.getD 0 := by rw [RetryState.group, if_pos hauto]
    have hvalid : a.Valid cfg := by
      refine ⟨?_, by omega⟩
      rw [RelayConfig.groupCount, if_pos hauto]
      omega
    have hfrom : s.rank cfg ≤ a.rank cfg := by
      unfold RetryState.rank Attempt.rank
      rw [hgroup]
      obtain ⟨hg, hr⟩ | ⟨hg, hr⟩ := hcases
      · rw [hg, hr]
      have := Nat.mul_le_mul_right cfg.perGroup hg
      rw [Nat.succ_mul] at this
      omega
    refine ⟨hvalid, hfrom, ?_⟩
    rw [hs']
    unfold RetryState.found
    split
    · -- the group is done: the next try starts with the first priority of the next group
      have hnext := hvalid.rank_lt
      refine ⟨?_, rfl⟩
      simpa [RetryState.increaseRetry, RetryState.rank, RetryState.group, hauto] using hnext
    refine ⟨?_, ?_⟩
    · simp [RetryState.increaseRetry, RetryState.rank, RetryState.group, hauto, hreset,
        Attempt.rank]
    · simp [RetryState.increaseRetry, hreset]
  rw [if_neg hauto] at h
  obtain ⟨hmap, rfl⟩ := Prod.mk.inj h
  obtain ⟨c, -, rfl⟩ := Option.map_eq_some_iff.mp hmap
  have hvalid : (⟨0, s.retry, c⟩ : Attempt α).Valid cfg := by
    refine ⟨?_, hretry⟩
    rw [RelayConfig.groupCount, if_neg hauto]
    exact Nat.zero_lt_one
  refine ⟨hvalid, ?_, ?_, ?_⟩
  · simp [RetryState.rank, RetryState.group, hauto, Attempt.rank]
  · simp [RetryState.increaseRetry, RetryState.rank, RetryState.group, hauto, hreset, Attempt.rank]
  · simp [RetryState.increaseRetry, hreset]

theorem getChannel_none_eq {it : Iteration α} (h : getChannel cfg it s none = some (a, s')) :
    cacheGetRandomSatisfiedChannel cfg it.get s = (some a, s') := by
  unfold getChannel at h
  dsimp only at h
  split at h
  · cases h
  rename_i a' s'' hselect
  split at h
  · cases h
    exact hselect
  · cases h

structure Ascending (cfg : RelayConfig) (first : Nat) (l : List (Attempt α)) : Prop where
  pairwise : l.Pairwise fun a b => a.rank cfg < b.rank cfg
  valid : ∀ a ∈ l, a.Valid cfg
  first : ∀ a ∈ l, first ≤ a.rank cfg

theorem Ascending.nil : Ascending cfg first ([] : List (Attempt α)) :=
  ⟨.nil, by simp, by simp⟩

variable {l : List (Attempt α)}

theorem Ascending.cons (h : Ascending cfg (a.rank cfg + 1) l)
    (ha : a.Valid cfg) (hfirst : first ≤ a.rank cfg) : Ascending cfg first (a :: l) := by
  refine ⟨.cons (fun b hb => h.first b hb) h.pairwise, ?_, ?_⟩
  · rw [List.forall_mem_cons]
    exact ⟨ha, h.valid⟩
  rw [List.forall_mem_cons]
  refine ⟨hfirst, fun b hb => ?_⟩
  have := h.first b hb
  omega

theorem Ascending.mono {first' : Nat} (h : Ascending cfg first l)
    (hle : first' ≤ first) : Ascending cfg first' l :=
  ⟨h.pairwise, h.valid, fun a ha => hle.trans (h.first a ha)⟩

theorem relayLoop_ranks (cfg : RelayConfig) (env : Nat → Iteration α) (fuel k : Nat)
    (s : RetryState) (hreset : s.resetNextTry = false)
    (hfuel : cfg.groupCount * cfg.perGroup < fuel + s.rank cfg) (hpos : 0 < fuel) :
    ∃ l, relayLoop cfg env fuel k s none = some l ∧ Ascending cfg (s.rank cfg) l := by
  induction fuel generalizing k s with
  | zero => cases hpos
  | succ fuel ih =>
    unfold relayLoop
    split
    swap
    · exact ⟨[], rfl, .nil⟩
    rename_i hretry
    split
    · exact ⟨[], rfl, .nil⟩
    rename_i a s' hchannel
    obtain ⟨hvalid, hle, hnext, hreset'⟩ :=
      select_rank hreset (retry_le_iff.mp hretry) (getChannel_none_eq hchannel)
    split
    swap
    · exact ⟨[], rfl, .nil⟩
    split
    · have htotal := hvalid.rank_lt_total
      obtain ⟨l, hl, hasc⟩ := ih (k + 1) s'.increaseRetry hreset' (by omega) (by omega)
      rw [hl]
      exact ⟨a :: l, rfl, (hasc.mono hnext).cons hvalid hle⟩
    · exact ⟨[a], rfl, Ascending.nil.cons hvalid hle⟩

theorem length_le_of_ascending {l : List Nat} {low high : Nat} (h : l.Pairwise (· < ·))
    (hlow : ∀ n ∈ l, low ≤ n) (hhigh : ∀ n ∈ l, n < high) : l.length ≤ high - low := by
  induction l generalizing low with
  | nil => exact Nat.zero_le _
  | cons n l ih =>
    rw [List.pairwise_cons] at h
    have hrest := ih h.2 h.1 fun m hm => hhigh m (List.mem_cons_of_mem n hm)
    have hn := hlow n (.head _)
    have hn' := hhigh n (.head _)
    rw [List.length_cons]
    omega

def attemptsIn (g : Nat) (l : List (Attempt α)) : Nat := (l.filter fun a => a.group = g).length

theorem Ascending.length_le (h : Ascending cfg first l) :
    l.length ≤ cfg.groupCount * cfg.perGroup - first := by
  rw [← List.length_map (Attempt.rank cfg)]
  refine length_le_of_ascending (List.pairwise_map.mpr h.pairwise) ?_ ?_
  · simpa using h.first
  intro n hn
  obtain ⟨a, ha, rfl⟩ := List.mem_map.mp hn
  exact (h.valid a ha).rank_lt_total

theorem Ascending.attemptsIn_le (h : Ascending cfg first l) (g : Nat) :
    attemptsIn g l ≤ (g + 1) * cfg.perGroup - max first (g * cfg.perGroup) := by
  unfold attemptsIn
  rw [← List.length_map (Attempt.rank cfg)]
  refine length_le_of_ascending (List.pairwise_map.mpr (h.pairwise.filter _)) ?_ ?_
  · intro n hn
    obtain ⟨a, ha, rfl⟩ := List.mem_map.mp hn
    obtain ⟨ha, hg⟩ := List.mem_filter.mp ha
    rw [decide_eq_true_eq] at hg
    have := h.first a ha
    unfold Attempt.rank at this ⊢
    rw [hg] at this ⊢
    omega
  intro n hn
  obtain ⟨a, ha, rfl⟩ := List.mem_map.mp hn
  obtain ⟨ha, hg⟩ := List.mem_filter.mp ha
  rw [decide_eq_true_eq] at hg
  have := (h.valid a ha).rank_lt
  rwa [hg] at this

end Ranks

def affinityGroup (cfg : RelayConfig) (preferred : Option (Preferred α)) : Option Nat :=
  preferred.bind fun p => p.group cfg

section Bounds

variable {cfg : RelayConfig} {preferred : Option (Preferred α)} {get : String → Nat → Option α}
  {env : Nat → Iteration α} {a : Attempt α} {s : RetryState} {p : Preferred α}

theorem Preferred.group_lt (h : p.group cfg = some g) : g < cfg.groupCount := by
  unfold Preferred.group at h
  unfold RelayConfig.groupCount
  split at h
  next hauto =>
    rw [if_pos hauto]
    exact (List.findIdx?_eq_some_iff_getElem.mp h).1
  rename_i hauto
  rw [if_neg hauto]
  split at h
  · cases h
    exact Nat.zero_lt_one
  · cases h

structure Distributed (cfg : RelayConfig) (affinity : Option Nat) (a : Attempt α) (s : RetryState) :
    Prop where
  retry : s.retry = 0
  reset : s.resetNextTry = false
  valid : 0 < cfg.perGroup → a.Valid cfg
  first : a.priorityRetry = 0
  start : affinity = some a.group ∧ s.group cfg = 0 ∨
    affinity = none ∧ (1 < cfg.perGroup → s.group cfg = a.group)

theorem distribute_spec (h : distribute cfg preferred get = some (a, s)) :
    Distributed cfg (affinityGroup cfg preferred) a s := by
  unfold distribute at h
  split at h
  next a' hpreferred =>
    cases h
    obtain ⟨p, rfl, hp⟩ := Option.bind_eq_some_iff.mp hpreferred
    obtain ⟨g, hg, rfl⟩ := Option.map_eq_some_iff.mp hp
    refine ⟨rfl, rfl, fun hpos => ⟨Preferred.group_lt hg, hpos⟩, rfl, .inl ⟨hg, ?_⟩⟩
    simp [RetryState.group]
  rename_i hpreferred
  have haffinity : affinityGroup cfg preferred = none := by
    unfold affinityGroup
    cases preferred with
    | none => rfl
    | some p =>
      exact Option.map_eq_none_iff.mp hpreferred
  split at h
  · cases h
  rename_i _ s' hselect
  cases h
  have hretry : 0 < cfg.perGroup → a.Valid cfg := fun hpos =>
    (select_rank rfl hpos hselect).1
  have hspec : a.priorityRetry = 0 ∧
      (1 < cfg.perGroup → RetryState.group cfg { autoGroupIndex := s'.autoGroupIndex } =
        a.group) := by
    unfold cacheGetRandomSatisfiedChannel at hselect
    split at hselect
    next hauto =>
      obtain ⟨-, -, hcases, hs'⟩ := selectAuto_spec hselect
      have hzero : a.priorityRetry = 0 := by
        dsimp only at hcases
        omega
      refine ⟨hzero, fun hmany => ?_⟩
      rw [hs', hzero, RetryState.found_of_lt hmany]
      simp [RetryState.group, hauto]
    rename_i hauto
    obtain ⟨hmap, rfl⟩ := Prod.mk.inj hselect
    obtain ⟨c, -, rfl⟩ := Option.map_eq_some_iff.mp hmap
    refine ⟨rfl, fun _ => ?_⟩
    simp [RetryState.group]
  exact ⟨rfl, rfl, hretry, hspec.1, .inr ⟨haffinity, hspec.2⟩⟩

variable {l : List (Attempt α)}

theorem relayLoop_done {k : Nat} {s : RetryState}
    (h : relayLoop cfg env fuel k s none = some l) (hne : l ≠ []) : s.retry < cfg.perGroup := by
  cases fuel with
  | zero => cases h
  | succ fuel =>
    unfold relayLoop at h
    split at h
    next hretry =>
      exact retry_le_iff.mp hretry
    · cases h
      exact absurd rfl hne

theorem relay_cases (cfg : RelayConfig) (preferred : Option (Preferred α))
    (get : String → Nat → Option α) (env : Nat → Iteration α)
    (hfuel : cfg.groupCount * cfg.perGroup + 1 < fuel) :
    ∃ l, relay cfg preferred get env fuel = some l ∧
      (l = [] ∨ 0 < cfg.perGroup ∧ ∃ a s l', l = a :: l' ∧
        Distributed cfg (affinityGroup cfg preferred) a s ∧
        Ascending cfg (s.group cfg * cfg.perGroup + 1) l' ∧
        (l' ≠ [] → 1 < cfg.perGroup ∧ cfg.skipRetryAfterAffinityFailure = false)) := by
  unfold relay
  split
  · exact ⟨[], rfl, .inl rfl⟩
  rename_i a s hdistribute
  have hd := distribute_spec hdistribute
  cases fuel with
  | zero => omega
  | succ fuel =>
    unfold relayLoop
    split
    swap
    · exact ⟨[], rfl, .inl rfl⟩
    rename_i hretry
    have hpos : 0 < cfg.perGroup := by
      have := retry_le_iff.mp hretry
      omega
    dsimp only [getChannel]
    split
    swap
    · exact ⟨[], rfl, .inl rfl⟩
    split
    swap
    · exact ⟨[a], rfl, .inr ⟨hpos, a, s, [], rfl, hd, .nil, fun h => absurd rfl h⟩⟩
    rename_i hretries
    have hincrease : s.increaseRetry = { s with retry := 1 } := by
      simp [RetryState.increaseRetry, hd.reset, hd.retry]
    have hrank : s.increaseRetry.rank cfg = s.group cfg * cfg.perGroup + 1 := by
      rw [hincrease]
      rfl
    have hreset : s.increaseRetry.resetNextTry = false := by
      rw [hincrease]
      exact hd.reset
    obtain ⟨l', hl', hasc⟩ :=
      relayLoop_ranks cfg env fuel 1 s.increaseRetry hreset (by omega) (by omega)
    rw [hl']
    refine ⟨a :: l', rfl, .inr ⟨hpos, a, s, l', rfl, hd, hrank ▸ hasc, fun hne => ⟨?_, ?_⟩⟩⟩
    · have := relayLoop_done hl' hne
      rw [hincrease] at this
      exact this
    unfold Iteration.retries at hretries
    split at hretries
    · cases hretries
    unfold shouldRetry at hretries
    split at hretries
    · cases hretries
    next hskip =>
      simpa using hskip

theorem relay_length_le (hfuel : cfg.groupCount * cfg.perGroup + 1 < fuel) :
    ∃ l, relay cfg preferred get env fuel = some l ∧ l.length ≤ cfg.groupCount * cfg.perGroup := by
  obtain ⟨l, hl, rfl | ⟨hpos, a, s, l', rfl, hd, hasc, -⟩⟩ :=
    relay_cases cfg preferred get env hfuel
  · exact ⟨[], hl, Nat.zero_le _⟩
  refine ⟨_, hl, ?_⟩
  have hlen := hasc.length_le
  have htotal := (hd.valid hpos).rank_lt_total
  rw [List.length_cons]
  omega

theorem attemptsIn_cons (g : Nat) (a : Attempt α) (l : List (Attempt α)) :
    attemptsIn g (a :: l) = (if a.group = g then 1 else 0) + attemptsIn g l := by
  unfold attemptsIn
  by_cases h : a.group = g
  · rw [List.filter_cons_of_pos (by simpa using h), List.length_cons, if_pos h, Nat.add_comm]
  · rw [List.filter_cons_of_neg (by simpa using h), if_neg h, Nat.zero_add]

/-- The distributor's channel is of the first group, or nothing comes after it. -/
def StartsInOrder (cfg : RelayConfig) (preferred : Option (Preferred α)) : Prop :=
  cfg.retryTimes ≤ 0 ∨ cfg.skipRetryAfterAffinityFailure = true ∨
    affinityGroup cfg preferred = none ∨ affinityGroup cfg preferred = some 0

theorem relay_attemptsIn_le (hstart : StartsInOrder cfg preferred)
    (hfuel : cfg.groupCount * cfg.perGroup + 1 < fuel)
    (hl : relay cfg preferred get env fuel = some l) (g : Nat) :
    attemptsIn g l ≤ cfg.perGroup := by
  obtain ⟨l', hl', hcases⟩ := relay_cases cfg preferred get env hfuel
  rw [hl] at hl'
  cases hl'
  obtain rfl | ⟨hpos, a, s, l', rfl, hd, hasc, hrest⟩ := hcases
  · exact Nat.zero_le _
  by_cases hnil : l' = []
  · subst hnil
    rw [attemptsIn_cons]
    have : attemptsIn g ([] : List (Attempt α)) = 0 := rfl
    split <;> omega
  obtain ⟨hmany, hskip⟩ := hrest hnil
  have haffinity : affinityGroup cfg preferred = none ∨ affinityGroup cfg preferred = some 0 := by
    obtain hzero | hs | hnone | hfirst := hstart
    · unfold RelayConfig.perGroup at hmany
      omega
    · rw [hskip] at hs
      cases hs
    · exact .inl hnone
    · exact .inr hfirst
  have hmul : (g + 1) * cfg.perGroup = g * cfg.perGroup + cfg.perGroup := Nat.succ_mul _ _
  obtain ⟨hg, hzero⟩ | ⟨-, hgroup⟩ := hd.start
  · -- affinity to the first group: the loop goes on with the second try of that group
    have ha : a.group = 0 := by
      obtain hnone | hfirst := haffinity
      · rw [hnone] at hg
        cases hg
      · rw [hfirst] at hg
        exact (Option.some.inj hg).symm
    have hle := hasc.attemptsIn_le g
    rw [attemptsIn_cons, ha]
    split
    next hg0 =>
      subst hg0
      omega
    · omega
  have hrank : s.group cfg * cfg.perGroup + 1 = a.rank cfg + 1 := by
    rw [hgroup hmany, Attempt.rank, hd.first]
  rw [hrank] at hasc
  have hall : Ascending cfg 0 (a :: l') := hasc.cons (hd.valid hpos) (Nat.zero_le _)
  have hle := hall.attemptsIn_le g
  omega

/-! ### A group with one attempt too many -/

def failingIteration (p : Preferred α) : Iteration α where
  get name _ := if p.enabledFor name then some p.channel else none
  error := some { isChannelError := true }

theorem relayLoop_failing {k : Nat} {s' : RetryState} {distributed : Option (Attempt α)}
    (hskip : cfg.skipRetryAfterAffinityFailure = false) (hretry : s.retry < cfg.perGroup)
    (hchannel : getChannel cfg (failingIteration p) s distributed = some (a, s'))
    (hl : relayLoop cfg (fun _ => failingIteration p) (fuel + 1) k s distributed = some l) :
    ∃ l', relayLoop cfg (fun _ => failingIteration p) fuel (k + 1) s'.increaseRetry none = some l' ∧
      a :: l' = l := by
  have hretries : (failingIteration p).retries cfg s' = true := by
    simp [Iteration.retries, failingIteration, shouldRetry, hskip]
  unfold relayLoop at hl
  rw [if_pos (retry_le_iff.mpr hretry), hchannel] at hl
  dsimp only at hl
  rw [if_pos hretries] at hl
  exact Option.map_eq_some_iff.mp hl

theorem relayLoop_stays {k : Nat} {name : String}
    (hauto : cfg.tokenGroup = "auto") (hskip : cfg.skipRetryAfterAffinityFailure = false)
    (hname : cfg.autoGroups[g]? = some name) (henabled : p.enabledFor name = true)
    (hindex : s.autoGroupIndex = some g) (hreset : s.resetNextTry = false)
    (hretry : s.retry < cfg.perGroup)
    (hl : relayLoop cfg (fun _ => failingIteration p) fuel k s none = some l) :
    cfg.perGroup - s.retry ≤ attemptsIn g l := by
  induction fuel generalizing k s l with
  | zero => cases hl
  | succ fuel ih =>
    have hdrop : cfg.autoGroups.drop g = name :: cfg.autoGroups.drop (g + 1) := by
      obtain ⟨hlt, hget⟩ := List.getElem?_eq_some_iff.mp hname
      rw [List.drop_eq_getElem_cons hlt, hget]
    have hchannel : getChannel cfg (failingIteration p) s none =
        some (⟨g, s.retry, p.channel⟩, s.found cfg g) := by
      simp [getChannel, cacheGetRandomSatisfiedChannel, hauto, hindex, hdrop, selectAuto,
        failingIteration, henabled]
    obtain ⟨l', hl', rfl⟩ := relayLoop_failing hskip hretry hchannel hl
    rw [attemptsIn_cons, if_pos rfl]
    by_cases hlast : s.retry + 1 < cfg.perGroup
    · have hfound : (s.found cfg g).increaseRetry = { s with retry := s.retry + 1 } := by
        rw [RetryState.found_of_lt hlast, ← hindex]
        simp [RetryState.increaseRetry, hreset]
      rw [hfound] at hl'
      have hmore : cfg.perGroup - (s.retry + 1) ≤ attemptsIn g l' :=
        ih (s := { s with retry := s.retry + 1 }) hindex hreset hlast hl'
      omega
    · omega

theorem selectAuto_skips {groups : List String} {i d : Nat}
    (h : groups.findIdx? p.enabledFor = some d) :
    ∃ a s', selectAuto cfg (failingIteration p).get i groups s = (some a, s') ∧
      a.group = i + d := by
  induction groups generalizing i d s with
  | nil => cases h
  | cons g groups ih =>
    unfold selectAuto
    rw [List.findIdx?_cons] at h
    by_cases hg : p.enabledFor g = true
    · rw [if_pos hg] at h
      cases h
      simp [failingIteration, hg]
    rw [if_neg hg] at h
    obtain ⟨d', hd', rfl⟩ := Option.map_eq_some_iff.mp h
    have hnone : (failingIteration p).get g s.retry = none := by
      simp [failingIteration, hg]
    rw [hnone]
    obtain ⟨a, s', hselect, hgroup⟩ := ih hd'
    exact ⟨a, s', hselect, by omega⟩

theorem relay_exceeds (hg : p.group cfg = some g) (hlater : g ≠ 0)
    (hretries : 0 < cfg.retryTimes) (hskip : cfg.skipRetryAfterAffinityFailure = false)
    (get : String → Nat → Option α) (hfuel : cfg.groupCount * cfg.perGroup + 1 < fuel) :
    ∃ l, relay cfg (some p) get (fun _ => failingIteration p) fuel = some l ∧
      cfg.perGroup < attemptsIn g l := by
  have hmany : 1 < cfg.perGroup := by
    unfold RelayConfig.perGroup
    omega
  have hauto : cfg.tokenGroup = "auto" := by
    by_contra hauto
    rw [Preferred.group, if_neg hauto] at hg
    split at hg
    · cases hg
      exact hlater rfl
    · cases hg
  have hfind : cfg.autoGroups.findIdx? p.enabledFor = some g := by
    rwa [Preferred.group, if_pos hauto] at hg
  have hdistribute : distribute cfg (some p) get = some (⟨g, 0, p.channel⟩, {}) := by
    simp [distribute, hg]
  obtain ⟨l, hl, -⟩ : ∃ l, relay cfg (some p) get (fun _ => failingIteration p) fuel = some l ∧ _ :=
    relay_length_le hfuel
  refine ⟨l, hl, ?_⟩
  unfold relay at hl
  rw [hdistribute] at hl
  cases fuel with
  | zero => omega
  | succ fuel =>
    -- the first attempt, with the channel of the distributor
    obtain ⟨l', hl', rfl⟩ := relayLoop_failing hskip (Nat.zero_lt_of_lt hmany) rfl hl
    rw [attemptsIn_cons, if_pos rfl]
    cases fuel with
    | zero => cases hl'
    | succ fuel =>
      -- the second, which searches from the first group and ends in the same group
      obtain ⟨a, s', hselect, hgroup⟩ : ∃ a s', selectAuto cfg (failingIteration p).get 0
          cfg.autoGroups { retry := 1 } = (some a, s') ∧ a.group = 0 + g :=
        selectAuto_skips hfind
      rw [Nat.zero_add] at hgroup
      obtain ⟨-, -, hcases, hs'⟩ := selectAuto_spec hselect
      have hzero : a.priorityRetry = 0 := by omega
      rw [hzero, hgroup, RetryState.found_of_lt hmany] at hs'
      subst hs'
      have hchannel : getChannel cfg (failingIteration p) ({} : RetryState).increaseRetry none =
          some (a, { autoGroupIndex := some g }) := by
        show getChannel cfg (failingIteration p) { retry := 1 } none = _
        unfold getChannel cacheGetRandomSatisfiedChannel
        dsimp only
        rw [if_pos hauto, Option.getD_none, List.drop_zero, hselect]
        rfl
      obtain ⟨l'', hl'', rfl⟩ := relayLoop_failing hskip hmany hchannel hl'
      rw [attemptsIn_cons, if_pos hgroup]
      obtain ⟨hlt, henabled, -⟩ := List.findIdx?_eq_some_iff_getElem.mp hfind
      have hrest : cfg.perGroup - 1 ≤ attemptsIn g l'' :=
        relayLoop_stays hauto hskip (List.getElem?_eq_getElem hlt) henabled rfl rfl hmany hl''
      omega

end Bounds

/-- The loop terminates within the attempts of all groups together. No group has more than its own
exactly if affinity takes the distributor's channel from no later group, or there are no retries. -/
theorem relay_bounded_iff (cfg : RelayConfig) (preferred : Option (Preferred α)) :
    (∀ get env fuel, cfg.groupCount * cfg.perGroup + 1 < fuel →
      ∃ l, relay cfg preferred get env fuel = some l ∧ l.length ≤ cfg.groupCount * cfg.perGroup) ∧
    ((∀ get env fuel l, cfg.groupCount * cfg.perGroup + 1 < fuel →
      relay cfg preferred get env fuel = some l → ∀ g, attemptsIn g l ≤ cfg.perGroup) ↔
        StartsInOrder cfg preferred) := by
  refine ⟨fun get env fuel hfuel => relay_length_le hfuel, ?_, ?_⟩
  · intro h
    by_contra hstart
    unfold StartsInOrder at hstart
    push Not at hstart
    obtain ⟨hretries, hskip, hsome, hlater⟩ := hstart
    obtain ⟨g, hg⟩ := Option.ne_none_iff_exists'.mp hsome
    obtain ⟨p, rfl, hp⟩ := Option.bind_eq_some_iff.mp hg
    have hne : g ≠ 0 := by
      rintro rfl
      exact hlater hg
    obtain ⟨l, hl, hmore⟩ := relay_exceeds hp hne hretries (by simpa using hskip)
      (fun _ _ => none) (Nat.lt_succ_self _)
    have hle := h _ _ _ l (Nat.lt_succ_self _) hl g
    omega
  · intro hstart get env fuel l hfuel hl g
    exact relay_attemptsIn_le hstart hfuel hl g

def twoGroups : RelayConfig where
  retryTimes := 1
  tokenGroup := "auto"
  autoGroups := ["a", "b"]
  crossGroupRetry := true

def preferredInSecond : Preferred Nat := ⟨7, fun name => name = "b"⟩

/-- The second group has three attempts, although the retry limit allows two. -/
theorem second_group_has_three_attempts : twoGroups.perGroup = 2 ∧
      (relay twoGroups (some preferredInSecond) (fun _ _ => none)
        (fun _ => failingIteration preferredInSecond) 6).map (attemptsIn 1) = some 3 := by
  decide +kernel

end ZModel.Relay
