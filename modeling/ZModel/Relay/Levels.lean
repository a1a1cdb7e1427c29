import ZModel.Channels.Cache
import ZModel.Relay.Loop

/-!
# The order of the attempts

The documented flow of `service/channel_select.go`: each auto group uses up its priority levels
before the next one. The selector moves on after the retry limit plus one attempts.
-/

namespace ZModel.Relay

open Channels

section Orders

variable (levelsOf : String → List Int) (retries : Nat)

def tries (levels : List Int) (i r n : Nat) : List (Nat × Int) :=
  (List.range' r n).filterMap fun q => (levels[min q (levels.length - 1)]?).map fun p => (i, p)

/-- The attempts that are made: each group with levels has all its retries. -/
def visits : Nat → List String → Nat → List (Nat × Int)
  | _, [], _ => []
  | i, g :: groups, r =>
    tries (levelsOf g) i r (retries + 1 - r) ++ visits (i + 1) groups 0

def documented : Nat → List String → List (Nat × Int)
  | _, [] => []
  | i, g :: groups => ((levelsOf g).map fun p => (i, p)) ++ documented (i + 1) groups

/-- A group without levels is passed over, and every other has as many levels as attempts; the last
may have more. -/
def LevelsFit (retries : Nat) : List Nat → Prop
  | [] => True
  | n :: ns =>
    n = 0 ∧ LevelsFit retries ns ∨ n = retries + 1 ∧ LevelsFit retries ns ∨
      retries + 1 < n ∧ ∀ m ∈ ns, m = 0

variable {levelsOf retries}

theorem tries_nil (i r n : Nat) : tries [] i r n = [] := by
  unfold tries
  simp

variable {levels : List Int}

variable {i r n : Nat}

theorem tries_succ {p : Int} (h : levels[min r (levels.length - 1)]? = some p) :
    tries levels i r (n + 1) = (i, p) :: tries levels i (r + 1) n := by
  unfold tries
  rw [List.range'_succ, List.filterMap_cons_some (by rw [h, Option.map_some])]

theorem tries_eq (h : r + n ≤ levels.length) :
    tries levels i r n = ((levels.drop r).take n).map fun p => (i, p) := by
  induction n generalizing r with
  | zero => simp [tries]
  | succ n ih =>
    have hlt : r < levels.length := by omega
    have hmin : min r (levels.length - 1) = r := by omega
    have hget : levels[min r (levels.length - 1)]? = some levels[r] := by
      rw [hmin, List.getElem?_eq_getElem hlt]
    rw [tries_succ hget, ih (by omega), List.drop_eq_getElem_cons hlt, List.take_succ_cons,
      List.map_cons]

theorem tries_add (levels : List Int) (i r m n : Nat) :
    tries levels i r (m + n) = tries levels i r m ++ tries levels i (r + m) n := by
  unfold tries
  rw [← List.filterMap_append, List.range'_append_1]

variable {x : Nat × Int}

theorem fst_of_mem_tries (h : x ∈ tries levels i r n) : x.1 = i := by
  obtain ⟨q, -, hq⟩ := List.mem_filterMap.mp h
  obtain ⟨p, -, rfl⟩ := Option.map_eq_some_iff.mp hq
  rfl

variable {groups : List String}

theorem le_of_mem_visits {i r : Nat} (h : x ∈ visits levelsOf retries i groups r) : i ≤ x.1 := by
  induction groups generalizing i r with
  | nil => cases h
  | cons g groups ih =>
    obtain h | h := List.mem_append.mp h
    · exact (fst_of_mem_tries h).ge
    · exact (Nat.le_succ i).trans (ih h)

theorem le_of_mem_documented {i : Nat} (h : x ∈ documented levelsOf i groups) : i ≤ x.1 := by
  induction groups generalizing i with
  | nil => cases h
  | cons g groups ih =>
    obtain h | h := List.mem_append.mp h
    · obtain ⟨p, -, rfl⟩ := List.mem_map.mp h
      exact le_rfl
    · exact (Nat.le_succ i).trans (ih h)

theorem visits_eq_nil_iff {i : Nat} : visits levelsOf retries i groups 0 = [] ↔
      ∀ m ∈ groups.map fun g => (levelsOf g).length, m = 0 := by
  induction groups generalizing i with
  | nil => exact iff_of_true rfl (by simp)
  | cons g groups ih =>
    rw [visits, List.append_eq_nil_iff, ih, List.map_cons, List.forall_mem_cons]
    refine and_congr_left fun _ => ?_
    rw [List.length_eq_zero_iff, Nat.sub_zero]
    constructor
    · intro h
      by_contra hne
      have hlen : 0 < (levelsOf g).length := List.length_pos_iff.mpr hne
      have hget : (levelsOf g)[min 0 ((levelsOf g).length - 1)]? = some (levelsOf g)[0] := by
        rw [Nat.zero_min, List.getElem?_eq_getElem hlen]
      rw [tries_succ hget] at h
      cases h
    · intro h
      rw [h, tries_nil]

theorem not_prefix_of_head {β : Type} {x : β} {xs common ys : List β} (hx : x ∉ ys) :
    ¬common ++ x :: xs <+: common ++ ys := by
  intro h
  obtain ⟨t, ht⟩ := (List.prefix_append_right_inj common).mp h
  exact hx (ht ▸ (.head _))

theorem visits_prefix_iff (i : Nat) (groups : List String) :
    visits levelsOf retries i groups 0 <+: documented levelsOf i groups ↔
      LevelsFit retries (groups.map fun g => (levelsOf g).length) := by
  induction groups generalizing i with
  | nil => exact iff_of_true (List.prefix_refl _) trivial
  | cons g groups ih =>
    rw [visits, documented, List.map_cons, LevelsFit, Nat.sub_zero]
    have hnext := ih (i + 1)
    generalize hV : visits levelsOf retries (i + 1) groups 0 = V at hnext
    generalize hD : documented levelsOf (i + 1) groups = D at hnext
    have hother : ∀ p, (i, p) ∉ D := by
      intro p hp
      have := le_of_mem_documented (hD ▸ hp)
      exact absurd this (by simp)
    obtain hzero | hpos := Nat.eq_zero_or_pos (levelsOf g).length
    · rw [List.length_eq_zero_iff.mp hzero, tries_nil, List.map_nil, List.nil_append,
        List.nil_append, hnext]
      simp
    obtain hless | hmore := Nat.lt_or_ge (levelsOf g).length (retries + 1)
    · -- the lowest level is tried again, where the documented flow has the next group
      refine iff_of_false ?_ (by omega)
      obtain ⟨d, hd⟩ := Nat.exists_eq_add_of_lt hless
      have hget : (levelsOf g)[min (levelsOf g).length ((levelsOf g).length - 1)]? =
          some (levelsOf g)[(levelsOf g).length - 1] := by
        rw [Nat.min_eq_right (by omega), List.getElem?_eq_getElem (by omega)]
      have hsplit : tries (levelsOf g) i 0 (retries + 1) =
          ((levelsOf g).map fun p => (i, p)) ++
            (i, (levelsOf g)[(levelsOf g).length - 1]) ::
              tries (levelsOf g) i ((levelsOf g).length + 1) d := by
        rw [hd, Nat.add_assoc, tries_add, tries_eq (by omega), Nat.zero_add, tries_succ hget,
          List.drop_zero, List.take_length]
      rw [hsplit, List.append_assoc]
      exact not_prefix_of_head (hother _)
    obtain hsame | hlonger := Nat.eq_or_lt_of_le hmore
    · have hall : tries (levelsOf g) i 0 (retries + 1) = (levelsOf g).map fun p => (i, p) := by
        rw [hsame, tries_eq (by omega), List.drop_zero, List.take_length]
      rw [hall, List.prefix_append_right_inj, hnext]
      constructor
      · exact fun h => .inr (.inl ⟨hsame.symm, h⟩)
      rintro (⟨h, -⟩ | ⟨-, h⟩ | ⟨h, -⟩)
      · omega
      · exact h
      · omega
    -- the selector moves on before the levels are used up
    have hsome : tries (levelsOf g) i 0 (retries + 1) =
        ((levelsOf g).take (retries + 1)).map fun p => (i, p) := by
      rw [tries_eq (by omega), List.drop_zero]
    have hrest : (levelsOf g).map (fun p => (i, p)) =
        ((levelsOf g).take (retries + 1)).map (fun p => (i, p)) ++
          ((levelsOf g).drop (retries + 1)).map fun p => (i, p) := by
      rw [← List.map_append, List.take_append_drop]
    have hnil : visits levelsOf retries (i + 1) groups 0 = [] ↔ _ := visits_eq_nil_iff
    rw [hsome, hrest, List.append_assoc, List.prefix_append_right_inj, ← hnil, hV]
    constructor
    · intro h
      refine .inr (.inr ⟨hlonger, ?_⟩)
      cases V with
      | nil => rfl
      | cons x xs =>
        -- the next attempt is in a later group, the documented one in this
        obtain ⟨p, ps, hps⟩ := List.exists_cons_of_length_pos
          (l := (levelsOf g).drop (retries + 1)) (by rw [List.length_drop]; omega)
        rw [hps, List.map_cons, List.cons_append, List.cons_prefix_cons] at h
        have hle : i + 1 ≤ x.1 := le_of_mem_visits (hV ▸ List.mem_cons_self)
        rw [h.1] at hle
        exact absurd hle (by simp)
    rintro (⟨h, -⟩ | ⟨h, -⟩ | ⟨-, h⟩)
    · omega
    · omega
    · rw [h]
      exact List.nil_prefix

theorem take_one_visits_prefix (i : Nat) (groups : List String) :
    (visits levelsOf retries i groups 0).take 1 <+: documented levelsOf i groups := by
  induction groups generalizing i with
  | nil => exact List.nil_prefix
  | cons g groups ih =>
    rw [visits, documented, Nat.sub_zero]
    cases hlevels : levelsOf g with
    | nil =>
      rw [tries_nil]
      exact ih (i + 1)
    | cons p ps =>
      have hget : (p :: ps)[min 0 ((p :: ps).length - 1)]? = some p := by
        rw [Nat.zero_min, List.getElem?_cons_zero]
      rw [tries_succ hget, List.cons_append, List.take_succ_cons, List.map_cons, List.cons_append,
        List.cons_prefix_cons]
      exact ⟨rfl, List.nil_prefix⟩

end Orders

section Attempts

variable [Regexp]

variable (cache : ChannelCache)

def cachedGet (model requestPath : String) (rand : Rand) (group : String)
    (retry : Nat) : Option Channel :=
  match cache.getRandomSatisfiedChannel group model retry requestPath rand with
  | .ok c => c
  | .error _ => none

def groupLevels (model requestPath group : String) : List Int :=
  levels ((cache.cached (cache.candidates group model requestPath)).map Channel.getPriority)

def failing (model requestPath : String) (rand : Nat → Rand)
    (errors : Nat → RelayError) (k : Nat) : Iteration Channel where
  get := cachedGet cache model requestPath (rand k)
  error := some (errors k)

def visited (l : List (Attempt Channel)) : List (Nat × Int) :=
  l.map fun a => (a.group, a.channel.getPriority)

variable {cache : ChannelCache} {model requestPath : String}

theorem cachedGet_spec (rand : Rand) (group : String) (retry : Nat) :
    groupLevels cache model requestPath group = [] ∧
        cachedGet cache model requestPath rand group retry = none ∨
      ∃ c, cachedGet cache model requestPath rand group retry = some c ∧
        (groupLevels cache model requestPath group)[min retry
          ((groupLevels cache model requestPath group).length - 1)]? = some c.getPriority := by
  unfold cachedGet groupLevels
  obtain ⟨hnil, hselect⟩ | ⟨c, -, hselect, hlevel⟩ :=
    cache.getRandomSatisfiedChannel_spec group model retry requestPath rand
  · rw [hselect, hnil]
    exact .inl ⟨rfl, rfl⟩
  · rw [hselect]
    exact .inr ⟨c, rfl, hlevel⟩

omit [Regexp] in
theorem retry_lt_of_found {cfg : RelayConfig} {get : String → Nat → Option Channel}
    {retries i : Nat} {groups : List String} {s s' : RetryState} {a : Attempt Channel}
    (hpos : 0 < retries) (hreset : s.resetNextTry = false) (hs' : s'.increaseRetry.retry ≤ retries)
    (h : selectAuto cfg get i groups s = (some a, s')) : s'.retry < retries := by
  unfold RetryState.increaseRetry at hs'
  split at hs'
  next hset =>
    obtain ⟨-, -, -, rfl⟩ := selectAuto_spec h
    unfold RetryState.found at hset ⊢
    split
    · exact hpos
    rename_i hstay
    rw [if_neg hstay] at hset
    rw [show s.resetNextTry = true from hset] at hreset
    cases hreset
  · exact hs'

section Steps

variable {cfg : RelayConfig} {retries : Nat} (hcross : cfg.crossGroupRetry = true)
  (hretries : cfg.retryTimes = retries)
include hcross hretries

theorem selectAuto_visits (rand : Rand) {i : Nat} {groups rest : List String} {s : RetryState}
    (hrest : groups.drop i = rest) (hs : s.retry ≤ retries) (hreset : s.resetNextTry = false) :
    (∃ s', selectAuto cfg (cachedGet cache model requestPath rand) i rest s = (none, s') ∧
        visits (groupLevels cache model requestPath) retries i rest s.retry = []) ∨
      ∃ a s' j, selectAuto cfg (cachedGet cache model requestPath rand) i rest s = (some a, s') ∧
        s'.increaseRetry.autoGroupIndex = some j ∧ s'.increaseRetry.retry ≤ retries ∧
        s'.increaseRetry.resetNextTry = false ∧
        visits (groupLevels cache model requestPath) retries i rest s.retry =
          (a.group, a.channel.getPriority) ::
            visits (groupLevels cache model requestPath) retries j (groups.drop j)
              s'.increaseRetry.retry := by
  induction rest generalizing i s with
  | nil => exact .inl ⟨s, rfl, rfl⟩
  | cons g rest ih =>
    have hnext : groups.drop (i + 1) = rest := by
      rw [← List.tail_drop, hrest, List.tail_cons]
    rw [visits]
    unfold selectAuto
    obtain ⟨hnil, hget⟩ | ⟨c, hget, hlevel⟩ := cachedGet_spec rand g s.retry
    · rw [hget, hnil, tries_nil]
      exact ih hnext (Nat.zero_le _) hreset
    have hsucc : retries + 1 - s.retry = retries - s.retry + 1 := by omega
    rw [hget, hsucc, tries_succ hlevel, List.cons_append]
    refine .inr ⟨⟨i, s.retry, c⟩, s.found cfg i, ?_⟩
    unfold RetryState.found
    by_cases hlast : retries ≤ s.retry
    · -- the last retry of the group: the next try is in the next group
      rw [if_pos ⟨hcross, by omega⟩]
      refine ⟨i + 1, rfl, rfl, Nat.zero_le _, rfl, ?_⟩
      have hzero : retries - s.retry = 0 := by omega
      rw [hzero, hnext]
      rfl
    rw [if_neg (by omega)]
    have hstate : .increaseRetry { s with autoGroupIndex := some i } =
        { s with retry := s.retry + 1, autoGroupIndex := some i } := by
      simp [RetryState.increaseRetry, hreset]
    rw [hstate]
    refine ⟨i, rfl, rfl, by show s.retry + 1 ≤ retries; omega, hreset, ?_⟩
    have hmore : retries - s.retry = retries + 1 - (s.retry + 1) := by omega
    rw [hrest, visits, hmore]

variable {errors : Nat → RelayError} (hauto : cfg.tokenGroup = "auto")
  (herrors : ∀ k t, 0 < t → shouldRetry cfg (errors k) t = true)
include hauto herrors

theorem relayLoop_visits {rand : Nat → Rand} {fuel k i : Nat} {s : RetryState}
    {l : List (Attempt Channel)} (hindex : s.autoGroupIndex = some i) (hs : s.retry ≤ retries)
    (hreset : s.resetNextTry = false) (hpos : 0 < retries)
    (h : relayLoop cfg (failing cache model requestPath rand errors) fuel k s none = some l) :
    visited l =
      visits (groupLevels cache model requestPath) retries i (cfg.autoGroups.drop i) s.retry := by
  induction fuel generalizing k i s l with
  | zero => cases h
  | succ fuel ih =>
    unfold relayLoop at h
    rw [if_pos (by omega)] at h
    have hselect : cacheGetRandomSatisfiedChannel cfg
        (failing cache model requestPath rand errors k).get s =
        selectAuto cfg (cachedGet cache model requestPath (rand k)) i (cfg.autoGroups.drop i) s := by
      unfold cacheGetRandomSatisfiedChannel failing
      rw [if_pos hauto, hindex]
      rfl
    unfold getChannel at h
    rw [hselect] at h
    obtain ⟨s', hfound, hnil⟩ | ⟨a, s', j, hfound, hj, hs', hreset', hvisits⟩ :=
      selectAuto_visits hcross hretries (rand k) rfl hs hreset
    · rw [hfound] at h
      cases h
      exact hnil.symm
    have hretry : (failing cache model requestPath rand errors k).retries cfg s' = true := by
      refine herrors k _ ?_
      have hless := retry_lt_of_found hpos hreset hs' hfound
      omega
    rw [hfound] at h
    dsimp only at h
    rw [if_pos (show (failing cache model requestPath rand errors k).setup = true from rfl)] at h
    dsimp only at h
    rw [if_pos hretry] at h
    obtain ⟨l', hl', rfl⟩ := Option.map_eq_some_iff.mp h
    rw [hvisits, ← ih hj hs' hreset' hl']
    rfl

theorem relay_visits {rand : Nat → Rand} {rand₀ : Rand} {fuel : Nat} {l : List (Attempt Channel)}
    (h : relay cfg none (cachedGet cache model requestPath rand₀)
      (failing cache model requestPath rand errors) fuel = some l) :
    visited l = if 0 < retries then
        visits (groupLevels cache model requestPath) retries 0 cfg.autoGroups 0
      else (visits (groupLevels cache model requestPath) retries 0 cfg.autoGroups 0).take 1 := by
  have hselect : cacheGetRandomSatisfiedChannel cfg (cachedGet cache model requestPath rand₀) {} =
      selectAuto cfg (cachedGet cache model requestPath rand₀) 0 cfg.autoGroups {} := by
    unfold cacheGetRandomSatisfiedChannel
    rw [if_pos hauto]
    rfl
  have hdrop : cfg.autoGroups.drop 0 = cfg.autoGroups := List.drop_zero
  have hreset : ({} : RetryState).resetNextTry = false := rfl
  unfold relay distribute at h
  simp only [Option.bind_none] at h
  rw [hselect] at h
  obtain ⟨s', hfound, hnil⟩ | ⟨a, s', j, hfound, hj, hs', hreset', hvisits⟩ :=
    selectAuto_visits hcross hretries rand₀ hdrop (Nat.zero_le retries) hreset
  · rw [hfound] at h
    cases h
    rw [hnil]
    split <;> rfl
  rw [hfound] at h
  dsimp only at h
  cases fuel with
  | zero => cases h
  | succ fuel =>
    unfold relayLoop at h
    have hzero : ((({ autoGroupIndex := s'.autoGroupIndex } : RetryState).retry : Nat) : Int) ≤
        cfg.retryTimes := by
      show ((0 : Nat) : Int) ≤ _
      omega
    rw [if_pos hzero] at h
    dsimp only [getChannel] at h
    rw [if_pos (show (failing cache model requestPath rand errors 0).body = true from rfl)] at h
    rw [hvisits]
    split
    · -- the distributor stays in its group, and the loop goes on there
      rename_i hpos
      have hretry : (failing cache model requestPath rand errors 0).retries cfg
          { autoGroupIndex := s'.autoGroupIndex } = true := by
        refine herrors 0 _ ?_
        show 0 < cfg.retryTimes - ((0 : Nat) : Int)
        omega
      have hkeeps : s' = { autoGroupIndex := s'.autoGroupIndex } := by
        obtain ⟨-, -, hcases, rfl⟩ := selectAuto_spec hfound
        have hfirst : a.priorityRetry = 0 := by
          obtain ⟨-, hr⟩ | ⟨-, hr⟩ := hcases
          · exact hr
          · exact hr
        unfold RetryState.found
        rw [hfirst, if_neg (by show ¬(_ ∧ cfg.retryTimes ≤ ((0 : Nat) : Int)); omega)]
      rw [if_pos hretry] at h
      obtain ⟨l', hl', rfl⟩ := Option.map_eq_some_iff.mp h
      rw [← hkeeps] at hl'
      rw [← relayLoop_visits hcross hretries hauto herrors hj hs' hreset' hpos hl']
      rfl
    rename_i hnone
    split at h
    · obtain ⟨l', hl', rfl⟩ := Option.map_eq_some_iff.mp h
      have hnil : l' = [] := by
        by_contra hne
        have hdone := relayLoop_done hl' hne
        have hone : 1 < cfg.perGroup := hdone
        unfold RelayConfig.perGroup at hone
        omega
      rw [hnil]
      rfl
    · cases h
      rfl

end Steps

/-- If every attempt fails, the attempts take the levels of each group in descending order, each
once, and then the next group, exactly where each group with levels has one more than the retry
limit, the last at least that. -/
theorem attempts_follow_levels_iff (cache : ChannelCache) (model requestPath : String)
    (cfg : RelayConfig) (hauto : cfg.tokenGroup = "auto") (hcross : cfg.crossGroupRetry = true)
    (errors : Nat → RelayError) (herrors : ∀ k t, 0 < t → shouldRetry cfg (errors k) t = true)
    (rand : Nat → Rand) (rand₀ : Rand) (fuel : Nat)
    (hfuel : cfg.groupCount * cfg.perGroup + 1 < fuel) :
    ∃ l, relay cfg none (cachedGet cache model requestPath rand₀)
        (failing cache model requestPath rand errors) fuel = some l ∧
      (visited l <+: documented (groupLevels cache model requestPath) 0 cfg.autoGroups ↔
        cfg.retryTimes ≤ 0 ∨ LevelsFit cfg.retryTimes.toNat
            (cfg.autoGroups.map fun g => (groupLevels cache model requestPath g).length)) := by
  obtain ⟨l, hl, hlen⟩ : ∃ l, relay cfg none (cachedGet cache model requestPath rand₀)
      (failing cache model requestPath rand errors) fuel = some l ∧ _ := relay_length_le hfuel
  refine ⟨l, hl, ?_⟩
  obtain hnegative | ⟨retries, hretries⟩ : cfg.retryTimes < 0 ∨ ∃ n : Nat, cfg.retryTimes = n := by
    obtain h | h := lt_or_ge cfg.retryTimes 0
    · exact .inl h
    · exact .inr ⟨cfg.retryTimes.toNat, by omega⟩
  · -- no attempt is made
    have hnil : l = [] := by
      have hper : cfg.perGroup = 0 := by
        unfold RelayConfig.perGroup
        omega
      rw [hper] at hlen
      exact List.length_eq_zero_iff.mp (by omega)
    rw [hnil]
    exact iff_of_true List.nil_prefix (.inl (by omega))
  have hvisits := relay_visits hcross hretries hauto herrors hl
  rw [hvisits]
  split
  next hpos =>
    rw [visits_prefix_iff, hretries]
    constructor
    · exact .inr
    rintro (h | h)
    · omega
    · exact h
  next hzero =>
    refine iff_of_true ?_ (.inl (by omega))
    exact take_one_visits_prefix 0 cfg.autoGroups

end Attempts

section Example

local instance noPatterns : Regexp := ⟨fun _ _ => false⟩

def exampleCache : ChannelCache :=
  (ChannelCache.empty.sync
    [{ id := 1, models := "m", group := "a,b", priority := some 10 },
      { id := 2, models := "m", group := "a,b", priority := some 5 }]
    [⟨"a", "m", 1, true, 10, 0, none⟩, ⟨"b", "m", 1, true, 10, 0, none⟩]).getD .empty

def exampleConfig (retryTimes : Int) : RelayConfig where
  retryTimes := retryTimes
  tokenGroup := "auto"
  autoGroups := ["a", "b"]
  crossGroupRetry := true

def exampleRand : Rand := ⟨fun _ => 0, fun h => h⟩

def serverError (_ : Nat) : RelayError := {}

theorem serverError_retried (retryTimes : Int) :
    ∀ k t, 0 < t → shouldRetry (exampleConfig retryTimes) (serverError k) t = true := by
  intro k t ht
  simp [shouldRetry, exampleConfig, serverError, Int.not_le.mpr ht]

theorem example_flow_of_limit_one :
    ∃ l, relay (exampleConfig 1) none (cachedGet exampleCache "m" "" exampleRand)
        (failing exampleCache "m" "" (fun _ => exampleRand) serverError) 20 = some l ∧
      visited l <+: documented (groupLevels exampleCache "m" "") 0 ["a", "b"] := by
  have hlevels : ["a", "b"].map (fun g => (groupLevels exampleCache "m" "" g).length) = [2, 2] := by
    decide +kernel
  obtain ⟨l, hl, hiff⟩ := attempts_follow_levels_iff exampleCache "m" "" (exampleConfig 1) rfl rfl
    serverError (serverError_retried 1) (fun _ => exampleRand) exampleRand 20 (by decide)
  refine ⟨l, hl, hiff.mpr (.inr ?_)⟩
  show LevelsFit 1 (["a", "b"].map fun g => (groupLevels exampleCache "m" "" g).length)
  rw [hlevels]
  simp [LevelsFit]

/-- With the retry limit three each group is tried four times, its lowest level three times. -/
theorem example_flow_repeats_levels :
    (relay (exampleConfig 3) none (cachedGet exampleCache "m" "" exampleRand)
        (failing exampleCache "m" "" (fun _ => exampleRand) serverError) 20).map visited =
      some [(0, 10), (0, 5), (0, 5), (0, 5), (1, 10), (1, 5), (1, 5), (1, 5)] ∧
    documented (groupLevels exampleCache "m" "") 0 ["a", "b"] =
      [(0, 10), (0, 5), (1, 10), (1, 5)] := by
  decide +kernel

end Example

end ZModel.Relay
