import ZModel.Pricing.TextQuota

/-!
# Usage between OpenAI and Claude

`buildClaudeUsageFromOpenAIUsage` (`oai_chat/to_claude_messages_resp.go`) and its way back,
`UsageFromClaudeAPIUsage` (`claude_messages/to_oai_chat_resp.go`), for a usage that carries no
billing usage; the one they attach is only carried along, and is left out. OpenAI counts cached and
cache-written tokens inside the prompt, Claude beside the input.
-/

namespace ZModel.Relay

open Pricing

structure ClaudeUsage where
  inputTokens : Int
  cacheCreationInputTokens : Int
  cacheReadInputTokens : Int
  outputTokens : Int
  /-- `Ephemeral5mInputTokens` and `Ephemeral1hInputTokens`. -/
  cacheCreation : Option (Int × Int)

variable (c : ClaudeUsage)

def ClaudeUsage.cacheCreation5mTokens : Int :=
  (c.cacheCreation.map Prod.fst).getD 0

def ClaudeUsage.cacheCreation1hTokens : Int :=
  (c.cacheCreation.map Prod.snd).getD 0

def normalizeCacheCreationSplit (totalTokens tokens5m tokens1h : Int) : Int × Int :=
  (tokens5m + max (totalTokens - tokens5m - tokens1h) 0, tokens1h)

variable (u : Usage)

def buildClaudeUsageFromOpenAIUsage : ClaudeUsage :=
  let split := normalizeCacheCreationSplit u.cachedCreationTokens u.claudeCacheCreation5mTokens
    u.claudeCacheCreation1hTokens
  let cacheCreationTokens := u.cacheCreationTokensTotal
  { inputTokens :=
      if 0 < u.cacheWriteTokens then max (u.promptTokens - u.cachedTokens - cacheCreationTokens) 0
      else u.promptTokens
    cacheCreationInputTokens := cacheCreationTokens
    cacheReadInputTokens := u.cachedTokens
    outputTokens := u.completionTokens
    cacheCreation := if 0 < split.1 ∨ 0 < split.2 then some split else none }

def cacheCreationTokensForOpenAIUsage : Int :=
  let split := u.claudeCacheCreation5mTokens + u.claudeCacheCreation1hTokens
  if split = 0 then u.cachedCreationTokens
  else if split < u.cachedCreationTokens then u.cachedCreationTokens
  else split

def buildOpenAIStyleUsageFromClaudeUsage : Usage :=
  let split := normalizeCacheCreationSplit u.cachedCreationTokens u.claudeCacheCreation5mTokens
    u.claudeCacheCreation1hTokens
  let cacheCreationTokens := cacheCreationTokensForOpenAIUsage u
  let totalInputTokens := u.promptTokens + u.cachedTokens + cacheCreationTokens
  { u with
    claudeCacheCreation5mTokens := split.1
    claudeCacheCreation1hTokens := split.2
    cacheWriteTokens := cacheCreationTokens
    promptTokens := totalInputTokens
    totalTokens := totalInputTokens + u.completionTokens
    usageSemantic := "openai"
    usageSource := "anthropic" }

def usageFromClaudeAPIUsage : Usage :=
  buildOpenAIStyleUsageFromClaudeUsage
    { promptTokens := c.inputTokens
      completionTokens := c.outputTokens
      usageSemantic := "anthropic"
      usageSource := "anthropic"
      cachedTokens := c.cacheReadInputTokens
      cachedCreationTokens := c.cacheCreationInputTokens
      claudeCacheCreation5mTokens := c.cacheCreation5mTokens
      claudeCacheCreation1hTokens := c.cacheCreation1hTokens }

theorem cacheCreationTokensTotal_nonneg : 0 ≤ u.cacheCreationTokensTotal :=
  le_max_right _ _

/-- The split written down stands for the count or, where it is above it, for itself. -/
theorem max_split :
    max u.cacheCreationTokensTotal ((buildClaudeUsageFromOpenAIUsage u).cacheCreation5mTokens +
        (buildClaudeUsageFromOpenAIUsage u).cacheCreation1hTokens) =
      max u.cacheCreationTokensTotal
        (u.claudeCacheCreation5mTokens + u.claudeCacheCreation1hTokens) := by
  have hcount : u.cachedCreationTokens ≤ u.cacheCreationTokensTotal :=
    le_trans (le_max_left _ _) (le_max_left _ _)
  have hnonneg := cacheCreationTokensTotal_nonneg u
  simp only [buildClaudeUsageFromOpenAIUsage, ClaudeUsage.cacheCreation5mTokens,
    ClaudeUsage.cacheCreation1hTokens]
  split
  next hsplit =>
    simp only [normalizeCacheCreationSplit, Option.map_some, Option.getD_some]
    omega
  next hsplit =>
    simp only [normalizeCacheCreationSplit, Option.map_none, Option.getD_none] at hsplit ⊢
    omega

theorem cacheCreationTokensForOpenAIUsage_eq {u : Usage} (h : 0 ≤ u.cachedCreationTokens) :
    cacheCreationTokensForOpenAIUsage u = max u.cachedCreationTokens
      (u.claudeCacheCreation5mTokens + u.claudeCacheCreation1hTokens) := by
  simp only [cacheCreationTokensForOpenAIUsage]
  split_ifs <;> omega

/-- Usage converted to Claude's and back keeps its counts exactly if cache writes are counted or
nothing is cached, and the 5m and 1h counts do not exceed the total. -/
theorem claude_usage_agrees_iff (u : Usage) (hcached : 0 ≤ u.cachedTokens)
    (hprompt : u.cachedTokens + u.cacheCreationTokensTotal ≤ u.promptTokens) :
    let c := buildClaudeUsageFromOpenAIUsage u
    let back := usageFromClaudeAPIUsage c
    (c.inputTokens + c.cacheReadInputTokens + c.cacheCreationInputTokens = u.promptTokens ∧
      c.outputTokens = u.completionTokens ∧ back.promptTokens = u.promptTokens ∧
      back.completionTokens = u.completionTokens ∧ back.cachedTokens = u.cachedTokens ∧
      back.cacheCreationTokensTotal = u.cacheCreationTokensTotal) ↔
    (0 < u.cacheWriteTokens ∨ u.cachedTokens + u.cacheCreationTokensTotal = 0) ∧
      u.claudeCacheCreation5mTokens + u.claudeCacheCreation1hTokens ≤ u.cacheCreationTokensTotal := by
  intro c back
  have hnonneg := cacheCreationTokensTotal_nonneg u
  have hcreation : back.cacheWriteTokens = max u.cacheCreationTokensTotal
      (u.claudeCacheCreation5mTokens + u.claudeCacheCreation1hTokens) :=
    (cacheCreationTokensForOpenAIUsage_eq hnonneg).trans (max_split u)
  have htotal : back.cacheCreationTokensTotal = back.cacheWriteTokens := by
    have hcount : back.cachedCreationTokens = u.cacheCreationTokensTotal := rfl
    simp only [Usage.cacheCreationTokensTotal] at hcount hcreation hnonneg ⊢
    omega
  have hback : back.promptTokens = c.inputTokens + u.cachedTokens + back.cacheWriteTokens := rfl
  have hinput : c.inputTokens = if 0 < u.cacheWriteTokens then
      max (u.promptTokens - u.cachedTokens - u.cacheCreationTokensTotal) 0
      else u.promptTokens := rfl
  have hread : c.cacheReadInputTokens = u.cachedTokens := rfl
  have hwritten : c.cacheCreationInputTokens = u.cacheCreationTokensTotal := rfl
  rw [hback, hinput]
  constructor
  · rintro ⟨hinput, -, -, -, -, hsplit⟩
    split_ifs at hinput <;> omega
  · rintro ⟨hwrite, hsplit⟩
    refine ⟨?_, rfl, ?_, rfl, rfl, by omega⟩ <;> split_ifs <;> omega

theorem claude_usage_counts_cached_twice : (usageFromClaudeAPIUsage (buildClaudeUsageFromOpenAIUsage
      { promptTokens := 100, cachedTokens := 30 })).promptTokens = 130 := by decide

theorem claude_usage_cache_written : (usageFromClaudeAPIUsage (buildClaudeUsageFromOpenAIUsage
      { promptTokens := 100, cachedTokens := 30, cacheWriteTokens := 20 })).promptTokens = 100 :=
  ((claude_usage_agrees_iff { promptTokens := 100, cachedTokens := 30, cacheWriteTokens := 20 }
    (by decide) (by decide)).mpr (by decide)).2.2.1

end ZModel.Relay
