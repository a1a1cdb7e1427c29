import Mathlib.Logic.Function.Basic
import ZModel.Lib.Run

/-!
# OpenAI streams as Claude events

`StreamResponseOpenAI2Claude` under the handlers of `relay/channel/openai/helper.go`, which give the
last chunk to `HandleFinalResponse`. A reader accepts the events if the fragments of tool calls fit
and the last chunk ends the message (`events_wellFormed`).
-/

namespace ZModel.Relay.ClaudeStream

open Lib

variable {U : Type}

structure ToolCall where
  index : Option Int := none
  id : String := ""
  name : String := ""
  arguments : String := ""

/-- The first choice of a chunk; no finish reason is the empty one. -/
structure Choice where
  content : String := ""
  reasoning : String := ""
  toolCalls : List ToolCall := []
  finishReason : String := ""

structure Chunk (U : Type) where
  id : String := ""
  model : String := ""
  choices : List Choice := []
  usage : Option U := none

inductive BlockType where
  | text
  | thinking
  | toolUse
  deriving DecidableEq

inductive ContentBlock where
  | text
  | thinking
  | toolUse (id name : String)
  deriving DecidableEq

inductive Delta where
  | text (s : String)
  | thinking (s : String)
  | inputJson (s : String)
  deriving DecidableEq

inductive Event (U : Type) where
  | messageStart (id model : String) (inputTokens : Int)
  | blockStart (index : Int) (block : ContentBlock)
  | blockDelta (index : Int) (delta : Delta)
  | blockStop (index : Int)
  | messageDelta (usage : U) (stopReason : String)
  | messageStop
  deriving DecidableEq

def ContentBlock.type : ContentBlock → BlockType
  | .text => .text
  | .thinking => .thinking
  | .toolUse _ _ => .toolUse

def Delta.type : Delta → BlockType
  | .text _ => .text
  | .thinking _ => .thinking
  | .inputJson _ => .toolUse

structure ConvertInfo (U : Type) where
  lastMessagesType : Option BlockType := none
  index : Int := 0
  usage : Option U := none
  finishReason : String := ""
  done : Bool := false
  toolCallBaseIndex : Int := 0
  toolCallMaxIndexOffset : Int := 0

abbrev Output (U : Type) := ConvertInfo U × List (Event U)

def stopReason (finishReason : String) : String :=
  match finishReason.toLower with
  | "stop" => "end_turn"
  | "stop_sequence" => "stop_sequence"
  | "length" | "max_tokens" => "max_tokens"
  | "content_filter" => "refusal"
  | "tool_calls" => "tool_use"
  | _ => finishReason

variable (info : ConvertInfo U)

namespace ConvertInfo

def stopOpenBlocks : List (Event U) :=
  match info.lastMessagesType with
  | none => []
  | some .toolUse => (List.range (info.toolCallMaxIndexOffset + 1).toNat).map fun offset : Nat =>
    .blockStop (info.toolCallBaseIndex + offset)
  | some _ => [.blockStop info.index]

def advance : ConvertInfo U :=
  match info.lastMessagesType with
  | none => info
  | some .toolUse =>
    { info with
      index := info.toolCallBaseIndex + info.toolCallMaxIndexOffset + 1
      toolCallBaseIndex := 0
      toolCallMaxIndexOffset := 0
      lastMessagesType := none }
  | some _ => { info with index := info.index + 1, lastMessagesType := none }

def finish (usage : Option U) (reason : String) : Output U :=
  ({ info with done := true },
    info.stopOpenBlocks ++ ((usage.or info.usage).map fun u => .messageDelta u reason).toList ++
      [.messageStop])

end ConvertInfo

def inputDelta (index : Int) (arguments : String) : List (Event U) :=
  if arguments = "" then [] else [.blockDelta index (.inputJson arguments)]

/-- Reasoning comes before text; of a chunk with both only the reasoning is converted. -/
def Choice.part (choice : Choice) : Option (ContentBlock × Delta) :=
  if choice.reasoning ≠ "" then some (.thinking, .thinking choice.reasoning)
  else if choice.content ≠ "" then some (.text, .text choice.content)
  else none

/-- Of the tool calls in the first chunk only the first is converted, under the index 0. -/
def firstTool : List ToolCall → Output U
  | [] => (info, [])
  | call :: _ =>
    ({ info with
        lastMessagesType := some .toolUse, toolCallBaseIndex := 0, toolCallMaxIndexOffset := 0 },
      .blockStart 0 (.toolUse call.id call.name) :: inputDelta 0 call.arguments)

def openPart (block : ContentBlock) (delta : Delta) : Output U :=
  let next := info.advance
  ({ next with lastMessagesType := some block.type },
    info.stopOpenBlocks ++ [.blockStart next.index block, .blockDelta next.index delta])

def firstPart : Option (ContentBlock × Delta) → Output U
  | none => (info, [])
  | some (block, delta) =>
    if info.lastMessagesType = some block.type then
      (info, [.blockStart info.index block, .blockDelta info.index delta])
    else openPart info block delta

variable (promptTokens : Int)

def firstChunk (info : ConvertInfo U) (chunk : Chunk U) : Output U :=
  let start := .messageStart chunk.id chunk.model promptTokens
  match chunk.choices with
  | [] => (info, [start])
  | choice :: _ =>
    let (info, tool) := firstTool info choice.toolCalls
    let (info, part) := firstPart info choice.part
    if choice.finishReason = "" then (info, start :: (tool ++ part))
    else
      let info := { info with finishReason := choice.finishReason }
      let (info, ends) := info.finish chunk.usage (stopReason info.finishReason)
      (info, start :: (tool ++ part) ++ ends)

def ToolCall.offset (call : ToolCall) (i : Nat) : Int := call.index.getD i

def toolFragments (base : Int) : Nat → Int → List ToolCall → Int × List (Event U)
  | _, maxOffset, [] => (maxOffset, [])
  | i, maxOffset, call :: calls =>
    let offset := call.offset i
    let (maxOffset, events) := toolFragments base (i + 1) (max maxOffset offset) calls
    (maxOffset,
      (if call.name ≠ "" then [.blockStart (base + offset) (.toolUse call.id call.name)] else []) ++
        inputDelta (base + offset) call.arguments ++ events)

section

variable (info : ConvertInfo U)

/-- Tool calls that come after something else are a new group. -/
def openGroup : Output U :=
  if info.lastMessagesType = some .toolUse then (info, [])
  else
    ({ info.advance with
        lastMessagesType := some .toolUse
        toolCallBaseIndex := info.advance.index
        toolCallMaxIndexOffset := 0 },
      info.stopOpenBlocks)

def laterTools (calls : List ToolCall) : Output U :=
  let (info, stops) := openGroup info
  let base := info.toolCallBaseIndex
  let (maxOffset, events) := toolFragments base 0 info.toolCallMaxIndexOffset calls
  ({ info with toolCallMaxIndexOffset := maxOffset, index := base + maxOffset }, stops ++ events)

def laterPart : Option (ContentBlock × Delta) → Output U
  | none => (info, [])
  | some (block, delta) =>
    if info.lastMessagesType = some block.type then (info, [.blockDelta info.index delta])
    else openPart info block delta

def laterContent (choice : Choice) : Output U :=
  if choice.toolCalls = [] then laterPart info choice.part else laterTools info choice.toolCalls

def laterChunk (chunk : Chunk U) : Output U :=
  match chunk.choices with
  | [] =>
    if chunk.usage.or info.usage = none then (info, [])
    else
      let reason := stopReason info.finishReason
      info.finish chunk.usage (if reason = "" then "end_turn" else reason)
  | choice :: _ =>
    if choice.finishReason = "" then laterContent info choice
    else
      let info := { info with finishReason := choice.finishReason }
      -- Without a usage of its own the chunk does not end the message, whatever usage is known.
      if chunk.usage = none then (info, [])
      else
        let (info, events) := laterContent info choice
        let (info, ends) := info.finish chunk.usage (stopReason info.finishReason)
        (info, events ++ ends)

end

def streamResponseOpenAI2Claude (sendResponseCount : Nat)
    (info : ConvertInfo U) (chunk : Chunk U) : Output U :=
  if info.done then (info, [])
  else if sendResponseCount = 1 then firstChunk promptTokens info chunk
  else laterChunk info chunk

structure Stream (U : Type) where
  sendResponseCount : Nat := 0
  info : ConvertInfo U := {}
  events : List (Event U) := []

def Stream.handleClaudeFormat (s : Stream U) (chunk : Chunk U) : Stream U :=
  let sendResponseCount := s.sendResponseCount + 1
  let info := { s.info with usage := chunk.usage.or s.info.usage }
  let (info, events) := streamResponseOpenAI2Claude promptTokens sendResponseCount info chunk
  ⟨sendResponseCount, info, s.events ++ events⟩

def Stream.handleFinalResponse (s : Stream U) (chunk : Chunk U) (usage : U) : Stream U :=
  let info := { s.info with usage := some usage }
  let (info, events) := streamResponseOpenAI2Claude promptTokens s.sendResponseCount info chunk
  ⟨s.sendResponseCount, { info with done := true }, s.events ++ events⟩

def claudeEvents (chunks : List (Chunk U)) (last : Chunk U) (usage : U) : List (Event U) :=
  ((run (Stream.handleClaudeFormat promptTokens) {} chunks).handleFinalResponse
    promptTokens last usage).events

inductive BlockState where
  | unopened
  | opened (type : BlockType)
  | closed

structure Reader where
  started : Bool := false
  stopped : Bool := false
  blocks : Int → BlockState := fun _ => .unopened

variable (r : Reader)

def Reader.read : Event U → Reader
  | .messageStart _ _ _ => { r with started := true }
  | .blockStart i block => { r with blocks := Function.update r.blocks i (.opened block.type) }
  | .blockDelta _ _ => r
  | .blockStop i => { r with blocks := Function.update r.blocks i .closed }
  | .messageDelta _ _ => r
  | .messageStop => { r with stopped := true }

/-- The message is started once; within it blocks are started once, get deltas of their type and
are stopped once. -/
def Reader.Accepts : Event U → Prop
  | .messageStart _ _ _ => r.started = false
  | event => (r.started = true ∧ r.stopped = false) ∧
    match event with
    | .blockStart i _ => r.blocks i = .unopened
    | .blockDelta i delta => r.blocks i = .opened delta.type
    | .blockStop i => ∃ type, r.blocks i = .opened type
    | _ => True

structure WellFormed (events : List (Event U)) : Prop where
  accepted : Along Reader.read Reader.Accepts {} events
  started : (run Reader.read {} events).started = true
  closed : ∀ i type, (run Reader.read {} events).blocks i ≠ .opened type

def Emits (events : List (Event U)) (r' : Reader) : Prop :=
  Along Reader.read Reader.Accepts r events ∧ run Reader.read r events = r'

section Reading

variable {r r' r'' : Reader} {xs ys : List (Event U)} {low high i : Int} {type : BlockType}

theorem Emits.nil : Emits r ([] : List (Event U)) r := ⟨trivial, rfl⟩

theorem Emits.append (h : Emits r xs r') (h' : Emits r' ys r'') : Emits r (xs ++ ys) r'' := by
  obtain ⟨hxs, rfl⟩ := h
  obtain ⟨hys, rfl⟩ := h'
  exact ⟨(along_append _).mpr ⟨hxs, hys⟩, run_append _ _ _ _⟩

/-- Within a message: the blocks below `low` are closed, those up to `high` are open. -/
def reading (low high : Int) (type : BlockType) : Reader where
  started := true
  blocks i := if i < 0 ∨ high ≤ i then .unopened else if i < low then .closed else .opened type

theorem reading_self (low : Int) (type type' : BlockType) :
    reading low low type = reading low low type' := by
  unfold reading
  congr
  funext i
  split
  · rfl
  · rw [if_pos (by omega), if_pos (by omega)]

theorem reading_closed (low : Int) (type : BlockType) (i : Int) (type' : BlockType) :
    (reading low low type).blocks i ≠ .opened type' := by
  unfold reading
  dsimp only
  split
  · nofun
  · rw [if_pos (by omega)]
    nofun

theorem emits_start (hlow : 0 ≤ low) (hle : low ≤ high) {block : ContentBlock}
    (htype : block.type = type) :
    Emits (reading low high type) [(.blockStart high block : Event U)]
      (reading low (high + 1) type) := by
  refine ⟨⟨⟨⟨rfl, rfl⟩, if_pos (.inr (Int.le_refl high))⟩, trivial⟩, ?_⟩
  show Reader.mk true false (Function.update _ high (.opened block.type)) = _
  unfold reading
  congr
  funext i
  grind

theorem emits_delta (hlow : 0 ≤ low) (hle : low ≤ i) (hlt : i < high) {delta : Delta}
    (htype : delta.type = type) :
    Emits (reading low high type) [(.blockDelta i delta : Event U)] (reading low high type) := by
  refine ⟨⟨⟨⟨rfl, rfl⟩, ?_⟩, trivial⟩, rfl⟩
  show (if i < 0 ∨ high ≤ i then _ else _) = _
  rw [if_neg (by omega), if_neg (by omega), htype]

theorem emits_inputDelta (hlow : 0 ≤ low) (hle : low ≤ i) (hlt : i < high) (arguments : String) :
    Emits (reading low high .toolUse) (inputDelta i arguments : List (Event U))
      (reading low high .toolUse) := by
  unfold inputDelta
  split
  · exact .nil
  · exact emits_delta hlow hle hlt rfl

theorem emits_stop (hlow : 0 ≤ low) (hlt : low < high) :
    Emits (reading low high type) [(.blockStop low : Event U)] (reading (low + 1) high type) := by
  refine ⟨⟨⟨⟨rfl, rfl⟩, type, ?_⟩, trivial⟩, ?_⟩
  · show (if low < 0 ∨ high ≤ low then _ else _) = _
    rw [if_neg (by omega), if_neg (by omega)]
  show Reader.mk true false (Function.update _ low .closed) = _
  unfold reading
  congr
  funext i
  grind

theorem emits_stops (type : BlockType) (hlow : 0 ≤ low) (n : Nat) :
    Emits (reading low (low + n) type)
      ((List.range n).map fun offset : Nat => (.blockStop (low + offset) : Event U))
      (reading (low + n) (low + n) type) := by
  -- the first `m` blocks are stopped
  have hstops : ∀ m ≤ n, Emits (reading low (low + n) type)
      ((List.range m).map fun offset : Nat => (.blockStop (low + offset) : Event U))
      (reading (low + m) (low + n) type) := by
    intro m hm
    induction m with
    | zero =>
      rw [show low + ((0 : Nat) : Int) = low by omega]
      exact .nil
    | succ m ih =>
      rw [List.range_succ, List.map_append, show low + ((m + 1 : Nat) : Int) = low + m + 1 by omega]
      exact (ih (by omega)).append (emits_stop (by omega) (by omega))
  exact hstops n (Nat.le_refl n)

end Reading

namespace ConvertInfo

def low : Int :=
  if info.lastMessagesType = some .toolUse then info.toolCallBaseIndex else info.index

def high : Int :=
  match info.lastMessagesType with
  | none => info.index
  | some .toolUse => info.toolCallBaseIndex + info.toolCallMaxIndexOffset + 1
  | some _ => info.index + 1

def reader : Reader :=
  reading info.low info.high (info.lastMessagesType.getD .text)

/-- The message is not ended, and an open group has a block. -/
structure Running (info : ConvertInfo U) : Prop where
  done : info.done = false
  low : 0 ≤ info.low
  le : info.low ≤ info.high
  lt : info.lastMessagesType = some .toolUse → info.low < info.high

end ConvertInfo

structure Goes (info : ConvertInfo U) (events : List (Event U)) (info' : ConvertInfo U) : Prop where
  running : info'.Running
  emits : Emits info.reader events info'.reader

/-- The events lead to the state, or to the end of the message with nothing open. -/
inductive Leads (r : Reader) (events : List (Event U)) (info : ConvertInfo U) : Prop where
  | running (h : info.Running) (hemits : Emits r events info.reader)
  | ended (hdone : info.done = true) (low : Int) (type : BlockType)
      (hemits : Emits r events { reading low low type with stopped := true })

section States

variable {info info' : ConvertInfo U} {events : List (Event U)}

theorem stopOpenBlocks_eq (info : ConvertInfo U) :
    info.stopOpenBlocks = (List.range (info.high - info.low).toNat).map fun offset : Nat =>
      .blockStop (info.low + offset) := by
  unfold ConvertInfo.stopOpenBlocks ConvertInfo.high ConvertInfo.low
  split <;> rename_i htype <;> simp [htype]
  · congr 2
    omega
  rename_i hne
  rw [if_neg hne, show info.index + 1 - info.index = 1 by omega]
  simp

theorem advance_eq (info : ConvertInfo U) :
    info.advance.index = info.high ∧ info.advance.done = info.done := by
  unfold ConvertInfo.advance ConvertInfo.high
  split <;> exact ⟨rfl, rfl⟩

theorem emits_stopOpenBlocks (h : info.Running) (type : BlockType) :
    Emits info.reader info.stopOpenBlocks (reading info.high info.high type) := by
  have hle := h.le
  have hstops := emits_stops (U := U) (info.lastMessagesType.getD .text) h.low
    (info.high - info.low).toNat
  rw [show info.low + (info.high - info.low).toNat = info.high by omega] at hstops
  rw [stopOpenBlocks_eq, reading_self _ type]
  exact hstops

theorem leads_finish (h : info.Running) (usage : Option U) (reason : String) :
    Leads info.reader (info.finish usage reason).2 (info.finish usage reason).1 := by
  have hstops := emits_stopOpenBlocks h .text
  refine .ended rfl info.high .text
    ((hstops.append ?_).append ⟨⟨⟨⟨rfl, rfl⟩, trivial⟩, trivial⟩, rfl⟩)
  cases usage.or info.usage with
  | none => exact .nil
  | some u => exact ⟨⟨⟨⟨rfl, rfl⟩, trivial⟩, trivial⟩, rfl⟩

theorem Leads.append {r : Reader} {xs ys : List (Event U)} (h : Leads r xs info)
    (hdone : info.done = false) (h' : Leads info.reader ys info') : Leads r (xs ++ ys) info' := by
  cases h with
  | running _ hemits =>
    cases h' with
    | running h' hemits' => exact .running h' (hemits.append hemits')
    | ended hdone' low type hemits' => exact .ended hdone' low type (hemits.append hemits')
  | ended hended => cases hdone.symm.trans hended

theorem Choice.part_type {choice : Choice} {block : ContentBlock} {delta : Delta}
    (h : choice.part = some (block, delta)) :
    delta.type = block.type ∧ block.type ≠ .toolUse := by
  unfold Choice.part at h
  split at h
  · cases h
    exact ⟨rfl, nofun⟩
  split at h
  · cases h
    exact ⟨rfl, nofun⟩
  · cases h

theorem low_high_content {type : BlockType} (htype : info.lastMessagesType = some type)
    (hne : type ≠ .toolUse) : info.low = info.index ∧ info.high = info.index + 1 := by
  unfold ConvertInfo.low ConvertInfo.high
  rw [htype]
  cases type with
  | toolUse => exact absurd rfl hne
  | text | thinking => exact ⟨rfl, rfl⟩

theorem goes_openPart (h : info.Running) {block : ContentBlock} {delta : Delta}
    (htype : delta.type = block.type) (hne : block.type ≠ .toolUse) :
    Goes info (openPart info block delta).2 (openPart info block delta).1 := by
  obtain ⟨hindex, hdone⟩ := advance_eq info
  have hle := Int.le_trans h.low h.le
  obtain ⟨hlow, hhigh⟩ : (openPart info block delta).1.low = info.advance.index ∧
      (openPart info block delta).1.high = info.advance.index + 1 := low_high_content rfl hne
  refine ⟨⟨hdone.trans h.done, by omega, by omega, fun _ => by omega⟩, ?_⟩
  refine (emits_stopOpenBlocks h block.type).append ?_
  unfold ConvertInfo.reader
  rw [hlow, hhigh, hindex]
  exact (emits_start hle (Int.le_refl _) rfl).append
    (emits_delta hle (Int.le_refl _) (by omega) htype)

theorem goes_laterPart (h : info.Running) (choice : Choice) :
    Goes info (laterPart info choice.part).2 (laterPart info choice.part).1 := by
  cases hpart : choice.part with
  | none => exact ⟨h, .nil⟩
  | some part =>
    obtain ⟨block, delta⟩ := part
    obtain ⟨htype, hne⟩ := Choice.part_type hpart
    unfold laterPart
    dsimp only
    split
    next hsame =>
      obtain ⟨hlow, hhigh⟩ := low_high_content hsame hne
      refine ⟨h, ?_⟩
      unfold ConvertInfo.reader
      rw [hsame]
      exact emits_delta h.low (by omega) (by omega) htype
    · exact goes_openPart h htype hne

/-! ## Fragments of tool calls -/

/-- `n` blocks of the group are started: a name starts the next one, and arguments without a name
are for one of them. -/
def ToolCallsFit : Nat → Nat → List ToolCall → Prop
  | _, _, [] => True
  | n, i, call :: calls =>
    if call.name ≠ "" then call.offset i = n ∧ ToolCallsFit (n + 1) (i + 1) calls
    else (0 ≤ call.offset i ∧ call.offset i < n) ∧ ToolCallsFit n (i + 1) calls

theorem emits_toolFragments {base : Int} (hbase : 0 ≤ base) {n i : Nat} {calls : List ToolCall}
    (h : ToolCallsFit n i calls) (hcalls : n ≠ 0 ∨ calls ≠ []) :
    ∃ m : Nat, (toolFragments (U := U) base i ((n - 1 : Nat) : Int) calls).1 = m ∧
      Emits (reading base (base + n) .toolUse)
        (toolFragments (U := U) base i ((n - 1 : Nat) : Int) calls).2
        (reading base (base + m + 1) .toolUse) := by
  induction calls generalizing n i with
  | nil =>
    obtain ⟨m, rfl⟩ := Nat.exists_eq_succ_of_ne_zero (hcalls.resolve_right fun hne => hne rfl)
    refine ⟨m, rfl, ?_⟩
    rw [show base + ((m + 1 : Nat) : Int) = base + m + 1 by omega]
    exact .nil
  | cons call calls ih =>
    unfold ToolCallsFit at h
    unfold toolFragments
    dsimp only
    split at h
    next hname =>
      obtain ⟨hoffset, hrest⟩ := h
      obtain ⟨m, hmax, hemits⟩ := ih hrest (.inl (Nat.succ_ne_zero n))
      have hnext : max ((n - 1 : Nat) : Int) (call.offset i) = ((n + 1 - 1 : Nat) : Int) := by
        omega
      have hstart : Emits (U := U) (reading base (base + n) .toolUse)
          [.blockStart (base + n) (.toolUse call.id call.name)]
          (reading base (base + n + 1) .toolUse) := emits_start hbase (by omega) rfl
      rw [show base + ((n + 1 : Nat) : Int) = base + n + 1 by omega] at hemits
      rw [hnext, hoffset, if_pos hname]
      exact ⟨m, hmax,
        (hstart.append (emits_inputDelta hbase (by omega) (by omega) _)).append hemits⟩
    rename_i hname
    obtain ⟨⟨hnonneg, hlt⟩, hrest⟩ := h
    obtain ⟨m, hmax, hemits⟩ := ih hrest (.inl (by omega))
    have hnext : max ((n - 1 : Nat) : Int) (call.offset i) = ((n - 1 : Nat) : Int) := by omega
    rw [hnext, if_neg hname]
    exact ⟨m, hmax, (emits_inputDelta hbase (by omega) (by omega) _).append hemits⟩

def ConvertInfo.toolBlocks (info : ConvertInfo U) : Nat :=
  if info.lastMessagesType = some .toolUse then (info.toolCallMaxIndexOffset + 1).toNat else 0

theorem low_high_tools (htype : info.lastMessagesType = some .toolUse) :
    info.low = info.toolCallBaseIndex ∧
      info.high = info.toolCallBaseIndex + info.toolCallMaxIndexOffset + 1 := by
  unfold ConvertInfo.low ConvertInfo.high
  rw [htype]
  exact ⟨rfl, rfl⟩

/-- A group before the fragments of a chunk: its last block, if it has one, and its reader. -/
theorem openGroup_spec (h : info.Running) :
    ∃ group, (openGroup info).1 = group ∧ group.lastMessagesType = some .toolUse ∧
      group.done = false ∧ 0 ≤ group.toolCallBaseIndex ∧
      group.toolCallMaxIndexOffset = ((info.toolBlocks - 1 : Nat) : Int) ∧
      Emits info.reader (openGroup info).2 (reading group.toolCallBaseIndex
        (group.toolCallBaseIndex + info.toolBlocks) .toolUse) := by
  refine ⟨_, rfl, ?_⟩
  unfold openGroup ConvertInfo.toolBlocks
  by_cases hsame : info.lastMessagesType = some .toolUse
  · obtain ⟨hlow, hhigh⟩ := low_high_tools hsame
    have hnonneg := h.low
    have hlt := h.lt hsame
    rw [if_pos hsame, if_pos hsame]
    refine ⟨hsame, h.done, by dsimp only; omega, by dsimp only; omega, ?_⟩
    have hreader : info.reader = reading info.toolCallBaseIndex
        (info.toolCallBaseIndex + (info.toolCallMaxIndexOffset + 1).toNat) .toolUse := by
      unfold ConvertInfo.reader
      rw [hlow, hhigh, hsame, Int.toNat_of_nonneg (by omega), Int.add_assoc]
      rfl
    rw [hreader]
    exact .nil
  obtain ⟨hindex, hdone⟩ := advance_eq info
  rw [if_neg hsame, if_neg hsame]
  refine ⟨rfl, hdone.trans h.done, hindex ▸ Int.le_trans h.low h.le, rfl, ?_⟩
  rw [show info.advance.index + ((0 : Nat) : Int) = info.high by omega]
  exact hindex ▸ emits_stopOpenBlocks h .toolUse

theorem goes_laterTools (h : info.Running) {calls : List ToolCall}
    (hfit : ToolCallsFit info.toolBlocks 0 calls) (hcalls : calls ≠ []) :
    Goes info (laterTools info calls).2 (laterTools info calls).1 := by
  obtain ⟨group, hgroup, htype, hdone, hbase, hoffset, hstops⟩ := openGroup_spec h
  obtain ⟨m, hmax, hemits⟩ := emits_toolFragments (U := U) hbase hfit (.inr hcalls)
  rw [← hoffset] at hmax hemits
  unfold laterTools
  dsimp only
  rw [hgroup, hmax]
  let next : ConvertInfo U :=
    { group with toolCallMaxIndexOffset := m, index := group.toolCallBaseIndex + m }
  obtain ⟨hlow, hhigh⟩ : next.low = group.toolCallBaseIndex ∧
      next.high = group.toolCallBaseIndex + m + 1 := low_high_tools htype
  show Goes info _ next
  refine ⟨⟨hdone, by omega, by omega, fun _ => by omega⟩, ?_⟩
  unfold ConvertInfo.reader
  rw [hlow, hhigh, show next.lastMessagesType = _ from htype]
  exact hstops.append hemits

/-- The tool calls of the chunk go on with the open group, or are a group of their own. -/
def ConvertInfo.Fits (info : ConvertInfo U) (chunk : Chunk U) : Prop :=
  ∀ choice ∈ chunk.choices.head?, ToolCallsFit info.toolBlocks 0 choice.toolCalls

theorem ConvertInfo.Running.withReason (h : info.Running) (reason : String) :
    ConvertInfo.Running { info with finishReason := reason } :=
  ⟨h.done, h.low, h.le, h.lt⟩

theorem goes_laterContent (h : info.Running) {choice : Choice}
    (hfit : ToolCallsFit info.toolBlocks 0 choice.toolCalls) :
    Goes info (laterContent info choice).2 (laterContent info choice).1 := by
  unfold laterContent
  split
  · exact goes_laterPart h choice
  next hcalls =>
    exact goes_laterTools h hfit hcalls

theorem leads_laterChunk (h : info.Running) {chunk : Chunk U} (hfit : info.Fits chunk) :
    Leads info.reader (laterChunk info chunk).2 (laterChunk info chunk).1 := by
  unfold laterChunk
  cases hchoices : chunk.choices with
  | nil =>
    dsimp only
    split
    · exact .running h .nil
    · exact leads_finish h _ _
  | cons choice rest =>
    have hcalls := hfit choice (by rw [hchoices]; rfl)
    dsimp only
    split
    · have hgoes := goes_laterContent h hcalls
      exact .running hgoes.running hgoes.emits
    have h' := h.withReason choice.finishReason
    split
    · exact .running h' .nil
    have hgoes := goes_laterContent h' hcalls
    exact .append (.running hgoes.running hgoes.emits) hgoes.running.done
      (leads_finish hgoes.running _ _)

structure ConvertInfo.Fresh (info : ConvertInfo U) : Prop where
  type : info.lastMessagesType = none
  index : info.index = 0
  done : info.done = false

theorem ConvertInfo.Fresh.running (h : info.Fresh) : info.Running ∧ info.reader = reading 0 0 .text := by
  have hlow : info.low = 0 ∧ info.high = 0 := by
    unfold ConvertInfo.low ConvertInfo.high
    rw [h.type, h.index]
    exact ⟨rfl, rfl⟩
  refine ⟨⟨h.done, by omega, by omega, ?_⟩, ?_⟩
  · rw [h.type]
    nofun
  unfold ConvertInfo.reader
  rw [hlow.1, hlow.2, h.type]
  rfl

theorem goes_firstTool (h : info.Fresh) (calls : List ToolCall) :
    Goes info (firstTool info calls).2 (firstTool info calls).1 := by
  obtain ⟨hrunning, hreader⟩ := h.running
  cases calls with
  | nil => exact ⟨hrunning, .nil⟩
  | cons call calls =>
    refine ⟨⟨h.done, Int.le_refl 0, Int.zero_le_ofNat 1, fun _ => Int.zero_lt_one⟩, ?_⟩
    have hstart : Emits (U := U) (reading 0 0 .toolUse)
        [.blockStart 0 (.toolUse call.id call.name)] (reading 0 1 .toolUse) :=
      emits_start (Int.le_refl 0) (Int.le_refl 0) rfl
    rw [hreader, reading_self 0 .text .toolUse]
    exact hstart.append (emits_inputDelta (Int.le_refl 0) (Int.le_refl 0) (by omega) _)

theorem goes_firstPart (h : info.Running) (choice : Choice)
    (htype : info.lastMessagesType = none ∨ info.lastMessagesType = some .toolUse) :
    Goes info (firstPart info choice.part).2 (firstPart info choice.part).1 := by
  cases hpart : choice.part with
  | none => exact ⟨h, .nil⟩
  | some part =>
    obtain ⟨block, delta⟩ := part
    obtain ⟨hdelta, hne⟩ := Choice.part_type hpart
    have hother : ¬info.lastMessagesType = some block.type := by
      obtain htype | htype := htype
      · rw [htype]
        nofun
      · rw [htype]
        exact fun heq => hne (Option.some.inj heq).symm
    unfold firstPart
    dsimp only
    rw [if_neg hother]
    exact goes_openPart h hdelta hne

theorem leads_firstChunk (h : info.Fresh) (promptTokens : Int) (chunk : Chunk U) :
    Leads {} (firstChunk promptTokens info chunk).2 (firstChunk promptTokens info chunk).1 := by
  obtain ⟨hrunning, hreader⟩ := h.running
  have hstart : Emits {} [(.messageStart chunk.id chunk.model promptTokens : Event U)]
      info.reader := by
    refine ⟨⟨rfl, trivial⟩, ?_⟩
    rw [hreader]
    refine congrArg (Reader.mk true false) (funext fun i => (if_pos ?_).symm)
    omega
  unfold firstChunk
  cases chunk.choices with
  | nil => exact .running hrunning hstart
  | cons choice rest =>
    have htool := goes_firstTool h choice.toolCalls
    have htype : (firstTool info choice.toolCalls).1.lastMessagesType = none ∨
        (firstTool info choice.toolCalls).1.lastMessagesType = some .toolUse := by
      cases choice.toolCalls with
      | nil => exact .inl h.type
      | cons call calls => exact .inr rfl
    have hpart := goes_firstPart htool.running choice htype
    have hemits := hstart.append (htool.emits.append hpart.emits)
    dsimp only
    split
    · exact .running hpart.running hemits
    · have h' := hpart.running.withReason choice.finishReason
      exact .append (.running h' hemits) h'.done (leads_finish h' _ _)

end States

section Streams

variable {promptTokens : Int} {s : Stream U} {chunk : Chunk U} {info : ConvertInfo U}
  {events : List (Event U)} {r : Reader}

theorem Leads.withUsage (h : Leads r events info) (usage : Option U) :
    Leads r events { info with usage } := by
  cases h with
  | running h hemits => exact .running ⟨h.done, h.low, h.le, h.lt⟩ hemits
  | ended hdone low type hemits => exact .ended hdone low type hemits

theorem leads_convert {count : Nat} (h : Leads r events info)
    (hfit : info.done = true ∨ count ≠ 1 ∧ info.Fits chunk) :
    Leads r (events ++ (streamResponseOpenAI2Claude promptTokens count info chunk).2)
      (streamResponseOpenAI2Claude promptTokens count info chunk).1 := by
  unfold streamResponseOpenAI2Claude
  split
  · rw [List.append_nil]
    exact h
  rename_i hdone
  obtain ⟨hcount, hfit⟩ := hfit.resolve_left hdone
  rw [if_neg hcount]
  cases h with
  | ended hended => exact absurd hended hdone
  | running h hemits => exact .append (.running h hemits) h.done (leads_laterChunk h hfit)

/-- The tool calls fit; those of the first chunk may be any. -/
def ChunkFits (s : Stream U) (chunk : Chunk U) : Prop :=
  s.sendResponseCount = 0 ∨ s.info.done = true ∨ s.info.Fits chunk

/-- The last chunk ends the message, if it is not ended, and two chunks have come before. -/
def LastFits (s : Stream U) (last : Chunk U) : Prop :=
  s.info.done = true ∨ 1 < s.sendResponseCount ∧ s.info.Fits last ∧
    ∀ choice ∈ last.choices.head?, choice.finishReason ≠ "" ∧ last.usage ≠ none

inductive Follows (s : Stream U) : Prop where
  | start (hcount : s.sendResponseCount = 0) (h : s.info.Fresh) (hevents : s.events = [])
  | later (hcount : s.sendResponseCount ≠ 0) (h : Leads {} s.events s.info)

theorem follows_step (h : Follows s) (hfit : ChunkFits s chunk) :
    Follows (s.handleClaudeFormat promptTokens chunk) := by
  refine .later (Nat.succ_ne_zero _) ?_
  unfold Stream.handleClaudeFormat
  dsimp only
  cases h with
  | start hcount h hevents =>
    have hfresh : ConvertInfo.Fresh { s.info with usage := chunk.usage.or s.info.usage } :=
      ⟨h.type, h.index, h.done⟩
    rw [hevents, streamResponseOpenAI2Claude, if_neg (by simp [h.done]), if_pos (by omega)]
    exact leads_firstChunk hfresh promptTokens chunk
  | later hcount h =>
    refine leads_convert (h.withUsage _) ((hfit.resolve_left hcount).imp_right fun hfit => ?_)
    exact ⟨by omega, hfit⟩

theorem laterChunk_done {last : Chunk U} {usage : U}
    (h : ∀ choice ∈ last.choices.head?, choice.finishReason ≠ "" ∧ last.usage ≠ none) :
    (laterChunk { info with usage := some usage } last).1.done = true := by
  unfold laterChunk
  cases hchoices : last.choices with
  | nil =>
    rw [if_neg]
    · rfl
    · cases last.usage <;> nofun
  | cons choice rest =>
    obtain ⟨hreason, husage⟩ := h choice (by rw [hchoices]; rfl)
    dsimp only
    rw [if_neg hreason, if_neg husage]
    rfl

end Streams

/-- Every stream whose chunks fit gives well-formed events. -/
theorem events_wellFormed (promptTokens : Int) {chunks : List (Chunk U)} {last : Chunk U}
    (usage : U) (hchunks : Along (Stream.handleClaudeFormat promptTokens) ChunkFits {} chunks)
    (hlast : LastFits (run (Stream.handleClaudeFormat promptTokens) {} chunks) last) :
    WellFormed (claudeEvents promptTokens chunks last usage) := by
  have hfollows := run_invariant (Stream.handleClaudeFormat promptTokens) Follows
    (fun _ _ hs hfit => follows_step hs hfit) (.start rfl ⟨rfl, rfl, rfl⟩ rfl) hchunks
  unfold claudeEvents Stream.handleFinalResponse
  generalize run (Stream.handleClaudeFormat promptTokens) {} chunks = s at hfollows hlast ⊢
  dsimp only
  cases hfollows with
  | start hcount h _ =>
    obtain hdone | ⟨hmore, -⟩ := hlast
    · cases hdone.symm.trans h.done
    · omega
  | later _ h =>
    obtain ⟨info', events', hconvert⟩ : ∃ info' events', streamResponseOpenAI2Claude promptTokens
        s.sendResponseCount { s.info with usage := some usage } last = (info', events') :=
      ⟨_, _, rfl⟩
    have hdone : info'.done = true := by
      rw [show info' = _ from (congrArg Prod.fst hconvert).symm]
      unfold streamResponseOpenAI2Claude
      split
      · assumption
      rename_i hdone
      obtain ⟨hmore, -, hends⟩ := hlast.resolve_left hdone
      rw [if_neg (by omega)]
      exact laterChunk_done hends
    have hleads : Leads {} (s.events ++ events') info' := by
      rw [show events' = _ from (congrArg Prod.snd hconvert).symm,
        show info' = _ from (congrArg Prod.fst hconvert).symm]
      exact leads_convert (h.withUsage (some usage)) (hlast.imp_right fun h => ⟨by omega, h.2.1⟩)
    rw [hconvert]
    cases hleads with
    | running h _ => cases hdone.symm.trans h.done
    | ended _ low type hemits =>
      refine ⟨hemits.1, ?_, fun i type' => ?_⟩
      · rw [hemits.2]
        rfl
      · rw [hemits.2]
        exact reading_closed low type i type'

/-- Text, a finish reason and the usage, in three chunks. -/
theorem events_wellFormed_sample : WellFormed (claudeEvents 7 [{ choices := [{ content := "Hi" }] },
      { choices := [{ finishReason := "stop" }] }] { usage := some () } ()) := by
  refine events_wellFormed 7 () ⟨.inl rfl, .inr (.inr ?_), trivial⟩ (.inr ⟨by decide, ?_, ?_⟩)
  · rintro choice ⟨⟩
    trivial
  · nofun
  · nofun

/-- Two chunks start the message twice, and a last chunk with a finish reason but without a usage
leaves the block open. -/
theorem two_chunks_not_wellFormed :
    ¬WellFormed (claudeEvents 7 [{ choices := [{ content := "Hi" }] }]
        { choices := [{ finishReason := "stop" }] } ()) ∧
      ¬WellFormed (claudeEvents 7 [{ choices := [{ content := "Hi" }] },
        { choices := [{ content := " there" }] }] { choices := [{ finishReason := "stop" }] } ()) := by
  have htwice : claudeEvents 7 [{ choices := [{ content := "Hi" }] }]
        { choices := [{ finishReason := "stop" }] } () =
      [.messageStart "" "" 7, .blockStart 0 .text, .blockDelta 0 (.text "Hi"),
        .messageStart "" "" 7, .blockStop 0, .messageDelta () "end_turn", .messageStop] := by
    decide +kernel
  have hopen : claudeEvents 7 [{ choices := [{ content := "Hi" }] },
        { choices := [{ content := " there" }] }] { choices := [{ finishReason := "stop" }] } () =
      [.messageStart "" "" 7, .blockStart 0 .text, .blockDelta 0 (.text "Hi"),
        .blockDelta 0 (.text " there")] := by
    decide +kernel
  exact ⟨fun h => Bool.noConfusion h.accepted.2.2.2.1, fun h => h.closed 0 .text rfl⟩

end ZModel.Relay.ClaudeStream
