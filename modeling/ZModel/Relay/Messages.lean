import Mathlib.Data.List.Nodup
import ZModel.Relay.ClaudeStream

/-!
# Converted streams and converted messages

A client puts the chunks of an OpenAI stream together: texts are joined, and fragments of tool calls
are joined by their index (`assemble`). A stream is converted chunk by chunk, to Gemini by
`to_gemini_chat_resp.go` and from Claude by `to_oai_chat_resp.go`, and a whole message by another
function of the same file; the results are compared.
-/

namespace ZModel.Relay.Messages

open ClaudeStream (ToolCall)
open Prod (snd fst)
open List

/-- A choice of a chunk. A delta may have an empty list of tool calls, or none. -/
structure Choice where
  content : Option String := none
  reasoning : Option String := none
  toolCalls : Option (List ToolCall) := none
  finishReason : Option String := none

def Choice.text (c : Choice) : String := c.content.getD ""

def Choice.fragments (c : Choice) : List ToolCall := c.toolCalls.getD []

structure Call where
  id : String
  name : String
  arguments : String
  deriving DecidableEq

structure Message where
  text : String
  reasoning : String
  toolCalls : List Call
  finishReason : Option String

def entry (f : ToolCall) : Option Int × Call := (f.index, ⟨f.id, f.name, f.arguments⟩)

def addFragment (f : ToolCall) : List (Option Int × Call) → List (Option Int × Call)
  | [] => [entry f]
  | (k, c) :: cs =>
    if k = f.index then (k, ⟨c.id ++ f.id, c.name ++ f.name, c.arguments ++ f.arguments⟩) :: cs
    else (k, c) :: addFragment f cs

def assembleCalls (cs : List (Option Int × Call)) (fs : List ToolCall) : List (Option Int × Call) :=
  fs.foldl (fun cs f => addFragment f cs) cs

def assemble (choices : List Choice) : Message where
  text := String.join (choices.map Choice.text)
  reasoning := String.join (choices.map fun c => c.reasoning.getD "")
  toolCalls := (assembleCalls [] (choices.flatMap Choice.fragments)).map snd
  finishReason := (choices.filterMap Choice.finishReason).getLast?

variable {cs : List (Option Int × Call)}

theorem addFragment_new {f : ToolCall} (h : f.index ∉ cs.map fst) :
    addFragment f cs = cs ++ [entry f] := by
  induction cs with
  | nil => rfl
  | cons c cs ih =>
    rw [map_cons, mem_cons, not_or] at h
    rw [addFragment, if_neg (Ne.symm h.1), ih h.2]
    rfl

theorem length_addFragment {f : ToolCall} (h : f.index ∈ cs.map fst) :
    (addFragment f cs).length = cs.length := by
  induction cs with
  | nil => cases h
  | cons c cs ih =>
    unfold addFragment
    split
    · rfl
    next hne =>
      exact congrArg (· + 1) (ih ((mem_cons.mp h).resolve_left (Ne.symm hne)))

theorem length_assembleCalls_le (cs : List (Option Int × Call)) (fs : List ToolCall) :
    (assembleCalls cs fs).length ≤ cs.length + fs.length := by
  induction fs generalizing cs with
  | nil => exact Nat.le_refl _
  | cons f fs ih =>
    refine Nat.le_trans (ih (addFragment f cs)) ?_
    rw [List.length_cons]
    by_cases h : f.index ∈ cs.map fst
    · rw [length_addFragment h]
      omega
    · rw [addFragment_new h, length_append, List.length_singleton]
      omega

theorem assembleCalls_of_nodup {fs : List ToolCall}
    (h : (cs.map fst ++ fs.map ToolCall.index).Nodup) :
    assembleCalls cs fs = cs ++ fs.map entry := by
  induction fs generalizing cs with
  | nil => exact (append_nil cs).symm
  | cons f fs ih =>
    have hnew : f.index ∉ cs.map fst := fun hmem =>
      (List.nodup_append.mp h).2.2 _ hmem _ (.head _) rfl
    show assembleCalls (addFragment f cs) fs = _
    rw [addFragment_new hnew, ih, append_assoc]
    · rfl
    · rw [map_append, append_assoc]
      exact h

theorem nodup_of_length {fs : List ToolCall} (hcs : (cs.map fst).Nodup)
    (h : (assembleCalls cs fs).length = cs.length + fs.length) :
    (cs.map fst ++ fs.map ToolCall.index).Nodup := by
  induction fs generalizing cs with
  | nil => simpa using hcs
  | cons f fs ih =>
    change (assembleCalls (addFragment f cs) fs).length = _ at h
    have hle := length_assembleCalls_le (addFragment f cs) fs
    rw [List.length_cons] at h
    by_cases hmem : f.index ∈ cs.map fst
    · rw [length_addFragment hmem] at hle
      omega
    rw [addFragment_new hmem] at h
    have hkeys : ((cs ++ [entry f]).map fst).Nodup := by
      rw [map_append, List.nodup_append]
      refine ⟨hcs, List.nodup_singleton _, ?_⟩
      rintro k hk _ hf rfl
      exact hmem ((List.mem_singleton.mp hf : k = f.index) ▸ hk)
    have hnodup := ih hkeys (by rw [length_append, List.length_singleton]; omega)
    rwa [map_append, append_assoc] at hnodup

/-- If lists are replaced by ones that are not longer, the joined list stays exactly if they do. -/
theorem flatMap_eq_iff {α β : Type} {f g : α → List β} (h : ∀ x, (f x).length ≤ (g x).length)
    (l : List α) : l.flatMap f = l.flatMap g ↔ ∀ x ∈ l, f x = g x := by
  refine ⟨fun heq => ?_, List.flatMap_congr⟩
  have hle : ∀ l : List α, (l.flatMap f).length ≤ (l.flatMap g).length := by
    intro l
    induction l with
    | nil => exact Nat.le_refl _
    | cons x l ih =>
      rw [flatMap_cons, flatMap_cons, length_append, length_append]
      exact Nat.add_le_add (h x) ih
  induction l with
  | nil => nofun
  | cons x l ih =>
    rw [flatMap_cons, flatMap_cons] at heq
    have hlength := congrArg length heq
    rw [length_append, length_append] at hlength
    obtain ⟨hx, hl⟩ := List.append_inj heq (by have := h x; have := hle l; omega)
    exact List.forall_mem_cons.mpr ⟨hx, ih hl⟩

theorem join_map_eq_iff {α : Type} {f g : α → String} (h : ∀ x, f x = "" ∨ f x = g x)
    (l : List α) : String.join (l.map f) = String.join (l.map g) ↔ ∀ x ∈ l, f x = g x := by
  rw [← String.toList_inj, String.toList_join, String.toList_join, flatMap_map,
    flatMap_map, flatMap_eq_iff]
  · exact forall₂_congr fun x _ => String.toList_inj
  intro x
  obtain hx | hx := h x
  · rw [hx]
    exact Nat.zero_le _
  · exact Nat.le_of_eq (by rw [hx])

section Gemini

variable {A : Type}

/-- How the text of arguments is decoded; `wrap` is the object with the member `arguments`. -/
structure Decoder (A : Type) where
  unmarshal : String → Option A
  wrap : String → A
  empty : A

variable (d : Decoder A)

def Decoder.args (arguments : String) : A :=
  if arguments = "" then d.empty else (d.unmarshal arguments).getD (d.wrap arguments)

inductive Part (A : Type) where
  | text (s : String)
  | functionCall (name : String) (args : A)

structure Candidate (A : Type) where
  finishReason : Option String
  parts : List (Part A)

def geminiFinishReason : String → String
  | "length" => "MAX_TOKENS"
  | "content_filter" => "SAFETY"
  | _ => "STOP"

def textParts (s : String) : List (Part A) := if s = "" then [] else [.text s]

def responseOpenAI2Gemini (m : Message) : Candidate A where
  finishReason := some (geminiFinishReason (m.finishReason.getD ""))
  parts := textParts m.text ++ m.toolCalls.map fun c => .functionCall c.name (d.args c.arguments)

def Choice.candidate (c : Choice) : Candidate A where
  finishReason := c.finishReason.map geminiFinishReason
  parts :=
    match c.toolCalls with
    | some calls => calls.map fun f => .functionCall f.name (d.args f.arguments)
    | none => textParts c.text

/-- A chunk without content and without a finish reason is skipped. -/
def streamResponseOpenAI2Gemini (choices : List Choice) : Option (List (Candidate A)) :=
  let hasContent := choices.any fun c => c.text ≠ "" || c.fragments ≠ []
  let hasFinishReason := choices.any fun c => c.finishReason.isSome
  if !hasContent && !hasFinishReason then none else some (choices.map (Choice.candidate d))

def streamedParts (chunks : List (List Choice)) : List (Part A) :=
  (chunks.filterMap (streamResponseOpenAI2Gemini d)).flatten.flatMap Candidate.parts

def Part.text? : Part A → String
  | .text s => s
  | .functionCall _ _ => ""

def Part.call? : Part A → Option (String × A)
  | .text _ => none
  | .functionCall name args => some (name, args)

def textOf (ps : List (Part A)) : String := String.join (ps.map Part.text?)

def callsOf (ps : List (Part A)) : List (String × A) := ps.filterMap Part.call?

variable (d : Decoder A)

theorem textOf_append (ps qs : List (Part A)) : textOf (ps ++ qs) = textOf ps ++ textOf qs := by
  rw [textOf, map_append, String.join_append]
  rfl

theorem textOf_textParts (s : String) : textOf (textParts s : List (Part A)) = s := by
  unfold textParts
  split
  next h =>
    exact h.symm
  · simp [textOf, Part.text?]

theorem callsOf_textParts (s : String) : callsOf (textParts s : List (Part A)) = [] := by
  unfold textParts
  split <;> rfl

section Calls

variable {α : Type} (name : α → String) (args : α → A) (l : List α)

theorem textOf_functionCalls : textOf (l.map fun x => .functionCall (name x) (args x)) = "" := by
  induction l with
  | nil => rfl
  | cons x l ih => exact (String.join_cons).trans ih

theorem callsOf_functionCalls :
    callsOf (l.map fun x => .functionCall (name x) (args x)) = l.map fun x => (name x, args x) := by
  induction l with
  | nil => rfl
  | cons x l ih => exact congrArg (_ :: ·) ih

end Calls

/-- The text of a choice that reaches the client: none beside tool calls. -/
def Choice.kept (c : Choice) : String := if c.toolCalls = none then c.text else ""

theorem textOf_candidate (c : Choice) : textOf (c.candidate d).parts = c.kept := by
  unfold Choice.candidate Choice.kept
  cases c.toolCalls with
  | none => exact textOf_textParts c.text
  | some calls => exact textOf_functionCalls _ _ calls

theorem callsOf_candidate (c : Choice) :
    callsOf (c.candidate d).parts = c.fragments.map fun f => (f.name, d.args f.arguments) := by
  unfold Choice.candidate Choice.fragments
  cases c.toolCalls with
  | none => exact callsOf_textParts c.text
  | some calls => exact callsOf_functionCalls _ _ calls

/-- What is skipped has no parts. -/
theorem streamedParts_eq (chunks : List (List Choice)) :
    streamedParts d chunks = chunks.flatten.flatMap fun c => (c.candidate d).parts := by
  unfold streamedParts
  induction chunks with
  | nil => rfl
  | cons choices chunks ih =>
    rw [List.flatten_cons, List.flatMap_append, ← ih, filterMap_cons]
    unfold streamResponseOpenAI2Gemini
    by_cases hskip : (!(choices.any fun c => c.text ≠ "" || c.fragments ≠ []) &&
        !(choices.any fun c => c.finishReason.isSome)) = true
    · have hnone : choices.flatMap (fun c => (c.candidate d).parts) = [] := by
        refine List.flatMap_eq_nil_iff.mpr fun c hc => ?_
        simp only [Bool.and_eq_true, Bool.not_eq_true', List.any_eq_false] at hskip
        obtain ⟨htext, hcalls⟩ : c.text = "" ∧ c.fragments = [] := by simpa using hskip.1 c hc
        unfold Choice.candidate
        unfold Choice.fragments at hcalls
        cases htools : c.toolCalls with
        | none => exact if_pos htext
        | some calls =>
          rw [htools] at hcalls
          exact List.map_eq_nil_iff.mpr hcalls
      rw [if_pos hskip, hnone]
      rfl
    · rw [if_neg hskip, List.flatten_cons, List.flatMap_append, flatMap_map]

theorem textOf_flatMap {α : Type} (f : α → List (Part A)) (l : List α) :
    textOf (l.flatMap f) = String.join (l.map fun x => textOf (f x)) := by
  induction l with
  | nil => rfl
  | cons x l ih => rw [flatMap_cons, textOf_append, ih, map_cons, String.join_cons]

theorem calls_streamed (choices : List Choice) :
    callsOf (choices.flatMap fun c => (c.candidate d).parts) =
      (choices.flatMap Choice.fragments).map fun f => (f.name, d.args f.arguments) := by
  unfold callsOf
  rw [List.filterMap_flatMap, List.map_flatMap]
  exact List.flatMap_congr fun c _ => callsOf_candidate d c

/-- Every tool call comes whole in one fragment, and no text comes beside tool calls. -/
def Unsplit (choices : List Choice) : Prop :=
  (∀ c ∈ choices, c.toolCalls ≠ none → c.text = "") ∧
    ((choices.flatMap Choice.fragments).map ToolCall.index).Nodup

theorem calls_assembled_iff (fs : List ToolCall) :
    (fs.map fun f => (f.name, d.args f.arguments)) =
      (assembleCalls [] fs).map (fun e => (e.2.name, d.args e.2.arguments)) ↔
    (fs.map ToolCall.index).Nodup := by
  refine ⟨fun h => ?_, fun h => ?_⟩
  · have hlength := congrArg length h
    have hnil : (([] : List (Option Int × Call)).map fst).Nodup := List.nodup_nil
    exact nodup_of_length hnil (by simpa using hlength.symm)
  · have hcalls : assembleCalls [] fs = [] ++ fs.map entry := assembleCalls_of_nodup h
    rw [hcalls, List.nil_append, map_map]
    rfl

/-- For every stream: the text and the function calls of the Gemini responses to its chunks are
those of the response to the message that it delivers exactly if nothing is split. -/
theorem gemini_stream_agrees_iff (d : Decoder A) (chunks : List (List Choice)) :
    (let whole := (responseOpenAI2Gemini d (assemble chunks.flatten)).parts
     textOf (streamedParts d chunks) = textOf whole ∧
       callsOf (streamedParts d chunks) = callsOf whole) ↔ Unsplit chunks.flatten := by
  rw [streamedParts_eq]
  generalize chunks.flatten = choices
  have htexts : textOf (choices.flatMap fun c => (c.candidate d).parts) =
      String.join (choices.map Choice.kept) := by
    rw [textOf_flatMap]
    exact congrArg String.join (List.map_congr_left fun c _ => textOf_candidate d c)
  have hwhole : textOf (responseOpenAI2Gemini d (assemble choices)).parts =
      String.join (choices.map Choice.text) := by
    unfold responseOpenAI2Gemini
    rw [textOf_append, textOf_textParts, textOf_functionCalls, String.append_empty]
    rfl
  have hcalls : callsOf (responseOpenAI2Gemini d (assemble choices)).parts =
      (assembleCalls [] (choices.flatMap Choice.fragments)).map
        fun e => (e.2.name, d.args e.2.arguments) := by
    unfold responseOpenAI2Gemini callsOf
    rw [filterMap_append]
    refine (congrArg₂ (· ++ ·) (callsOf_textParts _) (callsOf_functionCalls _ _ _)).trans ?_
    rw [assemble, map_map]
    rfl
  have hkept : ∀ c : Choice, c.kept = "" ∨ c.kept = c.text := by
    intro c
    unfold Choice.kept
    split
    · exact .inr rfl
    · exact .inl rfl
  dsimp only
  rw [htexts, hwhole, hcalls, calls_streamed, join_map_eq_iff hkept, calls_assembled_iff]
  refine and_congr_left fun _ => forall₂_congr fun c _ => ?_
  unfold Choice.kept
  by_cases hnone : c.toolCalls = none
  · simp
  · rw [if_neg hnone]
    exact ⟨fun h _ => h.symm, fun h => (h hnone).symm⟩

/-- The arguments of one call in two fragments give two function calls. -/
theorem gemini_stream_splits_call :
    let d : Decoder String :=
      ⟨fun s => if s = "\x7b\"a\":1\x7d" then some s else none, ("wrapped " ++ ·), ""⟩
    let chunks : List Choice :=
      [{ toolCalls := some [{ index := some 0, name := "f", arguments := "\x7b\"a\":" }] },
        { toolCalls := some [{ index := some 0, arguments := "1\x7d" }] }]
    callsOf (streamedParts d (chunks.map fun c => [c])) =
        [("f", "wrapped \x7b\"a\":"), ("", "wrapped 1\x7d")] ∧
      callsOf (responseOpenAI2Gemini d (assemble chunks)).parts = [("f", "\x7b\"a\":1\x7d")] := by
  decide +kernel

end Gemini

section Claude

variable {J : Type}

/-- How inputs of tools are written as JSON text. -/
structure Codec (J : Type) where
  marshal : J → String
  unmarshal : String → Option J
  empty : J
  unmarshal_marshal : ∀ j, unmarshal (marshal j) = some j
  unmarshal_nothing : unmarshal "" = none

inductive Block (J : Type) where
  | text (s : String)
  | thinking (s : String)
  | toolUse (id name : String) (input : J)

inductive Event where
  | messageStart
  | textStart (s : String)
  | thinkingStart
  | toolUseStart (index : Int) (id name : String)
  | textDelta (s : String)
  | thinkingDelta (s : String)
  | signatureDelta
  | inputJsonDelta (index : Int) (s : String)
  | blockStop
  | messageDelta (stopReason : Option String)
  | messageStop

/-- `ClaudeStopReasonToOpenAIFinishReason`. -/
def finishReason (stopReason : String) : String :=
  match stopReason.toLower with
  | "stop_sequence" | "end_turn" => "stop"
  | "max_tokens" => "length"
  | "tool_use" => "tool_calls"
  | "refusal" => "content_filter"
  | _ => stopReason

def streamResponseClaude2OpenAI : Event → Option Choice
  | .messageStart => some { content := some "" }
  | .textStart s => some { content := some s }
  | .thinkingStart => some {}
  | .toolUseStart index id name => some { toolCalls := some [{ index, id, name }] }
  | .textDelta s => some { content := some s }
  | .thinkingDelta s => some { reasoning := some s }
  | .signatureDelta => some { reasoning := some "\n" }
  | .inputJsonDelta index s => some { toolCalls := some [{ index, arguments := s }] }
  | .messageDelta reason =>
    some { finishReason := (reason.map finishReason).filter (· ≠ "null") }
  | .blockStop | .messageStop => none

def Block.text? : Block J → Option String
  | .text s => some s
  | _ => none

def Block.thinking? : Block J → Option String
  | .thinking s => some s
  | _ => none

def Block.call? (c : Codec J) : Block J → Option Call
  | .toolUse id name input => some ⟨id, name, c.marshal input⟩
  | _ => none

/-- A later text takes the place of an earlier one. -/
def responseClaude2OpenAI (c : Codec J) (blocks : List (Block J)) (stopReason : String) :
    Message where
  text := (blocks.filterMap Block.text?).getLast?.getD ""
  reasoning :=
    let thinkingContent := (blocks.filterMap Block.thinking?).getLast?.getD ""
    if thinkingContent ≠ "" then thinkingContent else (blocks.head?.bind Block.thinking?).getD ""
  toolCalls := blocks.filterMap (Block.call? c)
  finishReason := some (finishReason stopReason)

/-- A block as a stream gives it, in pieces. An empty input may be given by no text. -/
inductive Streamed (c : Codec J) where
  | text (start : String) (pieces : List String)
  | thinking (pieces : List String) (signed : Bool)
  | toolUse (id name : String) (pieces : List String) (input : J)
      (h : c.unmarshal (String.join pieces) = some input ∨
        String.join pieces = "" ∧ input = c.empty)

variable {c : Codec J}

def Streamed.block : Streamed c → Block J
  | .text start pieces => .text (start ++ String.join pieces)
  | .thinking pieces _ => .thinking (String.join pieces)
  | .toolUse id name _ input _ => .toolUse id name input

variable (i : Int)

def Streamed.events : Streamed c → List Event
  | .text start pieces => .textStart start :: (pieces.map .textDelta ++ [.blockStop])
  | .thinking pieces signed => .thinkingStart ::
      (pieces.map .thinkingDelta ++ (if signed then [.signatureDelta] else []) ++ [.blockStop])
  | .toolUse id name pieces _ _ =>
    .toolUseStart i id name :: (pieces.map (.inputJsonDelta i) ++ [.blockStop])

def blockEvents (i : Int) : List (Streamed c) → List Event
  | [] => []
  | b :: bs => b.events i ++ blockEvents (i + 1) bs

def chunks (events : List Event) : List Choice := events.filterMap streamResponseClaude2OpenAI

variable (bs : List (Streamed c))

def streamedMessage (stopReason : Option String) : Message :=
  assemble (chunks
    (.messageStart :: (blockEvents 0 bs ++ [.messageDelta stopReason, .messageStop])))

theorem chunks_append (es fs : List Event) : chunks (es ++ fs) = chunks es ++ chunks fs :=
  filterMap_append

theorem chunks_map {f : String → Event} {g : String → Choice}
    (h : ∀ s, streamResponseClaude2OpenAI (f s) = some (g s)) (l : List String) :
    chunks (l.map f) = l.map g := by
  unfold chunks
  rw [List.filterMap_map, ← List.filterMap_eq_map]
  exact List.filterMap_congr fun s _ => h s

def Streamed.chunks : Streamed c → List Choice
  | .text start pieces => { content := some start } :: pieces.map fun s => { content := some s }
  | .thinking pieces signed => {} :: (pieces.map (fun s => { reasoning := some s }) ++
      if signed then [{ reasoning := some "\n" }] else [])
  | .toolUse id name pieces _ _ => { toolCalls := some [{ index := some i, id, name }] } ::
      pieces.map fun s => { toolCalls := some [{ index := some i, arguments := s }] }

variable (b : Streamed c)

theorem chunks_events : chunks (b.events i) = b.chunks i := by
  have hcons : ∀ {e : Event} {x : Choice} (es : List Event),
      streamResponseClaude2OpenAI e = some x → chunks (e :: es) = x :: chunks es :=
    fun es h => List.filterMap_cons_some h
  have hstop : chunks [.blockStop] = [] := rfl
  cases b with
  | text start pieces =>
    unfold Streamed.events
    rw [hcons _ rfl, chunks_append, chunks_map fun _ => rfl, hstop, append_nil]
    rfl
  | thinking pieces signed =>
    unfold Streamed.events
    rw [hcons _ rfl, chunks_append, chunks_append, chunks_map fun _ => rfl, hstop, append_nil]
    cases signed <;> rfl
  | toolUse id name pieces input h =>
    unfold Streamed.events
    rw [hcons _ rfl, chunks_append, chunks_map fun _ => rfl, hstop, append_nil]
    rfl

theorem join_eq_empty_iff (l : List String) : String.join l = "" ↔ ∀ s ∈ l, s = "" := by
  rw [← String.toList_inj]
  simp

theorem join_eq_getLast_iff (l : List String) :
    String.join l = l.getLast?.getD "" ↔ ∀ s ∈ l.dropLast, s = "" := by
  obtain rfl | ⟨init, last, rfl⟩ := l.eq_nil_or_concat
  · simp
  rw [List.concat_eq_append, List.getLast?_concat, List.dropLast_concat, ← join_eq_empty_iff]
  simp

theorem text_chunks : String.join ((b.chunks i).map Choice.text) = b.block.text?.getD "" := by
  cases b with
  | text start pieces =>
    simp [Streamed.chunks, Function.comp_def, Choice.text, Streamed.block, Block.text?]
  | thinking pieces signed =>
    refine (join_eq_empty_iff _).mpr (List.forall_mem_map.mpr ?_)
    cases signed <;> simp [Streamed.chunks, Choice.text, or_imp, forall_and]
  | toolUse id name pieces input h =>
    exact (join_eq_empty_iff _).mpr (by simp [Streamed.chunks, Choice.text])

theorem finishReason_chunks : (b.chunks i).filterMap Choice.finishReason = [] := by
  cases b with
  | thinking pieces signed => cases signed <;> simp [Streamed.chunks]
  | _ => simp [Streamed.chunks]

theorem text_blockEvents :
    String.join ((chunks (blockEvents i bs)).map Choice.text) =
      String.join ((bs.map Streamed.block).filterMap Block.text?) := by
  induction bs generalizing i with
  | nil => rfl
  | cons b bs ih =>
    rw [blockEvents, chunks_append, map_append, String.join_append, ih, chunks_events,
      text_chunks, map_cons, filterMap_cons]
    cases b.block.text? with
    | none => exact String.empty_append
    | some s => exact String.join_cons.symm

theorem finishReason_blockEvents :
    (chunks (blockEvents i bs)).filterMap Choice.finishReason = [] := by
  induction bs generalizing i with
  | nil => rfl
  | cons b bs ih =>
    rw [blockEvents, chunks_append, filterMap_append, ih, chunks_events, finishReason_chunks]
    rfl

/-! Every block has an index of its own, under which the fragments of its call are joined. -/

theorem addFragment_last {f : ToolCall} (x : Call) (h : f.index ∉ cs.map fst) :
    addFragment f (cs ++ [(f.index, x)]) =
      cs ++ [(f.index, ⟨x.id ++ f.id, x.name ++ f.name, x.arguments ++ f.arguments⟩)] := by
  induction cs with
  | nil => exact if_pos rfl
  | cons y cs ih =>
    rw [map_cons, mem_cons, not_or] at h
    rw [List.cons_append, addFragment, if_neg (Ne.symm h.1), ih h.2, List.cons_append]

theorem assembleCalls_pieces {k : Option Int} (h : k ∉ cs.map fst) (x : Call)
    (pieces : List String) :
    assembleCalls (cs ++ [(k, x)]) (pieces.map fun s => { index := k, arguments := s }) =
      cs ++ [(k, ⟨x.id, x.name, x.arguments ++ String.join pieces⟩)] := by
  induction pieces generalizing x with
  | nil => simp [assembleCalls]
  | cons s pieces ih =>
    refine (congrArg (assembleCalls · _) (addFragment_last x h)).trans ((ih _).trans ?_)
    simp [String.append_assoc]

def Streamed.call? : Streamed c → Option Call
  | .toolUse id name pieces _ _ => some ⟨id, name, String.join pieces⟩
  | _ => none

theorem calls_chunks {i : Int} (h : some i ∉ cs.map fst) (b : Streamed c) :
    assembleCalls cs ((b.chunks i).flatMap Choice.fragments) =
      cs ++ b.call?.toList.map (some i, ·) := by
  have hnone : ∀ l : List Choice, (∀ x ∈ l, x.fragments = []) →
      assembleCalls cs (l.flatMap Choice.fragments) = cs ++ [] := fun l hl => by
    rw [List.flatMap_eq_nil_iff.mpr hl, append_nil]
    rfl
  cases b with
  | text start pieces => exact hnone _ (by simp [Streamed.chunks, Choice.fragments])
  | thinking pieces signed =>
    refine hnone _ ?_
    cases signed <;> simp [Streamed.chunks, Choice.fragments, or_imp, forall_and]
  | toolUse id name pieces input hinput =>
    have hfragments : ((Streamed.toolUse id name pieces input hinput : Streamed c).chunks i).flatMap
        Choice.fragments = { index := some i, id, name } ::
          pieces.map fun s => { index := some i, arguments := s } := by
      simp [Streamed.chunks, Choice.fragments, flatMap_map, ← List.map_eq_flatMap]
    rw [hfragments]
    refine (congrArg (assembleCalls · _) (addFragment_new h)).trans
      ((assembleCalls_pieces h _ pieces).trans ?_)
    simp [Streamed.call?]

theorem calls_blockEvents (h : ∀ k ∈ cs.map fst, ∃ j < i, k = some j) :
    (assembleCalls cs ((chunks (blockEvents i bs)).flatMap Choice.fragments)).map snd =
      cs.map snd ++ bs.filterMap Streamed.call? := by
  induction bs generalizing i cs with
  | nil => simp [blockEvents, chunks, assembleCalls]
  | cons b bs ih =>
    have hnew : some i ∉ cs.map fst := fun hmem => by
      obtain ⟨j, hj, hij⟩ := h _ hmem
      cases hij
      exact absurd hj (Int.lt_irrefl i)
    have hkeys : ∀ k ∈ (cs ++ b.call?.toList.map (some i, ·)).map fst,
        ∃ j < i + 1, k = some j := by
      intro k hk
      rw [map_append, List.mem_append] at hk
      obtain hk | hk := hk
      · obtain ⟨j, hj, rfl⟩ := h k hk
        exact ⟨j, by omega, rfl⟩
      · have hi : some i = k := by simp_all
        exact ⟨i, by omega, hi.symm⟩
    rw [blockEvents, chunks_append, List.flatMap_append, assembleCalls, List.foldl_append]
    refine (congrArg (fun l => (assembleCalls l _).map snd)
      ((congrArg _ (congrArg _ (chunks_events i b))).trans (calls_chunks hnew b))).trans ?_
    rw [ih _ hkeys, filterMap_cons]
    cases b.call? <;> simp

/-- The input of a tool is given by some text. -/
def Streamed.Given : Streamed c → Prop
  | .toolUse _ _ pieces _ _ => String.join pieces ≠ ""
  | _ => True

def Call.decoded (c : Codec J) (x : Call) : String × String × Option J :=
  (x.id, x.name, c.unmarshal x.arguments)

theorem decoded_calls_iff : (bs.filterMap Streamed.call?).map (Call.decoded c) =
      ((bs.map Streamed.block).filterMap (Block.call? c)).map (Call.decoded c) ↔
    ∀ b ∈ bs, b.Given := by
  induction bs with
  | nil => simp
  | cons b bs ih =>
    rw [List.forall_mem_cons, ← ih]
    cases b with
    | toolUse id name pieces input h =>
      simp only [filterMap_cons, map_cons, Streamed.call?, Streamed.block, Block.call?,
        List.cons.injEq, Call.decoded, c.unmarshal_marshal, Prod.mk.injEq, true_and]
      refine and_congr_left fun _ =>
        ⟨fun h hempty => ?_, fun hgiven => h.resolve_right (hgiven ·.1)⟩
      rw [hempty, c.unmarshal_nothing] at h
      cases h
    | _ => exact (true_and _).symm.to_iff

theorem finishReason_eq_null_iff (r : String) : finishReason r = "null" ↔ r = "null" := by
  constructor
  · unfold finishReason
    split
    case h_6 => exact id
    all_goals exact fun h => absurd h (by decide)
  · rintro rfl
    decide +kernel

def noInput : Codec Unit where
  marshal _ := "\x7b\x7d"
  unmarshal s := if s = "\x7b\x7d" then some () else none
  empty := ()
  unmarshal_marshal _ := if_pos rfl
  unmarshal_nothing := by decide +kernel

end Claude

end ZModel.Relay.Messages
