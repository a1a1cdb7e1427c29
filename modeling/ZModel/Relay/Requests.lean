import ZModel.Relay.Messages

/-!
# Claude requests for OpenAI

`ClaudeMessagesRequestToOpenAIChat` makes a tool message of every tool result and one message of the
other blocks, which has tool calls or content, not both.
-/

namespace ZModel.Relay.Requests

open Messages (Call flatMap_eq_iff)

inductive Source where
  | base64 (mediaType data : String)
  | url (url : String)

/-- A content block; `other` blocks are not converted. The content of a tool result is its string or
the JSON of its parts. -/
inductive Block where
  | text (s : String)
  | image (source : Source)
  | toolUse (call : Call)
  | toolResult (toolUseId name content : String)
  | other (id name : String)

inductive Content where
  | string (s : String)
  | blocks (bs : List Block)

structure Message where
  role : String
  content : Content

inductive Media where
  | text (s : String)
  | imageUrl (url : String)

inductive ChatMessage where
  | message (role : String) (content : List Media) (toolCalls : List Call)
  | tool (name toolCallId content : String)

def noData : String := "data:;base64,%!s(<nil>)"

/-- The source is formatted as base64 whatever it is. -/
def Source.imageData : Source → String
  | .base64 mediaType data => "data:" ++ mediaType ++ ";base64," ++ data
  | .url _ => noData

def Block.idName : Block → String × String
  | .toolUse call => (call.id, call.name)
  | .toolResult _ name _ => ("", name)
  | .other id name => (id, name)
  | _ => ("", "")

def Message.blocks (m : Message) : List Block :=
  match m.content with
  | .string _ => []
  | .blocks bs => bs

variable (messages : List Message)

def searchToolNameByToolCallId (toolCallId : String) : String :=
  (((messages.flatMap Message.blocks).map Block.idName).find? (·.1 = toolCallId)).elim "" (·.2)

structure Parts where
  openAIMessages : List ChatMessage
  toolCalls : List Call := []
  mediaMessages : List Media := []

variable (toolName : String → String)

def Parts.add (p : Parts) : Block → Parts
  | .text s => { p with mediaMessages := p.mediaMessages ++ [.text s] }
  | .image source => { p with mediaMessages := p.mediaMessages ++ [.imageUrl source.imageData] }
  | .toolUse call => { p with toolCalls := p.toolCalls ++ [call] }
  | .toolResult id name content =>
    let name := if name = "" then toolName id else name
    { p with openAIMessages := p.openAIMessages ++ [.tool name id content] }
  | .other _ _ => p

def addMessage (openAIMessages : List ChatMessage) (m : Message) : List ChatMessage :=
  match m.content with
  | .string s => openAIMessages ++ [.message m.role [.text s] []]
  | .blocks bs =>
    let p := bs.foldl (Parts.add toolName) { openAIMessages }
    let content := if p.toolCalls = [] then p.mediaMessages else []
    p.openAIMessages ++
      if content = [] ∧ p.toolCalls = [] then [] else [.message m.role content p.toolCalls]

def claudeMessagesRequestToOpenAIChat : List ChatMessage :=
  messages.foldl (addMessage (searchToolNameByToolCallId messages)) []

/-! ## What requests carry -/

inductive Item where
  | text (s : String)
  | image (url : String)
  | toolUse (call : Call)
  | toolResult (toolUseId content : String)
  deriving DecidableEq

def Source.link : Source → String
  | .url u => u
  | source => source.imageData

def Block.items : Block → List Item
  | .text s => [.text s]
  | .image source => [.image source.link]
  | .toolUse call => [.toolUse call]
  | .toolResult id _ content => [.toolResult id content]
  | .other _ _ => []

def Message.items (m : Message) : List Item :=
  match m.content with
  | .string s => [.text s]
  | .blocks bs => bs.flatMap Block.items

def Media.item : Media → Item
  | .text s => .text s
  | .imageUrl url => .image url

def ChatMessage.items : ChatMessage → List Item
  | .message _ content toolCalls => content.map Media.item ++ toolCalls.map .toolUse
  | .tool _ id content => [.toolResult id content]

def Block.results : Block → List Item
  | .toolResult id _ content => [.toolResult id content]
  | _ => []

def Block.media : Block → List Item
  | .text s => [.text s]
  | .image source => [.image source.imageData]
  | _ => []

def Block.calls : Block → List Item
  | .toolUse call => [.toolUse call]
  | _ => []

theorem items_parts (p : Parts) (bs : List Block) : let q := bs.foldl (Parts.add toolName) p
    q.openAIMessages.flatMap ChatMessage.items =
        p.openAIMessages.flatMap ChatMessage.items ++ bs.flatMap Block.results ∧
      q.mediaMessages.map Media.item = p.mediaMessages.map Media.item ++ bs.flatMap Block.media ∧
      q.toolCalls.map Item.toolUse = p.toolCalls.map .toolUse ++ bs.flatMap Block.calls := by
  induction bs generalizing p with
  | nil => simp
  | cons b bs ih =>
    obtain ⟨hmessages, hmedia, hcalls⟩ := ih (p.add toolName b)
    dsimp only [List.foldl_cons] at hmessages hmedia hcalls ⊢
    rw [hmessages, hmedia, hcalls]
    cases b <;> simp [Parts.add, Block.results, Block.media, Block.calls, ChatMessage.items,
      Media.item]

variable (m : Message)

def Message.sent : List Item :=
  match m.content with
  | .string s => [.text s]
  | .blocks bs => bs.flatMap Block.results ++
      if bs.flatMap Block.calls = [] then bs.flatMap Block.media else bs.flatMap Block.calls

theorem addMessage_items (openAIMessages : List ChatMessage) (m : Message) :
    (addMessage toolName openAIMessages m).flatMap ChatMessage.items =
      openAIMessages.flatMap ChatMessage.items ++ m.sent := by
  unfold addMessage Message.sent
  cases m.content with
  | string s => simp [ChatMessage.items, Media.item]
  | blocks bs =>
    obtain ⟨hmessages, hmedia, hcalls⟩ := items_parts toolName { openAIMessages } bs
    dsimp only at hmessages hmedia hcalls ⊢
    generalize bs.foldl (Parts.add toolName) { openAIMessages } = p at *
    rw [List.map_nil, List.nil_append] at hmedia hcalls
    rw [List.flatMap_append, hmessages, ← hmedia, ← hcalls]
    by_cases htools : p.toolCalls = []
    · by_cases hcontent : p.mediaMessages = [] <;> simp [htools, hcontent, ChatMessage.items]
    · simp [htools, ChatMessage.items]

theorem items_sent : (claudeMessagesRequestToOpenAIChat messages).flatMap ChatMessage.items =
      messages.flatMap Message.sent := by
  unfold claudeMessagesRequestToOpenAIChat
  generalize searchToolNameByToolCallId messages = toolName
  have hfold : ∀ acc, (messages.foldl (addMessage toolName) acc).flatMap ChatMessage.items =
      acc.flatMap ChatMessage.items ++ messages.flatMap Message.sent := by
    induction messages with
    | nil => simp
    | cons m messages ih =>
      intro acc
      rw [List.foldl_cons, ih, addMessage_items, List.append_assoc, List.flatMap_cons]
  exact hfold []

variable (bs : List Block)

theorem length_items : (bs.flatMap Block.items).length =
    (bs.flatMap Block.results).length + (bs.flatMap Block.media).length +
      (bs.flatMap Block.calls).length := by
  induction bs with
  | nil => rfl
  | cons b bs ih =>
    simp only [List.flatMap_cons, List.length_append]
    cases b <;> simp only [Block.items, Block.results, Block.media, Block.calls, List.length_nil,
      List.length_singleton] <;> omega

/-- A tool result comes before all other blocks, and no image is given by a URL. -/
def Placed : Prop :=
  (bs.Pairwise fun a b => b.results ≠ [] → a.media = [] ∧ a.calls = []) ∧
    ∀ url, .image (.url url) ∈ bs → url = noData

/-- A message of which everything is sent has content or tool uses, not both. -/
def Message.Carried : Prop :=
  match m.content with
  | .string _ => True
  | .blocks bs => (bs.flatMap Block.media = [] ∨ bs.flatMap Block.calls = []) ∧ Placed bs

def Block.rest (b : Block) : List Item := b.media ++ b.calls

/-- Nothing but a tool result can come before the tool results. -/
theorem behind_results {b : Block} {s i : Item} (hrest : b.results = [] ∧ b.rest = [s])
    (hitems : b.items = [i]) (hi : ∀ id content, i ≠ .toolResult id content) (bs : List Block) :
    (b :: bs).flatMap Block.results ++ (b :: bs).flatMap Block.rest =
        (b :: bs).flatMap Block.items ↔
      (∀ b ∈ bs, b.results = []) ∧ s = i ∧
        bs.flatMap Block.results ++ bs.flatMap Block.rest = bs.flatMap Block.items := by
  rw [← List.flatMap_eq_nil_iff, List.flatMap_cons, List.flatMap_cons, List.flatMap_cons, hrest.1,
    hrest.2, hitems]
  cases h : bs.flatMap Block.results with
  | nil => simp
  | cons x xs =>
    obtain ⟨b, _, hb⟩ := List.mem_flatMap.mp (h ▸ (.head _) : x ∈ bs.flatMap Block.results)
    refine iff_of_false (fun heq => ?_) (by simp)
    cases b with
    | toolResult id name content =>
      exact hi id content ((List.cons.inj heq).1.symm.trans (List.mem_singleton.mp hb))
    | _ => cases hb

theorem placed_iff :
    bs.flatMap Block.results ++ bs.flatMap Block.rest = bs.flatMap Block.items ↔ Placed bs := by
  induction bs with
  | nil => simp [Placed]
  | cons b bs ih =>
    have hcons : Placed (b :: bs) ↔ (∀ x ∈ bs, x.results ≠ [] → b.media = [] ∧ b.calls = []) ∧
        (∀ url, b = .image (.url url) → url = noData) ∧ Placed bs := by
      simp only [Placed, List.pairwise_cons, List.mem_cons, or_imp, forall_and, eq_comm]
      exact ⟨fun h => ⟨h.1.1, h.2.1, h.1.2, h.2.2⟩, fun h => ⟨⟨h.1, h.2.2.1⟩, h.2.1, h.2.2.2⟩⟩
    rw [hcons, ← ih]
    cases b with
    | text s =>
      rw [behind_results ⟨rfl, rfl⟩ rfl (by simp)]
      simp [Block.media]
    | image source =>
      rw [behind_results ⟨rfl, rfl⟩ rfl (by simp)]
      cases source with
      | base64 mediaType data => simp [Block.media, Source.link]
      | url u => simp [Block.media, Source.link, Source.imageData, eq_comm (a := noData)]
    | toolUse call =>
      rw [behind_results ⟨rfl, rfl⟩ rfl (by simp)]
      simp [Block.calls]
    | _ => simp [Block.results, Block.rest, Block.media, Block.calls, Block.items]

theorem sent_eq_items_iff : m.sent = m.items ↔ m.Carried := by
  unfold Message.sent Message.items Message.Carried
  cases m.content with
  | string s => exact iff_of_true rfl trivial
  | blocks bs =>
    dsimp only
    rw [← placed_iff]
    by_cases hcalls : bs.flatMap Block.calls = []
    · have hrest : bs.flatMap Block.rest = bs.flatMap Block.media := List.flatMap_congr fun b hb =>
        (congrArg _ (List.flatMap_eq_nil_iff.mp hcalls b hb)).trans (List.append_nil _)
      rw [if_pos hcalls, hrest, and_iff_right (.inr hcalls)]
    rw [if_neg hcalls, or_iff_left hcalls]
    have hmedia : bs.flatMap Block.media = [] → bs.flatMap Block.rest = bs.flatMap Block.calls :=
      fun h => List.flatMap_congr fun b hb =>
        congrArg (· ++ b.calls) (List.flatMap_eq_nil_iff.mp h b hb)
    refine ⟨fun heq => ?_, fun ⟨h, heq⟩ => hmedia h ▸ heq⟩
    have hlength := length_items bs
    rw [← heq, List.length_append] at hlength
    have hnil := List.length_eq_zero_iff.mp (by omega : (bs.flatMap Block.media).length = 0)
    exact ⟨hnil, hmedia hnil ▸ heq⟩

theorem length_sent_le : m.sent.length ≤ m.items.length := by
  unfold Message.sent Message.items
  cases m.content with
  | string s => exact Nat.le_refl _
  | blocks bs =>
    rw [List.length_append, length_items bs]
    split <;> omega

end ZModel.Relay.Requests
