import NewApi.Foundation.BlockStream

/-!
# Events of an Anthropic stream

The events that a client of the Messages API receives, and the protocol they follow: one
`message_start`, then content blocks, each with a start, deltas of its type and a stop, then one
`message_delta` and one `message_stop`.
-/

namespace NewApi.RelayConvert

open BlockStream

inductive BlockKind
  | text
  | thinking
  | toolUse

/-- The content block of a `content_block_start`; its text, thinking or input is empty. -/
inductive ContentBlock
  | text
  | thinking
  | toolUse (id name : String)

inductive BlockDelta
  | textDelta (text : String)
  | citationsDelta (citation : String)
  | thinkingDelta (thinking : String)
  | inputJsonDelta (partialJson : String)

inductive ClaudeBlockEvent
  | contentBlockStart (index : ℕ) (block : ContentBlock)
  | contentBlockDelta (index : ℕ) (delta : BlockDelta)
  | contentBlockStop (index : ℕ)

inductive ClaudeResponse (Usage : Type)
  | messageStart (id model : String) (usage : Usage)
  | content (e : ClaudeBlockEvent)
  | messageDelta (usage : Option Usage) (stopReason : String)
  | messageStop

def ContentBlock.kind : ContentBlock → BlockKind
  | text => .text
  | thinking => .thinking
  | toolUse _ _ => .toolUse

def BlockDelta.kind : BlockDelta → BlockKind
  | textDelta _ | citationsDelta _ => .text
  | thinkingDelta _ => .thinking
  | inputJsonDelta _ => .toolUse

def ClaudeBlockEvent.protocol : ClaudeBlockEvent → BlockEvent ℕ BlockKind
  | contentBlockStart index block => .start index block.kind
  | contentBlockDelta index delta => .delta index delta.kind
  | contentBlockStop index => .stop index

def ClaudeResponse.protocol {Usage : Type} : ClaudeResponse Usage → Event ℕ BlockKind
  | messageStart _ _ _ => .opening
  | content e => .block e.protocol
  | messageDelta _ _ => .summary
  | messageStop => .closing

/-- **The protocol.** One `message_start` first; for each index no event at all, or one
`content_block_start`, deltas of the type of the block, and one `content_block_stop`; then one
`message_delta`, one `message_stop`, and nothing after it. -/
def ValidClaudeStream {Usage : Type} (events : List (ClaudeResponse Usage)) : Prop :=
  Valid (events.map ClaudeResponse.protocol)

theorem validClaudeStream_of_emits {Usage : Type} {es : List ClaudeBlockEvent} {n : ℕ}
    (h : Layout.Emits ⟨0, []⟩ (es.map ClaudeBlockEvent.protocol) ⟨n, []⟩) (id model : String)
    (usage : Usage) (usage' : Option Usage) (stopReason : String) :
    ValidClaudeStream (.messageStart id model usage :: (es.map .content ++
      [.messageDelta usage' stopReason, .messageStop])) := by
  have hvalid := h.valid
  rw [List.map_map] at hvalid
  rw [ValidClaudeStream, List.map_cons, List.map_append, List.map_map]
  exact hvalid

end NewApi.RelayConvert
