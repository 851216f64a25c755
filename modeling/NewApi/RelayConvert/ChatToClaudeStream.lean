import NewApi.Foundation.GoMap
import NewApi.RelayConvert.ChatChunk
import NewApi.RelayConvert.ClaudeStream

/-!
# From chat chunks to an Anthropic stream

`StreamResponseOpenAI2Claude` and `FinalizeStreamResponseOpenAI2Claude`
(`relaykit/relayconvert/internal/oai_chat/to_claude_messages_resp.go`). The converter keeps which
block is open, the next block index, and the tool calls of the current run of tool calls with two
maps that find them by the index and by the id of a fragment.

A tool call is a pointer in the source. All pointers of the two maps lie in the list `toolCalls`, so
they are positions in it here. Token counts and citations are computed from their JSON by functions
that are inputs (`StreamRules`), and so is the text of a generated id.

Further source: `relaykit/relayconvert/convmeta/meta.go`.
-/

namespace NewApi.RelayConvert

/-- The functions that compute what the converter only passes on: the token counts of
`sharedclaude.UsageFromOpenAI`, `dto.HasOpenAIUsageTokens`, `dto.MergeUsageNonZero` and
`dto.MergeClaudeUsageNonZero`, the estimated count of the prompt, the citations of
`chatAnnotationsToClaude`, the id that is generated for the block of a tool, and the letter case of
`strings.ToLower`. -/
structure StreamRules (Usage ClaudeUsage : Type) where
  usageFromOpenAI : Usage → ClaudeUsage
  hasTokens : Usage → Bool
  mergeUsage : Option Usage → Usage → Usage
  mergeClaudeUsage : ClaudeUsage → ClaudeUsage → ClaudeUsage
  estimatedUsage : ClaudeUsage
  citations : String → List String
  toolID : ℕ → String
  letters : GoText.LetterCase

/-- The type of the open blocks. -/
inductive LastMessagesType
  | none
  | text
  | tools
  | thinking
  deriving DecidableEq, Repr

/-- A tool call while it becomes a `tool_use` block. -/
structure ClaudeStreamToolCall where
  blockIndex : ℕ
  id : String
  name : String
  pendingArguments : String
  started : Bool

/-- The state of the converter. -/
structure ClaudeConvertInfo (Usage : Type) where
  lastMessagesType : LastMessagesType
  index : ℕ
  usage : Option Usage
  finishReason : String
  done : Bool
  toolCallBaseIndex : ℕ
  toolCallMaxIndexOffset : Int
  toolCalls : List ClaudeStreamToolCall
  toolCallByIndex : GoMap Int ℕ
  toolCallByID : GoMap String ℕ

variable {Usage ClaudeUsage : Type}

def newClaudeConvertInfo : ClaudeConvertInfo Usage where
  lastMessagesType := .none
  index := 0
  usage := .none
  finishReason := ""
  done := false
  toolCallBaseIndex := 0
  toolCallMaxIndexOffset := 0
  toolCalls := []
  toolCallByIndex := ∅
  toolCallByID := ∅

/-! ### Tool blocks -/

namespace ClaudeStreamToolCall

/-- The start of the block of a tool, with the arguments that have come before it. -/
def startEvents (tool : ClaudeStreamToolCall) : List ClaudeBlockEvent :=
  .contentBlockStart tool.blockIndex (.toolUse tool.id tool.name) ::
    if tool.pendingArguments ≠ "" then
      [.contentBlockDelta tool.blockIndex (.inputJsonDelta tool.pendingArguments)]
    else []

def start (tool : ClaudeStreamToolCall) : ClaudeStreamToolCall :=
  { tool with started := true, pendingArguments := "" }

def isPending (tool : ClaudeStreamToolCall) : Bool := !tool.started && tool.name ≠ ""

def ensureID (toolID : ℕ → String) (tool : ClaudeStreamToolCall) : ClaudeStreamToolCall :=
  if tool.id = "" then { tool with id := toolID tool.blockIndex } else tool

end ClaudeStreamToolCall

section

variable (toolID : ℕ → String) (s : ClaudeConvertInfo Usage)

def startPendingTool (tool : ClaudeStreamToolCall) :
    List ClaudeBlockEvent × ClaudeStreamToolCall :=
  if tool.isPending then ((tool.ensureID toolID).startEvents, (tool.ensureID toolID).start)
  else ([], tool)

def startPendingToolBlocks : List ClaudeBlockEvent × ClaudeConvertInfo Usage :=
  if s.lastMessagesType ≠ .tools then ([], s)
  else
    (s.toolCalls.flatMap fun tool => (startPendingTool toolID tool).1,
      { s with toolCalls := s.toolCalls.map fun tool => (startPendingTool toolID tool).2 })

def stopOpenBlocks : List ClaudeBlockEvent :=
  match s.lastMessagesType with
  | .text | .thinking => [.contentBlockStop s.index]
  | .tools =>
    if s.toolCalls = [] then
      (List.range (s.toolCallMaxIndexOffset + 1).toNat).map fun offset =>
        .contentBlockStop (s.toolCallBaseIndex + offset)
    else (s.toolCalls.filter (·.started)).map fun tool => .contentBlockStop tool.blockIndex
  | .none => []

def appendStopOpenBlocks : List ClaudeBlockEvent × ClaudeConvertInfo Usage :=
  ((startPendingToolBlocks toolID s).1 ++ stopOpenBlocks (startPendingToolBlocks toolID s).2,
    (startPendingToolBlocks toolID s).2)

/-- Close what is open and go on to the next free index. -/
def stopOpenBlocksAndAdvance : List ClaudeBlockEvent × ClaudeConvertInfo Usage :=
  if s.lastMessagesType = .none then ([], s)
  else
    let (events, s) := appendStopOpenBlocks toolID s
    let s :=
      match s.lastMessagesType with
      | .tools =>
        { s with
          index := s.toolCallBaseIndex + s.toolCalls.length
          toolCallBaseIndex := 0
          toolCallMaxIndexOffset := 0
          toolCalls := []
          toolCallByIndex := ∅
          toolCallByID := ∅ }
      | .none | .text | .thinking => { s with index := s.index + 1 }
    (events, { s with lastMessagesType := .none })

def openBlock (type : LastMessagesType) (block : ContentBlock) :
    List ClaudeBlockEvent × ClaudeConvertInfo Usage :=
  if s.lastMessagesType = type then ([], s)
  else
    let (events, s) := stopOpenBlocksAndAdvance toolID s
    (events ++ [.contentBlockStart s.index block], { s with lastMessagesType := type })

def appendCitationDeltas (citations : List String) :
    List ClaudeBlockEvent × ClaudeConvertInfo Usage :=
  if citations = [] then ([], s)
  else
    let (events, s) := openBlock toolID s .text .text
    (events ++ citations.map fun citation =>
      .contentBlockDelta s.index (.citationsDelta citation), s)

end

/-! ### Fragments of tool calls -/

section

variable (s : ClaudeConvertInfo Usage)

/-- The tool call that a fragment continues: the one with its id, or else the last one at its index,
unless that one has another id. -/
def findTool (toolIndex : Int) (incomingID : String) : Option ℕ :=
  let byID := if incomingID ≠ "" then s.toolCallByID.lookup incomingID else none
  let found := byID.or (s.toolCallByIndex.lookup toolIndex)
  found.filter fun k =>
    match s.toolCalls[k]? with
    | none => false
    | some tool => !(incomingID ≠ "" && tool.id ≠ "" && tool.id ≠ incomingID)

/-- What a tool call takes over from a fragment. -/
def ClaudeStreamToolCall.receive (tool : ClaudeStreamToolCall) (toolCall : ToolCallResponse) :
    ClaudeStreamToolCall :=
  let incomingID := GoText.trimSpace toolCall.id
  let name := GoText.trimSpace toolCall.name
  { tool with
    id := if tool.id = "" ∧ incomingID ≠ "" then incomingID else tool.id
    name := if tool.name = "" ∧ name ≠ "" then name else tool.name
    pendingArguments :=
      if tool.started then tool.pendingArguments else tool.pendingArguments ++ toolCall.arguments }

/-- What a tool call sends after it has received a fragment with these arguments. -/
def ClaudeStreamToolCall.send (tool : ClaudeStreamToolCall) (arguments : String) :
    List ClaudeBlockEvent × ClaudeStreamToolCall :=
  if !tool.started ∧ tool.id ≠ "" ∧ tool.name ≠ "" then (tool.startEvents, tool.start)
  else if tool.started ∧ arguments ≠ "" then
    ([.contentBlockDelta tool.blockIndex (.inputJsonDelta arguments)], tool)
  else ([], tool)

/-- One round of the loop over the fragments of a chunk. -/
def toolCallDelta (i : ℕ) (toolCall : ToolCallResponse) :
    List ClaudeBlockEvent × ClaudeConvertInfo Usage :=
  let toolIndex := toolCall.index.getD i
  let incomingID := GoText.trimSpace toolCall.id
  let fresh : ClaudeStreamToolCall :=
    ⟨s.toolCallBaseIndex + s.toolCalls.length, "", "", "", false⟩
  let found := findTool s toolIndex incomingID
  let k := found.getD s.toolCalls.length
  let toolCalls := if found.isSome then s.toolCalls else s.toolCalls ++ [fresh]
  let tool := toolCalls[k]?.getD fresh
  let received := tool.receive toolCall
  ((received.send toolCall.arguments).1,
    { s with
      toolCalls := toolCalls.set k (received.send toolCall.arguments).2
      toolCallByIndex := s.toolCallByIndex.insert toolIndex k
      toolCallByID :=
        if tool.id = "" ∧ incomingID ≠ "" then s.toolCallByID.insert incomingID k
        else s.toolCallByID })

def toolCallDeltas : ℕ → List ToolCallResponse → ClaudeConvertInfo Usage →
    List ClaudeBlockEvent × ClaudeConvertInfo Usage
  | _, [], s => ([], s)
  | i, toolCall :: rest, s =>
    let (events, s) := toolCallDelta s i toolCall
    let (events', s) := toolCallDeltas (i + 1) rest s
    (events ++ events', s)

/-- Begin a run of tool calls, unless the last chunk was a part of one. -/
def beginToolCalls (toolID : ℕ → String) : List ClaudeBlockEvent × ClaudeConvertInfo Usage :=
  if s.lastMessagesType = .tools then ([], s)
  else
    let (events, s) := stopOpenBlocksAndAdvance toolID s
    (events,
      { s with
        toolCallBaseIndex := s.index
        toolCallMaxIndexOffset := 0
        toolCalls := []
        toolCallByIndex := ∅
        toolCallByID := ∅
        lastMessagesType := .tools })

def endToolCalls : ClaudeConvertInfo Usage :=
  { s with
    toolCallMaxIndexOffset := s.toolCalls.length - 1
    index :=
      if 0 < s.toolCalls.length then s.toolCallBaseIndex + s.toolCalls.length - 1 else s.index }

def appendToolCalls (toolID : ℕ → String) (toolCalls : List ToolCallResponse) :
    List ClaudeBlockEvent × ClaudeConvertInfo Usage :=
  let (events, s) := beginToolCalls s toolID
  let (events', s) := toolCallDeltas 0 toolCalls s
  (events ++ events', endToolCalls s)

/-- The tool calls, the reasoning or the text of a chunk: the first of them that it has. -/
def appendDelta (toolID : ℕ → String) (delta : ChoiceDelta) :
    List ClaudeBlockEvent × ClaudeConvertInfo Usage :=
  if delta.toolCalls ≠ [] then appendToolCalls s toolID delta.toolCalls
  else if delta.getReasoningContent ≠ "" then
    let (events, s) := openBlock toolID s .thinking .thinking
    (events ++ [.contentBlockDelta s.index (.thinkingDelta delta.getReasoningContent)], s)
  else if delta.getContentString ≠ "" then
    let (events, s) := openBlock toolID s .text .text
    (events ++ [.contentBlockDelta s.index (.textDelta delta.getContentString)], s)
  else ([], s)

end

/-! ### Chunks -/

def openAIFinishReasonToClaudeStopReason (letters : GoText.LetterCase) (finishReason : String) :
    String :=
  let lower := letters.toLower finishReason
  if lower = "stop" then "end_turn"
  else if lower = "stop_sequence" then "stop_sequence"
  else if lower = "length" ∨ lower = "max_tokens" then "max_tokens"
  else if lower = "content_filter" then "refusal"
  else if lower = "tool_calls" then "tool_use"
  else finishReason

variable (rules : StreamRules Usage ClaudeUsage)

def clientVisibleClaudeStreamUsage (s : ClaudeConvertInfo Usage) (incoming : Option Usage) :
    Option ClaudeUsage × ClaudeConvertInfo Usage :=
  let prior := s.usage.map rules.usageFromOpenAI
  let converted := incoming.map rules.usageFromOpenAI
  let s :=
    match incoming with
    | none => s
    | some usage => { s with usage := some (rules.mergeUsage s.usage usage) }
  match prior, converted with
  | none, _ => (converted, s)
  | some prior, none => (some prior, s)
  | some prior, some converted => (some (rules.mergeClaudeUsage prior converted), s)

/-- The `message_start` of the first chunk. -/
def messageStart (count : ℕ) (chunk : ChatChunk Usage) (s : ClaudeConvertInfo Usage) :
    List (ClaudeResponse ClaudeUsage) × ClaudeConvertInfo Usage :=
  if count ≠ 1 then ([], s)
  else
    match chunk.usage with
    | none => ([.messageStart chunk.id chunk.model rules.estimatedUsage], s)
    | some usage =>
      if rules.hasTokens usage then
        ([.messageStart chunk.id chunk.model (rules.usageFromOpenAI usage)],
          { s with usage := some (rules.mergeUsage s.usage usage) })
      else ([.messageStart chunk.id chunk.model rules.estimatedUsage], s)

/-- Closes the open blocks and ends the message. -/
def finishMessage (usage : Option ClaudeUsage) (stopReason : String)
    (s : ClaudeConvertInfo Usage) :
    List (ClaudeResponse ClaudeUsage) × ClaudeConvertInfo Usage :=
  let (events, s) := appendStopOpenBlocks rules.toolID s
  (events.map .content ++ [.messageDelta usage stopReason, .messageStop], { s with done := true })

def stopReasonOrEndTurn (s : ClaudeConvertInfo Usage) : String :=
  let stopReason := openAIFinishReasonToClaudeStopReason rules.letters s.finishReason
  if stopReason = "" then "end_turn" else stopReason

/-- A chunk without a choice, which may bring the token counts. -/
def usageChunk (chunk : ChatChunk Usage) (s : ClaudeConvertInfo Usage) :
    List (ClaudeResponse ClaudeUsage) × ClaudeConvertInfo Usage :=
  match clientVisibleClaudeStreamUsage rules s chunk.usage with
  | (none, s) => ([], s)
  | (some usage, s) => finishMessage rules (some usage) (stopReasonOrEndTurn rules s) s

/-- A chunk with a choice. -/
def choiceChunk (chunk : ChatChunk Usage) (choice : StreamChoice) (s : ClaudeConvertInfo Usage) :
    List (ClaudeResponse ClaudeUsage) × ClaudeConvertInfo Usage :=
  let finishReason := choice.finishReason.getD ""
  let s := if finishReason ≠ "" then { s with finishReason := finishReason } else s
  let (events, s) := appendDelta s rules.toolID choice.delta
  let (events', s) := appendCitationDeltas rules.toolID s (rules.citations choice.delta.annotations)
  let sent := (events ++ events').map ClaudeResponse.content
  if finishReason ≠ "" ∨ s.done then
    match clientVisibleClaudeStreamUsage rules s chunk.usage with
    | (none, s) => (sent, s)
    | (some usage, s) =>
      let (events, s) := finishMessage rules (some usage)
        (openAIFinishReasonToClaudeStopReason rules.letters s.finishReason) s
      (sent ++ events, s)
  else (sent, s)

/-- The events for a chunk of the stream. -/
def streamResponseOpenAI2Claude (count : ℕ) (chunk : ChatChunk Usage)
    (s : ClaudeConvertInfo Usage) :
    List (ClaudeResponse ClaudeUsage) × ClaudeConvertInfo Usage :=
  if s.done then ([], s)
  else
    let (start, s) := messageStart rules count chunk s
    let (events, s) :=
      match chunk.choices with
      | [] => usageChunk rules chunk s
      | choice :: _ => choiceChunk rules chunk choice s
    (start ++ events, s)

/-- The events after the last chunk. -/
def finalizeStreamResponseOpenAI2Claude (s : ClaudeConvertInfo Usage) :
    List (ClaudeResponse ClaudeUsage) × ClaudeConvertInfo Usage :=
  if s.done then ([], s)
  else
    let stopReason := stopReasonOrEndTurn rules s
    finishMessage rules (clientVisibleClaudeStreamUsage rules s none).1 stopReason s

/-- The events of a list of chunks, each with the response count at its conversion. -/
def convertChunks : List (ℕ × ChatChunk Usage) → ClaudeConvertInfo Usage →
    List (ClaudeResponse ClaudeUsage) × ClaudeConvertInfo Usage
  | [], s => ([], s)
  | (count, chunk) :: rest, s =>
    let (events, s) := streamResponseOpenAI2Claude rules count chunk s
    let (events', s) := convertChunks rest s
    (events ++ events', s)

def convertStream (chunks : List (ℕ × ChatChunk Usage)) : List (ClaudeResponse ClaudeUsage) :=
  let (events, s) := convertChunks rules chunks newClaudeConvertInfo
  events ++ (finalizeStreamResponseOpenAI2Claude rules s).1

end NewApi.RelayConvert
