import NewApi.Foundation.Lossless
import NewApi.RelayConvert.ChatRequest
import NewApi.RelayConvert.ClaudeRequest

/-!
# From a Claude request to a chat request

The system prompt becomes one system message. A message with a list of blocks becomes a tool message
for each of its results, followed by a message with the rest: its tool calls, or its texts and
images when it has no tool call. The texts and images beside a tool call are dropped, and a tool
call keeps the role of its message.

Source: `relaykit/relayconvert/internal/claude_messages/to_oai_chat_req.go`.
-/

namespace NewApi.RelayConvert

open GoText List Option MessageContent

variable {J : Type}

/-! ### The conversion -/

def ClaudeRole.toChat : ClaudeRole → ChatRole
  | .user => .user
  | .assistant => .assistant

def ClaudeBlock.idName : ClaudeBlock J → String × String
  | .text _ | .image .. | .document .. => ("", "")
  | .toolUse id name _ => (id, name)
  | .toolResult _ name _ => ("", name)

def searchToolNameByToolCallId (messages : List (ClaudeMessage J)) (toolCallId : String) : String :=
  (((messages.flatMap (·.content.parseContent)).map (·.idName)).lookup toolCallId).getD ""

/-- How JSON values are written: as they are, and after being read as the blocks of a result. -/
structure Marshal (J : Type) where
  json : J → String
  media : J → String

/-- The system message. `openRouterClaude` tells that a Claude model is called at OpenRouter, which
takes the blocks one by one. -/
def systemMessages (openRouterClaude : Bool) : Option ClaudeSystem → List Message
  | none | some (.string "") | some (.blocks []) => []
  | some (.string text) => [⟨.system, .string text, none, none, ""⟩]
  | some (.blocks texts) =>
    [⟨.system, if openRouterClaude then .media (texts.map .text) else .string (String.join texts),
      none, none, ""⟩]

def ClaudeBlock.media? : ClaudeBlock J → Option MediaContent
  | .text content => some (.text content)
  | .image type data => some (.imageUrl ("data:" ++ type ++ ";base64," ++ data))
  | .document .. | .toolUse .. | .toolResult .. => none

def ClaudeBlock.toolCall? (marshal : Marshal J) : ClaudeBlock J → Option ToolCallRequest
  | .toolUse id name input => some ⟨id, name, marshal.json input⟩
  | .text _ | .image .. | .document .. | .toolResult .. => none

def ClaudeBlock.result? (marshal : Marshal J) : ClaudeBlock J → Option (String × String)
  | .toolResult toolUseId _ (.string content) => some (toolUseId, content)
  | .toolResult toolUseId _ (.json value) => some (toolUseId, marshal.media value)
  | .text _ | .image .. | .document .. | .toolUse .. => none

def ClaudeBlock.toolMessage? (marshal : Marshal J) (searchToolName : String → String)
    (block : ClaudeBlock J) : Option Message :=
  (block.result? marshal).map fun (toolUseId, content) =>
    let toolName := if block.idName.2 = "" then searchToolName toolUseId else block.idName.2
    ⟨.tool, .string content, some toolName, none, toolUseId⟩

def restMessage (marshal : Marshal J) (msg : ClaudeMessage J) : Message :=
  match msg.content with
  | .string text => ⟨msg.role.toChat, .string text, none, none, ""⟩
  | .blocks blocks =>
    let toolCalls := blocks.filterMap (·.toolCall? marshal)
    let mediaMessages := blocks.filterMap (·.media?)
    ⟨msg.role.toChat,
      if mediaMessages ≠ [] ∧ toolCalls = [] then .media mediaMessages else .null,
      none, if toolCalls ≠ [] then some toolCalls else none, ""⟩

def convertMessage (marshal : Marshal J) (searchToolName : String → String)
    (msg : ClaudeMessage J) : List Message :=
  let openAIMessage := restMessage marshal msg
  msg.content.parseContent.filterMap (·.toolMessage? marshal searchToolName) ++
    if openAIMessage.content.parseContent ≠ [] ∨ openAIMessage.toolCalls.isSome then
      [openAIMessage] else []

/-- The messages of the chat request; `isOpenRouter` and `upstreamModelName` come from the relay
info. -/
def claudeMessagesRequestToOpenAIChat (marshal : Marshal J) (isOpenRouter : Bool)
    (upstreamModelName : String) (request : ClaudeRequest J) : List Message :=
  systemMessages (isOpenRouter && hasPrefix upstreamModelName "anthropic/claude") request.system ++
    request.messages.flatMap
      (convertMessage marshal (searchToolNameByToolCallId request.messages))

/-! ### What the messages carry -/

namespace ClaudeMessage

variable (marshal : Marshal J) (msg : ClaudeMessage J)

def parts : List MediaContent :=
  match msg.content with
  | .string text => [.text text]
  | .blocks blocks => blocks.filterMap (·.media?)

def images : List String := msg.parts.filterMap (·.imageUrl?)

def toolUses : List ToolCallRequest := msg.content.parseContent.filterMap (·.toolCall? marshal)

def toolResults : List (String × String) :=
  msg.content.parseContent.filterMap (·.result? marshal)

end ClaudeMessage

namespace Message

variable (msg : Message)

def plainTexts : List String := if msg.role = .tool then [] else msg.content.texts

def toolResult? : Option (String × String) :=
  match msg.role, msg.content with
  | .tool, .string content => some (msg.toolCallId, content)
  | _, _ => none

end Message

/-- The chat messages of a conversation carry the texts, the images and the tool calls of the Claude
messages, each in their order. -/
def KeepsConversation (marshal : Marshal J) (messages : List (ClaudeMessage J))
    (chat : List Message) :
    Prop :=
  chat.flatMap (·.plainTexts) = messages.flatMap (·.texts) ∧
    chat.flatMap (·.content.imageUrls) = messages.flatMap (·.images) ∧
    chat.flatMap (·.assistantCalls) = messages.flatMap (·.toolUses marshal)

/-! ### One message -/

section

variable {marshal : Marshal J} {searchToolName : String → String} {msg : ClaudeMessage J}

/-- A reader that finds nothing in a tool message and nothing in an empty message finds in the
messages that a Claude message becomes what it finds in the last of them, left out or not. -/
theorem flatMap_convertMessage {β : Type} {read : Message → List β}
    (htool : ∀ content name id, read ⟨.tool, .string content, name, none, id⟩ = [])
    (hempty : ∀ m : Message, m.content.parseContent = [] → m.toolCalls = none → read m = []) :
    (convertMessage marshal searchToolName msg).flatMap read =
      read (restMessage marshal msg) := by
  have hresults : (msg.content.parseContent.filterMap
      (·.toolMessage? marshal searchToolName)).flatMap read = [] := by
    rw [flatMap_eq_nil_iff]
    intro m hm
    obtain ⟨block, _, hblock⟩ := mem_filterMap.mp hm
    obtain ⟨_, _, rfl⟩ := map_eq_some_iff.mp hblock
    exact htool _ _ _
  rw [convertMessage, flatMap_append, hresults, nil_append]
  split_ifs with hkept
  · rw [flatMap_singleton]
  · have hcalls := (not_or.mp hkept).2
    rw [not_isSome_iff_eq_none] at hcalls
    rw [flatMap_nil, hempty _ (not_not.mp (not_or.mp hkept).1) hcalls]

theorem role_restMessage : (restMessage marshal msg).role = msg.role.toChat := by
  unfold restMessage
  split <;> rfl

theorem parseContent_restMessage : (restMessage marshal msg).content.parseContent =
      if msg.toolUses marshal = [] then msg.parts else [] := by
  obtain ⟨role, text | blocks⟩ := msg
  · rfl
  simp only [restMessage, ClaudeMessage.toolUses, ClaudeContent.parseContent, ClaudeMessage.parts]
  by_cases hcalls : blocks.filterMap (·.toolCall? marshal) = []
  · by_cases hmedia : blocks.filterMap (·.media?) = []
    · simp [hmedia, MessageContent.parseContent]
    · simp [hcalls, hmedia, MessageContent.parseContent]
  · simp [hcalls, MessageContent.parseContent]

theorem texts_eq : msg.texts = (msg.parts.filterMap (·.text?)).filter (· ≠ "") := by
  obtain ⟨role, text | blocks⟩ := msg
  · rfl
  have hblock (block : ClaudeBlock J) : block.media?.bind (·.text?) = block.text? := by
    cases block <;> rfl
  simp [ClaudeMessage.texts, ClaudeMessage.parts, filterMap_filterMap, hblock]

theorem plainTexts_convertMessage :
    (convertMessage marshal searchToolName msg).flatMap (·.plainTexts) =
      if msg.toolUses marshal = [] then msg.texts else [] := by
  rw [flatMap_convertMessage (fun _ _ _ => rfl)
    (fun m hcontent _ => by simp [Message.plainTexts, MessageContent.texts, hcontent])]
  have hrole : msg.role.toChat ≠ .tool := by cases msg.role <;> decide
  rw [Message.plainTexts, role_restMessage, if_neg hrole, MessageContent.texts,
    parseContent_restMessage, texts_eq]
  split_ifs <;> rfl

theorem imageUrls_convertMessage :
    (convertMessage marshal searchToolName msg).flatMap (·.content.imageUrls) =
      if msg.toolUses marshal = [] then msg.images else [] := by
  rw [flatMap_convertMessage (fun _ _ _ => rfl)
    (fun m hcontent _ => by simp [imageUrls, hcontent]), imageUrls,
    parseContent_restMessage, ClaudeMessage.images]
  split_ifs <;> rfl

theorem parseToolCalls_restMessage :
    (restMessage marshal msg).parseToolCalls = msg.toolUses marshal := by
  obtain ⟨role, text | blocks⟩ := msg
  · rfl
  simp only [restMessage, Message.parseToolCalls, ClaudeMessage.toolUses,
    ClaudeContent.parseContent]
  split_ifs with hcalls
  · rfl
  · rw [not_not.mp hcalls, getD_none]

theorem assistantCalls_convertMessage :
    (convertMessage marshal searchToolName msg).flatMap (·.assistantCalls) =
      if msg.role = .assistant then msg.toolUses marshal else [] := by
  rw [flatMap_convertMessage (fun _ _ _ => rfl)
    (fun m _ hcalls => by simp [Message.assistantCalls, Message.parseToolCalls, hcalls]),
    Message.assistantCalls, role_restMessage, parseToolCalls_restMessage]
  cases msg.role <;> rfl

theorem toolResult_convertMessage :
    (convertMessage marshal searchToolName msg).filterMap (·.toolResult?) =
      msg.toolResults marshal := by
  have hrest : (restMessage marshal msg).toolResult? = none := by
    unfold Message.toolResult?
    rw [role_restMessage]
    cases msg.role <;> rfl
  have hblock (block : ClaudeBlock J) :
      (block.toolMessage? marshal searchToolName).bind (·.toolResult?) = block.result? marshal := by
    unfold ClaudeBlock.toolMessage?
    cases block.result? marshal <;> rfl
  rw [convertMessage, filterMap_append, filterMap_filterMap]
  simp only [hblock]
  split_ifs
  · rw [filterMap_cons_none hrest]
    exact append_nil _
  · exact append_nil _

theorem of_mem_convertMessage {m : Message}
    (hm : m ∈ convertMessage marshal searchToolName msg) :
    m.role ≠ .system ∧ (m.content.parseContent ≠ [] ∨ m.parseToolCalls ≠ []) := by
  rcases mem_append.mp hm with hm | hm
  · obtain ⟨block, _, hblock⟩ := mem_filterMap.mp hm
    obtain ⟨_, _, rfl⟩ := map_eq_some_iff.mp hblock
    simp [MessageContent.parseContent]
  split_ifs at hm with hkept
  · obtain rfl := mem_singleton.mp hm
    refine ⟨by rw [role_restMessage]; cases msg.role <;> simp [ClaudeRole.toChat], ?_⟩
    refine hkept.imp_right fun hsome => ?_
    obtain ⟨role, content⟩ := msg
    cases content with
    | string text => cases hsome
    | blocks blocks =>
      simp only [restMessage] at hsome
      split_ifs at hsome
      · rwa [parseToolCalls_restMessage]
      · cases hsome
  · cases hm

end

/-! ### The request -/

@[simp] theorem join_filter_ne_empty (texts : List String) :
    String.join (texts.filter fun text => !decide (text = "")) = String.join texts := by
  induction texts with
  | nil => rfl
  | cons text texts ih =>
    by_cases htext : text = ""
    all_goals simp [htext, String.join_cons, ← ih]

theorem systemMessages_spec (openRouterClaude : Bool) (request : ClaudeRequest J) :
    (systemMessages openRouterClaude request.system).length ≤ 1 ∧
      (∀ m ∈ systemMessages openRouterClaude request.system,
        m.role = .system ∧ m.content.parseContent ≠ []) ∧
      String.join ((systemMessages openRouterClaude request.system).flatMap (·.plainTexts)) =
        String.join request.systemTexts := by
  obtain ⟨system, messages⟩ := request
  dsimp [ClaudeRequest.systemTexts]
  fun_cases systemMessages openRouterClaude system with
  | case4 text htext =>
    simp [MessageContent.parseContent, Message.plainTexts, MessageContent.texts, MediaContent.text?]
  | case5 texts htexts =>
    have hparts : (texts.map MediaContent.text).filterMap (·.text?) = texts := by
      simp [MediaContent.text?]
    cases openRouterClaude
    · simp [MessageContent.parseContent, Message.plainTexts, MessageContent.texts,
        MediaContent.text?]
    · have hne : texts ≠ [] := fun h => htexts h
      simp [MessageContent.parseContent, Message.plainTexts, MessageContent.texts, hparts, hne]
  | _ => simp

theorem keepsConversation_flatMap_iff {marshal : Marshal J} {searchToolName : String → String}
    {messages : List (ClaudeMessage J)} :
    KeepsConversation marshal messages (messages.flatMap (convertMessage marshal searchToolName)) ↔
      ∀ msg ∈ messages, msg.toolUses marshal ≠ [] →
        msg.role = .assistant ∧ msg.texts = [] ∧ msg.images = [] := by
  simp only [KeepsConversation, flatMap_assoc, plainTexts_convertMessage,
    imageUrls_convertMessage, assistantCalls_convertMessage, Lossless.flatMap_ite_eq_flatMap_iff]
  constructor
  · rintro ⟨htexts, himages, hcalls⟩ msg hmessage huses
    refine ⟨?_, htexts msg hmessage huses, himages msg hmessage huses⟩
    by_contra hrole
    exact huses (hcalls msg hmessage hrole)
  · intro h
    refine ⟨fun msg hm huses => (h msg hm huses).2.1,
      fun msg hm huses => (h msg hm huses).2.2, fun msg hm hrole => ?_⟩
    by_contra huses
    exact hrole (h msg hm huses).1

/-- **The request.** The chat request is a system message, if there is one, with the text of the
system prompt, followed by the conversation; no message is empty, and the tool messages are the
tool results in order. The conversation keeps the texts, the images and the tool calls exactly if
every message with a tool call is the assistant's and has no text and no image beside it. -/
theorem keepsConversation_iff (marshal : Marshal J) (isOpenRouter : Bool)
    (upstreamModelName : String) (request : ClaudeRequest J) :
    ∃ system conversation : List Message,
      claudeMessagesRequestToOpenAIChat marshal isOpenRouter upstreamModelName request =
        system ++ conversation ∧
      system.length ≤ 1 ∧ (∀ m ∈ system, m.role = .system) ∧
      (∀ m ∈ conversation, m.role ≠ .system) ∧
      String.join (system.flatMap (·.plainTexts)) = String.join request.systemTexts ∧
      (∀ m ∈ system ++ conversation, m.content.parseContent ≠ [] ∨ m.parseToolCalls ≠ []) ∧
      conversation.filterMap (·.toolResult?) = request.messages.flatMap (·.toolResults marshal) ∧
      (KeepsConversation marshal request.messages conversation ↔
        ∀ msg ∈ request.messages, msg.toolUses marshal ≠ [] →
          msg.role = .assistant ∧ msg.texts = [] ∧ msg.images = []) := by
  obtain ⟨hlength, hsystem, hjoin⟩ := systemMessages_spec
    (isOpenRouter && hasPrefix upstreamModelName "anthropic/claude") request
  refine ⟨_, _, rfl, hlength, fun m hm => (hsystem m hm).1, ?_, hjoin, ?_, ?_,
    keepsConversation_flatMap_iff⟩
  · intro m hm
    obtain ⟨msg, _, hmem⟩ := mem_flatMap.mp hm
    exact (of_mem_convertMessage hmem).1
  · intro m hm
    rcases mem_append.mp hm with hm | hm
    · exact .inl (hsystem m hm).2
    · obtain ⟨msg, _, hmem⟩ := mem_flatMap.mp hm
      exact (of_mem_convertMessage hmem).2
  · rw [filterMap_flatMap]
    simp [toolResult_convertMessage]

/-- An assistant that says what it calls a tool for: the text is lost. -/
theorem text_beside_toolUse_lost :
    let messages : List (ClaudeMessage String) :=
      [⟨.assistant, .blocks [.text "I will look.", .toolUse "t1" "weather" "\x7b\x7d"]⟩]
    let chat := claudeMessagesRequestToOpenAIChat ⟨id, id⟩ false "gpt-4o" ⟨none, messages⟩
    chat = [⟨.assistant, .null, none, some [⟨"t1", "weather", "\x7b\x7d"⟩], ""⟩] ∧
      ¬ KeepsConversation ⟨id, id⟩ messages chat := by
  unfold KeepsConversation
  decide +kernel

end NewApi.RelayConvert
