import Mathlib.Data.List.Chain
import NewApi.RelayConvert.ChatRequest
import NewApi.RelayConvert.ClaudeRequest

/-!
# From a chat request to a Claude request

A first pass brings the roles down to four and joins neighbouring messages of one role whose
contents are texts; the joined message has the tool calls of the second one only. A second pass
builds the Claude messages: the results of tools go into user messages, and the conversation begins
with a user message.
-/

namespace NewApi.RelayConvert

open List Except

variable {J : Type}

/-! ### The first pass -/

inductive FmtRole
  | system | user | assistant | tool
  deriving DecidableEq, Repr

inductive FmtContent
  | string (text : String)
  | media (parts : List MediaContent)

structure FmtMessage where
  role : FmtRole
  content : FmtContent
  toolCalls : Option (List ToolCallRequest)
  toolCallId : String

def Message.fmtRole (msg : Message) : FmtRole :=
  match msg.role with
  | .system | .developer => .system
  | .user | .other _ => .user
  | .assistant => .assistant
  | .tool | .function => if msg.toolCallId = "" then .user else .tool

def MessageContent.fill : MessageContent → FmtContent
  | .null | .string "" => .string "..."
  | .string text => .string text
  | .media parts => .media parts

def Message.format (msg : Message) (content : MessageContent) : FmtMessage where
  role := msg.fmtRole
  content := content.fill
  toolCalls := if msg.fmtRole = .assistant then msg.toolCalls else none
  toolCallId := if msg.fmtRole = .tool then msg.toolCallId else ""

/-- The joined text of two neighbouring messages, if they are joined. -/
def joinedText (last : FmtMessage) (msg : Message) : Option String :=
  match last.content, msg.content with
  | .string lastText, .string text =>
    if last.role = msg.fmtRole ∧ last.role ≠ .tool then some (lastText ++ " " ++ text) else none
  | _, _ => none

/-- One round of the first pass. The messages are kept with the last one in front; before the first
message the source compares with a tool message, which is never joined. -/
def formatMessage (formatted : List FmtMessage) (msg : Message) : List FmtMessage :=
  match formatted with
  | [] => [msg.format msg.content]
  | last :: rest =>
    match joinedText last msg with
    | some text => msg.format (.string text) :: rest
    | none => msg.format msg.content :: last :: rest

def formatMessages (messages : List Message) : List FmtMessage :=
  (messages.foldl formatMessage []).reverse

/-! ### The second pass -/

/-- The parts of the conversion that are not modelled: the object in the arguments of a tool call
(an empty one for other texts), the parts of the result of a tool as JSON, and the file that an
image URL leads to, as media type and data, or none. -/
structure ClaudeEnv (J : Type) where
  input : String → J
  parts : List MediaContent → J
  file : String → Except String (Option (String × String))

def placeholderUserMessage : ClaudeMessage J := ⟨.user, .blocks [.text "..."]⟩

/-- The messages so far, the last one in front, and the texts of the system prompt. -/
structure ClaudeDraft (J : Type) where
  messages : List (ClaudeMessage J)
  system : List String

def FmtContent.texts : FmtContent → List String
  | .string text => [text].filter (· ≠ "")
  | .media parts => (parts.filterMap (·.text?)).filter (· ≠ "")

section

variable (env : ClaudeEnv J)

def FmtContent.toResult : FmtContent → ToolResultContent J
  | .string content => .string content
  | .media content => .json (env.parts content)

@[simp] def ClaudeContent.asBlocks : ClaudeContent J → List (ClaudeBlock J)
  | .string content => [.text content]
  | .blocks content => content

/-- A result goes to the last message if that is the user's, and to a message of its own otherwise.
-/
def addToolResult (block : ClaudeBlock J) : List (ClaudeMessage J) → List (ClaudeMessage J)
  | ⟨.user, content⟩ :: rest => ⟨.user, .blocks (content.asBlocks ++ [block])⟩ :: rest
  | messages => ⟨.user, .blocks [block]⟩ :: messages

def mediaBlocks : MediaContent → Except String (List (ClaudeBlock J))
  | .text text => pure (if text ≠ "" then [.text text] else [])
  | .imageUrl url => do
    let source ← (env.file url).mapError ("get file data failed: " ++ ·)
    pure (source.toList.map fun (mimeType, data) =>
      if GoText.hasPrefix mimeType "application/pdf" then .document mimeType data
      else .image mimeType data)

def ToolCallRequest.toolUse (toolCall : ToolCallRequest) : ClaudeBlock J :=
  .toolUse toolCall.id toolCall.name (env.input toolCall.arguments)

/-- The content of a message that is not a result. -/
def FmtMessage.claudeContent (msg : FmtMessage) : Except String (ClaudeContent J) :=
  match msg.content, msg.toolCalls with
  | .string text, none => pure (.string (if text = "" then "..." else text))
  | .string text, some toolCalls => do
    let blocks ← mediaBlocks env (.text text)
    pure (.blocks (blocks ++ toolCalls.map (·.toolUse env)))
  | .media parts, toolCalls => do
    let blocks ← parts.mapM (mediaBlocks env)
    pure (.blocks (blocks.flatten ++ (toolCalls.getD []).map (·.toolUse env)))

def ClaudeDraft.opened (draft : ClaudeDraft J) : List (ClaudeMessage J) :=
  if draft.messages = [] then [placeholderUserMessage] else draft.messages

/-- One round of the second pass. -/
def convertFormatted (draft : ClaudeDraft J) (msg : FmtMessage) :
    Except String (ClaudeDraft J) :=
  match msg.role with
  | .system => pure { draft with system := draft.system ++ msg.content.texts }
  | .tool =>
    let block := .toolResult msg.toolCallId "" (msg.content.toResult env)
    pure { draft with messages := addToolResult block draft.opened }
  | .user => do
    let content ← msg.claudeContent env
    pure { draft with messages := ⟨.user, content⟩ :: draft.messages }
  | .assistant => do
    let content ← msg.claudeContent env
    pure { draft with messages := ⟨.assistant, content⟩ :: draft.opened }

/-- `maxTokens` is the limit that the request has after the defaults have been filled in. -/
def openAIChatRequestToClaudeMessages (maxTokens : Option ℕ) (messages : List Message) :
    Except String (ClaudeRequest J) := do
  let draft ← (formatMessages messages).foldlM (convertFormatted env) ⟨[], []⟩
  let claudeMessages :=
    if draft.messages = [] ∧ draft.system ≠ [] then [placeholderUserMessage]
    else draft.messages.reverse
  match maxTokens with
  | none =>
    throw ("claude messages request requires max_tokens: set max_tokens on the request or " ++
      "configure Options.Claude.DefaultMaxTokens")
  | some _ => pure ⟨if draft.system = [] then none else some (.blocks draft.system), claudeMessages⟩

end

/-! ### The first pass keeps texts and results -/

/-- The texts `out` are the texts `texts` in their order, except that a text may be joined to the
one before it by a blank and that there are placeholders. -/
inductive Renders : List String → List String → Prop
  | nil : Renders [] []
  | text {out texts : List String} (h : Renders out texts) (text : String) :
      Renders (out ++ [text]) (texts ++ [text])
  | placeholder {out texts : List String} (h : Renders out texts) : Renders (out ++ ["..."]) texts
  | join {out texts : List String} {last : String} (h : Renders (out ++ [last]) texts)
      (text : String) :
      Renders (out ++ [last ++ " " ++ text]) (texts ++ [text].filter (· ≠ ""))

theorem Renders.append {out texts out' texts' : List String} (h : Renders out texts)
    (h' : Renders out' texts') : Renders (out ++ out') (texts ++ texts') := by
  induction h' with
  | nil => simpa using h
  | text _ text ih =>
    rw [← append_assoc, ← append_assoc]
    exact ih.text text
  | placeholder _ ih =>
    rw [← append_assoc]
    exact ih.placeholder
  | join _ text ih =>
    rw [← append_assoc] at ih
    rw [← append_assoc, ← append_assoc]
    exact ih.join text

theorem Renders.refl (texts : List String) : Renders texts texts := by
  induction texts using reverseRecOn with
  | nil => exact .nil
  | append_singleton texts text ih => exact ih.text text

def Message.textsOf (p : FmtRole → Bool) (msg : Message) : List String :=
  if p msg.fmtRole then msg.content.texts else []

def FmtMessage.textsOf (p : FmtRole → Bool) (msg : FmtMessage) : List String :=
  if p msg.role then msg.content.texts else []

open MessageContent

theorem renders_fill (content : MessageContent) : Renders content.fill.texts content.texts := by
  fun_cases fill content with
  | case3 text htext | case4 parts => exact Renders.refl _
  | _ => exact Renders.nil.placeholder

theorem formatMessage_cases (formatted : List FmtMessage) (msg : Message) :
    (∀ last rest, formatted = last :: rest → joinedText last msg = none) ∧
        formatMessage formatted msg = msg.format msg.content :: formatted ∨
      ∃ last rest lastText text, formatted = last :: rest ∧ last.role = msg.fmtRole ∧
        msg.fmtRole ≠ .tool ∧ last.content = .string lastText ∧
        msg.content = .string text ∧ formatMessage formatted msg =
          msg.format (.string (lastText ++ " " ++ text)) :: rest := by
  fun_cases formatMessage formatted msg with
  | case1 => exact .inl ⟨by simp, rfl⟩
  | case2 last rest joined hjoined =>
    unfold joinedText at hjoined
    split at hjoined
    next lastText text hlast htext =>
      split_ifs at hjoined with hrole
      obtain rfl := Option.some.inj hjoined
      exact .inr ⟨last, rest, lastText, text, rfl, hrole.1, hrole.1 ▸ hrole.2, hlast, htext, rfl⟩
    · cases hjoined
  | case3 last rest hjoined => exact .inl ⟨by simp [hjoined], rfl⟩

theorem MessageContent.fill_string {text : String} (h : text ≠ "") :
    (MessageContent.string text).fill = .string text := by
  simp [fill]

structure FmtMessage.WellFormed (msg : FmtMessage) : Prop where
  content : msg.content ≠ .string ""
  toolCalls : msg.role ≠ .assistant → msg.toolCalls = none

theorem Message.format_wellFormed (msg : Message) (content : MessageContent) :
    (msg.format content).WellFormed where
  content := by
    fun_cases fill content with
    | case3 text htext => simpa [Message.format, fill] using htext
    | _ => simp [Message.format, fill]
  toolCalls hrole := if_neg hrole

theorem FmtMessage.WellFormed.texts {msg : FmtMessage} (h : msg.WellFormed) {text : String}
    (htext : msg.content = .string text) : msg.content.texts = [text] := by
  have hne : text ≠ "" := fun hempty => h.content (by rw [htext, hempty])
  simp [htext, FmtContent.texts, hne]

section

variable (env : ClaudeEnv J)

def Message.resultBlock? (msg : Message) : Option (ClaudeBlock J) :=
  if msg.fmtRole = .tool then
    some (.toolResult msg.toolCallId "" (msg.content.fill.toResult env))
  else none

def FmtMessage.resultBlock? (msg : FmtMessage) : Option (ClaudeBlock J) :=
  if msg.role = .tool then
    some (.toolResult msg.toolCallId "" (msg.content.toResult env))
  else none

structure Formats (done : List Message) (formatted : List FmtMessage) : Prop where
  wellFormed : ∀ msg ∈ formatted, msg.WellFormed
  texts : ∀ p, Renders (formatted.reverse.flatMap (·.textsOf p)) (done.flatMap (·.textsOf p))
  results : formatted.reverse.filterMap (·.resultBlock? env) = done.filterMap (·.resultBlock? env)

variable {env} {done : List Message} {formatted : List FmtMessage}

theorem Formats.step (h : Formats env done formatted) (msg : Message) :
    Formats env (done ++ [msg]) (formatMessage formatted msg) := by
  rcases formatMessage_cases formatted msg with ⟨-, hnext⟩ | ⟨last, rest, lastText, text,
    rfl, hrole, htool, hlast, htext, hnext⟩
  · rw [hnext]
    refine ⟨?_, fun p => ?_, ?_⟩
    · exact forall_mem_cons.mpr ⟨msg.format_wellFormed _, h.wellFormed⟩
    · simp only [reverse_cons, flatMap_append]
      refine (h.texts p).append ?_
      unfold FmtMessage.textsOf Message.textsOf
      by_cases hp : p msg.fmtRole
      · simpa [Message.format, hp] using renders_fill msg.content
      · simpa [Message.format, hp] using Renders.nil
    · simp only [reverse_cons, filterMap_append, h.results]
      congr 1
      simp only [FmtMessage.resultBlock?, Message.resultBlock?]
      by_cases hrole : msg.fmtRole = .tool
      all_goals simp [Message.format, hrole]
  · rw [hnext]
    refine ⟨?_, fun p => ?_, ?_⟩
    · obtain ⟨-, hrest⟩ := forall_mem_cons.mp h.wellFormed
      exact forall_mem_cons.mpr ⟨msg.format_wellFormed _, hrest⟩
    · have hjoined : (msg.format (.string (lastText ++ " " ++ text))).content =
          .string (lastText ++ " " ++ text) := fill_string (by simp)
      have htexts := h.texts p
      simp only [reverse_cons, flatMap_append, flatMap_singleton] at htexts ⊢
      unfold FmtMessage.textsOf Message.textsOf at htexts ⊢
      by_cases hp : p msg.fmtRole
      · have hlastTexts := (h.wellFormed last mem_cons_self).texts hlast
        simp only [hrole, hp, hlastTexts] at htexts
        have hnew := (msg.format_wellFormed _).texts hjoined
        have htexts' : msg.content.texts = [text].filter (· ≠ "") := by
          rw [htext]
          rfl
        rw [if_pos (show p (msg.format _).role = true from hp), if_pos hp, hnew, htexts']
        exact htexts.join text
      · simpa [hrole, hp, Message.format] using htexts
    · have hresults := h.results
      simp only [FmtMessage.resultBlock?, Message.resultBlock?] at hresults ⊢
      simpa [hrole, htool, Message.format] using hresults

theorem formats_formatMessages (messages : List Message) :
    Formats env messages (messages.foldl formatMessage []) := by
  induction messages using reverseRecOn with
  | nil => exact ⟨by simp, fun p => .nil, rfl⟩
  | append_singleton messages msg ih =>
    rw [foldl_append]
    exact ih.step msg

end

/-! ### The first pass and tool calls -/

def MessageContent.isText : MessageContent → Bool
  | .null | .string _ => true
  | .media _ => false

def DropsCalls (prev next : Message) : Prop :=
  prev.role = .assistant ∧ next.role = .assistant ∧ prev.parseToolCalls ≠ [] ∧
    prev.content.isText = true ∧ next.content.isStringContent = true
  deriving Decidable

def keptCalls (prev : Message) : List Message → List ToolCallRequest
  | [] => prev.assistantCalls
  | next :: messages =>
    (if DropsCalls prev next then [] else prev.assistantCalls) ++ keptCalls next messages

theorem keptCalls_sublist (prev : Message) (messages : List Message) :
    (keptCalls prev messages).Sublist ((prev :: messages).flatMap (·.assistantCalls)) := by
  induction messages generalizing prev with
  | nil => simp [keptCalls]
  | cons next messages ih =>
    refine List.Sublist.append ?_ (ih next)
    split_ifs
    · exact nil_sublist _
    · exact List.Sublist.refl _

theorem keptCalls_eq_iff {prev : Message} {messages : List Message} :
    keptCalls prev messages = (prev :: messages).flatMap (·.assistantCalls) ↔
      (prev :: messages).IsChain fun prev next => ¬ DropsCalls prev next := by
  induction messages generalizing prev with
  | nil => simp [keptCalls]
  | cons next messages ih =>
    rw [keptCalls, flatMap_cons, isChain_cons_cons, ← ih]
    by_cases hdrops : DropsCalls prev next
    · refine iff_of_false (fun heq => ?_) (fun h => h.1 hdrops)
      have hlength := congrArg length heq
      have hkept := (keptCalls_sublist next messages).length_le
      have hcalls : prev.assistantCalls ≠ [] := by
        rw [Message.assistantCalls, if_pos hdrops.1]
        exact hdrops.2.2.1
      have hpos := length_pos_iff.mpr hcalls
      simp only [hdrops, if_true, nil_append, length_append] at hlength
      omega
    · simp [hdrops]

theorem exists_fill_eq_string_iff {content : MessageContent} :
    (∃ text, content.fill = .string text) ↔ content.isText = true := by
  fun_cases fill content <;> simp [isText]

open Message

theorem Message.fmtRole_eq_assistant_iff {msg : Message} :
    msg.fmtRole = .assistant ↔ msg.role = .assistant := by
  unfold fmtRole
  cases msg.role <;> simp
  all_goals split_ifs <;> simp

/-- The formatted message `last` comes from `prev`, perhaps joined to messages before it. -/
structure StandsFor (last : FmtMessage) (prev : Message) : Prop where
  role : last.role = prev.fmtRole
  string : (∃ text, last.content = .string text) ↔ prev.content.isText = true
  toolCalls : last.toolCalls.getD [] = prev.assistantCalls

theorem StandsFor.format {msg : Message} {content : MessageContent}
    (hcontent : content.isText = msg.content.isText) :
    StandsFor (msg.format content) msg where
  role := rfl
  string := hcontent ▸ exists_fill_eq_string_iff
  toolCalls := by
    simp only [Message.format, Message.assistantCalls, Message.parseToolCalls,
      Message.fmtRole_eq_assistant_iff]
    split_ifs <;> rfl

theorem calls_foldl {last : FmtMessage} {prev : Message} (h : StandsFor last prev)
    (formatted : List FmtMessage) (messages : List Message) :
    (messages.foldl formatMessage (last :: formatted)).reverse.flatMap (·.toolCalls.getD []) =
      formatted.reverse.flatMap (·.toolCalls.getD []) ++ keptCalls prev messages := by
  induction messages generalizing last prev formatted with
  | nil => simp [keptCalls, h.toolCalls]
  | cons next messages ih =>
    rw [foldl_cons, keptCalls]
    rcases formatMessage_cases (last :: formatted) next with ⟨hnone, hnext⟩ | ⟨_, _, lastText, text,
      hcons, hrole, htool, hlast, htext, hnext⟩
    · have hkept : ¬ DropsCalls prev next := by
        rintro ⟨hprev, hrole, -, hstring, hcontent⟩
        obtain ⟨lastText, hlast⟩ := h.string.mpr hstring
        have hjoined := hnone last formatted rfl
        unfold joinedText isStringContent at *
        split at hcontent
        next htext => simp [hlast, htext, h.role, fmtRole, hprev, hrole] at hjoined
        all_goals cases hcontent
      rw [hnext, ih (.format rfl), if_neg hkept]
      simp [h.toolCalls]
    · obtain ⟨rfl, rfl⟩ := cons.inj hcons
      have hkept : (if DropsCalls prev next then [] else prev.assistantCalls) = [] := by
        split_ifs with hdrops
        · rfl
        rw [Message.assistantCalls]
        split_ifs with hprev
        · by_contra hcalls
          have hassistant := h.role.symm.trans hrole
          rw [fmtRole_eq_assistant_iff.mpr hprev] at hassistant
          exact hdrops ⟨hprev, fmtRole_eq_assistant_iff.mp hassistant.symm, hcalls,
            h.string.mp ⟨_, hlast⟩, by rw [htext]; rfl⟩
        · rfl
      rw [hnext, ih (.format (by rw [htext]; rfl)), hkept, nil_append]

/-- **The first pass and tool calls.** The calls that are left keep their order, and all are left
exactly if no message with tool calls is joined to the next one. -/
theorem calls_formatMessages (messages : List Message) :
    ((formatMessages messages).flatMap (·.toolCalls.getD [])).Sublist
        (messages.flatMap (·.assistantCalls)) ∧
      ((formatMessages messages).flatMap (·.toolCalls.getD []) =
          messages.flatMap (·.assistantCalls) ↔
        messages.IsChain fun prev next => ¬ DropsCalls prev next) := by
  rcases messages with - | ⟨first, messages⟩
  · simp [formatMessages]
  have hfirst : StandsFor (first.format first.content) first := .format rfl
  have hcalls := calls_foldl hfirst [] messages
  rw [formatMessages, foldl_cons, formatMessage, hcalls]
  exact ⟨keptCalls_sublist first messages, keptCalls_eq_iff⟩

/-! ### The second pass -/

section

variable {env : ClaudeEnv J}

@[simp] def ClaudeBlock.isToolUse : ClaudeBlock J → Bool
  | .toolUse .. => true
  | .text .. | .image .. | .document .. | .toolResult .. => false

@[simp] def ClaudeBlock.isToolResult : ClaudeBlock J → Bool
  | .toolResult .. => true
  | .text .. | .image .. | .document .. | .toolUse .. => false

def ClaudeMessage.toolUseBlocks (msg : ClaudeMessage J) : List (ClaudeBlock J) :=
  msg.content.asBlocks.filter (·.isToolUse)

def ClaudeMessage.toolResultBlocks (msg : ClaudeMessage J) : List (ClaudeBlock J) :=
  msg.content.asBlocks.filter (·.isToolResult)

theorem ClaudeMessage.texts_eq_asBlocks (msg : ClaudeMessage J) :
    msg.texts = (msg.content.asBlocks.filterMap (·.text?)).filter (· ≠ "") := by
  obtain ⟨role, content⟩ := msg
  cases content <;> rfl

def FmtRole.inConversation (role : FmtRole) : Bool := role = .user ∨ role = .assistant

structure Builds (env : ClaudeEnv J) (done : List FmtMessage) (draft : ClaudeDraft J) : Prop where
  system : draft.system = done.flatMap (·.textsOf (· = .system))
  texts : ∃ placeholder ∈ [[], ["..."]], draft.messages.reverse.flatMap (·.texts) =
    placeholder ++ done.flatMap (·.textsOf FmtRole.inConversation)
  toolUses : draft.messages.reverse.flatMap (·.toolUseBlocks) =
    (done.flatMap (·.toolCalls.getD [])).map (·.toolUse env)
  toolResults : draft.messages.reverse.flatMap (·.toolResultBlocks) =
    done.filterMap (·.resultBlock? env)
  starts : ∀ msg ∈ draft.messages.getLast?, msg.role = .user

variable {done : List FmtMessage} {draft : ClaudeDraft J}

theorem Builds.opened (h : Builds env done draft) :
    Builds env done { draft with messages := draft.opened } := by
  by_cases hempty : draft.messages = []
  · have hopened : draft.opened = [placeholderUserMessage] := if_pos hempty
    obtain ⟨placeholder, -, htexts⟩ := h.texts
    have huses := h.toolUses
    have hresults := h.toolResults
    rw [hempty] at htexts huses hresults
    refine ⟨h.system, ⟨["..."], by simp, ?_⟩, ?_, ?_, ?_⟩
    · rw [(append_eq_nil_iff.mp htexts.symm).2, hopened]
      rfl
    · rw [← huses, hopened]
      rfl
    · rw [← hresults, hopened]
      rfl
    · simp [hopened, placeholderUserMessage]
  · rw [ClaudeDraft.opened, if_neg hempty]
    exact h

variable {msg : FmtMessage}

theorem Builds.push (h : Builds env done draft) {claude : ClaudeMessage J}
    (hfirst : draft.messages = [] → claude.role = .user)
    (hrole : msg.role = .user ∨ msg.role = .assistant)
    (htexts : claude.texts = msg.content.texts)
    (huses : claude.toolUseBlocks = (msg.toolCalls.getD []).map (·.toolUse env))
    (hresults : claude.toolResultBlocks = []) :
    Builds env (done ++ [msg]) { draft with messages := claude :: draft.messages } := by
  have hsystem : msg.role ≠ .system := by rintro heq; simp [heq] at hrole
  have htool : msg.role ≠ .tool := by rintro heq; simp [heq] at hrole
  obtain ⟨placeholder, hplaceholder, hbefore⟩ := h.texts
  refine ⟨?_, ⟨placeholder, hplaceholder, ?_⟩, ?_, ?_, ?_⟩
  · simp [h.system, FmtMessage.textsOf, hsystem]
  · simp [hbefore, htexts, FmtMessage.textsOf, FmtRole.inConversation, hrole]
  · simp [h.toolUses, huses]
  · simp [h.toolResults, hresults, FmtMessage.resultBlock?, htool]
  cases hmessages : draft.messages with
  | nil => simpa using hfirst hmessages
  | cons last rest =>
    have hstarts := h.starts
    rw [hmessages] at hstarts
    simpa [getLast?_cons_cons] using hstarts

theorem Builds.addToolResult (h : Builds env done draft)
    (hmessage : msg.WellFormed) (hrole : msg.role = .tool) :
    Builds env (done ++ [msg]) { draft with
      messages := RelayConvert.addToolResult
        (.toolResult msg.toolCallId "" (msg.content.toResult env)) draft.messages } := by
  have hnone := hmessage.toolCalls (by simp [hrole])
  obtain ⟨hsystem, ⟨placeholder, hplaceholder, htexts⟩, huses, hresults, hstarts⟩ := h
  obtain ⟨messages, system⟩ := draft
  simp only [ClaudeMessage.texts_eq_asBlocks] at htexts
  have hsystem' : system = (done ++ [msg]).flatMap (·.textsOf (· = .system)) := by
    simpa [FmtMessage.textsOf, hrole] using hsystem
  fun_cases RelayConvert.addToolResult _ messages with
  | case1 content messages | case2 messages hlast =>
    refine ⟨hsystem', ⟨placeholder, hplaceholder, ?_⟩, ?_, ?_, ?_⟩
    · simpa [ClaudeMessage.texts_eq_asBlocks, FmtMessage.textsOf, FmtRole.inConversation, hrole,
        ClaudeBlock.text?] using htexts
    · simpa [ClaudeMessage.toolUseBlocks, hnone] using huses
    · rw [filterMap_append, ← hresults]
      simp [ClaudeMessage.toolResultBlocks, FmtMessage.resultBlock?, hrole]
    · cases messages with
      | nil => simp
      | cons last rest => simpa using hstarts

theorem exists_of_bind_eq_ok {α β : Type} {x : Except String α} {f : α → Except String β} {b : β}
    (h : x >>= f = .ok b) : ∃ a, x = .ok a ∧ f a = .ok b := by
  cases x with
  | error e => cases h
  | ok a => exact ⟨a, rfl, h⟩

theorem mediaBlocks_spec {part : MediaContent} {blocks : List (ClaudeBlock J)}
    (h : mediaBlocks env part = .ok blocks) :
    (blocks.filterMap (·.text?)).filter (· ≠ "") = part.text?.toList.filter (· ≠ "") ∧
      blocks.filter (·.isToolUse) = [] ∧ blocks.filter (·.isToolResult) = [] := by
  cases part with
  | text content =>
    obtain rfl := ok.inj h
    by_cases hempty : content = ""
    · simp [hempty, MediaContent.text?]
    · simp [hempty, MediaContent.text?, ClaudeBlock.text?]
  | imageUrl url =>
    obtain ⟨source, -, h⟩ := exists_of_bind_eq_ok h
    obtain rfl := ok.inj h
    cases source with
    | none => simp [MediaContent.text?]
    | some source =>
      simp only [Option.toList_some, map_cons, map_nil]
      split_ifs <;> simp [MediaContent.text?, ClaudeBlock.text?]

theorem mapM_mediaBlocks_spec {parts : List MediaContent} {blocks : List (List (ClaudeBlock J))}
    (h : parts.mapM (mediaBlocks env) = .ok blocks) :
    (blocks.flatten.filterMap (·.text?)).filter (· ≠ "") =
        (parts.filterMap (·.text?)).filter (· ≠ "") ∧
      blocks.flatten.filter (·.isToolUse) = [] ∧ blocks.flatten.filter (·.isToolResult) = [] := by
  induction parts generalizing blocks with
  | nil =>
    obtain rfl := ok.inj h
    simp
  | cons part parts ih =>
    rw [mapM_cons] at h
    obtain ⟨first, hfirst, h⟩ := exists_of_bind_eq_ok h
    obtain ⟨others, hothers, h⟩ := exists_of_bind_eq_ok h
    obtain rfl := ok.inj h
    obtain ⟨htexts, huses, hresults⟩ := ih hothers
    obtain ⟨htext, huse, hresult⟩ := mediaBlocks_spec hfirst
    have hparts : (part :: parts).filterMap (·.text?) =
        part.text?.toList ++ parts.filterMap (·.text?) := by
      cases hpart : part.text? <;> simp [hpart]
    rw [flatten_cons, filterMap_append, filter_append, filter_append,
      filter_append, htext, htexts, huse, huses, hresult, hresults, hparts, filter_append]
    exact ⟨rfl, rfl, rfl⟩

theorem blocks_append_toolUses {blocks : List (ClaudeBlock J)} {texts : List String}
    (h : (blocks.filterMap (·.text?)).filter (· ≠ "") = texts ∧
      blocks.filter (·.isToolUse) = [] ∧ blocks.filter (·.isToolResult) = [])
    (toolCalls : List ToolCallRequest) (role : ClaudeRole) :
    let msg : ClaudeMessage J := ⟨role, .blocks (blocks ++ toolCalls.map (·.toolUse env))⟩
    msg.texts = texts ∧ msg.toolUseBlocks = toolCalls.map (·.toolUse env) ∧
      msg.toolResultBlocks = [] := by
  have huses : (toolCalls.map (·.toolUse env)).filter (·.isToolUse) =
      toolCalls.map (·.toolUse env) := by
    simp [ToolCallRequest.toolUse]
  have hothers : (toolCalls.map (·.toolUse env)).filter (·.isToolResult) = [] ∧
      (toolCalls.map (·.toolUse env)).filterMap (·.text?) = [] := by
    simp [ToolCallRequest.toolUse, ClaudeBlock.text?]
  simp only [ClaudeMessage.texts, ClaudeMessage.toolUseBlocks, ClaudeMessage.toolResultBlocks,
    ClaudeContent.asBlocks, filterMap_append, filter_append, huses, hothers, h,
    append_nil, nil_append, and_self]

theorem claudeContent_spec {content : ClaudeContent J}
    (hmessage : msg.WellFormed) (h : msg.claudeContent env = .ok content)
    (role : ClaudeRole) :
    (⟨role, content⟩ : ClaudeMessage J).texts = msg.content.texts ∧
      (⟨role, content⟩ : ClaudeMessage J).toolUseBlocks =
        (msg.toolCalls.getD []).map (·.toolUse env) ∧
      (⟨role, content⟩ : ClaudeMessage J).toolResultBlocks = [] := by
  unfold FmtMessage.claudeContent at h
  split at h
  next text htext hnone =>
    obtain rfl := ok.inj h
    have hne : text ≠ "" := fun hempty => hmessage.content (by rw [htext, hempty])
    simp [htext, hnone, hne, FmtContent.texts, ClaudeMessage.texts, ClaudeMessage.toolUseBlocks,
      ClaudeMessage.toolResultBlocks]
  next text toolCalls htext hsome =>
    obtain ⟨blocks, hblocks, h⟩ := exists_of_bind_eq_ok h
    obtain rfl := ok.inj h
    rw [htext, hsome]
    exact blocks_append_toolUses (mediaBlocks_spec hblocks) toolCalls role
  next parts hmedia =>
    obtain ⟨blocks, hblocks, h⟩ := exists_of_bind_eq_ok h
    obtain rfl := ok.inj h
    rw [hmedia]
    exact blocks_append_toolUses (mapM_mediaBlocks_spec hblocks) _ role

theorem Builds.step (h : Builds env done draft) {draft' : ClaudeDraft J}
    (hmessage : msg.WellFormed) (hnext : convertFormatted env draft msg = .ok draft') :
    Builds env (done ++ [msg]) draft' := by
  unfold convertFormatted at hnext
  split at hnext
  next hrole =>
    obtain rfl := ok.inj hnext
    have hnone := hmessage.toolCalls (by simp [hrole])
    obtain ⟨hsystem, ⟨placeholder, hplaceholder, htexts⟩, huses, hresults, hstarts⟩ := h
    refine ⟨?_, ⟨placeholder, hplaceholder, ?_⟩, ?_, ?_, hstarts⟩
    · simp [hsystem, FmtMessage.textsOf, hrole]
    · simp [htexts, FmtMessage.textsOf, FmtRole.inConversation, hrole]
    · simp [huses, hnone]
    · simp [hresults, FmtMessage.resultBlock?, hrole]
  next hrole =>
    obtain rfl := ok.inj hnext
    exact h.opened.addToolResult hmessage hrole
  next hrole =>
    obtain ⟨content, hcontent, hnext⟩ := exists_of_bind_eq_ok hnext
    obtain rfl := ok.inj hnext
    obtain ⟨htexts, huses, hresults⟩ := claudeContent_spec hmessage hcontent .user
    exact h.push (fun _ => rfl) (.inl hrole) htexts huses hresults
  next hrole =>
    obtain ⟨content, hcontent, hnext⟩ := exists_of_bind_eq_ok hnext
    obtain rfl := ok.inj hnext
    obtain ⟨htexts, huses, hresults⟩ := claudeContent_spec hmessage hcontent .assistant
    refine h.opened.push (fun hempty => ?_) (.inr hrole) htexts huses hresults
    unfold ClaudeDraft.opened at hempty
    split_ifs at hempty with hnone
    exact absurd hempty hnone

/-- **The second pass.** -/
theorem builds_foldlM {messages : List FmtMessage} (hmessages : ∀ m ∈ messages, m.WellFormed)
    (h : Builds env done draft) {draft' : ClaudeDraft J}
    (hrun : messages.foldlM (convertFormatted env) draft = .ok draft') :
    Builds env (done ++ messages) draft' := by
  induction messages generalizing done draft with
  | nil =>
    obtain rfl := ok.inj hrun
    simpa using h
  | cons msg messages ih =>
    obtain ⟨hmessage, hmessages⟩ := forall_mem_cons.mp hmessages
    obtain ⟨next, hnext, hrun⟩ := exists_of_bind_eq_ok hrun
    simpa using ih hmessages (h.step hmessage hnext) hrun

end

/-! ### The request -/

/-- **Chat to Claude.** Every request that the conversion returns begins with a user message if it
has any, has the results of tools in order, and has the texts of the system and of the conversation
in order up to joining blanks and placeholders. Its tool calls are those of the assistant's messages
exactly if no message with tool calls is joined to the next one. -/
theorem keepsToolCalls_iff (env : ClaudeEnv J) (maxTokens : Option ℕ) (messages : List Message)
    (request : ClaudeRequest J)
    (h : openAIChatRequestToClaudeMessages env maxTokens messages = .ok request) :
    (∀ msg ∈ request.messages.head?, msg.role = .user) ∧
      request.messages.flatMap (·.toolResultBlocks) = messages.filterMap (·.resultBlock? env) ∧
      Renders request.systemTexts (messages.flatMap (·.textsOf (· = .system))) ∧
      Renders (request.messages.flatMap (·.texts))
        (messages.flatMap (·.textsOf FmtRole.inConversation)) ∧
      (request.messages.flatMap (·.toolUseBlocks) =
          (messages.flatMap (·.assistantCalls)).map (·.toolUse env) ↔
        messages.IsChain fun prev next => ¬ DropsCalls prev next) := by
  obtain ⟨draft, hrun, h⟩ := exists_of_bind_eq_ok h
  have hformats : Formats env messages (messages.foldl formatMessage []) :=
    formats_formatMessages messages
  have hwf : ∀ m ∈ formatMessages messages, m.WellFormed := fun m hm =>
    hformats.wellFormed m (mem_reverse.mp hm)
  have hnil : Builds env [] ⟨[], []⟩ := ⟨rfl, ⟨[], by simp, rfl⟩, rfl, rfl, by simp⟩
  have hdraft := builds_foldlM hwf hnil hrun
  rcases maxTokens with - | _
  · cases h
  obtain rfl := ok.inj h
  obtain ⟨final, hfinal, hmessages⟩ : ∃ final : ClaudeDraft J,
      Builds env (formatMessages messages) final ∧
        (if draft.messages = [] ∧ draft.system ≠ [] then [placeholderUserMessage]
          else draft.messages.reverse) = final.messages.reverse := by
    split_ifs with hempty
    · exact ⟨_, hdraft.opened, by simp [ClaudeDraft.opened, hempty.1]⟩
    · exact ⟨draft, hdraft, rfl⟩
  obtain ⟨-, ⟨placeholder, hplaceholder, htexts⟩, huses, hresults, hstarts⟩ := hfinal
  obtain ⟨hsub, hcalls⟩ := calls_formatMessages messages
  rw [hmessages, head?_reverse]
  refine ⟨hstarts, hresults.trans hformats.results, ?_, ?_, ?_⟩
  · have hsystem : ClaudeRequest.systemTexts (J := J) ⟨if draft.system = [] then none else
        some (.blocks draft.system), final.messages.reverse⟩ = draft.system := by
      split_ifs with hempty
      · exact hempty.symm
      · rfl
    rw [hsystem, hdraft.system]
    exact hformats.texts _
  · rw [htexts]
    have hpre : Renders placeholder [] := by
      rcases mem_pair.mp hplaceholder with rfl | rfl
      · exact .nil
      · exact Renders.nil.placeholder
    exact hpre.append (hformats.texts _)
  · rw [huses, ← hcalls]
    constructor
    · intro heq
      have hlength := congrArg length heq
      rw [length_map, length_map] at hlength
      exact hsub.eq_of_length hlength
    · intro heq
      rw [heq]

def plainEnv : ClaudeEnv String := ⟨id, fun _ => "", fun _ => .ok none⟩

/-- A conversation with a tool call and its result. -/
theorem keepsToolCalls_weather : ([⟨.user, .string "Weather?"⟩,
      ⟨.assistant, .blocks [.text "...", .toolUse "t1" "weather" "Rome"]⟩,
      ⟨.user, .blocks [.toolResult "t1" "" (.string "Sunny.")]⟩] :
        List (ClaudeMessage String)).flatMap (·.toolUseBlocks) =
      [.toolUse "t1" "weather" "Rome"] :=
  (keepsToolCalls_iff plainEnv (some 100) [⟨.user, .string "Weather?", none, none, ""⟩,
      ⟨.assistant, .null, none, some [⟨"t1", "weather", "Rome"⟩], ""⟩,
      ⟨.tool, .string "Sunny.", none, none, "t1"⟩] ⟨none, _⟩ rfl).2.2.2.2.mpr (by decide)

/-- An assistant that calls a tool and then says so: the call is lost. -/
theorem toolCall_before_text_lost :
    let messages : List Message := [⟨.user, .string "Weather?", none, none, ""⟩,
      ⟨.assistant, .null, none, some [⟨"t1", "weather", "Rome"⟩], ""⟩,
      ⟨.assistant, .string "I have asked.", none, none, ""⟩]
    let request : ClaudeRequest String :=
      ⟨none, [⟨.user, .string "Weather?"⟩, ⟨.assistant, .string "... I have asked."⟩]⟩
    openAIChatRequestToClaudeMessages plainEnv (some 100) messages = .ok request ∧
      request.messages.flatMap (·.toolUseBlocks) ≠
        (messages.flatMap (·.assistantCalls)).map (·.toolUse plainEnv) :=
  ⟨rfl, by decide⟩

end NewApi.RelayConvert
