import NewApi.Foundation.GoText

/-!
# Messages of a chat request

The fields of the messages of an OpenAI chat request that the request converters read or write. A
text that is missing is the empty text; the arguments of a tool call are the text of a JSON value.
-/

namespace NewApi.RelayConvert

/-- The role of a message. The converters know six of them and read any other text as the role of a
user. -/
inductive ChatRole
  | system | developer | user | assistant | tool | function
  | other (name : String)
  deriving DecidableEq, Repr

structure ToolCallRequest where
  id : String
  name : String
  arguments : String
  deriving DecidableEq, Repr

inductive MediaContent
  | text (text : String)
  | imageUrl (url : String)
  deriving DecidableEq, Repr

def MediaContent.text? : MediaContent → Option String
  | .text content => some content
  | .imageUrl _ => none

def MediaContent.imageUrl? : MediaContent → Option String
  | .text _ => none
  | .imageUrl link => some link

inductive MessageContent
  | null
  | string (text : String)
  | media (parts : List MediaContent)
  deriving DecidableEq, Repr

def MessageContent.parseContent : MessageContent → List MediaContent
  | .null => []
  | .string text => [.text text]
  | .media parts => parts

def MessageContent.isStringContent : MessageContent → Bool
  | .string _ => true
  | .null | .media _ => false

def MessageContent.texts (content : MessageContent) : List String :=
  (content.parseContent.filterMap (·.text?)).filter (· ≠ "")

def MessageContent.imageUrls (content : MessageContent) : List String :=
  content.parseContent.filterMap (·.imageUrl?)

structure Message where
  role : ChatRole
  content : MessageContent
  name : Option String
  toolCalls : Option (List ToolCallRequest)
  toolCallId : String
  deriving DecidableEq, Repr

def Message.parseToolCalls (message : Message) : List ToolCallRequest := message.toolCalls.getD []

def Message.assistantCalls (message : Message) : List ToolCallRequest :=
  if message.role = .assistant then message.parseToolCalls else []

end NewApi.RelayConvert
