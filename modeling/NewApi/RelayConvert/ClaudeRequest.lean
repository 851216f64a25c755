/-!
# Claude requests

The fields of a Claude request that the request converters read or write.
-/

namespace NewApi.RelayConvert

variable {J : Type}

inductive ClaudeRole
  | user | assistant
  deriving DecidableEq, Repr

inductive ToolResultContent (J : Type)
  | string (text : String)
  | json (value : J)
  deriving DecidableEq, Repr

inductive ClaudeBlock (J : Type)
  | text (text : String)
  | image (mediaType data : String)
  | document (mediaType data : String)
  | toolUse (id name : String) (input : J)
  | toolResult (toolUseId name : String) (content : ToolResultContent J)
  deriving DecidableEq, Repr

inductive ClaudeContent (J : Type)
  | string (text : String)
  | blocks (blocks : List (ClaudeBlock J))

structure ClaudeMessage (J : Type) where
  role : ClaudeRole
  content : ClaudeContent J

inductive ClaudeSystem
  | string (text : String)
  | blocks (texts : List String)

structure ClaudeRequest (J : Type) where
  system : Option ClaudeSystem
  messages : List (ClaudeMessage J)

def ClaudeContent.parseContent : ClaudeContent J → List (ClaudeBlock J)
  | .string _ => []
  | .blocks content => content

def ClaudeBlock.text? : ClaudeBlock J → Option String
  | .text content => some content
  | .image .. | .document .. | .toolUse .. | .toolResult .. => none

def ClaudeMessage.texts (message : ClaudeMessage J) : List String :=
  match message.content with
  | .string text => [text].filter (· ≠ "")
  | .blocks blocks => (blocks.filterMap (·.text?)).filter (· ≠ "")

def ClaudeRequest.systemTexts (request : ClaudeRequest J) : List String :=
  match request.system with
  | none => []
  | some (.string text) => [text]
  | some (.blocks texts) => texts

end NewApi.RelayConvert
