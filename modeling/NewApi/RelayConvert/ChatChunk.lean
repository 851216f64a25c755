import NewApi.Foundation.GoText

/-!
# Chunks of a chat stream

The fields of a chunk of an OpenAI chat stream that the converters read or write. `Usage` stands for
the token counts, which are only passed on. Raw JSON is kept as its text; a field that is missing is
the empty text.

Source: `relaykit/dto/openai_response.go`.
-/

namespace NewApi.RelayConvert

structure ToolCallResponse where
  index : Option Int
  id : String
  name : String
  arguments : String

structure ChoiceDelta where
  content : Option String
  reasoningContent : Option String
  reasoning : Option String
  toolCalls : List ToolCallResponse
  annotations : String

def ChoiceDelta.getContentString (delta : ChoiceDelta) : String := delta.content.getD ""

def ChoiceDelta.getReasoningContent (delta : ChoiceDelta) : String :=
  match delta.reasoningContent, delta.reasoning with
  | none, none => ""
  | some reasoningContent, _ => reasoningContent
  | none, some reasoning => reasoning

structure StreamChoice where
  delta : ChoiceDelta
  finishReason : Option String

structure ChatChunk (Usage : Type) where
  id : String
  model : String
  created : Int
  choices : List StreamChoice
  usage : Option Usage

end NewApi.RelayConvert
