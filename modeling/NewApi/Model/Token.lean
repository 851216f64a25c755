import NewApi.Foundation.GoMap
import NewApi.Foundation.GoText

/-!
# Tokens

A row of `tokens` with the columns that its requests, its edits and its cache read or write, and the
models that a token may use.
-/

namespace NewApi.Model

/-- A row of `tokens`. `deleted` says that the column `deleted_at` is set. -/
structure Token where
  id : Int
  userId : Int
  key : String
  status : Int
  name : String
  accessedTime : Int
  expiredTime : Int
  remainQuota : Int
  unlimitedQuota : Bool
  modelLimitsEnabled : Bool
  modelLimits : String
  allowIps : Option String
  usedQuota : Int
  group : String
  crossGroupRetry : Bool
  autoGroups : String
  deleted : Bool
  deriving DecidableEq, Repr

namespace Token

def getModelLimits (token : Token) : List String :=
  if token.modelLimits = "" then [] else GoText.split ',' token.modelLimits

def getModelLimitsMap (token : Token) : GoMap String Bool :=
  token.getModelLimits.foldl (fun limitsMap limit => limitsMap.insert limit true) ∅

end Token

end NewApi.Model
