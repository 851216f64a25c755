import NewApi.Foundation.GoText

/-!
# Lines of an event stream

The scanner reads the answer of the upstream line by line and queues the data of its events, until
`[DONE]` ends the stream (`relay/helper/stream_scanner.go`). It also accepts `[DONE]` without the
prefix of the data, but cuts the length of that prefix off such a line too, and queues the rest.
-/

namespace NewApi.Relay

open GoText List

inductive StreamEndReason
  | done
  | scannerErr
  | eof
  deriving DecidableEq

/-- Only the first reason is kept. -/
def setEndReason (endReason : Option StreamEndReason) (reason : StreamEndReason) :
    Option StreamEndReason :=
  endReason.or (some reason)

/-- The data of a line that is not skipped. -/
def lineData (line : String) : Option String :=
  if line.utf8ByteSize < 6 then none
  else if hasPrefix line "data:" = false ∧ hasPrefix line "[DONE]" = false then none
  else
    let data := trimSpace (.ofList (line.toList.drop 5))
    if data = "" then none else some data

/-- The loop when nothing interrupts it: what it queues, and the end reason. -/
def scanLines (scannerErr : Bool) (endReason : Option StreamEndReason) :
    List String → List String × Option StreamEndReason
  | [] =>
    ([], setEndReason (if scannerErr then setEndReason endReason .scannerErr else endReason) .eof)
  | line :: lines =>
    match lineData line with
    | none => scanLines scannerErr endReason lines
    | some data =>
      if hasPrefix data "[DONE]" then ([], setEndReason endReason .done)
      else
        let (queued, reason) := scanLines scannerErr endReason lines
        (data :: queued, reason)

/-- The nonempty text after the prefix. -/
def payload (line : String) : Option String :=
  ((cutPrefix line "data:").map trimSpace).filter (· ≠ "")

def isTerminator (line : String) : Bool := line = "[DONE]" ∨ payload line = some "[DONE]"

/-- What the stream says: the texts before the first terminator, and how it ends. -/
def streamEvents (lines : List String) : List String × Option StreamEndReason :=
  ((lines.takeWhile (!isTerminator ·)).filterMap payload,
    some (if lines.any isTerminator then .done else .eof))

/-- The line begins with `[DONE]`, or its text does and goes on. -/
def Misread (line : String) : Prop :=
  hasPrefix line "[DONE]" = true ∨
    ∃ text ∈ payload line, hasPrefix text "[DONE]" = true ∧ text ≠ "[DONE]"

variable {line text : String} {lines : List String}

theorem exists_of_hasPrefix {start : String} (h : hasPrefix line start = true) :
    ∃ rest, line = start ++ rest := by
  obtain ⟨rest, hrest⟩ := isPrefixOf_iff_prefix.mp h
  exact ⟨.ofList rest, String.toList_inj.mp (by simp [← hrest])⟩

theorem head?_trimSpace (rest : String) : (trimSpace ("]" ++ rest)).toList.head? = some ']' := by
  have hdrop : ("]" ++ rest).toList.dropWhile isSpace = ']' :: rest.toList := by
    simp [dropWhile_cons_of_neg (show ¬ isSpace ']' = true by decide)]
  rw [trimSpace, hdrop, reverse_cons, dropWhile_append]
  split_ifs
  · decide
  · simp

theorem hasPrefix_of_head? (h : text.toList.head? = some ']') :
    hasPrefix text "[DONE]" = false := by
  obtain ⟨rest, hrest⟩ := head?_eq_some_iff.mp h
  simp [hasPrefix, hrest, isPrefixOf]

theorem lineData_of_bare (h : hasPrefix line "[DONE]" = true) :
    payload line = none ∧ ∃ text, lineData line = some text ∧ text.toList.head? = some ']' := by
  obtain ⟨rest, rfl⟩ := exists_of_hasPrefix h
  have hhead := head?_trimSpace rest
  have hne : trimSpace ("]" ++ rest) ≠ "" := fun hempty => by simp [hempty] at hhead
  have hdrop : String.ofList (("[DONE]" ++ rest).toList.drop 5) = "]" ++ rest := by simp
  have hsize : ¬ ("[DONE]" ++ rest).utf8ByteSize < 6 := by
    rw [String.utf8ByteSize_append]
    exact not_lt.mpr (Nat.le_add_right 6 _)
  refine ⟨by simp [payload, cutPrefix, isPrefixOf], _, ?_, hhead⟩
  rw [lineData, if_neg hsize, if_neg fun hnone => by simp [h] at hnone]
  simp [if_neg hne]

theorem lineData_of_not_bare (h : hasPrefix line "[DONE]" = false) :
    lineData line = payload line := by
  cases hdata : hasPrefix line "data:" with
  | false =>
    have hcut : cutPrefix line "data:" = none := if_neg (Bool.eq_false_iff.mp hdata)
    simp [lineData, payload, hcut, hdata, h]
  | true =>
    obtain ⟨rest, rfl⟩ := exists_of_hasPrefix hdata
    have hpayload : payload ("data:" ++ rest) =
        if trimSpace rest = "" then none else some (trimSpace rest) := by
      simp [payload, cutPrefix, Option.filter_some]
    have hdrop : String.ofList (("data:" ++ rest).toList.drop 5) = rest := by simp
    rw [hpayload, lineData, hdrop]
    by_cases hsize : ("data:" ++ rest).utf8ByteSize < 6
    · -- a short line has nothing after the prefix
      have hempty : rest = "" := by
        rw [String.utf8ByteSize_append] at hsize
        have hfive : "data:".utf8ByteSize = 5 := rfl
        exact String.utf8ByteSize_eq_zero_iff.mp (by omega)
      simp [hempty]
    · rw [if_neg hsize, if_neg fun hnone => by simp [hdata] at hnone]

theorem streamEvents_cons (h : isTerminator line = false) : streamEvents (line :: lines) =
    ((payload line).toList ++ (streamEvents lines).1, (streamEvents lines).2) := by
  cases hpayload : payload line <;> simp [streamEvents, h, hpayload]

/-- What is queued for a line that begins with `[DONE]` begins with a bracket. The induction is over
the lines, with what was queued in `extra` beside their events: no later line makes up for it. -/
theorem scanLines_iff (lines : List String) {extra : List String}
    (hextra : ∀ text ∈ extra, text.toList.head? = some ']') :
    extra ++ (scanLines false none lines).1 = (streamEvents lines).1 ∧
        (scanLines false none lines).2 = (streamEvents lines).2 ↔
      extra = [] ∧ ∀ line ∈ lines.take (lines.findIdx isTerminator + 1), ¬ Misread line := by
  induction lines generalizing extra with
  | nil => simp [scanLines, streamEvents, setEndReason]
  | cons line lines ih =>
    cases hbare : hasPrefix line "[DONE]" with
    | true =>
      obtain ⟨hnone, text, hdata, hhead⟩ := lineData_of_bare hbare
      have hmisread : Misread line := .inl hbare
      have hmore := ih (forall_mem_append.mpr ⟨hextra, forall_mem_singleton.mpr hhead⟩)
      cases hend : isTerminator line with
      | true =>
        simp [scanLines, hdata, hasPrefix_of_head? hhead, streamEvents, hend, hmisread]
      | false =>
        simp_all [scanLines, hasPrefix_of_head? hhead, streamEvents_cons hend, findIdx_cons]
    | false =>
      have hne : line ≠ "[DONE]" := by
        rintro rfl
        exact absurd hbare (by decide)
      have hend : isTerminator line = decide (payload line = some "[DONE]") := by
        simp [isTerminator, hne]
      have hdata := lineData_of_not_bare hbare
      rcases hpayload : payload line with - | text
      · simp_all [scanLines, streamEvents_cons, findIdx_cons, Misread]
      have hread : Misread line ↔ hasPrefix text "[DONE]" = true ∧ text ≠ "[DONE]" := by
        simp [Misread, hbare, hpayload]
      by_cases htext : text = "[DONE]"
      · have hstop : hasPrefix text "[DONE]" = true := by
          rw [htext]
          decide
        simp_all [scanLines, streamEvents, setEndReason, findIdx_cons]
      cases hstop : hasPrefix text "[DONE]" with
      | true =>
        have hnotMem : text ∉ extra := fun hmem => by
          simp [hasPrefix_of_head? (hextra text hmem)] at hstop
        have hne : extra ≠ text :: (streamEvents lines).1 := fun heq => by simp [heq] at hnotMem
        simp_all [scanLines, streamEvents_cons]
      | false =>
        -- the text is queued on both sides, or joins what is queued beside the events
        cases extra with
        | nil =>
          have hrest := ih (forall_mem_nil _)
          simp_all [scanLines, streamEvents_cons, findIdx_cons]
        | cons first extra =>
          obtain ⟨hfirst, hrest⟩ := forall_mem_cons.mp hextra
          simp_all [scanLines, streamEvents_cons, findIdx_cons]
          rintro rfl
          have hmore := ih (forall_mem_append.mpr ⟨hrest, forall_mem_singleton.mpr hfirst⟩)
          simp_all

/-- **The events of a stream.** The scanner queues them and ends as the stream says exactly if it
misreads no line up to the first terminator. -/
theorem scanLines_eq_streamEvents_iff (lines : List String) :
    scanLines false none lines = streamEvents lines ↔
      ∀ line ∈ lines.take (lines.findIdx isTerminator + 1), ¬ Misread line := by
  simpa [Prod.ext_iff] using scanLines_iff lines (forall_mem_nil _)

/-- A terminator without the prefix is queued as `]`, and does not end the stream. -/
theorem scanLines_bare_done : streamEvents ["[DONE]"] = ([], some .done) ∧
      scanLines false none ["[DONE]"] = (["]"], some .eof) := by
  decide

end NewApi.Relay
