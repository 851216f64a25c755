import NewApi.Foundation.Pool
import NewApi.RelayConvert.ChatToClaudeStream

/-!
# The converted stream follows the protocol

The open blocks of the converter are a `Layout`: one block at the current index, or the blocks of
the tool calls in the order in which the calls have come. Each part of the conversion emits what
takes the layout before it to the layout after it.
-/

namespace NewApi.RelayConvert

open BlockStream List Option

def ClaudeStreamToolCall.status (tool : ClaudeStreamToolCall) : Status BlockKind :=
  if tool.started then .opened .toolUse else .absent

def Indexed (base : ℕ) (tools : List ClaudeStreamToolCall) : Prop :=
  ∀ j tool, tools[j]? = some tool → tool.blockIndex = base + j

variable {Usage ClaudeUsage : Type}

def ClaudeConvertInfo.layout (s : ClaudeConvertInfo Usage) : Layout BlockKind :=
  match s.lastMessagesType with
  | .none => ⟨s.index, []⟩
  | .text => ⟨s.index, [.opened .text]⟩
  | .thinking => ⟨s.index, [.opened .thinking]⟩
  | .tools => ⟨s.toolCallBaseIndex, s.toolCalls.map (·.status)⟩

/-- While tool calls are open there is one, and each has the block at its position. -/
def ClaudeConvertInfo.Regular (s : ClaudeConvertInfo Usage) : Prop :=
  s.lastMessagesType = .tools → s.toolCalls ≠ [] ∧ Indexed s.toolCallBaseIndex s.toolCalls

abbrev Leads (L : Layout BlockKind) (events : List ClaudeBlockEvent) (L' : Layout BlockKind) :=
  L.Emits (events.map ClaudeBlockEvent.protocol) L'

theorem Leads.append {L L' L'' : Layout BlockKind} {es es' : List ClaudeBlockEvent}
    (h : Leads L es L') (h' : Leads L' es' L'') : Leads L (es ++ es') L'' := by
  rw [Leads, map_append]
  exact Layout.Emits.append h h'

/-! ### Tool calls -/

open ClaudeStreamToolCall

section

variable {base k : ℕ} {tools : List ClaudeStreamToolCall} {tool : ClaudeStreamToolCall}
  {sts : List (Status BlockKind)} {s : ClaudeConvertInfo Usage}

theorem set_self {st : Status BlockKind} (h : sts[k]? = some st) : sts.set k st = sts := by
  obtain ⟨hlt, hget⟩ := List.getElem?_eq_some_iff.mp h
  rw [← hget, set_getElem_self]

theorem leads_startEvents (hk : sts[k]? = some .absent) (hblock : tool.blockIndex = base + k) :
    Leads ⟨base, sts⟩ tool.startEvents ⟨base, sts.set k (.opened .toolUse)⟩ := by
  have hstart : Layout.Emits ⟨base, sts⟩ [.start (base + k) BlockKind.toolUse]
      ⟨base, sts.set k (.opened .toolUse)⟩ := .start hk _
  rw [startEvents, hblock]
  split_ifs
  · have hopened : (sts.set k (.opened .toolUse))[k]? = some (.opened BlockKind.toolUse) :=
      List.getElem?_set_self (List.getElem?_eq_some_iff.mp hk).1
    exact hstart.append (.delta hopened)
  · exact hstart

theorem leads_send (hk : sts[k]? = some tool.status) (hblock : tool.blockIndex = base + k)
    (arguments : String) :
    Leads ⟨base, sts⟩ (tool.send arguments).1 ⟨base, sts.set k (tool.send arguments).2.status⟩ ∧
      (tool.send arguments).2.blockIndex = base + k := by
  rw [send]
  split_ifs with hstart hdelta
  · have hstarted : tool.started = false := by simpa using hstart.1
    rw [status, hstarted] at hk
    exact ⟨leads_startEvents hk hblock, hblock⟩
  · rw [set_self hk]
    rw [status, if_pos hdelta.1] at hk
    refine ⟨?_, hblock⟩
    rw [hblock]
    exact .delta hk
  · rw [set_self hk]
    exact ⟨.nil _, hblock⟩

theorem findTool_some {toolIndex : Int} {incomingID : String}
    (h : findTool s toolIndex incomingID = some k) : ∃ tool, s.toolCalls[k]? = some tool := by
  obtain ⟨-, hfilter⟩ := filter_eq_some_iff.mp h
  cases hk : s.toolCalls[k]? with
  | none => simp [hk] at hfilter
  | some tool => exact ⟨tool, rfl⟩

theorem Indexed.set (h : Indexed base tools) {tool' : ClaudeStreamToolCall}
    (hblock : tool'.blockIndex = base + k) : Indexed base (tools.set k tool') := by
  intro j t hj
  by_cases hjk : k = j
  · subst hjk
    rcases Pool.getElem?_set_cases hj with hj | rfl
    · exact h k t hj
    · exact hblock
  · rw [getElem?_set_ne hjk] at hj
    exact h j t hj

theorem Indexed.concat (h : Indexed base tools) (hblock : tool.blockIndex = base + tools.length) :
    Indexed base (tools ++ [tool]) := by
  intro j t hj
  by_cases hlt : j < tools.length
  · rw [getElem?_append_left hlt] at hj
    exact h j t hj
  rw [getElem?_append_right (not_lt.mp hlt)] at hj
  obtain ⟨hlast, rfl⟩ := List.getElem?_eq_some_iff.mp hj
  have hj : j = tools.length := by
    rw [length_singleton] at hlast
    omega
  subst hj
  simpa using hblock

structure ToolsLead (s : ClaudeConvertInfo Usage) (events : List ClaudeBlockEvent)
    (s' : ClaudeConvertInfo Usage) : Prop where
  leads : Leads ⟨s.toolCallBaseIndex, s.toolCalls.map (·.status)⟩ events
    ⟨s.toolCallBaseIndex, s'.toolCalls.map (·.status)⟩
  indexed : Indexed s.toolCallBaseIndex s'.toolCalls
  base_eq : s'.toolCallBaseIndex = s.toolCallBaseIndex
  type_eq : s'.lastMessagesType = s.lastMessagesType
  done_eq : s'.done = s.done

/-- **One fragment.** -/
theorem toolsLead_toolCallDelta (hindex : Indexed s.toolCallBaseIndex s.toolCalls) (i : ℕ)
    (toolCall : ToolCallResponse) :
    ToolsLead s (toolCallDelta s i toolCall).1 (toolCallDelta s i toolCall).2 ∧
      (toolCallDelta s i toolCall).2.toolCalls ≠ [] := by
  have hsend {tools : List ClaudeStreamToolCall} {k : ℕ} {tool : ClaudeStreamToolCall}
      (hindex : Indexed s.toolCallBaseIndex tools) (hk : tools[k]? = some tool) :=
    @leads_send s.toolCallBaseIndex k (tool.receive toolCall) (tools.map (·.status))
      (by rw [getElem?_map, hk]; rfl) (hindex k tool hk) toolCall.arguments
  rw [toolCallDelta]
  cases hfound : findTool s (toolCall.index.getD i) (GoText.trimSpace toolCall.id) with
  | some k =>
    obtain ⟨tool, hk⟩ := findTool_some hfound
    simp only [getD_some, isSome_some, if_true, hk]
    obtain ⟨hleads, hblock⟩ := hsend hindex hk
    rw [← map_set] at hleads
    refine ⟨⟨hleads, hindex.set hblock, rfl, rfl, rfl⟩, fun hnil => ?_⟩
    have hlt := (List.getElem?_eq_some_iff.mp hk).1
    have hlen := congrArg length hnil
    rw [length_set, length_nil] at hlen
    omega
  | none =>
    simp only [getD_none, isSome_none, Bool.false_eq_true, if_false, getElem?_concat_length]
    generalize hfresh : (⟨s.toolCallBaseIndex + s.toolCalls.length, "", "", "", false⟩ :
      ClaudeStreamToolCall) = fresh
    have hindex' : Indexed s.toolCallBaseIndex (s.toolCalls ++ [fresh]) :=
      hindex.concat (by rw [← hfresh])
    obtain ⟨hleads, hblock⟩ := hsend hindex' getElem?_concat_length
    rw [← map_set] at hleads
    have hgrow : Leads ⟨s.toolCallBaseIndex, s.toolCalls.map (·.status)⟩ []
        ⟨s.toolCallBaseIndex, (s.toolCalls ++ [fresh]).map (·.status)⟩ := by
      rw [map_append, ← hfresh]
      exact .grow _
    exact ⟨⟨hgrow.append hleads, hindex'.set hblock, rfl, rfl, rfl⟩, by simp⟩

theorem toolsLead_toolCallDeltas (toolCalls : List ToolCallResponse) (i : ℕ)
    (hindex : Indexed s.toolCallBaseIndex s.toolCalls) :
    ToolsLead s (toolCallDeltas i toolCalls s).1 (toolCallDeltas i toolCalls s).2 ∧
      (toolCalls ≠ [] ∨ s.toolCalls ≠ [] → (toolCallDeltas i toolCalls s).2.toolCalls ≠ []) := by
  induction toolCalls generalizing i s with
  | nil => exact ⟨⟨.nil _, hindex, rfl, rfl, rfl⟩, fun h => by simpa [toolCallDeltas] using h⟩
  | cons toolCall rest ih =>
    simp only [toolCallDeltas]
    obtain ⟨hfirst, hnonempty⟩ := toolsLead_toolCallDelta hindex i toolCall
    generalize toolCallDelta s i toolCall = step at hfirst hnonempty ⊢
    obtain ⟨events, s'⟩ := step
    have hindex' : Indexed s'.toolCallBaseIndex s'.toolCalls := by
      rw [hfirst.base_eq]
      exact hfirst.indexed
    obtain ⟨⟨hleads, hindexed, hbase, htype, hdone⟩, hne⟩ := ih (i + 1) hindex'
    rw [hfirst.base_eq] at hleads hindexed hbase
    exact ⟨⟨hfirst.leads.append hleads, hindexed, hbase, htype.trans hfirst.type_eq,
      hdone.trans hfirst.done_eq⟩, fun _ => hne (.inr hnonempty)⟩

theorem leads_flatMap {f : ClaudeStreamToolCall → List ClaudeBlockEvent}
    {after : ClaudeStreamToolCall → Status BlockKind}
    (hstep : ∀ (sts : List (Status BlockKind)) k tool, tool.blockIndex = base + k →
      sts[k]? = some tool.status → Leads ⟨base, sts⟩ (f tool) ⟨base, sts.set k (after tool)⟩)
    (tools : List ClaudeStreamToolCall) (done : List (Status BlockKind))
    (hindex : Indexed (base + done.length) tools) :
    Leads ⟨base, done ++ tools.map (·.status)⟩ (tools.flatMap f)
      ⟨base, done ++ tools.map after⟩ := by
  induction tools generalizing done with
  | nil => exact .nil _
  | cons tool rest ih =>
    have hat : (done ++ (tool :: rest).map (·.status))[done.length]? = some tool.status := by
      simp
    have hfirst := hstep _ done.length tool (hindex 0 tool rfl) hat
    have hrest := ih (done ++ [after tool]) fun j t hj => by
      rw [hindex (j + 1) t hj, length_append, length_singleton]
      omega
    simp only [append_assoc, set_append_right, le_refl, Nat.sub_self] at hfirst hrest ⊢
    exact hfirst.append hrest

end

/-! ### Closing blocks -/

open ClaudeConvertInfo

section

variable {base : ℕ} {s : ClaudeConvertInfo Usage} (toolID : ℕ → String)

theorem leads_startPendingTool (sts : List (Status BlockKind)) (k : ℕ)
    (tool : ClaudeStreamToolCall) (hblock : tool.blockIndex = base + k)
    (hk : sts[k]? = some tool.status) :
    Leads ⟨base, sts⟩ (startPendingTool toolID tool).1
      ⟨base, sts.set k (startPendingTool toolID tool).2.status⟩ := by
  rw [startPendingTool]
  split_ifs with hpend
  · have hstarted : tool.started = false := by
      simp only [isPending, Bool.and_eq_true] at hpend
      simpa using hpend.1
    rw [status, hstarted] at hk
    have hblock' : (tool.ensureID toolID).blockIndex = base + k := by
      rw [ensureID]
      split_ifs <;> exact hblock
    exact leads_startEvents hk hblock'
  · rw [set_self hk]
    exact .nil _

def stopEvents (tool : ClaudeStreamToolCall) : List ClaudeBlockEvent :=
  if tool.started then [.contentBlockStop tool.blockIndex] else []

theorem leads_stopEvents (sts : List (Status BlockKind)) (k : ℕ) (tool : ClaudeStreamToolCall)
    (hblock : tool.blockIndex = base + k) (hk : sts[k]? = some tool.status) :
    Leads ⟨base, sts⟩ (stopEvents tool)
      ⟨base, sts.set k (if tool.started then .closed else .absent)⟩ := by
  rw [stopEvents]
  rw [status] at hk
  split_ifs at hk ⊢
  · rw [hblock]
    exact .stop hk
  · rw [set_self hk]
    exact .nil _

theorem indexed_startPending {tools : List ClaudeStreamToolCall} (hindex : Indexed base tools) :
    Indexed base (tools.map fun tool => (startPendingTool toolID tool).2) := by
  intro j t hj
  rw [getElem?_map, map_eq_some_iff] at hj
  obtain ⟨tool, hj, rfl⟩ := hj
  rw [startPendingTool, ensureID]
  split_ifs <;> exact hindex j tool hj

theorem stopOpenBlocks_tools (h : s.lastMessagesType = .tools) (hne : s.toolCalls ≠ []) :
    stopOpenBlocks s = s.toolCalls.flatMap stopEvents := by
  simp only [stopOpenBlocks, h, if_neg hne]
  induction s.toolCalls with
  | nil => rfl
  | cons tool rest ih =>
    rw [flatMap_cons, ← ih, stopEvents]
    cases hstarted : tool.started <;> simp [hstarted]

/-- **Closing what is open** leaves no block at work. -/
theorem leads_advance (hreg : s.Regular) : Leads s.layout (appendStopOpenBlocks toolID s).1
        ⟨(stopOpenBlocksAndAdvance toolID s).2.index, []⟩ ∧
      (stopOpenBlocksAndAdvance toolID s).1 = (appendStopOpenBlocks toolID s).1 ∧
      (stopOpenBlocksAndAdvance toolID s).2.lastMessagesType = .none ∧
      (stopOpenBlocksAndAdvance toolID s).2.done = s.done := by
  have hone (k : BlockKind) (n : ℕ) : Leads ⟨n, [.opened k]⟩ [.contentBlockStop n] ⟨n + 1, []⟩ := by
    have hstop : Layout.Emits ⟨n, [.opened k]⟩ [.stop (n + 0)] ⟨n, [.closed]⟩ := .stop rfl
    exact hstop.append (.retire (by simp))
  cases htype : s.lastMessagesType with
  | none =>
    have hnil : Leads ⟨s.index, []⟩ [] ⟨s.index, []⟩ := .nil _
    simp [layout, appendStopOpenBlocks, stopOpenBlocksAndAdvance,
      startPendingToolBlocks, stopOpenBlocks, htype, hnil]
  | tools =>
    obtain ⟨hne, hindex⟩ := hreg htype
    have hpend := leads_flatMap (leads_startPendingTool toolID) s.toolCalls [] hindex
    have hstop := leads_flatMap leads_stopEvents _ [] (indexed_startPending toolID hindex)
    rw [List.map_map] at hstop
    have hsettled : ∀ st ∈ (s.toolCalls.map fun tool => (startPendingTool toolID tool).2).map
        fun tool => if tool.started then Status.closed else Status.absent,
        st = Status.absent ∨ st = (.closed : Status BlockKind) := by
      intro st hst
      obtain ⟨tool, -, rfl⟩ := mem_map.mp hst
      split_ifs
      · exact .inr rfl
      · exact .inl rfl
    have hdone : Leads ⟨s.toolCallBaseIndex, _⟩ [] ⟨_, []⟩ := Layout.Emits.retire hsettled
    have hretire := (hpend.append hstop).append hdone
    have hevents : stopOpenBlocks (startPendingToolBlocks toolID s).2 =
        (s.toolCalls.map fun tool => (startPendingTool toolID tool).2).flatMap stopEvents := by
      simp only [startPendingToolBlocks, htype]
      exact stopOpenBlocks_tools rfl (by simpa using hne)
    simp only [layout, appendStopOpenBlocks, stopOpenBlocksAndAdvance, hevents]
    simp only [startPendingToolBlocks, htype]
    simpa using hretire
  | _ =>
    simp [layout, appendStopOpenBlocks, stopOpenBlocksAndAdvance,
      startPendingToolBlocks, stopOpenBlocks, htype, hone]

end

/-! ### Chunks -/

structure Continues (s : ClaudeConvertInfo Usage) (events : List ClaudeBlockEvent)
    (s' : ClaudeConvertInfo Usage) : Prop where
  leads : Leads s.layout events s'.layout
  regular : s'.Regular
  done_eq : s'.done = s.done

section

variable {s : ClaudeConvertInfo Usage} (toolID : ℕ → String)

theorem layout_none (h : s.lastMessagesType = .none) : s.layout = ⟨s.index, []⟩ := by
  simp [layout, h]

theorem layout_text (h : s.lastMessagesType = .text) : s.layout = ⟨s.index, [.opened .text]⟩ := by
  simp [layout, h]

theorem layout_thinking (h : s.lastMessagesType = .thinking) :
    s.layout = ⟨s.index, [.opened .thinking]⟩ := by
  simp [layout, h]

variable {events : List ClaudeBlockEvent} {s' : ClaudeConvertInfo Usage}

theorem Continues.append {events' : List ClaudeBlockEvent} {s'' : ClaudeConvertInfo Usage}
    (h : Continues s events s') (h' : Continues s' events' s'') :
    Continues s (events ++ events') s'' :=
  ⟨h.leads.append h'.leads, h'.regular, h'.done_eq.trans h.done_eq⟩

theorem Continues.delta (h : Continues s events s') {k : BlockKind} {delta : BlockDelta}
    (hkind : delta.kind = k) (hlayout : s'.layout = ⟨s'.index, [.opened k]⟩) :
    Continues s (events ++ [.contentBlockDelta s'.index delta]) s' := by
  refine ⟨h.leads.append ?_, h.regular, h.done_eq⟩
  rw [hlayout, Leads, map_singleton, ClaudeBlockEvent.protocol, hkind]
  exact Layout.Emits.delta (j := 0) rfl

variable (hreg : s.Regular)
include hreg

theorem continues_advance :
    Continues s (stopOpenBlocksAndAdvance toolID s).1 (stopOpenBlocksAndAdvance toolID s).2 ∧
      (stopOpenBlocksAndAdvance toolID s).2.lastMessagesType = .none := by
  obtain ⟨hleads, hevents, htype, hdone⟩ := leads_advance toolID hreg
  refine ⟨⟨?_, fun h => ?_, hdone⟩, htype⟩
  · rw [hevents, layout_none htype]
    exact hleads
  · rw [htype] at h
    cases h

theorem continues_openBlock {type : LastMessagesType} (block : ContentBlock)
    (htools : type ≠ .tools)
    (hlayout : ∀ {s : ClaudeConvertInfo Usage}, s.lastMessagesType = type →
      s.layout = ⟨s.index, [.opened block.kind]⟩) :
    Continues s (openBlock toolID s type block).1 (openBlock toolID s type block).2 ∧
      (openBlock toolID s type block).2.layout =
        ⟨(openBlock toolID s type block).2.index, [.opened block.kind]⟩ := by
  rw [openBlock]
  split_ifs with hsame
  · exact ⟨⟨.nil _, hreg, rfl⟩, hlayout hsame⟩
  obtain ⟨hadvance, htype⟩ := continues_advance toolID hreg
  generalize stopOpenBlocksAndAdvance toolID s = step at hadvance htype
  obtain ⟨events, s'⟩ := step
  have hopen : ({ s' with lastMessagesType := type } : ClaudeConvertInfo Usage).layout =
      ⟨s'.index, [.opened block.kind]⟩ := hlayout rfl
  have hnone : s'.layout = ⟨s'.index, []⟩ := layout_none htype
  refine ⟨⟨hadvance.leads.append ?_, fun h => absurd h htools, hadvance.done_eq⟩, hopen⟩
  rw [hopen, hnone]
  exact (Layout.Emits.grow _).append (.start (j := 0) rfl block.kind)

theorem leads_beginToolCalls (h : beginToolCalls s toolID = (events, s')) :
    Leads s.layout events ⟨s'.toolCallBaseIndex, s'.toolCalls.map (·.status)⟩ ∧
      Indexed s'.toolCallBaseIndex s'.toolCalls ∧ s'.lastMessagesType = .tools ∧
      s'.done = s.done := by
  rw [beginToolCalls] at h
  split_ifs at h with htype
  · cases h
    have hlayout : s.layout = ⟨s.toolCallBaseIndex, s.toolCalls.map (·.status)⟩ := by
      rw [layout, htype]
    rw [hlayout]
    exact ⟨.nil _, (hreg htype).2, htype, rfl⟩
  · cases h
    obtain ⟨hleads, hevents, -, hdone⟩ := leads_advance toolID hreg
    rw [← hevents] at hleads
    exact ⟨hleads, fun j t hj => (by cases hj), rfl, hdone⟩

theorem continues_appendToolCalls {toolCalls : List ToolCallResponse} (hne : toolCalls ≠ []) :
    Continues s (appendToolCalls s toolID toolCalls).1 (appendToolCalls s toolID toolCalls).2 := by
  rw [appendToolCalls]
  cases hbegin : beginToolCalls s toolID with
  | mk events s' =>
    obtain ⟨hleads, hindex, htype, hdone⟩ := leads_beginToolCalls toolID hreg hbegin
    obtain ⟨hloop, hnonempty⟩ := toolsLead_toolCallDeltas toolCalls 0 hindex
    change Continues s (events ++ (toolCallDeltas 0 toolCalls s').1)
      (endToolCalls (toolCallDeltas 0 toolCalls s').2)
    generalize toolCallDeltas 0 toolCalls s' = step at hloop hnonempty ⊢
    obtain ⟨events', s''⟩ := step
    have hlayout : (endToolCalls s'').layout =
        ⟨s'.toolCallBaseIndex, s''.toolCalls.map (·.status)⟩ := by
      have htype' : (endToolCalls s'').lastMessagesType = .tools := hloop.type_eq.trans htype
      rw [layout, htype', ← hloop.base_eq]
      rfl
    refine ⟨hleads.append ?_, fun _ => ⟨hnonempty (.inl hne), ?_⟩, hloop.done_eq.trans hdone⟩
    · rw [hlayout]
      exact hloop.leads
    · have hindexed := hloop.indexed
      rwa [← hloop.base_eq] at hindexed

theorem continues_appendDelta (delta : ChoiceDelta) :
    Continues s (appendDelta s toolID delta).1 (appendDelta s toolID delta).2 := by
  have hthinking := continues_openBlock toolID hreg .thinking (by decide) layout_thinking
  have htext := continues_openBlock toolID hreg .text (by decide) layout_text
  rw [appendDelta]
  split_ifs with htools
  · exact continues_appendToolCalls toolID hreg htools
  · exact hthinking.1.delta rfl hthinking.2
  · exact htext.1.delta rfl htext.2
  · exact ⟨.nil _, hreg, rfl⟩

theorem continues_appendCitationDeltas (citations : List String) :
    Continues s (appendCitationDeltas toolID s citations).1
      (appendCitationDeltas toolID s citations).2 := by
  obtain ⟨hopen, hlayout⟩ := continues_openBlock toolID hreg .text (by decide) layout_text
  rw [appendCitationDeltas]
  split_ifs with hnil
  · exact ⟨.nil _, hreg, rfl⟩
  induction citations using reverseRecOn with
  | nil => exact absurd rfl hnil
  | append_singleton citations citation ih =>
    simp only [map_append, ← append_assoc]
    by_cases hrest : citations = []
    · subst hrest
      simp only [map_nil, append_nil]
      exact hopen.delta rfl hlayout
    · exact (ih hrest).delta rfl hlayout

end

variable (rules : StreamRules Usage ClaudeUsage) {s s' s'' : ClaudeConvertInfo Usage}

/-- What the conversion of chunks sends after the `message_start`: some events about blocks, or such
events and the end of the message. -/
inductive Sends (s : ClaudeConvertInfo Usage) :
    List (ClaudeResponse ClaudeUsage) → ClaudeConvertInfo Usage → Prop
  | continued {events : List ClaudeBlockEvent} {s' : ClaudeConvertInfo Usage}
      (h : Continues s events s') : Sends s (events.map .content) s'
  | finished {events : List ClaudeBlockEvent} {s' : ClaudeConvertInfo Usage} {n : ℕ}
      (h : Leads s.layout events ⟨n, []⟩) (usage : Option ClaudeUsage) (stopReason : String)
      (hdone : s'.done = true) :
      Sends s (events.map .content ++ [.messageDelta usage stopReason, .messageStop]) s'

variable {sent : List (ClaudeResponse ClaudeUsage)}

theorem Continues.sends (h : Continues s events s') (h' : Sends s' sent s'') :
    Sends s (events.map .content ++ sent) s'' := by
  cases h' with
  | continued h' =>
    rw [← map_append]
    exact .continued (h.append h')
  | finished h' usage stopReason hdone =>
    rw [← append_assoc, ← map_append]
    exact .finished (h.leads.append h') usage stopReason hdone

section

variable (hreg : s.Regular)
include hreg

theorem sends_finishMessage (usage : Option ClaudeUsage) (stopReason : String) :
    Sends s (finishMessage rules usage stopReason s).1 (finishMessage rules usage stopReason s).2 :=
  .finished (leads_advance rules.toolID hreg).1 usage stopReason rfl

theorem continues_usage (incoming : Option Usage) :
    Continues s [] (clientVisibleClaudeStreamUsage rules s incoming).2 := by
  unfold clientVisibleClaudeStreamUsage
  cases s.usage <;> cases incoming <;> exact ⟨.nil _, hreg, rfl⟩

theorem sends_usageChunk (chunk : ChatChunk Usage) :
    Sends s (usageChunk rules chunk s).1 (usageChunk rules chunk s).2 := by
  have husage := continues_usage rules hreg chunk.usage
  rw [usageChunk]
  generalize clientVisibleClaudeStreamUsage rules s chunk.usage = step at husage ⊢
  obtain ⟨usage, s'⟩ := step
  cases usage with
  | none => exact .continued husage
  | some usage => exact husage.sends (sends_finishMessage rules husage.regular _ _)

theorem sends_choiceChunk (chunk : ChatChunk Usage) (choice : StreamChoice) :
    Sends s (choiceChunk rules chunk choice s).1 (choiceChunk rules chunk choice s).2 := by
  rw [choiceChunk]
  generalize hreason : (if choice.finishReason.getD "" ≠ "" then
    { s with finishReason := choice.finishReason.getD "" } else s) = s₁
  have hfirst : Continues s [] s₁ := by
    rw [← hreason]
    split_ifs <;> exact ⟨.nil _, hreg, rfl⟩
  have hdelta := continues_appendDelta rules.toolID hfirst.regular choice.delta
  generalize appendDelta s₁ rules.toolID choice.delta = step at hdelta ⊢
  obtain ⟨events, s₂⟩ := step
  have hcitations := continues_appendCitationDeltas rules.toolID hdelta.regular
    (rules.citations choice.delta.annotations)
  dsimp only at hdelta hcitations ⊢
  generalize appendCitationDeltas rules.toolID s₂ (rules.citations choice.delta.annotations) = step
    at hcitations ⊢
  obtain ⟨events', s₃⟩ := step
  have hcontent : Continues s (events ++ events') s₃ := hfirst.append (hdelta.append hcitations)
  split_ifs
  · have husage := continues_usage rules hcontent.regular chunk.usage
    generalize clientVisibleClaudeStreamUsage rules s₃ chunk.usage = step at husage ⊢
    obtain ⟨usage, s₄⟩ := step
    cases usage with
    | none =>
      have hsent := hcontent.append husage
      rw [append_nil] at hsent
      exact .continued hsent
    | some usage =>
      exact hcontent.sends (husage.sends (sends_finishMessage rules husage.regular _ _))
  · exact .continued hcontent

theorem sends_stream (hdone : s.done = false) {count : ℕ}
    (hcount : count ≠ 1) (chunk : ChatChunk Usage) :
    Sends s (streamResponseOpenAI2Claude rules count chunk s).1
      (streamResponseOpenAI2Claude rules count chunk s).2 := by
  simp only [streamResponseOpenAI2Claude, hdone, messageStart, if_pos hcount]
  cases chunk.choices with
  | nil => exact sends_usageChunk rules hreg chunk
  | cons choice _ => exact sends_choiceChunk rules hreg chunk choice

theorem sends_stream_first (hdone : s.done = false) (chunk : ChatChunk Usage) :
    ∃ (usage : ClaudeUsage) (sent : List (ClaudeResponse ClaudeUsage)),
      (streamResponseOpenAI2Claude rules 1 chunk s).1 =
        .messageStart chunk.id chunk.model usage :: sent ∧
      Sends s sent (streamResponseOpenAI2Claude rules 1 chunk s).2 := by
  have hstart : ∃ usage : ClaudeUsage, (messageStart rules 1 chunk s).1 =
      [.messageStart chunk.id chunk.model usage] ∧
      Continues s [] (messageStart rules 1 chunk s).2 := by
    rw [messageStart]
    cases chunk.usage with
    | none => exact ⟨_, rfl, .nil _, hreg, rfl⟩
    | some usage =>
      simp only [ne_eq, not_true_eq_false, if_false]
      split_ifs <;> exact ⟨_, rfl, .nil _, hreg, rfl⟩
  obtain ⟨usage, hevents, hcontinues⟩ := hstart
  simp only [streamResponseOpenAI2Claude, hdone]
  generalize messageStart rules 1 chunk s = step at hevents hcontinues ⊢
  obtain ⟨start, s'⟩ := step
  obtain rfl : start = [.messageStart chunk.id chunk.model usage] := hevents
  refine ⟨usage, _, rfl, ?_⟩
  cases chunk.choices with
  | nil => exact hcontinues.sends (sends_usageChunk rules hcontinues.regular chunk)
  | cons choice _ =>
    exact hcontinues.sends (sends_choiceChunk rules hcontinues.regular chunk choice)

end

theorem convertChunks_of_done (chunks : List (ℕ × ChatChunk Usage)) (hdone : s.done = true) :
    convertChunks rules chunks s = ([], s) := by
  induction chunks with
  | nil => rfl
  | cons p rest ih =>
    simp [convertChunks, streamResponseOpenAI2Claude, hdone, ih, append_nil]

/-- **The chunks after the first one.** -/
theorem sends_convertChunks (chunks : List (ℕ × ChatChunk Usage)) (hcount : ∀ p ∈ chunks, 1 < p.1)
    (hsends : Sends s sent s') (hdone : s.done = false) :
    Sends s (sent ++ (convertChunks rules chunks s').1) (convertChunks rules chunks s').2 := by
  induction chunks generalizing sent s' with
  | nil => rwa [convertChunks, append_nil]
  | cons p rest ih =>
    cases hsends with
    | finished h usage stopReason hend =>
      rw [convertChunks_of_done rules _ hend, append_nil]
      exact .finished h usage stopReason hend
    | continued h =>
      have hfirst := h.sends (sends_stream rules h.regular (h.done_eq.trans hdone)
        (hcount p mem_cons_self).ne' p.2)
      have hrest := ih (fun q hq => hcount q (mem_cons_of_mem _ hq)) hfirst
      rwa [append_assoc] at hrest

theorem exists_finalize (hsends : Sends s sent s') (hdone : s.done = false) :
    ∃ (events : List ClaudeBlockEvent) (n : ℕ) (usage : Option ClaudeUsage) (stopReason : String),
      sent ++ (finalizeStreamResponseOpenAI2Claude rules s').1 =
        events.map .content ++ [.messageDelta usage stopReason, .messageStop] ∧
      Leads s.layout events ⟨n, []⟩ := by
  rw [finalizeStreamResponseOpenAI2Claude]
  cases hsends with
  | finished h usage stopReason hend =>
    refine ⟨_, _, usage, stopReason, ?_, h⟩
    rw [if_pos hend, append_nil]
  | continued h =>
    have hopen : ¬ s'.done = true := by simp [h.done_eq, hdone]
    refine ⟨_, _, (clientVisibleClaudeStreamUsage rules s' none).1, stopReasonOrEndTurn rules s',
      ?_, h.leads.append (leads_advance rules.toolID h.regular).1⟩
    simp [if_neg hopen, finishMessage]

/-- **The protocol holds.** Whatever the chunks of a stream carry, in whatever order, the converted
events are one `message_start`, whole content blocks, one `message_delta` and one
`message_stop`. -/
theorem convertStream_valid (chunk : ChatChunk Usage) (rest : List (ℕ × ChatChunk Usage))
    (hcount : ∀ p ∈ rest, 1 < p.1) :
    ValidClaudeStream (convertStream rules ((1, chunk) :: rest)) := by
  have hreg : (newClaudeConvertInfo : ClaudeConvertInfo Usage).Regular := fun h => by cases h
  obtain ⟨usage, sent, hfirst, hsends⟩ := sends_stream_first rules hreg rfl chunk
  simp only [convertStream, convertChunks]
  generalize streamResponseOpenAI2Claude rules 1 chunk newClaudeConvertInfo = step
    at hfirst hsends ⊢
  obtain ⟨start, s⟩ := step
  obtain rfl : start = .messageStart chunk.id chunk.model usage :: sent := hfirst
  obtain ⟨events, n, usage', stopReason, hevents, hleads⟩ :=
    exists_finalize rules (sends_convertChunks rules rest hcount hsends rfl) rfl
  have hvalid := validClaudeStream_of_emits hleads chunk.id chunk.model usage usage' stopReason
  rw [← hevents] at hvalid
  exact hvalid

def plainRules : StreamRules Unit Unit where
  usageFromOpenAI := id
  hasTokens _ := false
  mergeUsage _ usage := usage
  mergeClaudeUsage _ usage := usage
  estimatedUsage := ()
  citations _ := []
  toolID _ := "toolu"
  letters := ⟨id, fun _ => rfl, fun _ => Iff.rfl⟩

def choiceChunkOf (content reasoning : String) (toolCalls : List ToolCallResponse)
    (finishReason : Option String) : ChatChunk Unit :=
  ⟨"id", "model", 0, [⟨⟨some content, some reasoning, none, toolCalls, ""⟩, finishReason⟩], none⟩

theorem convertStream_valid_interleaved : ValidClaudeStream (convertStream plainRules
      [(1, choiceChunkOf "" "" [⟨some 0, "a", "f", "\x7b"⟩] none),
        (2, choiceChunkOf "text" "" [] none),
        (3, choiceChunkOf "" "" [⟨some 0, "a", "", "\x7d"⟩, ⟨some 1, "", "g", "1"⟩] none)]) :=
  convertStream_valid plainRules _ _ (by decide)

end NewApi.RelayConvert
