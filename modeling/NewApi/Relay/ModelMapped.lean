import NewApi.Foundation.GoMap

/-!
# Chained model mapping

A channel can map the model of a request to another one, and that one to a third. The loop follows
the chain from the requested model and remembers where it was. It stops at a model without an entry
or with itself as its entry, and refuses a chain that comes back to an earlier model.

Source: `relay/helper/model_mapped.go`.
-/

namespace NewApi.Relay

open Relation List Option

structure MappingInfo where
  originModelName : String
  upstreamModelName : String
  isModelMapped : Bool

/-- The nonempty entry of a model, or of its base name if it has none. -/
def mappedModel (baseModelName : String → String) (modelMap : GoMap String String)
    (current : String) : Option String :=
  let mapped := modelMap.lookup current
  let mapped :=
    if (mapped = none ∨ mapped = some "") ∧ baseModelName current ≠ current then
      modelMap.lookup (baseModelName current)
    else mapped
  if mapped = some "" then none else mapped

/-- How the loop is left: by the return for a model that maps to itself at once, by the error, or
with a model and the mark that it is mapped. -/
inductive MappingExit
  | unchanged
  | cycle (isModelMapped : Bool)
  | last (model : String) (isModelMapped : Bool)

/-- The loop over the chain, in at most `fuel` rounds. -/
def followMapping (step : String → Option String) (origin : String) :
    ℕ → List String → String → Bool → Option MappingExit
  | 0, _, _, _ => none
  | fuel + 1, visited, current, isModelMapped =>
    match step current with
    | none => some (.last current isModelMapped)
    | some mapped =>
      if mapped ∈ visited then
        if mapped = current then
          if current = origin then some .unchanged else some (.last current true)
        else some (.cycle isModelMapped)
      else followMapping step origin fuel (mapped :: visited) mapped true

/-- The info, the model of the request and the error after the call; `none` if the rounds do not
suffice. The request is absent for a task. -/
def modelMappedHelper (baseModelName : String → String)
    (unmarshal : String → Option (GoMap String String)) (fuel : ℕ) (modelMapping : String)
    (info : MappingInfo) (request : Option String) :
    Option (MappingInfo × Option String × Option String) :=
  let setModelName (info : MappingInfo) := (info, request.map fun _ => info.upstreamModelName, none)
  if modelMapping = "" ∨ modelMapping = "\x7b\x7d" then some (setModelName info)
  else
    match unmarshal modelMapping with
    | none => some (info, request, some "unmarshal_model_mapping_failed")
    | some modelMap =>
      let origin := info.originModelName
      (followMapping (mappedModel baseModelName modelMap) origin fuel [origin] origin
          info.isModelMapped).map fun
        | .unchanged => ({ info with isModelMapped := false }, request, none)
        | .cycle isModelMapped =>
          ({ info with isModelMapped }, request, some "model_mapping_contains_cycle")
        | .last model isModelMapped =>
          setModelName { info with
            isModelMapped
            upstreamModelName := if isModelMapped then model else info.upstreamModelName }

/-! ### The orbit of a model -/

def Follows (step : String → Option String) : String → String → Prop :=
  ReflTransGen fun model next => step model = some next

/-- The orbit of the model comes to a model that leads to another one and from there back. -/
def EntersCycle (step : String → Option String) (origin : String) : Prop :=
  ∃ model next, Follows step origin model ∧ step model = some next ∧ next ≠ model ∧
    Follows step next model

/-- The orbit of the model comes to this one and stays there. -/
def EndsAt (step : String → Option String) (origin model : String) : Prop :=
  Follows step origin model ∧ ∀ next, step model = some next → next = model

section

variable {step : String → Option String} {origin model : String}

theorem EndsAt.eq_of_follows (h : EndsAt step origin model) {other : String}
    (hother : Follows step model other) : other = model := by
  induction hother with
  | refl => rfl
  | tail _ hstep ih =>
    rw [ih] at hstep
    exact h.2 _ hstep

theorem EndsAt.not_entersCycle (h : EndsAt step origin model) : ¬ EntersCycle step origin := by
  rintro ⟨start, next, hstart, hnext, hne, hback⟩
  -- Wherever the cycle leads, it leads back to its start.
  have hreturns : ∀ other, Follows step start other → Follows step other start := by
    intro other hother
    induction hother with
    | refl => exact .refl
    | tail _ hstep ih =>
      rcases ReflTransGen.cases_head ih with rfl | ⟨after, hafter, hrest⟩
      · exact some.inj (hnext.symm.trans hstep) ▸ hback
      · exact some.inj (hafter.symm.trans hstep) ▸ hrest
  have hsame : start = model := by
    have htotal := ReflTransGen.total_of_right_unique
      (fun _ _ _ hb hc => some.inj (hb.symm.trans hc)) hstart h.1
    rcases htotal with hends | hends
    · exact h.eq_of_follows (hreturns model hends)
    · exact h.eq_of_follows hends
  exact hne (hsame ▸ h.2 next (hsame ▸ hnext))

end

/-! ### The loop -/

/-- What the loop finds: nothing to map, a cycle, or the end of the orbit. -/
def MappingExit.Describes (step : String → Option String) (origin : String) : MappingExit → Prop
  | unchanged => EndsAt step origin origin
  | cycle _ => EntersCycle step origin
  | last model isModelMapped =>
    EndsAt step origin model ∧ (isModelMapped = true ↔ model ≠ origin)

section

variable {step : String → Option String} {origin : String} {targets : List String}

/-- The loop has been at the models `visited`, all of them different, and is at `current`. -/
structure Visits (step : String → Option String) (origin : String) (targets visited : List String)
    (current : String) (isModelMapped : Bool) : Prop where
  nodup : visited.Nodup
  listed : ∀ model ∈ visited, model ∈ origin :: targets
  leads : ∀ model ∈ visited, Follows step model current
  start : origin ∈ visited
  mark : isModelMapped = true ↔ current ≠ origin

theorem exists_followMapping (htargets : ∀ model next, step model = some next → next ∈ targets)
    {fuel : ℕ} {visited : List String} {current : String} {isModelMapped : Bool}
    (h : Visits step origin targets visited current isModelMapped)
    (hfuel : targets.length + 2 ≤ fuel + visited.length) :
    ∃ exit, followMapping step origin fuel visited current isModelMapped = some exit ∧
      exit.Describes step origin := by
  induction fuel generalizing visited current isModelMapped with
  | zero =>
    have hlength := (subperm_of_subset h.nodup h.listed).length_le
    rw [length_cons] at hlength
    omega
  | succ fuel ih =>
    have hcurrent := h.leads origin h.start
    rw [followMapping]
    rcases hstep : step current with - | mapped
    · refine ⟨_, rfl, ⟨hcurrent, fun next hnext => ?_⟩, h.mark⟩
      cases hstep.symm.trans hnext
    have hends : mapped = current → EndsAt step origin current := by
      rintro rfl
      exact ⟨hcurrent, fun next hnext => (some.inj (hstep.symm.trans hnext)).symm⟩
    dsimp only
    split_ifs with hvisited hself horigin
    · exact ⟨_, rfl, horigin ▸ hends hself⟩
    · exact ⟨_, rfl, hends hself, iff_of_true rfl horigin⟩
    · exact ⟨_, rfl, current, mapped, hcurrent, hstep, hself, h.leads mapped hvisited⟩
    refine ih ⟨h.nodup.cons hvisited, ?_, ?_, mem_cons_of_mem _ h.start, ?_⟩ ?_
    · exact forall_mem_cons.mpr ⟨mem_cons_of_mem _ (htargets current mapped hstep), h.listed⟩
    · exact forall_mem_cons.mpr ⟨.refl, fun model hmodel => (h.leads model hmodel).tail hstep⟩
    · exact iff_of_true rfl fun heq => hvisited (heq ▸ h.start)
    · rw [length_cons]
      omega

end

theorem mappedModel_mem {baseModelName : String → String} {modelMap : GoMap String String}
    {model next : String} (h : mappedModel baseModelName modelMap model = some next) :
    next ∈ modelMap.entries.map Sigma.snd := by
  have hentry : ∃ key, modelMap.lookup key = some next := by
    rw [mappedModel] at h
    split_ifs at h
    all_goals exact ⟨_, h⟩
  obtain ⟨key, hkey⟩ := hentry
  exact mem_map.mpr ⟨⟨key, next⟩, AList.mem_lookup_iff.mp hkey, rfl⟩

/-- **Chained mapping.** For a mapping that can be read, the loop ends within one round more than it
has entries. The call fails exactly if the orbit of the model enters a cycle of two or more models,
and otherwise sets the model at which the orbit ends, marked as mapped if it is another one. -/
theorem modelMapped_spec (baseModelName : String → String)
    (unmarshal : String → Option (GoMap String String)) (modelMapping origin : String)
    (request : Option String) (table : GoMap String String)
    (htable : modelMapping ≠ "" ∧ modelMapping ≠ "\x7b\x7d" ∧ unmarshal modelMapping = some table ∨
      (modelMapping = "" ∨ modelMapping = "\x7b\x7d") ∧ table = ∅) :
    let step := mappedModel baseModelName table
    ∃ info request' err, modelMappedHelper baseModelName unmarshal (table.len + 1) modelMapping
        ⟨origin, origin, false⟩ request = some (info, request', err) ∧
      (err = some "model_mapping_contains_cycle" ↔ EntersCycle step origin) ∧
      (¬ EntersCycle step origin → err = none ∧ EndsAt step origin info.upstreamModelName ∧
        (info.isModelMapped = true ↔ info.upstreamModelName ≠ origin)) := by
  intro step
  rcases htable with ⟨hne, hne', hread⟩ | ⟨hempty, rfl⟩
  · have hvisits : Visits step origin (table.entries.map Sigma.snd) [origin] origin false :=
      ⟨nodup_singleton origin, by simp, by simp [Follows, ReflTransGen.refl], by simp, by simp⟩
    obtain ⟨exit, hexit, hdescribes⟩ : ∃ exit, followMapping step origin (table.len + 1) [origin]
        origin false = some exit ∧ exit.Describes step origin :=
      exists_followMapping (fun _ _ => mappedModel_mem) hvisits (by simp [GoMap.len])
    rw [modelMappedHelper, if_neg (not_or.mpr ⟨hne, hne'⟩), hread]
    dsimp only
    rw [hexit, map_some]
    cases exit with
    | unchanged =>
      have hnot := EndsAt.not_entersCycle hdescribes
      exact ⟨_, _, _, rfl, iff_of_false (by simp) hnot, fun _ => ⟨rfl, hdescribes, by simp⟩⟩
    | cycle isModelMapped =>
      exact ⟨_, _, _, rfl, iff_of_true rfl hdescribes, fun hnot => absurd hdescribes hnot⟩
    | last model isModelMapped =>
      obtain ⟨hends, hmark⟩ := hdescribes
      have hmodel : (if isModelMapped = true then model else origin) = model := by
        split_ifs with hmapped
        · rfl
        · exact (not_not.mp (mt hmark.mpr hmapped)).symm
      refine ⟨_, _, _, rfl, iff_of_false (by simp) hends.not_entersCycle, fun _ => ⟨rfl, ?_, ?_⟩⟩
      · exact hmodel.symm ▸ hends
      · exact hmodel.symm ▸ hmark
  · have hends : EndsAt step origin origin := by
      refine ⟨.refl, fun next hnext => ?_⟩
      simp [step, mappedModel] at hnext
    have hnot := hends.not_entersCycle
    rw [modelMappedHelper, if_pos hempty]
    exact ⟨_, _, _, rfl, iff_of_false (by simp) hnot, fun _ => ⟨rfl, hends, by simp⟩⟩

theorem modelMapped_chain :
    let table : GoMap String String := ((∅ : GoMap String String).insert "b" "c").insert "a" "b"
    let step := mappedModel id table
    ∃ info request' err, modelMappedHelper id (fun _ => some table) (table.len + 1) "table"
        ⟨"a", "a", false⟩ (some "a") = some (info, request', err) ∧
      (err = some "model_mapping_contains_cycle" ↔ EntersCycle step "a") ∧
      (¬ EntersCycle step "a" → err = none ∧ EndsAt step "a" info.upstreamModelName ∧
        (info.isModelMapped = true ↔ info.upstreamModelName ≠ "a")) :=
  modelMapped_spec id _ "table" "a" (some "a") _ (.inl ⟨by decide, by decide, rfl⟩)

end NewApi.Relay

