import NewApi.Middleware.Distributor
import NewApi.Foundation.JsonText

/-!
# The model of a JSON body

`getModelFromJSONBody` refuses a body that names its model twice. A scanner counts the names: it
tracks braces, quotes and commas, and takes a string at depth one for a name if a colon follows it
(`middleware/distributor.go`).
-/

namespace NewApi.Middleware

open JsonText List

/-! ### The scanner -/

variable (isTarget : List Char → Bool) in
/-- The loop of `countTopLevelJSONKey`. In a string it has the characters since `stringStart`, and
whether the next one is escaped. -/
def scanKeys (depth : Int) (expectingKey : Bool) (count : ℕ) :
    Option (List Char × Bool) → List Char → ℕ
  | _, [] => count
  | some (literal, true), current :: rest =>
    scanKeys depth expectingKey count (some (literal ++ [current], false)) rest
  | some (literal, false), current :: rest =>
    if current = '\\' then
      scanKeys depth expectingKey count (some (literal ++ [current], true)) rest
    else if current ≠ '"' then
      scanKeys depth expectingKey count (some (literal ++ [current], false)) rest
    else if depth = 1 ∧ expectingKey then
      scanKeys depth false
        (if (rest.dropWhile isBlank).head? = some ':' ∧ isTarget literal then count + 1 else count)
        none rest
    else scanKeys depth expectingKey count none rest
  | none, current :: rest =>
    if current = '"' then scanKeys depth expectingKey count (some ([], false)) rest
    else if current = '{' then
      scanKeys (depth + 1) (expectingKey || depth + 1 = 1) count none rest
    else if current = '}' then scanKeys (depth - 1) expectingKey count none rest
    else if current = ',' then scanKeys depth (expectingKey || depth = 1) count none rest
    else scanKeys depth expectingKey count none rest

/-- The key of a literal: `decode` is the JSON decoder of strings. -/
def decodedKey (decode : List Char → Option String) (literal : List Char) : String :=
  (decode (quoted literal)).getD (.ofList literal)

def countTopLevelJSONKey (decode : List Char → Option String) (data : List Char)
    (target : String) : ℕ :=
  scanKeys (fun literal => decodedKey decode literal = target) 0 false 0 none data

/-! ### The scan of a text -/

section Scan

variable {f : List Char → Bool} {d : Int} {e : Bool} {c : ℕ} {data rest : List Char}

theorem scan_plain (h : ∀ a ∈ data, a ∉ ['"', '{', '}', ',']) :
    scanKeys f d e c none (data ++ rest) = scanKeys f d e c none rest := by
  induction data with
  | nil => rfl
  | cons a data ih =>
    obtain ⟨ha, hdata⟩ := forall_mem_cons.mp h
    rw [← ih hdata]
    simp_all [scanKeys]

theorem scan_cons {a : Char} (ha : a ∉ ['"', '{', '}', ',']) :
    scanKeys f d e c none (a :: rest) = scanKeys f d e c none rest :=
  scan_plain (forall_mem_singleton.mpr ha)

theorem scan_blank (w : Blank) :
    scanKeys f d e c none (w.text ++ rest) = scanKeys f d e c none rest := by
  refine scan_plain fun a ha => ?_
  have hblank := w.blank a ha
  simp only [isBlank, mem_cons, decide_eq_true_eq] at hblank
  rcases hblank with rfl | rfl | rfl | rfl | h <;> simp_all

theorem scan_literal (items : List Item) (start : List Char) :
    scanKeys f d e c (some (start, false)) (literal items ++ rest) =
      scanKeys f d e c (some (start ++ literal items, false)) rest := by
  induction items generalizing start with
  | nil => simp [literal]
  | cons item items ih =>
    have hcons : literal (item :: items) = item.text ++ literal items := flatMap_cons
    cases item with
    | plain a h => simp [hcons, Item.text, scanKeys, h, ih]
    | escaped a => simp [hcons, Item.text, scanKeys, ih]

/-- A string is taken for a name at depth one where a name is expected and a colon follows. -/
theorem scan_quoted (items : List Item) :
    scanKeys f d e c none (quoted (literal items) ++ rest) =
      scanKeys f d (e && d ≠ 1) (c + if d = 1 ∧ e = true ∧
        (rest.dropWhile isBlank).head? = some ':' ∧ f (literal items) = true then 1 else 0)
        none rest := by
  have hsplit : quoted (literal items) ++ rest = '"' :: (literal items ++ '"' :: rest) := by
    simp [quoted]
  rw [hsplit, scanKeys, if_pos rfl, scan_literal, nil_append, scanKeys, if_neg (by decide),
    if_neg (not_not_intro rfl)]
  by_cases hkey : d = 1 ∧ e = true
  · obtain ⟨rfl, rfl⟩ := hkey
    split_ifs <;> simp_all
  · have hsame : (e && decide (d ≠ 1)) = e := by cases e <;> simp_all
    rw [if_neg hkey, hsame, if_neg fun h => hkey ⟨h.1, h.2.1⟩, Nat.add_zero]

theorem scan_head {named : Bool} (head : Head named) (hkey : d = 1 → named = true → e = true) :
    ∃ e', scanKeys f d e c none (head.text ++ rest) =
      scanKeys f d e' (c + if d = 1 then head.names.countP f else 0) none rest := by
  cases head with
  | element before => exact ⟨e, by simp [Head.text, Head.names, scan_blank]⟩
  | member before name between after =>
    refine ⟨e && d ≠ 1, ?_⟩
    simp only [Head.text, append_assoc, cons_append]
    rw [scan_blank, scan_quoted, scan_blank, scan_cons (by decide), scan_blank]
    by_cases hdepth : d = 1
    · simp [hdepth, hkey hdepth rfl, dropWhile_blank, isBlank, Head.names, countP_singleton]
    · simp [hdepth]

/-- **The scan of a text.** At depth one the names are counted, and nothing in a value. -/
theorem scan_text {p : Part} (t : Tree p) (hd : 1 ≤ d)
    (hkey : d = 1 → p = .items true → e = true)
    (hrest : (rest.dropWhile isBlank).head? ≠ some ':') :
    ∃ e', scanKeys f d e c none (t.text ++ rest) =
      scanKeys f d e' (c + if d = 1 then t.names.countP f else 0) none rest := by
  induction t generalizing d e c rest with
  | scalar text => exact ⟨e, by simp [Tree.text, Tree.names, scan_plain text.plain]⟩
  | string items => exact ⟨_, by simp [Tree.text, Tree.names, scan_quoted, hrest]; rfl⟩
  | none w => exact ⟨e, by simp [Tree.text, Tree.names, scan_blank]⟩
  | @compound named items ih =>
    cases named with
    | true =>
      obtain ⟨e', h⟩ := @ih (d + 1) (e || d + 1 = 1) c ('}' :: rest) (by omega) (by omega)
        (by simp [isBlank])
      refine ⟨e', ?_⟩
      rw [if_neg (by omega)] at h
      simp only [Tree.text, if_pos, cons_append, append_assoc, nil_append]
      simpa [scanKeys, Tree.names] using h
    | false =>
      obtain ⟨e', h⟩ := @ih d e c (']' :: rest) hd (by simp) (by simp [isBlank])
      refine ⟨e', ?_⟩
      simp only [Tree.text, Bool.false_eq_true, if_false, cons_append, append_assoc, nil_append]
      rw [scan_cons (by decide), h, scan_cons (by decide)]
      simp [Tree.names, names_eq_nil items]
  | item head v after ih =>
    obtain ⟨e₁, h₁⟩ := @scan_head f d e c (v.text ++ (after.text ++ rest)) _ head
      (by simpa using hkey)
    obtain ⟨e₂, h₂⟩ := @ih d e₁ (c + if d = 1 then head.names.countP f else 0) (after.text ++ rest)
      hd (by simp) (by rwa [dropWhile_blank])
    refine ⟨e₂, ?_⟩
    simp only [Tree.text, append_assoc]
    rw [h₁, h₂, scan_blank]
    simp [Tree.names, names_eq_nil v]
  | comma items items' ih ih' =>
    obtain ⟨e₁, h₁⟩ := @ih d e c (',' :: (items'.text ++ rest)) hd hkey (by simp [isBlank])
    obtain ⟨e₂, h₂⟩ := @ih' d (e₁ || d = 1) (c + if d = 1 then items.names.countP f else 0) rest hd
      (fun hdepth _ => by simp [hdepth]) hrest
    refine ⟨e₂, ?_⟩
    simp only [Tree.text, append_assoc, cons_append]
    rw [h₁]
    refine h₂.trans ?_
    split_ifs <;> simp [Tree.names, Nat.add_assoc]

theorem scan_object (before after : Blank) (members : Tree (.items true)) :
    scanKeys f 0 false 0 none (before.text ++ '{' :: (members.text ++ '}' :: after.text)) =
      members.names.countP f := by
  obtain ⟨e, h⟩ := @scan_text f 1 true 0 ('}' :: after.text) _ members le_rfl (fun _ _ => rfl)
    (by simp [isBlank])
  calc scanKeys f 0 false 0 none (before.text ++ '{' :: (members.text ++ '}' :: after.text))
      = scanKeys f 1 true 0 none (members.text ++ '}' :: after.text) := scan_blank before
    _ = scanKeys f 0 e (0 + members.names.countP f) none (after.text ++ []) := by
      rw [h, append_nil]
      rfl
    _ = members.names.countP f := by
      rw [scan_blank, scanKeys, Nat.zero_add]

end Scan

/-! ### The guard -/

/-- A value of the body by its type. -/
inductive JsonResult
  | missing
  | null
  | string (text : String)
  | other

inductive ModelBodyError
  | storage (e : String)
  | invalid
  | modelTwice
  | notString (field : String)

def ModelBodyError.message : ModelBodyError → String
  | storage e => e
  | invalid => "invalid JSON request body"
  | modelTwice => "model must be provided once"
  | notString field => "field " ++ field ++ " must be a string"

def getJSONStringValue (result : JsonResult) (field : String) : Except ModelBodyError String :=
  match result with
  | .missing | .null => .ok ""
  | .string text => .ok text
  | .other => .error (.notString field)

/-- `valid` and `get` are those of `gjson`, and `seekErr` is the error of the rewind. -/
def getModelFromJSONBody (decode : List Char → Option String) (valid : List Char → Bool)
    (get : List Char → String → JsonResult) (seekErr : Option String)
    (body : Except String (List Char)) : Except ModelBodyError ModelRequest :=
  match body with
  | .error e => .error (.storage e)
  | .ok requestBody =>
    if valid requestBody = false then .error .invalid
    else if 1 < countTopLevelJSONKey decode requestBody "model" then .error .modelTwice
    else
      match getJSONStringValue (get requestBody "model") "model",
        getJSONStringValue (get requestBody "group") "group", seekErr with
      | .error e, _, _ | .ok _, .error e, _ => .error e
      | .ok _, .ok _, some e => .error (.storage e)
      | .ok model, .ok group, none => .ok ⟨model, group⟩

theorem getJSONStringValue_ne (result : JsonResult) (field : String) :
    getJSONStringValue result field ≠ .error .modelTwice := by
  cases result <;> simp [getJSONStringValue]

/-- **Names are counted exactly.** In the text of an object the scanner counts the names of the
object that decode to the target, and a valid body is refused for a second model exactly if two of
them are `model`. -/
theorem countTopLevelJSONKey_object (decode : List Char → Option String) (before after : Blank)
    (members : Tree (.items true)) :
    let data := before.text ++ '{' :: (members.text ++ '}' :: after.text)
    let count := fun target => members.names.countP fun name => decodedKey decode name = target
    (∀ target, countTopLevelJSONKey decode data target = count target) ∧
      ∀ valid get seekErr,
        getModelFromJSONBody decode valid get seekErr (.ok data) = .error .modelTwice ↔
          valid data = true ∧ 1 < count "model" := by
  intro data count
  have hcount (target : String) : countTopLevelJSONKey decode data target = count target :=
    scan_object before after members
  refine ⟨hcount, fun valid get seekErr => ?_⟩
  unfold getModelFromJSONBody
  rw [← hcount]
  dsimp only
  split_ifs with hinvalid htwice
  · simp [hinvalid]
  · simp_all
  · have hmodel := getJSONStringValue_ne (get data "model") "model"
    have hgroup := getJSONStringValue_ne (get data "group") "group"
    split <;> simp_all

end NewApi.Middleware
