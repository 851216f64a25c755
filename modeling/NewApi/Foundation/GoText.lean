import Mathlib.Algebra.Group.Int.Defs
import Mathlib.Data.List.DropRight
import Mathlib.Data.List.Infix

/-!
# Go strings

The white space of the Go standard library (`unicode.IsSpace`), `strings.TrimSpace`, and the blank
strings: those that it turns into the empty string. Then `strings.HasPrefix`, `strings.HasSuffix`,
`strings.CutPrefix`, `strings.Contains`, `strconv.Atoi` and `strings.ToLower`, and `strings.Trim`,
`strings.Split` and `strings.Join` for a separator of one character.
-/

namespace GoText

open List Option

def isSpace (c : Char) : Bool :=
  c.toNat ∈ [0x09, 0x0A, 0x0B, 0x0C, 0x0D, 0x20, 0x85, 0xA0, 0x1680, 0x2028, 0x2029, 0x202F,
    0x205F, 0x3000] || (0x2000 ≤ c.toNat && c.toNat ≤ 0x200A)

def trimSpace (s : String) : String :=
  .ofList ((s.toList.dropWhile isSpace).reverse.dropWhile isSpace).reverse

def isBlank (s : String) : Bool := s.toList.all isSpace

@[simp] theorem trimSpace_empty : trimSpace "" = "" := by decide

private theorem dropWhile_rdropWhile_dropWhile {α : Type*} (p : α → Bool) (l : List α) :
    ((l.dropWhile p).rdropWhile p).dropWhile p = (l.dropWhile p).rdropWhile p := by
  rw [dropWhile_eq_self_iff]
  intro hlength
  have hpre := rdropWhile_prefix p (l.dropWhile p)
  have hpos : 0 < (l.dropWhile p).length := lt_of_lt_of_le hlength hpre.length_le
  rw [hpre.getElem hlength]
  exact dropWhile_get_zero_not p l hpos

@[simp] theorem trimSpace_trimSpace (s : String) : trimSpace (trimSpace s) = trimSpace s := by
  have hrdrop : ∀ l : List Char, (l.reverse.dropWhile isSpace).reverse = l.rdropWhile isSpace :=
    fun l => rfl
  simp only [trimSpace, String.toList_ofList, hrdrop, dropWhile_rdropWhile_dropWhile]
  rw [rdropWhile_idempotent]

private theorem rdropWhile_dropWhile_eq_self_iff {α : Type*} {p : α → Bool} {l : List α} :
    (l.dropWhile p).rdropWhile p = l ↔ (∀ a ∈ l.head?, ¬ p a) ∧ ∀ a ∈ l.getLast?, ¬ p a := by
  constructor
  · intro h
    have hlength := (List.rdropWhile_prefix p (l.dropWhile p)).length_le
    rw [h] at hlength
    have hdrop : l.dropWhile p = l := (dropWhile_suffix p).sublist.eq_of_length_le hlength
    rw [hdrop] at h
    refine ⟨fun a ha => ?_, fun a ha => ?_⟩
    · have hhead := head?_dropWhile_not p l
      rw [hdrop, mem_def.mp ha] at hhead
      simpa using hhead
    · obtain ⟨hne, rfl⟩ := mem_getLast?_eq_getLast ha
      exact rdropWhile_eq_self_iff.mp h hne
  · rintro ⟨hhead, hlast⟩
    have hdrop : l.dropWhile p = l := by
      cases l with
      | nil => rfl
      | cons a l => exact dropWhile_cons_of_neg (hhead a rfl)
    rw [hdrop, rdropWhile_eq_self_iff]
    exact fun hne => hlast _ (getLast?_eq_some_getLast hne)

theorem trimSpace_of_forall {s : String} (h : ∀ c ∈ s.toList, isSpace c = false) :
    trimSpace s = s := by
  have hlist : (s.toList.dropWhile isSpace).rdropWhile isSpace = s.toList :=
    rdropWhile_dropWhile_eq_self_iff.mpr ⟨fun c hc => by simp [h c (mem_of_mem_head? hc)],
      fun c hc => by simp [h c (mem_of_getLast? hc)]⟩
  exact (congrArg String.ofList hlist).trans String.ofList_toList

def hasPrefix (s start : String) : Bool := start.toList.isPrefixOf s.toList

def hasSuffix (s ending : String) : Bool := ending.toList.isSuffixOf s.toList

def contains (s part : String) : Bool := part.toList <:+: s.toList

def cutPrefix (s start : String) : Option String :=
  if start.toList.isPrefixOf s.toList then some (.ofList (s.toList.drop start.toList.length))
  else none

def charsAfter (part : List Char) : List Char → Option (List Char)
  | [] => if part = [] then some [] else none
  | c :: l => if part.isPrefixOf (c :: l) then some ((c :: l).drop part.length)
      else charsAfter part l

def after (s part : String) : Option String := (charsAfter part.toList s.toList).map .ofList

/-! ### Numbers -/

def digitValue (c : Char) : Option ℕ :=
  if '0' ≤ c ∧ c ≤ '9' then some (c.toNat - '0'.toNat) else none

def number (base : ℕ) (value : Char → Option ℕ) (l : List Char) : Option ℕ :=
  if l.isEmpty then none
  else (l.mapM value).map fun digits => digits.foldl (fun n d => n * base + d) 0

theorem isSome_of_mapM {α β : Type} {f : α → Option β} {l : List α} {ys : List β}
    (h : l.mapM f = some ys) : ∀ a ∈ l, (f a).isSome = true := by
  induction l generalizing ys with
  | nil => simp
  | cons a l ih =>
    rw [mapM_cons] at h
    obtain ⟨b, hb, h⟩ := bind_eq_some_iff.mp h
    obtain ⟨bs, hbs, -⟩ := bind_eq_some_iff.mp h
    exact forall_mem_cons.mpr ⟨isSome_iff_exists.mpr ⟨b, hb⟩, ih hbs⟩

theorem isSome_of_number {base n : ℕ} {value : Char → Option ℕ} {l : List Char}
    (h : number base value l = some n) : ∀ c ∈ l, (value c).isSome = true := by
  rw [number] at h
  split at h
  · cases h
  · obtain ⟨digits, hdigits, -⟩ := map_eq_some_iff.mp h
    exact isSome_of_mapM hdigits

/-- `strconv.Atoi`: decimal digits after an optional sign, in the range of 64 bits. -/
def atoi (s : String) : Option Int :=
  let value : Option Int :=
    match s.toList with
    | '-' :: l => (number 10 digitValue l).map fun n => -(n : Int)
    | '+' :: l => (number 10 digitValue l).map fun n => (n : Int)
    | l => (number 10 digitValue l).map fun n => (n : Int)
  value.bind fun n => if -2 ^ 63 ≤ n ∧ n < 2 ^ 63 then some n else none

/-! ### Letter case -/

/-- The lower case of the letters: `unicode.ToLower`. Lower case is a fixed point, and only a dot
becomes a dot. -/
structure LetterCase where
  lower : Char → Char
  lower_lower : ∀ c, lower (lower c) = lower c
  lower_dot : ∀ c, lower c = '.' ↔ c = '.'

def LetterCase.toLower (letters : LetterCase) (s : String) : String :=
  .ofList (s.toList.map letters.lower)

@[simp] theorem LetterCase.toLower_toLower (letters : LetterCase) (s : String) :
    letters.toLower (letters.toLower s) = letters.toLower s := by
  simp [LetterCase.toLower, Function.comp_def, letters.lower_lower]

def trimRootDot (s : String) : String :=
  if s.toList.getLast? = some '.' then .ofList s.toList.dropLast else s

theorem LetterCase.toLower_trimRootDot (letters : LetterCase) (s : String) :
    letters.toLower (trimRootDot s) = trimRootDot (letters.toLower s) := by
  have hlast : (s.toList.map letters.lower).getLast? = some '.' ↔ s.toList.getLast? = some '.' := by
    rw [getLast?_map, map_eq_some_iff]
    constructor
    · rintro ⟨c, hc, hdot⟩
      rw [hc, (letters.lower_dot c).mp hdot]
    · intro h
      exact ⟨'.', h, (letters.lower_dot '.').mpr rfl⟩
  rw [trimRootDot, trimRootDot, LetterCase.toLower, LetterCase.toLower, String.toList_ofList]
  by_cases h : s.toList.getLast? = some '.'
  · rw [if_pos h, if_pos (hlast.mpr h), String.toList_ofList, map_dropLast]
  · rw [if_neg h, if_neg (hlast.not.mpr h)]

/-! ### Splitting and joining at one character -/

theorem eq_or_mem_of_splitOn {α : Type} [BEq α] [LawfulBEq α] (sep : α) {c : α} {l : List α}
    (h : c ∈ l) : c = sep ∨ ∃ part ∈ l.splitOn sep, c ∈ part := by
  rw [← @intercalate_splitOn _ l _ _ sep] at h
  generalize l.splitOn sep = parts at h ⊢
  induction parts with
  | nil => cases h
  | cons first rest ih =>
    rcases rest with - | ⟨second, rest⟩
    · rw [intercalate_singleton] at h
      exact .inr ⟨first, mem_cons_self, h⟩
    rw [intercalate_cons_cons, mem_append, mem_append, mem_singleton] at h
    rcases h with (hfirst | rfl) | hrest
    · exact .inr ⟨first, mem_cons_self, hfirst⟩
    · exact .inl rfl
    · rcases ih hrest with rfl | ⟨part, hpart, hc⟩
      · exact .inl rfl
      · exact .inr ⟨part, mem_cons_of_mem first hpart, hc⟩

def trim (c : Char) (s : String) : String :=
  .ofList ((s.toList.dropWhile (· == c)).rdropWhile (· == c))

def split (sep : Char) (s : String) : List String := (s.toList.splitOn sep).map .ofList

def join (sep : Char) (parts : List String) : String :=
  .ofList ([sep].intercalate (parts.map String.toList))

theorem split_ne_nil (sep : Char) (s : String) : split sep s ≠ [] := by
  simp [split, splitOn_ne_nil]

@[simp] theorem join_split (sep : Char) (s : String) : join sep (split sep s) = s := by
  have hparts : ((s.toList.splitOn sep).map String.ofList).map String.toList =
      s.toList.splitOn sep := by simp
  rw [join, split, hparts, intercalate_splitOn, String.ofList_toList]

variable {parts : List String} {sep : Char}

theorem split_join (hsep : ∀ s ∈ parts, sep ∉ s.toList) (hparts : parts ≠ []) :
    split sep (join sep parts) = parts := by
  have hpieces : ∀ l ∈ parts.map String.toList, sep ∉ l := by
    intro l hl
    obtain ⟨s, hs, rfl⟩ := mem_map.mp hl
    exact hsep s hs
  have hne : parts.map String.toList ≠ [] := by simpa using hparts
  rw [split, join, String.toList_ofList, splitOn_intercalate sep hpieces hne]
  simp

private theorem sep_notMem_of_mem_splitOn {l piece : List Char} (hpiece : piece ∈ l.splitOn sep) :
    sep ∉ piece := by
  induction l generalizing piece with
  | nil =>
    rw [splitOn_nil, mem_singleton] at hpiece
    rw [hpiece]
    exact not_mem_nil
  | cons c l ih =>
    rw [splitOn_cons_eq_if_modifyHead] at hpiece
    split at hpiece
    · rcases mem_cons.mp hpiece with rfl | hmem
      · exact not_mem_nil
      · exact ih hmem
    rename_i hc
    -- Only the first piece of the rest grows, by a character that is not the separator.
    rcases hl : l.splitOn sep with - | ⟨first, rest⟩
    · exact absurd hl (splitOn_ne_nil sep l)
    rw [hl, modifyHead_cons] at hpiece
    rcases mem_cons.mp hpiece with rfl | hmem
    · have hfirst : sep ∉ first := ih (hl ▸ mem_cons_self)
      simp only [beq_iff_eq] at hc
      simp [hfirst, Ne.symm hc]
    · exact ih (hl ▸ mem_cons_of_mem first hmem)

theorem sep_notMem_of_mem_split {s part : String} (hpart : part ∈ split sep s) :
    sep ∉ part.toList := by
  obtain ⟨piece, hpiece, rfl⟩ := mem_map.mp hpart
  rw [String.toList_ofList]
  exact sep_notMem_of_mem_splitOn hpiece

theorem trim_eq_self_iff {c : Char} {s : String} :
    trim c s = s ↔ s.toList.head? ≠ some c ∧ s.toList.getLast? ≠ some c := by
  have hlist : trim c s = s ↔ (s.toList.dropWhile (· == c)).rdropWhile (· == c) = s.toList := by
    rw [trim, ← String.toList_inj, String.toList_ofList]
  rw [hlist, rdropWhile_dropWhile_eq_self_iff]
  simp only [mem_def, beq_iff_eq]
  exact and_congr ⟨fun h hc => h c hc rfl, fun h a ha hac => h (hac ▸ ha)⟩
    ⟨fun h hc => h c hc rfl, fun h a ha hac => h (hac ▸ ha)⟩

@[simp] theorem join_cons_cons (sep : Char) (s t : String) (parts : List String) :
    (join sep (s :: t :: parts)).toList = s.toList ++ sep :: (join sep (t :: parts)).toList := by
  simp [join, intercalate_cons_cons]

@[simp] theorem join_singleton (sep : Char) (s : String) : join sep [s] = s := by
  simp [join]

theorem join_eq_empty_iff : join sep parts = "" ↔ parts = [] ∨ parts = [""] := by
  match parts with
  | [] => simp [join]
  | [s] => simp
  | s :: t :: parts =>
    simp [← String.toList_eq_nil_iff]

theorem head?_join (hsep : ∀ s ∈ parts, sep ∉ s.toList) (hjoin : join sep parts ≠ "") :
    (join sep parts).toList.head? = some sep ↔ parts.head? = some "" := by
  match parts with
  | [] => simp [join]
  | [s] =>
    rw [join_singleton] at hjoin ⊢
    have hs : sep ∉ s.toList := hsep s mem_cons_self
    simp only [head?_cons, some.injEq, hjoin, iff_false]
    exact fun h => hs (mem_of_mem_head? h)
  | s :: t :: parts =>
    have hs : sep ∉ s.toList := hsep s mem_cons_self
    rw [join_cons_cons, head?_cons, some.injEq, ← String.toList_eq_nil_iff]
    cases hl : s.toList with
    | nil => simp
    | cons c l =>
      rw [hl] at hs
      simpa using Ne.symm (ne_of_not_mem_cons hs)

theorem getLast?_join (hsep : ∀ s ∈ parts, sep ∉ s.toList) (hjoin : join sep parts ≠ "") :
    (join sep parts).toList.getLast? = some sep ↔ parts.getLast? = some "" := by
  induction parts with
  | nil => simp [join]
  | cons s parts ih =>
    cases parts with
    | nil =>
      rw [join_singleton] at hjoin ⊢
      have hs : sep ∉ s.toList := hsep s mem_cons_self
      simp only [getLast?_singleton, some.injEq, hjoin, iff_false]
      exact fun h => hs (mem_of_getLast? h)
    | cons t parts =>
      rw [join_cons_cons, getLast?_append_cons, getLast?_cons_cons]
      have hsep' : ∀ s ∈ t :: parts, sep ∉ s.toList :=
        fun s hs => hsep s (mem_cons_of_mem _ hs)
      by_cases hrest : join sep (t :: parts) = ""
      · -- The text ends with the separator, and the only part after it is empty.
        cases parts with
        | nil =>
          rw [join_singleton] at hrest
          simp [hrest]
        | cons u parts =>
          have htext := join_cons_cons sep t u parts
          rw [hrest, String.toList_empty] at htext
          simp at htext
      · rw [← ih hsep' hrest, getLast?_cons_of_ne_nil]
        rwa [Ne, String.toList_eq_nil_iff]

/-- A list of parts is read back from its joined text, trimmed at the separator, exactly when no
part contains the separator and neither the first nor the last one is empty. -/
theorem split_trim_join (hjoin : join sep parts ≠ "") :
    split sep (trim sep (join sep parts)) = parts ↔
      (∀ s ∈ parts, sep ∉ s.toList) ∧ parts.head? ≠ some "" ∧ parts.getLast? ≠ some "" := by
  constructor
  · intro h
    have hsep : ∀ s ∈ parts, sep ∉ s.toList := fun s hs => sep_notMem_of_mem_split (h ▸ hs)
    have htrim : trim sep (join sep parts) = join sep parts := by
      calc trim sep (join sep parts) = join sep (split sep (trim sep (join sep parts))) := by simp
        _ = join sep parts := by rw [h]
    have hends := trim_eq_self_iff.mp htrim
    exact ⟨hsep, fun hfirst => hends.1 ((head?_join hsep hjoin).mpr hfirst),
      fun hlast => hends.2 ((getLast?_join hsep hjoin).mpr hlast)⟩
  · rintro ⟨hsep, hfirst, hlast⟩
    have htrim : trim sep (join sep parts) = join sep parts :=
      trim_eq_self_iff.mpr ⟨fun h => hfirst ((head?_join hsep hjoin).mp h),
        fun h => hlast ((getLast?_join hsep hjoin).mp h)⟩
    have hparts : parts ≠ [] := by
      rintro rfl
      exact hjoin rfl
    rw [htrim, split_join hsep hparts]

end GoText
