import Mathlib.Data.List.Basic

/-!
# Texts of JSON values

A tree keeps the white space and the literals of a text as they are written. A number, `true`,
`false` or `null` is any text without quotes, braces and commas, a backslash takes any character
with it, and items can be missing between commas, so every valid text is the text of a tree.
-/

namespace JsonText

def isBlank (c : Char) : Bool := c ∈ [' ', '\t', '\r', '\n']

structure Blank where
  text : List Char
  blank : ∀ c ∈ text, isBlank c = true

structure Scalar where
  text : List Char
  plain : ∀ c ∈ text, c ∉ ['"', '{', '}', ',']

/-- What a string consists of between its quotes. -/
inductive Item
  | plain (c : Char) (h : c ≠ '"' ∧ c ≠ '\\')
  | escaped (c : Char)

def Item.text : Item → List Char
  | plain c _ => [c]
  | escaped c => ['\\', c]

def literal (items : List Item) : List Char := items.flatMap Item.text

def quoted (text : List Char) : List Char := '"' :: text ++ ['"']

/-- What stands before a value in an array or, with the name, in an object. -/
inductive Head : Bool → Type
  | element (before : Blank) : Head false
  | member (before : Blank) (name : List Item) (between after : Blank) : Head true

def Head.text {named : Bool} : Head named → List Char
  | element before => before.text
  | member before name between after =>
    before.text ++ quoted (literal name) ++ between.text ++ ':' :: after.text

def Head.names {named : Bool} : Head named → List (List Char)
  | element _ => []
  | member _ name _ _ => [literal name]

inductive Part
  | value
  | items (named : Bool)

/-- A value, or the items of an array or an object. -/
inductive Tree : Part → Type
  | scalar (s : Scalar) : Tree .value
  | string (items : List Item) : Tree .value
  | compound {named : Bool} (items : Tree (.items named)) : Tree .value
  | none {named : Bool} (blank : Blank) : Tree (.items named)
  | item {named : Bool} (head : Head named) (v : Tree .value) (after : Blank) : Tree (.items named)
  | comma {named : Bool} (items items' : Tree (.items named)) : Tree (.items named)

def Tree.text {p : Part} : Tree p → List Char
  | scalar s => s.text
  | string items => quoted (literal items)
  | @compound named items =>
    (if named then '{' else '[') :: items.text ++ [if named then '}' else ']']
  | none blank => blank.text
  | item head v after => head.text ++ v.text ++ after.text
  | comma items items' => items.text ++ ',' :: items'.text

/-- The names of the items, without those of nested objects. -/
def Tree.names {p : Part} : Tree p → List (List Char)
  | item head _ _ => head.names
  | comma items items' => items.names ++ items'.names
  | _ => []

theorem names_eq_nil {p : Part} (t : Tree p) (hp : p ≠ .items true) : t.names = [] := by
  induction t with
  | item head =>
    cases head with
    | element => rfl
    | member => exact absurd rfl hp
  | comma items items' ih ih' => rw [Tree.names, ih hp, ih' hp, List.nil_append]
  | _ => rfl

theorem dropWhile_blank (w : Blank) (rest : List Char) :
    (w.text ++ rest).dropWhile isBlank = rest.dropWhile isBlank :=
  List.dropWhile_append_of_pos w.blank

end JsonText
