/-
Module: Winternitz.Outline
Purpose: Values written out for inspection, on one line or spread over several.
Main exports: Outline, Outline.oneLine, Outline.spread
-/

namespace Winternitz

/-- What an inspected value shows of itself. -/
inductive Outline where
  /-- A text that is shown as it is. -/
  | atom (text : String)
  /-- A name with labelled parts.  An incomplete record says that it shows only some of them. -/
  | record (name : String) (fields : List (String × Outline)) (incomplete : Bool)
  | sequence (items : List Outline)
  | wrapped (name : String) (value : Outline)

namespace Outline

def number (value : Nat) : Outline := .atom (toString value)

/-- A text in quotes. -/
def text (value : String) : Outline := .atom value.quote

def flag (value : Bool) : Outline := .atom (if value then "true" else "false")

def optional : Option Outline → Outline
  | none => .atom "None"
  | some value => .wrapped "Some" value

/-! ### On one line -/

mutual

def oneLine : Outline → String
  | .atom text => text
  | .record name fields incomplete =>
      let shown := oneLineFields fields
      name ++ " \x7b " ++ ", ".intercalate (if incomplete then shown ++ [".."] else shown) ++ " \x7d"
  | .sequence items => "[" ++ ", ".intercalate (oneLineAll items) ++ "]"
  | .wrapped name value => name ++ "(" ++ oneLine value ++ ")"

def oneLineAll : List Outline → List String
  | [] => []
  | item :: rest => oneLine item :: oneLineAll rest

def oneLineFields : List (String × Outline) → List String
  | [] => []
  | (label, value) :: rest => (label ++ ": " ++ oneLine value) :: oneLineFields rest

end

/-! ### Spread over lines -/

def indent (lines : List String) : List String := lines.map ("    " ++ ·)

/-- Text in front of the first line. -/
def label (text : String) : List String → List String
  | [] => [text]
  | first :: rest => (text ++ first) :: rest

/-- A comma after the last line. -/
def withComma : List String → List String
  | [] => [","]
  | [last] => [last ++ ","]
  | first :: rest => first :: withComma rest

mutual

/-- The outline with every part on lines of its own, each followed by a comma. -/
def lines : Outline → List String
  | .atom text => [text]
  | .record name fields incomplete =>
      [name ++ " \x7b"] ++ indent (linesOfFields fields ++ if incomplete then [".."] else []) ++ ["\x7d"]
  | .sequence [] => ["[]"]
  | .sequence (item :: rest) => ["["] ++ indent (linesOfAll (item :: rest)) ++ ["]"]
  | .wrapped name value => [name ++ "("] ++ indent (withComma (lines value)) ++ [")"]

def linesOfAll : List Outline → List String
  | [] => []
  | item :: rest => withComma (lines item) ++ linesOfAll rest

def linesOfFields : List (String × Outline) → List String
  | [] => []
  | (name, value) :: rest => label (name ++ ": ") (withComma (lines value)) ++ linesOfFields rest

end

def spread (outline : Outline) : String := "\n".intercalate outline.lines

end Outline

end Winternitz
