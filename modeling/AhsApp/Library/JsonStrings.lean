import Mathlib.Data.List.Basic

/-! The text of a JSON object with one array of strings, and a scan that reads the array
back. Quotes, backslashes and slashes are escaped by a backslash. -/

namespace AhsApp.Library.JsonStrings

def doubleQuote : Char := Char.ofNat 34
def backslash : Char := Char.ofNat 92

def escapeChar (char : Char) : List Char :=
  if char = doubleQuote ∨ char = backslash ∨ char = '/' then [backslash, char] else [char]

def literal (text : List Char) : List Char :=
  doubleQuote :: text.flatMap escapeChar ++ [doubleQuote]

/-- The elements with commas between them, up to the closing bracket. -/
def elements : List String → List Char
  | [] => [']', '}']
  | [text] => literal text.toList ++ [']', '}']
  | text :: rest => literal text.toList ++ ',' :: elements rest

def opening (key : String) : List Char := '{' :: literal key.toList ++ [':', '[']

def render (key : String) (array : List String) : String :=
  String.ofList (opening key ++ elements array)

/-- Where a scan is: between two elements, or inside one with what was read of it,
backwards; an escaped character is taken as it is. -/
inductive Mode where
  | between
  | inside (read : List Char)
  | escaped (read : List Char)

def scan : Mode → List Char → Option (List String)
  | _, [] => none
  | .between, char :: rest =>
    if char = ']' then if rest = ['}'] then some [] else none
    else if char = ',' then scan .between rest
    else if char = doubleQuote then scan (.inside []) rest
    else none
  | .inside read, char :: rest =>
    if char = doubleQuote then (scan .between rest).map (String.ofList read.reverse :: ·)
    else if char = backslash then scan (.escaped read) rest
    else scan (.inside (char :: read)) rest
  | .escaped read, char :: rest => scan (.inside (char :: read)) rest

/-- The array under the key, when the object starts with it. -/
def parse (key text : String) : Option (List String) :=
  if (opening key).isPrefixOf text.toList then
    scan .between (text.toList.drop (opening key).length)
  else none

private theorem scan_escapeChar (read : List Char) (char : Char) (rest : List Char) :
    scan (.inside read) (escapeChar char ++ rest) = scan (.inside (char :: read)) rest := by
  rw [escapeChar]
  split
  · have apart : backslash ≠ doubleQuote := by decide
    simp [scan, apart]
  · rename_i plain
    simp only [not_or] at plain
    simp [scan, plain.1, plain.2.1]

private theorem scan_escaped (read text rest : List Char) :
    scan (.inside read) (text.flatMap escapeChar ++ rest) =
      scan (.inside (text.reverse ++ read)) rest := by
  induction text generalizing read with
  | nil => rfl
  | cons char text ih =>
    rw [List.flatMap_cons, List.append_assoc, scan_escapeChar, ih, List.reverse_cons,
      List.append_assoc, List.singleton_append]

/-- A literal is read as one element. -/
theorem scan_literal (text rest : List Char) :
    scan .between (literal text ++ rest) =
      (scan .between rest).map (String.ofList text :: ·) := by
  have opened : scan .between (literal text ++ rest) =
      scan (.inside []) (text.flatMap escapeChar ++ (doubleQuote :: rest)) := by
    have bracket : doubleQuote ≠ ']' := by decide
    have comma : doubleQuote ≠ ',' := by decide
    simp [literal, scan, bracket, comma]
  rw [opened, scan_escaped, scan]
  simp

private theorem scan_elements (array : List String) :
    scan .between (elements array) = some array := by
  induction array with
  | nil => rfl
  | cons text rest ih =>
    cases rest with
    | nil =>
      rw [elements, scan_literal]
      simp [scan]
    | cons next rest =>
      rw [elements, scan_literal, scan]
      · simp [ih]
      · simp

/-- What is rendered is parsed back. -/
theorem parse_render (key : String) (array : List String) :
    parse key (render key array) = some array := by
  have start : (opening key).isPrefixOf (render key array).toList = true := by
    simp [render]
  rw [parse, if_pos start]
  simp [render, scan_elements]

end AhsApp.Library.JsonStrings
