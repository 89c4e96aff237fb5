import AhsApp.Library.KeyedList
import AhsApp.Library.OptionList
import Mathlib.Data.List.TakeWhile

/-! The text of an SQL statement with a condition. It ends at the first U+0000, and is split
into words, symbols and string literals; a condition joins comparisons of columns and
literals. A text that cannot be read is no statement. -/

namespace AhsApp.Library

def quote : Char := Char.ofNat 39

def nul : Char := Char.ofNat 0

/-- A text that stands for itself between two quotes. -/
def PlainText (text : String) : Prop := quote ∉ text.toList ∧ nul ∉ text.toList

instance : DecidablePred PlainText := fun text =>
  inferInstanceAs (Decidable (quote ∉ text.toList ∧ nul ∉ text.toList))

/-- Words are read without regard to case. -/
inductive Token where
  | word (text : String)
  | symbol (char : Char)
  | literal (value : List Char)
  deriving DecidableEq

/-- What the text read so far ends in: a word, maybe empty, a literal, or a quote that
ends the literal unless another one follows. -/
inductive Scan where
  | outside (word : List Char)
  | inside (value : List Char)
  | closing (value : List Char)
  deriving DecidableEq

namespace Scan

def isWordChar (char : Char) : Bool := char.isAlphanum || char == '_' || decide (127 < char.toNat)

def flush : List Char → List Token
  | [] => []
  | word => [.word (String.ofList (word.map Char.toUpper))]

def outsideStep (word : List Char) (char : Char) : List Token × Scan :=
  if char = quote then (flush word, inside [])
  else if isWordChar char then ([], outside (word ++ [char]))
  else if char.isWhitespace then (flush word, outside [])
  else (flush word ++ [.symbol char], outside [])

def step : Scan → Char → List Token × Scan
  | outside word, char => outsideStep word char
  | inside value, char =>
    if char = quote then ([], closing value) else ([], inside (value ++ [char]))
  | closing value, char =>
    if char = quote then ([], inside (value ++ [quote]))
    else (.literal value :: (outsideStep [] char).1, (outsideStep [] char).2)

/-- A literal that is never closed is no token. -/
def finish : Scan → Option (List Token)
  | outside word => some (flush word)
  | inside _ => none
  | closing value => some [.literal value]

def tokens : Scan → List Char → Option (List Token)
  | scan, [] => scan.finish
  | scan, char :: rest => (tokens (scan.step char).2 rest).map ((scan.step char).1 ++ ·)

/-- The tokens of the first part of a text, and what it ends in. -/
def scanned : Scan → List Char → List Token × Scan
  | scan, [] => ([], scan)
  | scan, char :: rest =>
    ((scan.step char).1 ++ (scanned (scan.step char).2 rest).1,
      (scanned (scan.step char).2 rest).2)

private theorem tokens_append (scan : Scan) (before after : List Char) :
    scan.tokens (before ++ after) =
      ((scan.scanned before).2.tokens after).map ((scan.scanned before).1 ++ ·) := by
  induction before generalizing scan with
  | nil => simp [scanned]
  | cons char rest ih =>
    rw [List.cons_append, tokens, ih, Option.map_map]
    congr 1
    funext tokens
    exact (List.append_assoc ..).symm

private theorem tokens_quoted {chars : List Char} (free : quote ∉ chars) (start : List Char) :
    (inside start).tokens (chars ++ [quote]) = some [.literal (start ++ chars)] := by
  induction chars generalizing start with
  | nil => simp [tokens, step, finish]
  | cons char rest ih =>
    rw [List.mem_cons, not_or] at free
    simp [tokens, step, Ne.symm free.1, ih free.2]

/-- How long a literal can be that the rest of a text ends. -/
def room : Scan → Nat → Nat
  | outside _, left => left - 2
  | inside value, left => value.length + left - 1
  | closing value, left => value.length + (left - 1)

private theorem not_mem_flush {word value : List Char} : .literal value ∉ flush word := by
  cases word <;> simp [flush]

private theorem not_mem_outsideStep {word value : List Char} {char : Char} :
    .literal value ∉ (outsideStep word char).1 := by
  unfold outsideStep
  split_ifs <;> simp [not_mem_flush]

private theorem room_outsideStep (word : List Char) (char : Char) (left : Nat) :
    (outsideStep word char).2.room left ≤ left - 1 := by
  unfold outsideStep
  split_ifs <;> simp only [room, List.length_nil] <;> omega

private theorem room_step (scan : Scan) (char : Char) (left : Nat) :
    (scan.step char).2.room left ≤ scan.room (left + 1) := by
  cases scan with
  | outside word => exact room_outsideStep word char left
  | inside value =>
    by_cases ends : char = quote
    · simp only [step, ends, if_true, room]
      omega
    · simp only [step, ends, if_false, room, List.length_append, List.length_singleton]
      omega
  | closing value =>
    by_cases doubled : char = quote
    · simp only [step, doubled, if_true, room, List.length_append, List.length_singleton]
      omega
    · have next := room_outsideStep [] char left
      have total : (closing value).room (left + 1) = value.length + left := rfl
      rw [step, if_neg doubled, total]
      exact Nat.le_trans next (by omega)

private theorem length_le_of_step {scan : Scan} {char : Char} {value : List Char}
    (ended : .literal value ∈ (scan.step char).1) (left : Nat) :
    value.length ≤ scan.room (left + 1) := by
  cases scan with
  | outside word => exact absurd ended not_mem_outsideStep
  | inside start => by_cases ends : char = quote <;> simp [step, ends] at ended
  | closing start =>
    by_cases doubled : char = quote
    · simp [step, doubled] at ended
    · simp only [step, doubled, if_false, List.mem_cons] at ended
      rcases ended with same | inner
      · rw [Token.literal.inj same]
        simp [room]
      · exact absurd inner not_mem_outsideStep

private theorem length_le_of_tokens {scan : Scan} {chars value : List Char} {tokens : List Token}
    (read : scan.tokens chars = some tokens) (member : .literal value ∈ tokens) :
    value.length ≤ scan.room chars.length := by
  induction chars generalizing scan tokens with
  | nil =>
    cases scan with
    | outside word =>
      obtain rfl := Option.some.inj read
      exact absurd member not_mem_flush
    | inside start => cases read
    | closing start =>
      obtain rfl := Option.some.inj read
      obtain rfl := Token.literal.inj (List.mem_singleton.mp member)
      simp [room]
  | cons char rest ih =>
    rw [Scan.tokens, Option.map_eq_some_iff] at read
    obtain ⟨later, read, rfl⟩ := read
    rw [List.length_cons]
    rcases List.mem_append.mp member with here | there
    · exact length_le_of_step here rest.length
    · exact Nat.le_trans (ih read there) (room_step scan char rest.length)

private theorem scanned_of_plain {chars : List Char} (free : quote ∉ chars) (start : List Char) :
    (inside start).scanned chars = ([], inside (start ++ chars)) := by
  induction chars generalizing start with
  | nil => simp [scanned]
  | cons char rest ih =>
    rw [List.mem_cons, not_or] at free
    simp [scanned, step, Ne.symm free.1, ih free.2]

/-- Every literal in a pasted text with a quote is shorter than the text. -/
theorem literal_lt_of_quote {chars value : List Char} {tokens : List Token}
    (quoted : quote ∈ chars) (read : (inside []).tokens (chars ++ [quote]) = some tokens)
    (member : .literal value ∈ tokens) : value.length < chars.length := by
  obtain ⟨before, after, split, free⟩ := List.eq_append_cons_of_mem quoted
  rw [split, List.append_assoc, tokens_append, scanned_of_plain free, List.nil_append,
    List.cons_append, Scan.tokens] at read
  have closed : ((closing before).tokens (after ++ [quote])) = some tokens := by
    simpa [step] using read
  have bound := length_le_of_tokens closed member
  simp only [room, List.length_append, List.length_singleton] at bound
  rw [split, List.length_append, List.length_cons]
  omega

end Scan

inductive Operand where
  | column (name : String)
  | literal (value : List Char)
  deriving DecidableEq

structure Comparison where
  left : Operand
  right : Operand
  deriving DecidableEq

inductive Verb where
  | select (column : Option String)
  | update (column : String) (value : List Char)
  | delete
  deriving DecidableEq

/-- The condition is a list of alternatives, each a list of comparisons that all hold. -/
structure Statement where
  verb : Verb
  table : String
  condition : List (List Comparison)
  deriving DecidableEq

def Token.operand : Token → Option Operand
  | .word name => some (.column name)
  | .literal value => some (.literal value)
  | .symbol _ => none

def readComparison (left right : Token) : Option Comparison := do
  let left ← left.operand
  let right ← right.operand
  some ⟨left, right⟩

/-- `AND` binds tighter than `OR`. -/
def joinCondition (connective : String) (comparison : Comparison) :
    List (List Comparison) → Option (List (List Comparison))
  | [] => none
  | first :: others =>
    if connective = "AND" then some ((comparison :: first) :: others)
    else if connective = "OR" then some ([comparison] :: first :: others)
    else none

def readCondition : List Token → Option (List (List Comparison))
  | [left, .symbol '=', right] => do
    let comparison ← readComparison left right
    some [[comparison]]
  | left :: .symbol '=' :: right :: .word connective :: rest => do
    let comparison ← readComparison left right
    let condition ← readCondition rest
    joinCondition connective comparison condition
  | _ => none

def readStatement : List Token → Option Statement
  | .word "SELECT" :: .symbol '*' :: .word "FROM" :: .word table :: .word "WHERE" :: rest =>
    (readCondition rest).map fun condition => ⟨.select none, table, condition⟩
  | .word "SELECT" :: .word column :: .word "FROM" :: .word table :: .word "WHERE" :: rest =>
    (readCondition rest).map fun condition => ⟨.select (some column), table, condition⟩
  | .word "UPDATE" :: .word table :: .word "SET" :: .word column :: .symbol '=' ::
      .literal value :: .word "WHERE" :: rest =>
    (readCondition rest).map fun condition => ⟨.update column value, table, condition⟩
  | .word "DELETE" :: .word "FROM" :: .word table :: .word "WHERE" :: rest =>
    (readCondition rest).map fun condition => ⟨.delete, table, condition⟩
  | _ => none

/-- The tokens of a statement up to its condition. -/
def Verb.head (table : String) : Verb → List Token
  | .select none => [.word "SELECT", .symbol '*', .word "FROM", .word table, .word "WHERE"]
  | .select (some column) =>
    [.word "SELECT", .word column, .word "FROM", .word table, .word "WHERE"]
  | .update column value => [.word "UPDATE", .word table, .word "SET", .word column,
      .symbol '=', .literal value, .word "WHERE"]
  | .delete => [.word "DELETE", .word "FROM", .word table, .word "WHERE"]

private theorem readStatement_head (table : String) (verb : Verb) (rest : List Token) :
    readStatement (verb.head table ++ rest) =
      (readCondition rest).map fun condition => ⟨verb, table, condition⟩ := by
  cases verb with
  | select column => cases column <;> rfl
  | update column value => rfl
  | delete => rfl

/-- What SQLite prepares of a text. -/
def preparedChars (text : List Char) : List Char := text.takeWhile (· != nul)

private theorem preparedChars_append {before : List Char} (whole : nul ∉ before)
    (after : List Char) :
    preparedChars (before ++ after) = before ++ preparedChars after :=
  List.takeWhile_append_of_pos fun _ inside => bne_iff_ne.mpr fun same => whole (same ▸ inside)

private theorem preparedChars_quoted {chars : List Char} (whole : nul ∉ chars) :
    preparedChars (chars ++ [quote]) = chars ++ [quote] := by
  rw [preparedChars_append whole]
  rfl

def readText (text : String) : Option Statement := do
  let tokens ← (Scan.outside []).tokens (preparedChars text.toList)
  readStatement tokens

section rows

variable {Row : Type} (columns : String → Option (Row → String))

def Operand.read : Operand → Option (Row → String)
  | .column name => columns name
  | .literal value => some fun _ => String.ofList value

def Comparison.read (comparison : Comparison) : Option (Row → Bool) := do
  let left ← comparison.left.read columns
  let right ← comparison.right.read columns
  some fun row => left row == right row

def Statement.holds (statement : Statement) : Option (Row → Bool) := do
  let alternatives ← statement.condition.mapM (·.mapM (Comparison.read columns))
  some fun row => alternatives.any (·.all (· row))

/-- What a statement asks of a row; `none` for a text that is no statement. -/
def conditionOf (text : String) : Option (Row → Bool) := do
  let statement ← readText text
  statement.holds columns

/-- The rows that a statement selects, changes or deletes. -/
def rowsOf (text : String) (rows : List Row) : Option (List Row) :=
  (conditionOf columns text).map (rows.filter ·)

end rows

/-- Whether the flag of the first selected row is one; `false` without a row. -/
def firstFlag {Row : Type} (flag : Row → Int) (rows : List Row) : Bool :=
  match rows.head? with
  | none => false
  | some row => flag row == 1

/-- The flag is that of the first row of the selection. -/
theorem firstFlag_filter {Row : Type} (flag : Row → Int) (selected : Row → Bool)
    (rows : List Row) : firstFlag flag (rows.filter selected) =
      (rows.find? selected).any (flag · == 1) := by
  rw [firstFlag, ← List.head?_filter]
  cases (rows.filter selected).head? <;> rfl

/-- Rows of texts, all alike but for the column of a name. -/
structure KeyedBy {Row : Type} (columns : String → Option (Row → String)) (name : String)
    (key : Row → String) (withKey : String → Row) : Prop where
  named : columns name = some key
  key_withKey : ∀ text, key (withKey text) = text
  others : ∀ other read, columns other = some read → other ≠ name →
    ∀ text, read (withKey text) = ""

/-- Columns listed by name, of which the rows leave all but one blank. -/
theorem KeyedBy.of_list {Row : Type} {columns : List (String × (Row → String))} {name : String}
    {key : Row → String} {withKey : String → Row} (named : columns.lookup name = some key)
    (key_withKey : ∀ text, key (withKey text) = text)
    (blank : ∀ column ∈ columns, column.1 ≠ name → ∀ text, column.2 (withKey text) = "") :
    KeyedBy (columns.lookup ·) name key withKey where
  named := named
  key_withKey := key_withKey
  others other read resolved apart := by
    obtain ⟨before, after, split, _⟩ := List.lookup_eq_some_iff.mp resolved
    exact blank (other, read) (by simp [split]) apart

/-- The operand is not the text as a literal. -/
def Operand.Avoids (operand : Operand) (text : String) : Prop :=
  ∀ value, operand = .literal value → String.ofList value ≠ text

def Comparison.Avoids (comparison : Comparison) (text : String) : Prop :=
  comparison.left.Avoids text ∧ comparison.right.Avoids text

section keyed

variable {Row : Type} {columns : String → Option (Row → String)} {name : String}
  {key : Row → String} {withKey : String → Row} {text other : String}

/-- What an operand reads of two rows is their keys, or one and the same third text. -/
theorem Operand.read_cases (keyed : KeyedBy columns name key withKey) {operand : Operand}
    {read : Row → String} (resolved : operand.read columns = some read)
    (avoids : operand.Avoids text) (avoidsOther : operand.Avoids other) (filled : text ≠ "")
    (filledOther : other ≠ "") :
    (read (withKey text) = text ∧ read (withKey other) = other) ∨
      (read (withKey text) = read (withKey other) ∧ read (withKey text) ≠ text ∧
        read (withKey text) ≠ other) := by
  cases operand with
  | literal value =>
    obtain rfl := Option.some.inj resolved
    exact .inr ⟨rfl, avoids value rfl, avoidsOther value rfl⟩
  | column column =>
    by_cases own : column = name
    · subst own
      obtain rfl : key = read := Option.some.inj (keyed.named.symm.trans resolved)
      exact .inl ⟨keyed.key_withKey text, keyed.key_withKey other⟩
    · have blank := keyed.others column read resolved own
      rw [blank, blank]
      exact .inr ⟨rfl, filled.symm, filledOther.symm⟩

theorem Comparison.read_same (keyed : KeyedBy columns name key withKey) {comparison : Comparison}
    {test : Row → Bool} (resolved : comparison.read columns = some test)
    (avoids : comparison.Avoids text) (avoidsOther : comparison.Avoids other) (filled : text ≠ "")
    (filledOther : other ≠ "") : test (withKey text) = test (withKey other) := by
  simp only [Comparison.read, Option.bind_eq_bind, Option.bind_eq_some_iff, Option.some.injEq]
    at resolved
  obtain ⟨left, readLeft, right, readRight, rfl⟩ := resolved
  change (left (withKey text) == right (withKey text)) =
    (left (withKey other) == right (withKey other))
  rcases Operand.read_cases keyed readLeft avoids.1 avoidsOther.1 filled filledOther with
    ⟨first, second⟩ | ⟨same, first, second⟩ <;>
  rcases Operand.read_cases keyed readRight avoids.2 avoidsOther.2 filled filledOther with
    ⟨first', second'⟩ | ⟨same', first', second'⟩
  · rw [first, second, first', second', beq_self_eq_true, beq_self_eq_true]
  · rw [first, second, ← same', beq_eq_false_iff_ne.mpr first'.symm,
      beq_eq_false_iff_ne.mpr second'.symm]
  · rw [first', second', ← same, beq_eq_false_iff_ne.mpr first, beq_eq_false_iff_ne.mpr second]
  · rw [same, same']

/-- A condition without the two texts cannot tell them apart. -/
theorem Statement.holds_same (keyed : KeyedBy columns name key withKey) {statement : Statement}
    {holds : Row → Bool} (resolved : statement.holds columns = some holds)
    (avoids : ∀ comparisons ∈ statement.condition, ∀ comparison ∈ comparisons,
      comparison.Avoids text ∧ comparison.Avoids other)
    (filled : text ≠ "") (filledOther : other ≠ "") :
    holds (withKey text) = holds (withKey other) := by
  simp only [Statement.holds, Option.bind_eq_bind, Option.bind_eq_some_iff, Option.some.injEq]
    at resolved
  obtain ⟨alternatives, read, rfl⟩ := resolved
  have same : ∀ tests ∈ alternatives, ∀ test ∈ tests,
      test (withKey text) = test (withKey other) := by
    intro tests member test tested
    obtain ⟨comparisons, listed, each⟩ := (mem_of_mapM read).mp member
    obtain ⟨comparison, joined, one⟩ := (mem_of_mapM each).mp tested
    obtain ⟨first, second⟩ := avoids comparisons listed comparison joined
    exact Comparison.read_same keyed one first second filled filledOther
  rw [Bool.eq_iff_iff, List.any_eq_true, List.any_eq_true]
  simp only [List.all_eq_true]
  refine exists_congr fun tests => and_congr_right fun member => ?_
  exact forall_congr' fun test => forall_congr' fun tested => by rw [same tests member test tested]

theorem Token.operand_literal {token : Token} {operand : Operand} {value : List Char}
    (read : token.operand = some operand) (literal : operand = .literal value) :
    token = .literal value := by
  subst literal
  cases token with
  | word name => cases read
  | symbol char => cases read
  | literal text =>
    obtain rfl := Operand.literal.inj (Option.some.inj read)
    rfl

private theorem readComparison_literal {left right : Token} {comparison : Comparison}
    {value : List Char}
    (read : readComparison left right = some comparison)
    (literal : comparison.left = .literal value ∨ comparison.right = .literal value) :
    left = .literal value ∨ right = .literal value := by
  simp only [readComparison, Option.bind_eq_bind, Option.bind_eq_some_iff, Option.some.injEq]
    at read
  obtain ⟨first, readFirst, second, readSecond, rfl⟩ := read
  exact literal.imp (Token.operand_literal readFirst) (Token.operand_literal readSecond)

private theorem mem_joinCondition {connective : String} {comparison : Comparison}
    {condition joined : List (List Comparison)}
    (join : joinCondition connective comparison condition = some joined)
    {comparisons : List Comparison} (listed : comparisons ∈ joined) {member : Comparison}
    (own : member ∈ comparisons) :
    member = comparison ∨ ∃ others ∈ condition, member ∈ others := by
  cases condition with
  | nil => cases join
  | cons first others =>
    simp only [joinCondition] at join
    split_ifs at join with conjoined disjoined
    · obtain rfl := Option.some.inj join
      rcases List.mem_cons.mp listed with rfl | later
      · rcases List.mem_cons.mp own with same | kept
        · exact .inl same
        · exact .inr ⟨first, List.mem_cons_self, kept⟩
      · exact .inr ⟨comparisons, List.mem_cons_of_mem first later, own⟩
    · obtain rfl := Option.some.inj join
      rcases List.mem_cons.mp listed with rfl | later
      · exact .inl (List.mem_singleton.mp own)
      · exact .inr ⟨comparisons, later, own⟩

/-- The literals of a condition are tokens of its text. -/
theorem readCondition_literal {tokens : List Token} {condition : List (List Comparison)}
    (read : readCondition tokens = some condition) {comparisons : List Comparison}
    (listed : comparisons ∈ condition) {comparison : Comparison} (own : comparison ∈ comparisons)
    {value : List Char}
    (literal : comparison.left = .literal value ∨ comparison.right = .literal value) :
    .literal value ∈ tokens := by
  induction tokens using readCondition.induct generalizing condition comparisons with
  | case1 left right =>
    simp only [readCondition, Option.bind_eq_bind, Option.bind_eq_some_iff, Option.some.injEq]
      at read
    obtain ⟨first, compared, rfl⟩ := read
    obtain rfl := List.mem_singleton.mp listed
    obtain rfl := List.mem_singleton.mp own
    rcases readComparison_literal compared literal with rfl | rfl <;> simp
  | case2 left right connective rest ih =>
    simp only [readCondition, Option.bind_eq_bind, Option.bind_eq_some_iff] at read
    obtain ⟨first, compared, later, readLater, joined⟩ := read
    rcases mem_joinCondition joined listed own with rfl | ⟨others, member, kept⟩
    · rcases readComparison_literal compared literal with rfl | rfl <;> simp
    · simp [ih readLater member kept]
  | case3 tokens single joined => simp [readCondition] at read

/-- A text up to where a key is pasted: the head of a statement, and a comparison with
what is pasted. -/
def PastedAfter (before : String) (verb : Verb) (table name : String) : Prop :=
  nul ∉ before.toList ∧ (Scan.outside []).scanned before.toList =
    (verb.head table ++ [.word name, .symbol '='], .inside [])

instance (before : String) (verb : Verb) (table name : String) :
    Decidable (PastedAfter before verb table name) := inferInstanceAs (Decidable (_ ∧ _))

/-- The tokens from the literal on that a pasted key starts. -/
def pastedTokens (text : String) : Option (List Token) :=
  (Scan.inside []).tokens (preparedChars (text.toList ++ [quote]))

/-- What a comparison with a pasted key asks of a row. -/
def pastedCondition (columns : String → Option (Row → String)) (name text : String) :
    Option (Row → Bool) := do
  let rest ← pastedTokens text
  let condition ← readCondition (.word name :: .symbol '=' :: rest)
  (Statement.mk .delete "" condition).holds columns

private theorem pastedTokens_of_plain (plain : PlainText text) :
    pastedTokens text = some [.literal text.toList] := by
  rw [pastedTokens, preparedChars_quoted plain.2, Scan.tokens_quoted plain.1, List.nil_append]

/-- A plain key is compared with the column. -/
theorem pastedCondition_of_plain (keyed : KeyedBy columns name key withKey)
    (plain : PlainText text) : pastedCondition columns name text = some (key · == text) := by
  rw [pastedCondition, pastedTokens_of_plain plain]
  simp [readCondition, readComparison, Token.operand, Statement.holds, Comparison.read,
    Operand.read, keyed.named, String.ofList_toList]

/-- Every literal in a pasted key that is not plain is shorter than the key. -/
theorem literal_lt_of_not_plain (pasted : ¬ PlainText text) {rest : List Token}
    (read : pastedTokens text = some rest) {value : List Char} (member : .literal value ∈ rest) :
    value.length < text.length := by
  rw [← String.length_toList]
  by_cases ended : nul ∈ text.toList
  · obtain ⟨before, after, split, free⟩ := List.eq_append_cons_of_mem ended
    have cut : preparedChars (text.toList ++ [quote]) = before := by
      rw [split, List.append_assoc, preparedChars_append free]
      simp [preparedChars]
    rw [pastedTokens, cut] at read
    have bound := Scan.length_le_of_tokens read member
    simp only [Scan.room, List.length_nil] at bound
    rw [split, List.length_append, List.length_cons]
    omega
  · have quoted : quote ∈ text.toList := by
      by_contra free
      exact pasted ⟨free, ended⟩
    rw [pastedTokens, preparedChars_quoted ended] at read
    exact Scan.literal_lt_of_quote quoted read member

variable {before table : String} {verb : Verb}

theorem PastedAfter.readText_eq (pasted : PastedAfter before verb table name)
    (text : String) :
    readText (before ++ text ++ "'") = (pastedTokens text).bind fun rest =>
      (readCondition (.word name :: .symbol '=' :: rest)).map fun condition =>
        ⟨verb, table, condition⟩ := by
  obtain ⟨whole, scanned⟩ := pasted
  have split : preparedChars (before ++ text ++ "'").toList =
      before.toList ++ preparedChars (text.toList ++ [quote]) := by
    have pieces : (before ++ text ++ "'").toList =
        before.toList ++ (text.toList ++ [quote]) := by
      rw [String.toList_append, String.toList_append, List.append_assoc]
      rfl
    rw [pieces, preparedChars_append whole]
  rw [readText, split, Scan.tokens_append, scanned, pastedTokens]
  cases (Scan.inside []).tokens (preparedChars (text.toList ++ [quote])) with
  | none => rfl
  | some rest =>
    have regrouped : verb.head table ++ [.word name, .symbol '='] ++ rest =
        verb.head table ++ .word name :: .symbol '=' :: rest := List.append_assoc ..
    simp only [Option.map_some, Option.bind_eq_bind, Option.bind_some, regrouped,
      readStatement_head]

/-- Statements that paste a key after one comparison ask the same of a row. -/
theorem PastedAfter.conditionOf_eq (pasted : PastedAfter before verb table name)
    (columns : String → Option (Row → String)) (text : String) :
    conditionOf columns (before ++ text ++ "'") = pastedCondition columns name text := by
  rw [conditionOf, pasted.readText_eq, pastedCondition]
  cases pastedTokens text with
  | none => rfl
  | some rest =>
    simp only [Option.bind_eq_bind, Option.bind_some]
    cases readCondition (.word name :: .symbol '=' :: rest) <;> rfl

theorem PastedAfter.conditionOf_of_plain (pasted : PastedAfter before verb table name)
    (keyed : KeyedBy columns name key withKey) {text : String} (plain : PlainText text) :
    conditionOf columns (before ++ text ++ "'") = some (key · == text) := by
  rw [pasted.conditionOf_eq, pastedCondition_of_plain keyed plain]

/-- The rows of a statement are those with the pasted key exactly if the key is plain. -/
theorem PastedAfter.rowsOf_exact_iff (pasted : PastedAfter before verb table name)
    (keyed : KeyedBy columns name key withKey) {text : String} :
    (∀ rows, rowsOf columns (before ++ text ++ "'") rows =
      some (rows.filter (key · == text))) ↔ PlainText text := by
  constructor
  · intro exact
    by_contra special
    have filled : text ≠ "" := by
      rintro rfl
      exact special (by decide)
    have apart : text ++ "x" ≠ text := by
      intro same
      have longer := congrArg String.length same
      simp at longer
    have filledOther : text ++ "x" ≠ "" := by simp
    have selected : rowsOf columns (before ++ text ++ "'") [withKey text, withKey (text ++ "x")] =
        some [withKey text] := by
      rw [exact]
      simp [keyed.key_withKey, apart]
    rw [rowsOf, pasted.conditionOf_eq, Option.map_eq_some_iff] at selected
    obtain ⟨holds, resolved, filtered⟩ := selected
    simp only [pastedCondition, Option.bind_eq_bind, Option.bind_eq_some_iff] at resolved
    obtain ⟨rest, tokens, condition, read, resolved⟩ := resolved
    have avoids : ∀ longer : String, text.length ≤ longer.length → ∀ comparisons ∈ condition,
        ∀ comparison ∈ comparisons, comparison.Avoids longer := by
      intro longer long comparisons listed comparison own
      have shorter : ∀ value, comparison.left = .literal value ∨
          comparison.right = .literal value → String.ofList value ≠ longer := by
        rintro value literal rfl
        have member := readCondition_literal read listed own literal
        have bound := literal_lt_of_not_plain special tokens (by simpa using member)
        rw [String.length_ofList] at long
        omega
      exact ⟨fun value same => shorter value (.inl same),
        fun value same => shorter value (.inr same)⟩
    have same := Statement.holds_same keyed resolved
      (fun comparisons listed comparison own =>
        ⟨avoids text (Nat.le_refl _) comparisons listed comparison own,
          avoids (text ++ "x") (by simp) comparisons listed comparison own⟩) filled filledOther
    have counted := congrArg List.length filtered
    cases held : holds (withKey text) <;> simp [← same, held] at counted
  · intro plain rows
    rw [rowsOf, pasted.conditionOf_of_plain keyed plain]
    rfl

end keyed

end AhsApp.Library
