import CrossBench.Proofs.Json.Numeral

/-!
# Documents read back

What is written for a document is read as its datum, `Value.datum`.  The two passes
of the reader are dealt with one after the other, and between them stand the
tokens of a document, `Value.tokens`:

* `lexes_render` — the text of a value has its tokens, at any depth;
* `run_tokens` — the tokens of a value make its datum, with whatever lists and
  objects open around it.

`read?_pretty` puts them together.  A number ends only where a character stands
that is not part of a word, so the first statement is about a text in front of
such a character (`Lexer.Lexes`).
-/

namespace CrossBench.Json

namespace Value

mutual

/-- What a document stands for. -/
def datum : Value → Datum
  | .null => .null
  | .nat n => .nat n
  | .number x => (word? (numeral x)).getD .null
  | .string s => .string s
  | .array items => .array (itemData items)
  | .object fields => .object (fieldData fields)
termination_by structural value => value

/-- What the items of a list stand for. -/
def itemData : List Value → List Datum
  | [] => []
  | item :: rest => item.datum :: itemData rest
termination_by structural items => items

/-- What the fields of an object stand for. -/
def fieldData : List (String × Value) → List (String × Datum)
  | [] => []
  | (key, value) :: rest => (key, value.datum) :: fieldData rest
termination_by structural fields => fields

end

mutual

/-- The tokens of a value. -/
def tokens : Value → List Token
  | .null => [.word ['n', 'u', 'l', 'l']]
  | .nat n => [.word (Nat.toDigits 10 n)]
  | .number x => [.word (numeral x)]
  | .string s => [.text s]
  | .array [] => [.openBracket, .closeBracket]
  | .array (item :: rest) =>
      .openBracket :: (item.tokens ++ itemTokens rest ++ [.closeBracket])
  | .object [] => [.openBrace, .closeBrace]
  | .object ((key, value) :: rest) =>
      .openBrace :: .text key :: .colon
        :: (value.tokens ++ fieldTokens rest ++ [.closeBrace])
termination_by structural value => value

/-- The tokens of the items after the first one. -/
def itemTokens : List Value → List Token
  | [] => []
  | item :: rest => .comma :: (item.tokens ++ itemTokens rest)
termination_by structural items => items

/-- The tokens of the fields after the first one. -/
def fieldTokens : List (String × Value) → List Token
  | [] => []
  | (key, value) :: rest =>
      .comma :: .text key :: .colon :: (value.tokens ++ fieldTokens rest)
termination_by structural fields => fields

end

end Value

/-! ## From characters to tokens

Two relations, since a word has no end of its own: `Reads` is of a text that leads from one
mode to another whatever follows, and `Lexes` asks for a text behind it that ends words.
-/

namespace Lexer

/-- A text that is read from one place to another, whatever follows it. -/
def Reads (mode : Mode) (cs : List Char) (tokens : List Token) (mode' : Mode) : Prop :=
  ∀ rest, run mode (cs ++ rest) = (run mode' rest).map (tokens ++ ·)

/-- A text in front of which a word ends. -/
def Delimited : List Char → Prop
  | [] => True
  | c :: _ => wordChar c = false

/-- A text that is read as these tokens, in front of a text that ends words. -/
def Lexes (cs : List Char) (tokens : List Token) : Prop :=
  ∀ rest, Delimited rest →
    run .between (cs ++ rest) = (run .between rest).map (tokens ++ ·)

variable {mode mode' mode'' : Mode} {cs ds : List Char} {ts us : List Token} {c : Char}

theorem Reads.nil (mode : Mode) : Reads mode [] [] mode := by
  intro rest
  simp

theorem Reads.of_step (h : step mode c = some (ts, mode')) : Reads mode [c] ts mode' := by
  intro rest
  simp [run, h]

/-- Tokens in front are put there one part after the other. -/
theorem map_append_map (more : Option (List Token)) (ts us : List Token) :
    (more.map (us ++ ·)).map (ts ++ ·) = more.map (ts ++ us ++ ·) := by
  rw [Option.map_map]
  congr 1
  funext behind
  exact (List.append_assoc ts us behind).symm

theorem Reads.append (first : Reads mode cs ts mode') (second : Reads mode' ds us mode'') :
    Reads mode (cs ++ ds) (ts ++ us) mode'' := by
  intro rest
  rw [List.append_assoc, first, second, map_append_map]

/-- A character that completes no token, and what is behind it. -/
theorem Reads.silent_cons (first : step mode c = some ([], mode'))
    (second : Reads mode' ds us mode'') : Reads mode (c :: ds) us mode'' :=
  (Reads.of_step first).append second

/-- What is read completely between tokens can be followed by anything. -/
theorem Reads.lexes (h : Reads .between cs ts .between) : Lexes cs ts :=
  fun rest _ => h rest

/-- Two texts of tokens are read one after the other, if the first one ends where the second one
begins. -/
theorem Lexes.append (first : Lexes cs ts) (second : Lexes ds us)
    (guarded : ∀ rest, Delimited rest → Delimited (ds ++ rest)) :
    Lexes (cs ++ ds) (ts ++ us) := by
  intro rest ends
  rw [List.append_assoc, first _ (guarded rest ends), second rest ends, map_append_map]

theorem Reads.append_lexes (first : Reads .between cs ts .between) (second : Lexes ds us) :
    Lexes (cs ++ ds) (ts ++ us) := by
  intro rest ends
  rw [List.append_assoc, first, second rest ends, map_append_map]

/-! ### Strings

A character is written as itself, behind a backslash or by its code, and each of the three
is read back by computation.
-/

/-- A letter behind a backslash is read as the character that it stands for. -/
theorem reads_letter (read : List Char) (letter : Char) {c : Char} (other : letter ≠ 'u')
    (stands : unescape? letter = some c) :
    Reads (.text read none) ['\\', letter] [] (.text (read ++ [c]) none) := by
  have mark : step (.text read none) '\\' = some ([], .escape read none) := rfl
  refine .silent_cons mark (.of_step ?_)
  rw [step, if_neg other, stands]
  rfl

/-- A hexadecimal digit is read as the number that it was written for. -/
theorem hexDigit?_digitChar : ∀ n < 16, hexDigit? (Nat.digitChar n) = some n := by decide

/-- Two hexadecimal digits behind `\u00` are read as the character of their number. -/
theorem reads_code (read : List Char) (high low : Nat) (hh : high < 16) (hl : low < 16) :
    Reads (.text read none) ['\\', 'u', '0', '0', Nat.digitChar high, Nat.digitChar low] []
      (.text (read ++ [Char.ofNat (high * 16 + low)]) none) := by
  have zeros : Reads (.text read none) ['\\', 'u', '0', '0'] [] (.unicode read none 2 0) :=
    .silent_cons rfl (.silent_cons rfl (.silent_cons rfl (.of_step rfl)))
  have third : Reads (.unicode read none 2 0) [Nat.digitChar high] []
      (.unicode read none 1 high) := by
    refine .of_step ?_
    simp [step, hexDigit?_digitChar high hh]
  have fourth : Reads (.unicode read none 1 high) [Nat.digitChar low] []
      (.text (read ++ [Char.ofNat (high * 16 + low)]) none) := by
    refine .of_step ?_
    -- a code below 256 is no half of a surrogate pair
    have noHigh : isHigh (high * 16 + low) = false := by
      simp [isHigh]
      omega
    have noLow : isLow (high * 16 + low) = false := by
      simp [isLow]
      omega
    simp [step, hexDigit?_digitChar low hl, unit, noHigh, noLow]
  exact zeros.append (third.append fourth)

/-- A character, escaped or not, is read as itself. -/
theorem reads_escape (read : List Char) (c : Char) :
    Reads (.text read none) (escape c) [] (.text (read ++ [c]) none) := by
  have ofNat {n : Nat} (h : c.toNat = n) : c = Char.ofNat n :=
    (Char.ofNat_toNat c).symm.trans (congrArg Char.ofNat h)
  unfold escape
  split
  next h => exact h ▸ reads_letter read '"' (by decide) rfl
  next quote =>
  split
  next h => exact h ▸ reads_letter read '\\' (by decide) rfl
  next backslash =>
  split
  next h => exact h ▸ reads_letter read 'n' (by decide) rfl
  split
  next h => exact h ▸ reads_letter read 'r' (by decide) rfl
  split
  next h => exact h ▸ reads_letter read 't' (by decide) rfl
  split
  next h => exact ofNat h ▸ reads_letter read 'b' (by decide) rfl
  split
  next h => exact ofNat h ▸ reads_letter read 'f' (by decide) rfl
  -- the other control characters have a code of four digits, of which two are zeros
  split
  next control =>
    have code := reads_code read (c.toNat / 16) (c.toNat % 16) (by omega) (by omega)
    rwa [Nat.div_add_mod', Char.ofNat_toNat] at code
  next control =>
    refine .of_step ?_
    rw [step, if_neg quote, if_neg backslash, if_neg control]

/-- The characters of a string are read as they were, each from its escape. -/
theorem reads_escapes (read cs : List Char) :
    Reads (.text read none) (cs.flatMap escape) [] (.text (read ++ cs) none) := by
  induction cs generalizing read with
  | nil =>
      rw [List.append_nil]
      exact .nil _
  | cons c rest ih =>
      have there := ih (read ++ [c])
      rw [List.append_assoc, List.singleton_append] at there
      exact (reads_escape read c).append there

/-- **A string reads back**, whatever characters are in it. -/
theorem reads_quoted (s : String) : Reads .between (quoted s) [.text s] .between := by
  have opening : Reads .between ['"'] [] (.text [] none) := .of_step rfl
  have closing : Reads (.text s.toList none) ['"'] [.text s] .between := by
    refine .of_step ?_
    rw [step, if_pos rfl, String.ofList_toList]
  exact opening.append ((reads_escapes [] s.toList).append closing)

/-! ### Words and blanks

Line breaks and indentation are read without a token.
-/

theorem run_word (read rest : List Char) (ends : Delimited rest) :
    run (.word read) rest = (run .between rest).map (.word read :: ·) := by
  cases rest with
  | nil => rfl
  | cons c rest =>
      have noWord : wordChar c = false := ends
      simp only [run, step, noWord]
      cases start c with
      | none => rfl
      | some begun => simp [Function.comp_def]

theorem reads_wordChars (read : List Char) {cs : List Char}
    (isWord : ∀ c ∈ cs, wordChar c = true) :
    Reads (.word read) cs [] (.word (read ++ cs)) := by
  induction cs generalizing read with
  | nil =>
      rw [List.append_nil]
      exact .nil _
  | cons c rest ih =>
      have here : Reads (.word read) [c] [] (.word (read ++ [c])) := by
        refine .of_step ?_
        rw [step, if_pos (isWord c List.mem_cons_self)]
      have there := ih (read ++ [c]) fun c mem => isWord c (List.mem_cons_of_mem _ mem)
      rw [List.append_assoc, List.singleton_append] at there
      exact here.append there

theorem start_of_wordChar {c : Char} (isWord : wordChar c = true) :
    start c = some ([], .word [c]) := by
  unfold start
  split <;> first
    | exact absurd isWord (by decide)
    | exact if_pos isWord

/-- A word is read whole. -/
theorem lexes_word (cs : List Char) (any : cs ≠ [])
    (isWord : ∀ c ∈ cs, wordChar c = true) : Lexes cs [.word cs] := by
  intro rest ends
  cases cs with
  | nil => exact absurd rfl any
  | cons c more =>
      have first : Reads .between [c] [] (.word [c]) :=
        .of_step (start_of_wordChar (isWord c List.mem_cons_self))
      have onward := reads_wordChars [c] fun c mem => isWord c (List.mem_cons_of_mem _ mem)
      have whole := first.append onward rest
      rw [run_word _ _ ends] at whole
      simpa [Function.comp_def] using whole

theorem reads_lineBreak (depth : Nat) : Reads .between (lineBreak depth) [] .between := by
  have blank : Reads .between [' '] [] .between := .of_step rfl
  have blanks : ∀ n, Reads .between (List.replicate n ' ') [] .between := by
    intro n
    induction n with
    | zero => exact .nil _
    | succ n ih => exact blank.append ih
  have newline : Reads .between ['\n'] [] .between := .of_step rfl
  exact newline.append (blanks _)

/-! ### Values

By the structure of the value, with the depth as a parameter; the lists and the objects are
mutual with their items and fields.
-/

open Value (renderItems renderFields itemTokens fieldTokens)

/-- Behind an item comes a comma or what comes behind the items. -/
theorem delimited_renderItems (depth : Nat) (items : List Value) {rest : List Char}
    (ends : Delimited rest) : Delimited (renderItems depth items ++ rest) := by
  cases items with
  | nil => exact ends
  | cons item more => rfl

/-- Behind a field comes a comma or what comes behind the fields. -/
theorem delimited_renderFields (depth : Nat) (fields : List (String × Value))
    {rest : List Char} (ends : Delimited rest) :
    Delimited (renderFields depth fields ++ rest) := by
  cases fields with
  | nil => exact ends
  | cons field more => rfl

/-- A key and its value. -/
theorem lexes_field (key : String) (inner : Lexes cs ts) :
    Lexes (quoted key ++ [':', ' '] ++ cs) (.text key :: .colon :: ts) := by
  have blank : Reads .between [' '] [] .between := .of_step rfl
  have colon : Reads .between [':'] [.colon] .between := .of_step rfl
  exact ((reads_quoted key).append (colon.append blank)).append_lexes inner

/-- What stands on the next line, behind a comma. -/
theorem lexes_next (depth : Nat) (inner : Lexes cs ts) :
    Lexes (',' :: lineBreak depth ++ cs) (.comma :: ts) := by
  have comma : Reads .between [','] [.comma] .between := .of_step rfl
  exact (comma.append (reads_lineBreak depth)).append_lexes inner

/-- What stands between brackets, on lines of its own. -/
theorem lexes_block {left right : Char} {opening closing : Token} (depth : Nat)
    (opens : step .between left = some ([opening], .between))
    (closes : step .between right = some ([closing], .between)) (inner : Lexes cs ts) :
    Lexes (left :: lineBreak (depth + 1) ++ cs ++ lineBreak depth ++ [right])
      (opening :: (ts ++ [closing])) := by
  have front := (Reads.of_step opens).append (reads_lineBreak (depth + 1))
  have behind := ((reads_lineBreak depth).append (.of_step closes)).lexes
  -- a word at the end of the last line ends there
  have whole := front.append_lexes (inner.append behind fun _ _ => rfl)
  simpa using whole

-- The induction is on the value, with the lists of items and of fields that are left
-- beside it.  Nothing has to be known about the depth: a line break is only blanks.
mutual

/-- **The tokens of a value** are what its text is read as, at any depth. -/
theorem lexes_render (depth : Nat) : ∀ value : Value,
    Lexes (value.render depth) value.tokens
  | .null => lexes_word ['n', 'u', 'l', 'l'] (List.cons_ne_nil _ _) (List.all_eq_true.mp rfl)
  | .nat n => lexes_word _ Nat.toDigits_ne_nil (wordChar_toDigits n)
  | .number x => lexes_word _ (numeral_ne_nil x) (wordChar_numeral x)
  | .string s => (reads_quoted s).lexes
  | .array [] => by
      have opening : Reads .between ['['] [.openBracket] .between := .of_step rfl
      have closing : Reads .between [']'] [.closeBracket] .between := .of_step rfl
      exact (opening.append closing).lexes
  | .array (item :: rest) => by
      have opens : step .between '[' = some ([.openBracket], .between) := rfl
      have closes : step .between ']' = some ([.closeBracket], .between) := rfl
      -- an item that ends in a word is closed by the comma or bracket behind it
      have inner := (lexes_render (depth + 1) item).append
        (lexes_renderItems (depth + 1) rest)
        fun _ ends => delimited_renderItems (depth + 1) rest ends
      have whole := lexes_block depth opens closes inner
      simpa [Value.render, Value.tokens] using whole
  | .object [] => by
      have opening : Reads .between ['{'] [.openBrace] .between := .of_step rfl
      have closing : Reads .between ['}'] [.closeBrace] .between := .of_step rfl
      exact (opening.append closing).lexes
  | .object ((key, value) :: rest) => by
      have opens : step .between '{' = some ([.openBrace], .between) := rfl
      have closes : step .between '}' = some ([.closeBrace], .between) := rfl
      have inner := (lexes_field key (lexes_render (depth + 1) value)).append
        (lexes_renderFields (depth + 1) rest)
        fun _ ends => delimited_renderFields (depth + 1) rest ends
      have whole := lexes_block depth opens closes inner
      simpa [Value.render, Value.tokens] using whole

theorem lexes_renderItems (depth : Nat) : ∀ items : List Value,
    Lexes (renderItems depth items) (itemTokens items)
  | [] => (Reads.nil .between).lexes
  | item :: rest => by
      have inner := (lexes_render depth item).append (lexes_renderItems depth rest)
        fun _ ends => delimited_renderItems depth rest ends
      have whole := lexes_next depth inner
      simpa [renderItems, itemTokens] using whole

/-- The fields of an object become tokens in their order. -/
theorem lexes_renderFields (depth : Nat) : ∀ fields : List (String × Value),
    Lexes (renderFields depth fields) (fieldTokens fields)
  | [] => (Reads.nil .between).lexes
  | (key, value) :: rest => by
      have inner := (lexes_field key (lexes_render depth value)).append
        (lexes_renderFields depth rest)
        fun _ ends => delimited_renderFields depth rest ends
      have whole := lexes_next depth inner
      simpa [renderFields, fieldTokens] using whole

end

end Lexer

/-! ## From tokens to a datum

Again by the structure of the value.  The stack of open lists and objects is a parameter, so
that the statement for a value can be used within any of them.
-/

namespace Parser

open Value (itemTokens fieldTokens itemData fieldData)

theorem run_cons (state : State) (token : Token) (rest : List Token) :
    run state (token :: rest) = (step state token).bind (run · rest) := by
  cases state <;> rfl

/-- A list that begins with a value is read like any list behind its opening. -/
theorem run_firstItem (stack : List Frame) (value : Value) (rest : List Token) :
    run (.firstItem stack) (value.tokens ++ rest)
      = run (.value (.array [] :: stack)) (value.tokens ++ rest) := by
  cases value with
  | array items => cases items <;> rfl
  | object fields => cases fields <;> rfl
  | _ => rfl

theorem run_word (stack : List Frame) {cs : List Char} {datum : Datum}
    (read : word? cs = some datum) (rest : List Token) :
    run (.value stack) (.word cs :: rest) = run (deliver datum stack) rest := by
  rw [run_cons, step, begin, read]
  rfl

mutual

/-- **The datum of a value** is what its tokens make, whatever is open around it. -/
theorem run_tokens (stack : List Frame) (rest : List Token) : ∀ value : Value,
    run (.value stack) (value.tokens ++ rest) = run (deliver value.datum stack) rest
  | .null => run_word stack rfl rest
  | .nat n => run_word stack (word?_toDigits n) rest
  | .number x => by
      obtain ⟨datum, read⟩ := exists_word?_numeral x
      rw [Value.datum, read]
      exact run_word stack read rest
  | .string s => rfl
  | .array [] => rfl
  | .array (item :: more) => by
      -- the frame on the stack holds the items read so far
      have first := run_tokens (.array [] :: stack)
        (itemTokens more ++ .closeBracket :: rest) item
      have others := run_itemTokens [item.datum] stack rest more
      have opened : run (.value stack) ((Value.array (item :: more)).tokens ++ rest)
          = run (.firstItem stack)
              (item.tokens ++ (itemTokens more ++ .closeBracket :: rest)) := by
        simp only [Value.tokens, List.cons_append, List.append_assoc, List.nil_append]
        rfl
      rw [opened, run_firstItem, first]
      exact others
  | .object [] => rfl
  | .object ((key, value) :: more) => by
      have first := run_tokens (.object [] key :: stack)
        (fieldTokens more ++ .closeBrace :: rest) value
      have others := run_fieldTokens [(key, value.datum)] stack rest more
      have opened : run (.value stack) ((Value.object ((key, value) :: more)).tokens ++ rest)
          = run (.value (.object [] key :: stack))
              (value.tokens ++ (fieldTokens more ++ .closeBrace :: rest)) := by
        simp only [Value.tokens, List.cons_append, List.append_assoc, List.nil_append]
        rfl
      rw [opened, first]
      exact others

/-- The items of an array are read in their order behind those that have been read. -/
theorem run_itemTokens (read : List Datum) (stack : List Frame) (rest : List Token) :
    ∀ items : List Value,
      run (.moreItems read stack) (itemTokens items ++ .closeBracket :: rest)
        = run (deliver (.array (read ++ itemData items)) stack) rest
  | [] => by
      rw [itemData, List.append_nil]
      rfl
  | item :: more => by
      have first := run_tokens (.array read :: stack)
        (itemTokens more ++ .closeBracket :: rest) item
      -- the item is added to those that have been read, and the rest follows
      have others := run_itemTokens (read ++ [item.datum]) stack rest more
      rw [List.append_assoc] at others
      have opened : run (.moreItems read stack)
            (itemTokens (item :: more) ++ .closeBracket :: rest)
          = run (.value (.array read :: stack))
              (item.tokens ++ (itemTokens more ++ .closeBracket :: rest)) := by
        simp only [itemTokens, List.cons_append, List.append_assoc]
        rfl
      rw [opened, first]
      exact others

/-- The fields of an object are read in their order behind those that have been read. -/
theorem run_fieldTokens (read : List (String × Datum)) (stack : List Frame)
    (rest : List Token) : ∀ fields : List (String × Value),
      run (.moreFields read stack) (fieldTokens fields ++ .closeBrace :: rest)
        = run (deliver (.object (read ++ fieldData fields)) stack) rest
  | [] => by
      rw [fieldData, List.append_nil]
      rfl
  | (key, value) :: more => by
      have first := run_tokens (.object read key :: stack)
        (fieldTokens more ++ .closeBrace :: rest) value
      -- as for items, with the key kept until its value has been read
      have others := run_fieldTokens (read ++ [(key, value.datum)]) stack rest more
      rw [List.append_assoc] at others
      have opened : run (.moreFields read stack)
            (fieldTokens ((key, value) :: more) ++ .closeBrace :: rest)
          = run (.value (.object read key :: stack))
              (value.tokens ++ (fieldTokens more ++ .closeBrace :: rest)) := by
        simp only [fieldTokens, List.cons_append, List.append_assoc]
        rfl
      rw [opened, first]
      exact others

end

end Parser

/-- What is written for a document is read as its datum, with blanks behind it or
without. -/
theorem read?_pretty_append (value : Value) (behind : String)
    (ends : Lexer.Delimited behind.toList)
    (blank : Lexer.run .between behind.toList = some []) :
    read? (value.pretty ++ behind) = some value.datum := by
  have lexed := Lexer.lexes_render 0 value behind.toList ends
  have parsed := Parser.run_tokens [] [] value
  rw [blank, Option.map_some, List.append_nil] at lexed
  rw [List.append_nil] at parsed
  rw [read?, Value.pretty, String.toList_append, String.toList_ofList, lexed]
  exact parsed

/-- **Documents read back.**  What is written for a document is one JSON value, and
it is the datum of the document. -/
theorem read?_pretty (value : Value) : read? value.pretty = some value.datum := by
  have read := read?_pretty_append value "" trivial rfl
  rwa [String.append_empty] at read

/-- The line break behind a document does not matter. -/
theorem read?_pretty_line (value : Value) : read? (value.pretty ++ "\n") = some value.datum :=
  read?_pretty_append value "\n" rfl rfl

end CrossBench.Json
