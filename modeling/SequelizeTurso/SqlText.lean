import SequelizeTurso.Js

/-!
The lexical structure of an SQL text as SQLite's tokenizer sees it: string literals, quoted
identifiers and comments, and the `$name` bind parameters outside them. The adapter never
lexes SQL. These definitions give a meaning to "the statement's own parameters" and to "two
texts that differ only inside literals or comments"; literal and comment bodies are not kept,
so two texts have the same lexing exactly when they differ only inside those bodies.
-/

namespace SequelizeTurso.SqlText

/-- `IdChar` of SQLite's tokenizer: ASCII letters and digits, `_`, `$`, and every character
above U+007F. -/
def isIdChar (c : Char) : Bool := c.isAlphanum || c == '_' || c == '$' || 0x80 ≤ c.toNat

/-- A lexed piece: a character of ordinary text, a quoted literal or identifier (its closing
delimiter), a comment, or a `$name` bind parameter. -/
inductive Piece
  | text (c : Char)
  | quoted (close : Char)
  | comment
  | param (name : List Char)
  deriving DecidableEq, Repr

inductive LexState
  | code
  | word
  | dash
  | slash
  | quoted (close : Char)
  | quoteEnd (close : Char)
  | lineComment
  | blockComment (star : Bool)
  | param (name : List Char)

/-- The closing delimiter of a quote opened by `c`. -/
def closeOf : Char → Option Char
  | '\'' => some '\''
  | '"' => some '"'
  | '`' => some '`'
  | '[' => some ']'
  | _ => none

/-- One character of ordinary text: the pieces it completes and the next state. -/
def codeChar (c : Char) : List Piece × LexState :=
  match closeOf c with
  | some q => ([], .quoted q)
  | none =>
    if c = '$' then ([], .param [])
    else if c = '-' then ([], .dash)
    else if c = '/' then ([], .slash)
    else ([.text c], if isIdChar c then .word else .code)

/-- One character in each state. A doubled quote inside a literal continues it; an
identifier swallows the `$` signs it contains, as `IdChar` says. -/
def stepChar : LexState → Char → List Piece × LexState
  | .code, c => codeChar c
  | .word, c => if isIdChar c then ([.text c], .word) else codeChar c
  | .dash, c =>
    if c = '-' then ([], .lineComment) else (.text '-' :: (codeChar c).1, (codeChar c).2)
  | .slash, c =>
    if c = '*' then ([], .blockComment false) else (.text '/' :: (codeChar c).1, (codeChar c).2)
  | .quoted q, c => if c = q then ([], .quoteEnd q) else ([], .quoted q)
  | .quoteEnd q, c =>
    if c = q ∧ q ≠ ']' then ([], .quoted q) else (.quoted q :: (codeChar c).1, (codeChar c).2)
  | .lineComment, c => if c = '\n' then ([.comment, .text '\n'], .code) else ([], .lineComment)
  | .blockComment star, c =>
    if star ∧ c = '/' then ([.comment], .code) else ([], .blockComment (c = '*'))
  | .param n, c =>
    if isIdChar c then ([], .param (n ++ [c]))
    else ((if n = [] then [.text '$'] else [.param n]) ++ (codeChar c).1, (codeChar c).2)

/-- The pieces still open at the end of the text. -/
def finish : LexState → List Piece
  | .code | .word => []
  | .dash => [.text '-']
  | .slash => [.text '/']
  | .quoted q | .quoteEnd q => [.quoted q]
  | .lineComment | .blockComment _ => [.comment]
  | .param n => if n = [] then [.text '$'] else [.param n]

def lexFrom : LexState → List Char → List Piece
  | s, [] => finish s
  | s, c :: cs => (stepChar s c).1 ++ lexFrom (stepChar s c).2 cs

/-- The text with literal and comment bodies erased. -/
def lex (sql : String) : List Piece := lexFrom .code sql.data

/-- Two texts that differ only inside string literals, quoted identifiers or comments. -/
def SameOutsideLiterals (a b : String) : Prop := lex a = lex b

instance (a b : String) : Decidable (SameOutsideLiterals a b) :=
  inferInstanceAs (Decidable (lex a = lex b))

/-- The names of the statement's own bind parameters, left to right, without the `$`. -/
def bindParams (sql : String) : List String :=
  (lex sql).filterMap fun
    | .param n => some (String.mk n)
    | _ => none

example : bindParams "SELECT $a FROM t WHERE x = '$b' -- $c" = ["a"] := by decide

/-! ### The code before the first literal or comment -/

/-- Characters that can open a literal, a quoted identifier or a comment. -/
def isOpener (c : Char) : Bool :=
  c == '\'' || c == '"' || c == '`' || c == '[' || c == '-' || c == '/'

theorem isOpener_iff (c : Char) : isOpener c = true ↔ (closeOf c).isSome ∨ c = '-' ∨ c = '/' := by
  unfold closeOf
  split <;> simp_all [isOpener]

theorem isOpener_of_isIdChar (c : Char) (h : isIdChar c = true) : isOpener c = false := by
  cases ho : isOpener c
  · rfl
  · simp only [isOpener, Bool.or_eq_true, beq_iff_eq] at ho
    rcases ho with ((((rfl | rfl) | rfl) | rfl) | rfl) | rfl <;> revert h <;> decide

/-- The text before the first literal, quoted identifier or comment, read back from pieces. -/
def leadingCode : List Piece → List Char
  | .text c :: ps => if isOpener c then [] else c :: leadingCode ps
  | .param n :: ps => '$' :: n ++ leadingCode ps
  | _ => []

/-- What `leadingCode` reads from the rest of a text lexed from each state. -/
def leadingFrom : LexState → List Char → List Char
  | .code, t | .word, t => t.takeWhile (!isOpener ·)
  | .param n, t => '$' :: n ++ t.takeWhile (!isOpener ·)
  | _, _ => []

private theorem leadingCode_codeChar (c : Char) (cs : List Char)
    (ih : ∀ s, leadingCode (lexFrom s cs) = leadingFrom s cs) :
    leadingCode ((codeChar c).1 ++ lexFrom (codeChar c).2 cs) =
      (c :: cs).takeWhile (!isOpener ·) := by
  unfold codeChar
  split
  · rename_i q hq
    have : isOpener c = true := (isOpener_iff c).mpr (.inl (by simp [hq]))
    simp [ih, leadingFrom, this]
  · rename_i hq
    split_ifs with hd hm hs
    · subst hd; simp [ih, leadingFrom, isOpener]
    · subst hm; simp [ih, leadingFrom, isOpener]
    · subst hs; simp [ih, leadingFrom, isOpener]
    all_goals
      have : isOpener c = false := by
        cases h : isOpener c
        · rfl
        · rcases (isOpener_iff c).mp h with h | h | h <;> simp_all
      simp [leadingCode, ih, leadingFrom, this]

theorem leadingCode_lexFrom : ∀ (t : List Char) (s : LexState),
    leadingCode (lexFrom s t) = leadingFrom s t
  | [], s => by
    cases s <;> simp [lexFrom, finish, leadingCode, leadingFrom, isOpener]
    split <;> simp_all [leadingCode, isOpener]
  | c :: cs, s => by
    have ih := leadingCode_lexFrom cs
    cases s with
    | code => exact leadingCode_codeChar c cs ih
    | word =>
      simp only [lexFrom, stepChar]
      split
      · rename_i hc
        simp [leadingCode, isOpener_of_isIdChar c hc, ih, leadingFrom]
      · exact leadingCode_codeChar c cs ih
    | dash | slash =>
      simp only [lexFrom, stepChar]
      split <;> simp [leadingCode, ih, leadingFrom, isOpener]
    | quoted _ | quoteEnd _ | lineComment | blockComment _ =>
      simp only [lexFrom, stepChar]
      split <;> simp [leadingCode, ih, leadingFrom]
    | param n =>
      simp only [lexFrom, stepChar]
      split
      · rename_i hc
        simp [ih, leadingFrom, isOpener_of_isIdChar c hc]
      · have hlead := leadingCode_codeChar c cs ih
        split
        · rename_i hn
          subst hn
          simp only [List.append_assoc, List.singleton_append, leadingCode, hlead, leadingFrom,
            show isOpener '$' = false from rfl, Bool.false_eq_true, if_false, List.nil_append,
            List.append_eq]
        · simp only [List.append_assoc, List.singleton_append, leadingCode, hlead, leadingFrom,
            List.cons_append, List.nil_append, List.append_eq]

/-- Two texts that differ only inside literals and comments begin with the same code. -/
theorem takeWhile_eq_of_sameOutsideLiterals (a b : String) (h : SameOutsideLiterals a b) :
    a.data.takeWhile (!isOpener ·) = b.data.takeWhile (!isOpener ·) := by
  have ha := leadingCode_lexFrom a.data .code
  have hb := leadingCode_lexFrom b.data .code
  simp only [SameOutsideLiterals, lex] at h
  rw [h] at ha
  simpa [leadingFrom] using ha.symm.trans hb

end SequelizeTurso.SqlText
