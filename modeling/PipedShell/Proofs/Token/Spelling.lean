import Mathlib.Tactic.Common
import PipedShell.Token.Lexer

/-!
# Spelling tokens and reading them back

There are many ways to write one word: between single quotes, between double quotes, behind
backslashes, as it is, and any mixture of these.  A *spelling* is one such way, with the word that
it stands for.  This file says what the spellings are and that the lexer undoes every one of them.

* `Segment` — a piece of a written word, in one of the four styles.  `Segment.written` is what
  stands in the line, `Segment.text` what is meant.
* `WordSpelling`, `TokenSpelling`, `LineSpelling` — segments glued to a word, a word or an operator,
  and tokens with gaps of separators between them.
* `scan_segment` — the reader goes through a segment and has its text, whatever word was begun.
* **`tokenize_spelling`** — every list of words and operators can be written, and reading any
  written form of it gives exactly the list.

A spelling carries the proofs that it is one: a plain run is not empty and holds plain characters
only, and the segment that opens a word does not look like the beginning of an operator.
-/

namespace PipedShell

/-! ## What can be written -/

/-- A character that stands for itself outside quotes, wherever an operator cannot begin. -/
def isPlain (c : Char) : Bool := !isSeparator c && c != '\'' && c != '"' && c != '\\'

/-- A character that an operator begins with. -/
def opensOperator (c : Char) : Bool := c == '|' || c == '&'

/-- The letter that stands for a control character after a backslash between double quotes. -/
def controlLetter (c : Char) : Option Char :=
  if c == '\x07' then some 'a'
  else if c == '\x08' then some 'b'
  else if c == '\t' then some 't'
  else if c == '\n' then some 'n'
  else if c == '\x0b' then some 'v'
  else if c == '\x0c' then some 'f'
  else if c == '\r' then some 'r'
  else none

/-- How a character is written between single quotes. -/
def writeSingle (c : Char) : Text := if c == '\\' || c == '\'' then ['\\', c] else [c]

/-- How a character is written between double quotes.  A control character that has a letter is
written as it is or, with `asLetter`, as a backslash and the letter. -/
def writeDouble (c : Char) (asLetter : Bool) : Text :=
  if c == '\\' || c == '"' then ['\\', c]
  else match controlLetter c with
    | some letter => if asLetter then ['\\', letter] else [c]
    | none => [c]

/-- A piece of a written word. -/
inductive Segment where
  /-- Between single quotes. -/
  | single (text : Text)
  /-- Between double quotes; each character comes with the choice of its letter. -/
  | double (marked : List (Char × Bool))
  /-- A backslash and any character. -/
  | escaped (c : Char)
  /-- Characters as they are, at least one. -/
  | plain (first : Char) (rest : Text) (all_plain : ∀ c ∈ first :: rest, isPlain c = true)

namespace Segment

/-- What a segment stands for. -/
def text : Segment → Text
  | single text => text
  | double marked => marked.map Prod.fst
  | escaped c => [c]
  | plain first rest _ => first :: rest

/-- What stands in the line. -/
def written : Segment → Text
  | single text => '\'' :: (text.flatMap writeSingle ++ ['\''])
  | double marked => '"' :: (marked.flatMap (fun m => writeDouble m.1 m.2) ++ ['"'])
  | escaped c => ['\\', c]
  | plain first rest _ => first :: rest

/-- A word may begin with this segment: it does not begin as an operator does. -/
def mayOpen : Segment → Bool
  | plain first _ _ => !opensOperator first
  | _ => true

end Segment

/-- A way to write a word: one or more segments. -/
structure WordSpelling where
  first : Segment
  rest : List Segment
  may_open : first.mayOpen = true

namespace WordSpelling

/-- The word. -/
def text (word : WordSpelling) : Text := word.first.text ++ word.rest.flatMap Segment.text

/-- What stands in the line. -/
def written (word : WordSpelling) : Text :=
  word.first.written ++ word.rest.flatMap Segment.written

end WordSpelling

/-- A way to write a token. -/
inductive TokenSpelling where
  | word (spelling : WordSpelling)
  | operator (kind : Token.Kind) (is_operator : kind.isOperator = true)

namespace TokenSpelling

/-- The token. -/
def token : TokenSpelling → Token
  | word spelling => .ofWord spelling.text
  | operator kind _ => .ofOperator kind

/-- What stands in the line. -/
def written : TokenSpelling → Text
  | word spelling => spelling.written
  | operator kind _ => kind.spelling

end TokenSpelling

/-- White space and parentheses, in any number and order. -/
structure Gap where
  text : Text
  all_separators : text.all isSeparator = true

/-- A way to write tokens one after another.  There is a gap after every token that another one
follows, and there may be one after the last. -/
inductive TokensSpelling where
  | nil
  /-- The last token, with nothing behind it. -/
  | last (token : TokenSpelling)
  /-- A token, at least one separator, and what follows. -/
  | cons (token : TokenSpelling) (separator : Char) (is_separator : isSeparator separator = true)
      (gap : Gap) (rest : TokensSpelling)

namespace TokensSpelling

/-- The tokens. -/
def tokens : TokensSpelling → List Token
  | nil => []
  | last token => [token.token]
  | cons token _ _ _ rest => token.token :: rest.tokens

/-- What stands in the line. -/
def written : TokensSpelling → Text
  | nil => []
  | last token => token.written
  | cons token separator _ gap rest =>
    token.written ++ separator :: (gap.text ++ rest.written)

end TokensSpelling

/-- A way to write a line: tokens, with or without a gap before the first one. -/
structure LineSpelling where
  lead : Gap
  body : TokensSpelling

namespace LineSpelling

/-- The tokens of the line. -/
def tokens (line : LineSpelling) : List Token := line.body.tokens

/-- The line. -/
def written (line : LineSpelling) : Text := line.lead.text ++ line.body.written

end LineSpelling

/-! ## Going through one segment

The reader keeps the word begun backwards.  Each lemma says what it has after a piece of the line,
for every word begun and every rest of the line, so that the lemmas can be chained.
-/

/-- The word begun with a further text at its end. -/
def growWord (word : Option Text) (text : Text) : Option Text :=
  some (text.reverse ++ word.getD [])

lemma growWord_growWord (word : Option Text) (a b : Text) :
    growWord (growWord word a) b = growWord word (a ++ b) := by
  simp [growWord]

lemma extendWord_eq_growWord (word : Option Text) (c : Char) :
    extendWord word c = growWord word [c] := rfl

/-- The letter of a control character stands for it. -/
lemma doubleEscape_controlLetter {c letter : Char} (h : controlLetter c = some letter) :
    doubleEscape letter = c := by
  simp only [controlLetter] at h
  split_ifs at h <;> simp_all <;> subst h <;> rfl

/-- Nothing but `|` and `&` begins an operator. -/
lemma leadingOperator_eq_none {c : Char} (h : opensOperator c = false) (rest : Text) :
    leadingOperator (c :: rest) = none := by
  simp only [opensOperator, Bool.or_eq_false_iff, beq_eq_false_iff_ne] at h
  simp only [leadingOperator]
  split <;> simp_all

/-- Between single quotes: the text is read, and the quote behind it ends the mode. -/
lemma scan_single_body (text rest : Text) (word : Text) :
    scan .single (some word) (text.flatMap writeSingle ++ '\'' :: rest)
      = scan .outside (growWord (some word) text) rest := by
  induction text generalizing word with
  | nil => simp [scan, growWord]
  | cons c text ih =>
      have hread : ∀ tail, scan .single (some word) (writeSingle c ++ tail)
          = scan .single (some (c :: word)) tail := by
        intro tail
        by_cases hc : c = '\\' ∨ c = '\''
        · rcases hc with rfl | rfl <;> simp [writeSingle, scan, singleEscape]
        · simp only [not_or] at hc
          simp [writeSingle, scan, extendWord, hc]
      rw [List.flatMap_cons, List.append_assoc, hread, ih]
      simp [growWord]

/-- Between double quotes, whichever way its control characters are written. -/
lemma scan_double_body (marked : List (Char × Bool)) (rest : Text) (word : Text) :
    scan .double (some word) (marked.flatMap (fun m => writeDouble m.1 m.2) ++ '"' :: rest)
      = scan .outside (growWord (some word) (marked.map Prod.fst)) rest := by
  induction marked generalizing word with
  | nil => simp [scan, growWord]
  | cons m marked ih =>
      obtain ⟨c, asLetter⟩ := m
      have hread : ∀ tail, scan .double (some word) (writeDouble c asLetter ++ tail)
          = scan .double (some (c :: word)) tail := by
        intro tail
        by_cases hc : c = '\\' ∨ c = '"'
        · rcases hc with rfl | rfl <;> simp [writeDouble, scan, extendWord, doubleEscape]
        · simp only [not_or] at hc
          cases hletter : controlLetter c with
          | none => simp [writeDouble, hletter, scan, extendWord, hc]
          | some letter =>
              cases asLetter with
              | false => simp [writeDouble, hletter, scan, extendWord, hc]
              | true =>
                  have hmeant := doubleEscape_controlLetter hletter
                  simp [writeDouble, hletter, scan, extendWord, hc, hmeant]
      rw [List.flatMap_cons, List.append_assoc, hread, ih]
      simp [growWord]

lemma scan_plain_char {c : Char} (hc : isPlain c = true) {word : Option Text}
    (hword : word.isSome = true ∨ opensOperator c = false) (rest : Text) :
    scan .outside word (c :: rest) = scan .outside (growWord word [c]) rest := by
  simp only [isPlain, Bool.and_eq_true, Bool.not_eq_true', bne_iff_ne] at hc
  obtain ⟨⟨⟨hsep, hsingle⟩, hdouble⟩, hback⟩ := hc
  rw [scan, extendWord_eq_growWord]
  simp only [hsep, beq_iff_eq, hback, hsingle, hdouble]
  rcases hword with hword | hopen
  · simp [hword]
  · simp [leadingOperator_eq_none hopen]

/-- A run of plain characters after the first one: a word is begun, so nothing in the run is taken
for an operator. -/
lemma scan_plain_run (run rest : Text) (hrun : ∀ c ∈ run, isPlain c = true) {word : Option Text}
    (hword : word.isSome = true) :
    scan .outside word (run ++ rest) = scan .outside (growWord word run) rest := by
  induction run generalizing word with
  | nil =>
      obtain ⟨w, rfl⟩ := Option.isSome_iff_exists.1 hword
      simp [growWord]
  | cons c run ih =>
      rw [List.cons_append, scan_plain_char (hrun c (by simp)) (Or.inl hword),
        ih (fun d hd => hrun d (by simp [hd])) (by simp [growWord]), growWord_growWord]
      rfl

/-- **A segment is read as its text**, whatever word was begun before it.  Where none was begun the
segment has to be one that may open a word. -/
lemma scan_segment (segment : Segment) {word : Option Text}
    (hword : word.isSome = true ∨ segment.mayOpen = true) (rest : Text) :
    scan .outside word (segment.written ++ rest)
      = scan .outside (growWord word segment.text) rest := by
  cases segment with
  | single text =>
      have hopen : scan .outside word ('\'' :: (text.flatMap writeSingle ++ '\'' :: rest))
          = scan .single (some (word.getD [])) (text.flatMap writeSingle ++ '\'' :: rest) := by
        simp [scan, isSeparator, isLineSpace, isParenthesis]
      simp only [Segment.written, Segment.text, List.cons_append, List.append_assoc,
        List.nil_append]
      rw [hopen, scan_single_body]
      simp [growWord]
  | double marked =>
      have hopen : ∀ tail, scan .outside word ('"' :: tail)
          = scan .double (some (word.getD [])) tail := by
        intro tail
        simp [scan, isSeparator, isLineSpace, isParenthesis]
      simp only [Segment.written, Segment.text, List.cons_append, List.append_assoc,
        List.nil_append]
      rw [hopen, scan_double_body]
      simp [growWord]
  | escaped c =>
      simp [Segment.written, Segment.text, scan, isSeparator, isLineSpace, isParenthesis,
        extendWord_eq_growWord]
  | plain first run hplain =>
      have hfirst : word.isSome = true ∨ opensOperator first = false := by
        simpa [Segment.mayOpen] using hword
      simp only [Segment.written, Segment.text, List.cons_append]
      rw [scan_plain_char (hplain first (by simp)) hfirst,
        scan_plain_run run rest (fun c hc => hplain c (by simp [hc])) (by simp [growWord]),
        growWord_growWord]
      rfl

/-! ## Words, operators and gaps -/

lemma scan_segments (segments : List Segment) (rest : Text) {word : Option Text}
    (hword : word.isSome = true) :
    scan .outside word (segments.flatMap Segment.written ++ rest)
      = scan .outside (growWord word (segments.flatMap Segment.text)) rest := by
  induction segments generalizing word with
  | nil =>
      obtain ⟨w, rfl⟩ := Option.isSome_iff_exists.1 hword
      simp [growWord]
  | cons segment segments ih =>
      rw [List.flatMap_cons, List.append_assoc, scan_segment segment (Or.inl hword),
        ih (by simp [growWord]), growWord_growWord, ← List.flatMap_cons]

lemma scan_word (word : WordSpelling) (rest : Text) :
    scan .outside none (word.written ++ rest) = scan .outside (some word.text.reverse) rest := by
  rw [WordSpelling.written, List.append_assoc, scan_segment word.first (Or.inr word.may_open),
    scan_segments word.rest rest (by simp [growWord]), growWord_growWord]
  simp [growWord, WordSpelling.text]

lemma scan_separator {separator : Char} (h : isSeparator separator = true) (word : Option Text)
    (rest : Text) :
    scan .outside word (separator :: rest) = (scan .outside none rest).consWord word := by
  simp [scan, h]

/-- Where a word may end, the word begun is the next token. -/
lemma scan_of_standsAlone {rest : Text} (h : standsAlone rest = true) (word : Option Text) :
    scan .outside word rest = (scan .outside none rest).consWord word := by
  cases rest with
  | nil => rfl
  | cons c rest =>
      have hsep : isSeparator c = true := h
      rw [scan_separator hsep, scan_separator hsep]
      rfl

/-- An operator is read as such where it stands alone. -/
lemma scan_operator {kind : Token.Kind} (hkind : kind.isOperator = true) {rest : Text}
    (h : standsAlone rest = true) :
    scan .outside none (kind.spelling ++ rest)
      = (scan .outside none rest).cons (.ofOperator kind) := by
  cases kind with
  | word => simp [Token.Kind.isOperator] at hkind
  | andThen | orElse =>
      simp [Token.Kind.spelling, scan, leadingOperator, h, isSeparator, isLineSpace, isParenthesis]
  | pipe =>
      -- the longer operator does not fit, because what follows is no second bar
      have hpipe : leadingOperator ('|' :: rest) = some .pipe := by
        cases rest with
        | nil => rfl
        | cons c rest =>
            have hc : c ≠ '|' := by
              rintro rfl
              simp [standsAlone, isSeparator, isLineSpace, isParenthesis] at h
            simp only [leadingOperator]
            split <;> simp_all
      simp [Token.Kind.spelling, scan, hpipe, isSeparator, isLineSpace, isParenthesis]

/-- **A written token is read as the token**, if it may end there. -/
lemma scan_token (token : TokenSpelling) {rest : Text} (h : standsAlone rest = true) :
    scan .outside none (token.written ++ rest) = (scan .outside none rest).cons token.token := by
  cases token with
  | word spelling =>
      rw [TokenSpelling.written, scan_word, scan_of_standsAlone h]
      simp [Lexed.consWord, TokenSpelling.token]
  | operator kind hkind => exact scan_operator hkind h

lemma scan_gap (gap : Gap) (rest : Text) :
    scan .outside none (gap.text ++ rest) = scan .outside none rest := by
  obtain ⟨text, hall⟩ := gap
  induction text with
  | nil => rfl
  | cons c text ih =>
      simp only [List.all_cons, Bool.and_eq_true] at hall
      rw [List.cons_append, scan_separator hall.1]
      exact ih hall.2

/-- Written tokens are read as the tokens, by induction on the tokens: each one is followed by a
separator or is the last. -/
lemma scan_tokens (body : TokensSpelling) :
    scan .outside none body.written = ⟨body.tokens, none⟩ := by
  induction body with
  | nil => rfl
  | last token =>
      have h : scan .outside none (token.written ++ [])
          = (scan .outside none []).cons token.token :=
        scan_token token rfl
      rw [List.append_nil] at h
      rw [TokensSpelling.written, h]
      rfl
  | cons token separator hsep gap rest ih =>
      rw [TokensSpelling.written, scan_token token (by exact hsep), scan_separator hsep, scan_gap,
        ih]
      rfl

/-! ## Every list of words and operators can be written -/

/-- A word between single quotes. -/
def WordSpelling.quoted (text : Text) : WordSpelling := ⟨.single text, [], rfl⟩

/-- A token that the lexer can produce: a word of any text, or an operator as it is spelled. -/
def Token.IsWritable (token : Token) : Prop := token.kind = .word ∨ token.text = token.kind.spelling

instance : DecidablePred Token.IsWritable := fun token =>
  inferInstanceAs (Decidable (token.kind = .word ∨ token.text = token.kind.spelling))

lemma exists_tokenSpelling {token : Token} (h : token.IsWritable) :
    ∃ spelling : TokenSpelling, spelling.token = token := by
  obtain ⟨kind, text⟩ := token
  by_cases hkind : kind = .word
  · subst hkind
    exact ⟨.word (.quoted text), by
      simp [TokenSpelling.token, WordSpelling.quoted, WordSpelling.text, Segment.text,
        Token.ofWord]⟩
  · have htext : text = kind.spelling := h.resolve_left hkind
    exact ⟨.operator kind (by simpa [Token.Kind.isOperator] using hkind), by
      rw [htext]; rfl⟩

lemma exists_tokensSpelling {tokens : List Token} (h : ∀ token ∈ tokens, token.IsWritable) :
    ∃ body : TokensSpelling, body.tokens = tokens := by
  induction tokens with
  | nil => exact ⟨.nil, rfl⟩
  | cons token tokens ih =>
      obtain ⟨spelling, rfl⟩ := exists_tokenSpelling (h token (by simp))
      obtain ⟨rest, rfl⟩ := ih fun t ht => h t (by simp [ht])
      exact ⟨.cons spelling ' ' rfl ⟨[], rfl⟩ rest, rfl⟩

/-- **Reading undoes writing.**  Every list of words and operators can be written, and however its
tokens are spelled and spaced, the lexer gives back exactly these tokens with no quote left open. -/
theorem tokenize_spelling (tokens : List Token) (h : ∀ token ∈ tokens, token.IsWritable) :
    (∃ line : LineSpelling, line.tokens = tokens) ∧
      ∀ line : LineSpelling, line.tokens = tokens → tokenize line.written = ⟨tokens, none⟩ := by
  constructor
  · obtain ⟨body, rfl⟩ := exists_tokensSpelling h
    exact ⟨⟨⟨[], rfl⟩, body⟩, rfl⟩
  · rintro line rfl
    rw [tokenize, LineSpelling.written, scan_gap, scan_tokens]
    rfl

/-- A line in which a word of four styles stands next to an operator and an empty word:
`(a"b\t"'it\'s'\| )||\t''`. -/
def mixedSpelling : LineSpelling where
  lead := ⟨['('], rfl⟩
  body :=
    .cons
      (.word ⟨.plain 'a' [] (List.forall_mem_singleton.2 rfl),
        [.double [('b', false), ('\t', true)], .single "it's", .escaped '|'], rfl⟩)
      ' ' rfl ⟨[')'], rfl⟩ <|
    .cons (.operator .orElse rfl) '\t' rfl ⟨[], rfl⟩ <|
    .last (.word (.quoted []))

theorem tokenize_mixedSpelling :
    tokenize "(a\"b\\t\"'it\\'s'\\| )||\t''"
      = ⟨[.ofWord "ab\tit's|", .ofOperator .orElse, .ofWord []], none⟩ :=
  (tokenize_spelling [.ofWord "ab\tit's|", .ofOperator .orElse, .ofWord []]
    (by decide)).2 mixedSpelling rfl

end PipedShell
