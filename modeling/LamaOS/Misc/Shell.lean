import LamaOS.Misc.ByteMemory

/-!
# How a shell splits a text into commands

The token recognition and the simple commands of the POSIX shell, for texts that are bytes.
`Reader.push` takes one byte: it may end a token, extend the one in progress or change how the
next byte is read. `Grouper.push` takes one token and puts the words, redirections and control
operators together. The text is split, not run: reserved words are words like any other, and
the expansions that come after the splitting are left out. A text that asks for more than
that, with a substitution, a here-document or parentheses, is refused, and so is one with a
dollar that POSIX leaves unspecified: in front of a blank, a newline or the end of the text a
dollar stands for itself, and in front of any other byte it introduces something or nothing
that is known.
-/

namespace LamaOS.Shell

abbrev Text := List Byte

/-! ## Characters -/

def tab : Byte := 0x09
def newline : Byte := 0x0A
def space : Byte := 0x20
def doubleQuote : Byte := 0x22
def hash : Byte := 0x23
def dollar : Byte := 0x24
def ampersand : Byte := 0x26
def singleQuote : Byte := 0x27
def openParenthesis : Byte := 0x28
def closeParenthesis : Byte := 0x29
def semicolon : Byte := 0x3B
def less : Byte := 0x3C
def greater : Byte := 0x3E
def backslash : Byte := 0x5C
def backquote : Byte := 0x60
def bar : Byte := 0x7C

def isBlank (b : Byte) : Bool := b = space ∨ b = tab

def isDigit (b : Byte) : Bool := 0x30 ≤ b.toNat ∧ b.toNat ≤ 0x39

/-- The operators, apart from the newline. -/
def operators : List Text :=
  [[ampersand], [bar], [semicolon], [less], [greater], [openParenthesis], [closeParenthesis],
    [ampersand, ampersand], [bar, bar], [semicolon, semicolon], [less, less],
    [less, less, 0x2D], [greater, greater], [less, ampersand], [greater, ampersand],
    [less, greater], [greater, bar]]

def isOperator (text : Text) : Bool := operators.contains text

/-- The characters that do not stand for themselves where nothing is quoted. -/
def special : List Byte :=
  [space, tab, newline, semicolon, ampersand, bar, less, greater, openParenthesis,
    closeParenthesis, singleQuote, doubleQuote, backslash, dollar, backquote]

/-! ## Tokens -/

inductive Token where
  | word (text : Text)
  /-- A number right in front of a redirection operator. -/
  | ioNumber (text : Text)
  | operator (text : Text)
  deriving DecidableEq, Repr

inductive ShellError where
  | substitution
  | unterminated
  | syntaxError
  deriving DecidableEq, Repr

/-- The token in progress. -/
inductive Progress where
  | none
  | operator (text : Text)
  | word (text : Text) (quoted : Bool)
  deriving DecidableEq, Repr

/-- How the next byte is read: `dollar` and `doubleDollar` are right behind a dollar, unquoted and
within double quotes. -/
inductive Quoting where
  | unquoted
  | escaped
  | dollar
  | single
  | double
  | doubleEscaped
  | doubleDollar
  | comment
  deriving DecidableEq, Repr

/-- The state of the reader. -/
structure Reader where
  progress : Progress
  quoting : Quoting
  deriving DecidableEq, Repr

namespace Progress

/-- The token that ends here, in front of a redirection operator or not. -/
def delimit (redirecting : Bool) : Progress → List Token
  | none => []
  | operator text => [.operator text]
  | word text quoted =>
    if redirecting && !quoted && text.all isDigit then [.ioNumber text] else [.word text]

/-- Add bytes to the word in progress; an operator in progress ends before them. -/
def add (text : Text) (quoted : Bool) : Progress → List Token × Progress
  | none => ([], word text quoted)
  | operator op => ([.operator op], word text quoted)
  | word text' quoted' => ([], word (text' ++ text) (quoted' || quoted))

/-- The operator in progress, if it can be made longer by this byte. -/
def extend (b : Byte) : Progress → Option Text
  | operator op => if isOperator (op ++ [b]) then some (op ++ [b]) else Option.none
  | _ => Option.none

def isWord : Progress → Bool
  | word _ _ => true
  | _ => false

end Progress

namespace Reader

/-- Nothing has been read. -/
def start : Reader := ⟨.none, .unquoted⟩

/-- A byte that stands for itself, and how the one after it is read. -/
def literal (p : Progress) (text : Text) (quoted : Bool) (quoting : Quoting) :
    List Token × Reader :=
  ((p.add text quoted).1, ⟨(p.add text quoted).2, quoting⟩)

/-- An unquoted byte. -/
def pushUnquoted (p : Progress) (b : Byte) : Except ShellError (List Token × Reader) :=
  match p.extend b with
  | some op => .ok ([], ⟨.operator op, .unquoted⟩)
  | none =>
    if b = backslash then .ok ([], ⟨p, .escaped⟩)
    else if b = singleQuote then .ok (literal p [] true .single)
    else if b = doubleQuote then .ok (literal p [] true .double)
    -- a dollar is taken as one until the byte behind it says otherwise
    else if b = dollar then .ok (literal p [b] false .dollar)
    else if b = backquote then .error .substitution
    else if b = newline then .ok (p.delimit false ++ [.operator [newline]], start)
    else if isBlank b then .ok (p.delimit false, start)
    else if isOperator [b] then
      .ok (p.delimit (b = less ∨ b = greater), ⟨.operator [b], .unquoted⟩)
    else if b = hash ∧ !p.isWord then .ok (p.delimit false, ⟨.none, .comment⟩)
    else .ok (literal p [b] false .unquoted)

/-- In front of this byte a dollar introduces nothing. -/
def isDollarEnd (b : Byte) : Bool := isBlank b ∨ b = newline

/-- One byte. -/
def push (r : Reader) (b : Byte) : Except ShellError (List Token × Reader) :=
  match r.quoting with
  | .unquoted => pushUnquoted r.progress b
  | .escaped =>
    -- an escaped newline joins two lines
    if b = newline then .ok ([], ⟨r.progress, .unquoted⟩)
    else .ok (literal r.progress [b] true .unquoted)
  | .dollar =>
    if isDollarEnd b then pushUnquoted r.progress b else .error .substitution
  | .single =>
    if b = singleQuote then .ok ([], ⟨r.progress, .unquoted⟩)
    else .ok (literal r.progress [b] true .single)
  | .double =>
    if b = doubleQuote then .ok ([], ⟨r.progress, .unquoted⟩)
    else if b = backslash then .ok ([], ⟨r.progress, .doubleEscaped⟩)
    else if b = dollar then .ok (literal r.progress [b] true .doubleDollar)
    else if b = backquote then .error .substitution
    else .ok (literal r.progress [b] true .double)
  | .doubleEscaped =>
    if b = newline then .ok ([], ⟨r.progress, .double⟩)
    else if b = dollar ∨ b = backquote ∨ b = doubleQuote ∨ b = backslash then
      .ok (literal r.progress [b] true .double)
    else .ok (literal r.progress [backslash, b] true .double)
  | .doubleDollar =>
    if isDollarEnd b then .ok (literal r.progress [b] true .double) else .error .substitution
  | .comment =>
    if b = newline then .ok ([.operator [newline]], start) else .ok ([], r)

/-- The tokens that end within some bytes, and the state behind them. -/
def read (r : Reader) : Text → Except ShellError (List Token × Reader)
  | [] => .ok ([], r)
  | b :: text => do
    let (tokens, r') ← r.push b
    let (later, r'') ← r'.read text
    return (tokens ++ later, r'')

/-- The token that the end of the text ends. -/
def finish (r : Reader) : Except ShellError (List Token) :=
  match r.quoting with
  | .unquoted => .ok (r.progress.delimit false)
  | .dollar => .ok (r.progress.delimit false)
  | .comment => .ok (r.progress.delimit false)
  | _ => .error .unterminated

end Reader

/-- The tokens of a text. -/
def tokens (text : Text) : Except ShellError (List Token) := do
  let (ended, r) ← Reader.start.read text
  let last ← r.finish
  return ended ++ last

/-! ## Commands -/

structure Redirection where
  descriptor : Option Text
  operator : Text
  target : Text
  deriving DecidableEq, Repr

/-- A simple command. -/
structure Command where
  words : List Text
  redirections : List Redirection
  deriving DecidableEq, Repr

def Command.empty : Command := ⟨[], []⟩

/-- The operators that redirect from or to a word. -/
def redirecting : List Text :=
  [[less], [greater], [greater, greater], [less, ampersand], [greater, ampersand],
    [less, greater], [greater, bar]]

/-- The operators after which a command must follow. -/
def joining : List Text := [[ampersand, ampersand], [bar, bar], [bar]]

/-- The operators that end a command. -/
def separating : List Text := joining ++ [[semicolon], [ampersand], [newline]]

/-- The command in progress: the number and the operator of a redirection whose target has not
been read, and whether a command must follow the last operator. -/
structure Grouper where
  command : Command
  descriptor : Option Text
  redirection : Option Text
  due : Bool
  deriving DecidableEq, Repr

namespace Grouper

def start : Grouper := ⟨.empty, none, none, false⟩

/-- One token: the command that it ends, with the operator behind it, if it ends one. -/
def push (g : Grouper) : Token → Except ShellError (List (Command × Text) × Grouper)
  | .word text =>
    match g.redirection with
    | some op =>
      .ok ([], { g with
        command.redirections := g.command.redirections ++ [⟨g.descriptor, op, text⟩]
        descriptor := none, redirection := none })
    | none =>
      if g.descriptor.isSome then .error .syntaxError
      else .ok ([], { g with command.words := g.command.words ++ [text] })
  | .ioNumber text =>
    if g.redirection.isSome ∨ g.descriptor.isSome then .error .syntaxError
    else .ok ([], { g with descriptor := some text })
  | .operator op =>
    if g.redirection.isSome then .error .syntaxError
    else if redirecting.contains op then .ok ([], { g with redirection := some op })
    else if g.descriptor.isSome ∨ !separating.contains op then .error .syntaxError
    else if g.command = .empty then
      -- an empty line is no command, and any other operator needs one in front of it
      if op = [newline] then .ok ([], g) else .error .syntaxError
    else .ok ([(g.command, op)], { start with due := joining.contains op })

/-- The commands that end within some tokens, and what is left in progress. -/
def read (g : Grouper) : List Token → Except ShellError (List (Command × Text) × Grouper)
  | [] => .ok ([], g)
  | token :: rest => do
    let (commands, g') ← g.push token
    let (later, g'') ← g'.read rest
    return (commands ++ later, g'')

/-- The command that the end of the text ends. -/
def finish (g : Grouper) : Except ShellError (List (Command × Text)) :=
  if g.redirection.isSome ∨ g.descriptor.isSome then .error .syntaxError
  else if g.command = .empty then if g.due then .error .syntaxError else .ok []
  else .ok [(g.command, [])]

end Grouper

/-- The commands of some tokens, each with the operator behind it. -/
def group (list : List Token) : Except ShellError (List (Command × Text)) := do
  let (commands, g) ← Grouper.start.read list
  let last ← g.finish
  return commands ++ last

/-- The commands of a text, each with the operator behind it. -/
def split (text : Text) : Except ShellError (List (Command × Text)) := do
  let list ← tokens text
  group list

/-! ## Reading in parts -/

/-- A computation in two parts that comes to its end. -/
theorem bind_ok_iff {ε α β : Type} {x : Except ε α} {f : α → Except ε β} {y : β} :
    (x >>= f) = .ok y ↔ ∃ a, x = .ok a ∧ f a = .ok y := by
  cases x with
  | error e => simp [bind, Except.bind]
  | ok a => simp [bind, Except.bind]

theorem Reader.read_cons_iff {r r'' : Reader} {b : Byte} {text : Text} {ended : List Token} :
    r.read (b :: text) = .ok (ended, r'') ↔
      ∃ before r' after, r.push b = .ok (before, r') ∧ r'.read text = .ok (after, r'') ∧
        ended = before ++ after := by
  rw [Reader.read, bind_ok_iff]
  constructor
  · rintro ⟨⟨before, r'⟩, first, done⟩
    rcases bind_ok_iff.mp done with ⟨⟨after, r''⟩, second, same⟩
    cases same
    exact ⟨before, r', after, first, second, rfl⟩
  · rintro ⟨before, r', after, first, second, rfl⟩
    exact ⟨(before, r'), first, bind_ok_iff.mpr ⟨(after, r''), second, rfl⟩⟩

/-- A text is read in two parts. -/
theorem Reader.read_append_iff {r r'' : Reader} {xs ys : Text} {ended : List Token} :
    r.read (xs ++ ys) = .ok (ended, r'') ↔
      ∃ before r' after, r.read xs = .ok (before, r') ∧ r'.read ys = .ok (after, r'') ∧
        ended = before ++ after := by
  induction xs generalizing r ended with
  | nil =>
    constructor
    · intro done
      exact ⟨[], r, ended, rfl, done, rfl⟩
    · rintro ⟨before, r', after, first, second, rfl⟩
      cases first
      exact second
  | cons b xs ih =>
    rw [List.cons_append, Reader.read_cons_iff]
    constructor
    · rintro ⟨before, r', later, pushed, rest, rfl⟩
      rcases ih.mp rest with ⟨middle, r'', after, first, second, rfl⟩
      refine ⟨before ++ middle, r'', after, ?_, second, (List.append_assoc _ _ _).symm⟩
      exact Reader.read_cons_iff.mpr ⟨before, r', middle, pushed, first, rfl⟩
    · rintro ⟨before, r', after, first, second, rfl⟩
      rcases Reader.read_cons_iff.mp first with ⟨head, r'', middle, pushed, rest, rfl⟩
      refine ⟨head, r'', middle ++ after, pushed, ?_, List.append_assoc _ _ _⟩
      exact ih.mpr ⟨middle, r', after, rest, second, rfl⟩

/-- The tokens of a text are those that end within it, and the one that its end ends. -/
theorem tokens_iff {text : Text} {list : List Token} :
    tokens text = .ok list ↔
      ∃ ended r last, Reader.start.read text = .ok (ended, r) ∧ r.finish = .ok last ∧
        list = ended ++ last := by
  rw [tokens, bind_ok_iff]
  constructor
  · rintro ⟨⟨ended, r⟩, first, done⟩
    rcases bind_ok_iff.mp done with ⟨last, second, same⟩
    cases same
    exact ⟨ended, r, last, first, second, rfl⟩
  · rintro ⟨ended, r, last, first, second, rfl⟩
    exact ⟨(ended, r), first, bind_ok_iff.mpr ⟨last, second, rfl⟩⟩

/-! ## The words of a text -/

/-- The words and numbers among some tokens. -/
def Token.texts : Token → List Text
  | .word text => [text]
  | .ioNumber text => [text]
  | .operator _ => []

def Redirection.texts (redirection : Redirection) : List Text :=
  redirection.descriptor.toList ++ [redirection.target]

def Command.texts (command : Command) : List Text :=
  command.words ++ command.redirections.flatMap Redirection.texts

def Grouper.texts (g : Grouper) : List Text := g.command.texts ++ g.descriptor.toList

theorem Grouper.push_texts {g g' : Grouper} {token : Token} {commands : List (Command × Text)}
    (done : g.push token = .ok (commands, g')) :
    (commands.flatMap (·.1.texts) ++ g'.texts).Perm (g.texts ++ token.texts) := by
  cases token with
  | word text =>
    rw [Grouper.push] at done
    cases awaited : g.redirection with
    | some op =>
      rw [awaited] at done
      cases done
      simp [Grouper.texts, Command.texts, Redirection.texts, Token.texts]
    | none =>
      rw [awaited] at done
      dsimp only at done
      split at done
      · cases done
      · rename_i none
        cases done
        have empty : g.descriptor = Option.none := by simpa using none
        simp only [Grouper.texts, Command.texts, Token.texts, empty, Option.toList_none,
          List.append_nil, List.flatMap_nil, List.nil_append, List.append_assoc]
        exact List.Perm.append_left _ List.perm_append_comm
  | ioNumber text =>
    rw [Grouper.push] at done
    split at done
    · cases done
    · rename_i neither
      cases done
      have empty : g.descriptor = Option.none := by
        rw [not_or] at neither
        simpa using neither.2
      simp [Grouper.texts, Token.texts, empty]
  | operator op =>
    rw [Grouper.push] at done
    split at done
    · cases done
    split at done
    · cases done
      simp [Grouper.texts, Token.texts]
    split at done
    · cases done
    rename_i separator
    have empty : g.descriptor = Option.none := by
      rw [not_or] at separator
      simpa using separator.1
    split at done
    · split at done
      · cases done
        simp [Token.texts]
      · cases done
    · cases done
      simp [Grouper.texts, Grouper.start, Command.empty, Command.texts, Token.texts, empty]

theorem Grouper.read_texts {g g' : Grouper} {list : List Token} {commands : List (Command × Text)}
    (done : g.read list = .ok (commands, g')) :
    (commands.flatMap (·.1.texts) ++ g'.texts).Perm (g.texts ++ list.flatMap Token.texts) := by
  induction list generalizing g commands with
  | nil =>
    cases done
    simp
  | cons token rest ih =>
    rw [Grouper.read] at done
    rcases bind_ok_iff.mp done with ⟨⟨ended, next⟩, first, done⟩
    rcases bind_ok_iff.mp done with ⟨⟨later, last⟩, second, same⟩
    cases same
    have extended := List.Perm.append_right (rest.flatMap Token.texts) (Grouper.push_texts first)
    rw [List.append_assoc, List.append_assoc] at extended
    rw [List.flatMap_append, List.append_assoc, List.flatMap_cons]
    exact (List.Perm.append_left _ (ih second)).trans extended

theorem Grouper.finish_texts {g : Grouper} {commands : List (Command × Text)}
    (done : g.finish = .ok commands) : commands.flatMap (·.1.texts) = g.texts := by
  rw [Grouper.finish] at done
  split at done
  · cases done
  rename_i neither
  have empty : g.descriptor = none := by
    rw [not_or] at neither
    simpa using neither.2
  split at done
  · rename_i without
    split at done
    · cases done
    · cases done
      simp [Grouper.texts, without, empty, Command.texts, Command.empty]
  · cases done
    simp [Grouper.texts, empty]

/-- The words of a text are the words of its commands. -/
theorem split_texts {text : Text} {commands : List (Command × Text)}
    (done : split text = .ok commands) :
    ∃ list, tokens text = .ok list ∧
      (list.flatMap Token.texts).Perm (commands.flatMap (·.1.texts)) := by
  rcases bind_ok_iff.mp done with ⟨list, first, done⟩
  rcases bind_ok_iff.mp done with ⟨⟨ended, g⟩, second, done⟩
  rcases bind_ok_iff.mp done with ⟨last, third, same⟩
  cases same
  refine ⟨list, first, ?_⟩
  have read := Grouper.read_texts second
  have nothing : Grouper.start.texts = [] := rfl
  rw [nothing, List.nil_append, ← Grouper.finish_texts third] at read
  rw [List.flatMap_append]
  exact read.symm

/-! ## How many bytes come to stand in words -/

/-- The number of bytes in the words and numbers among some tokens. -/
def textsSize (list : List Token) : Nat := ((list.flatMap Token.texts).map List.length).sum

theorem textsSize_append (xs ys : List Token) :
    textsSize (xs ++ ys) = textsSize xs + textsSize ys := by
  simp [textsSize]

def Progress.size : Progress → Nat
  | none => 0
  | operator _ => 0
  | word text _ => text.length

/-- The bytes in the word in progress, with a backslash that may come to stand in it. -/
def Reader.size (r : Reader) : Nat :=
  r.progress.size + if r.quoting = .doubleEscaped then 1 else 0

theorem Progress.delimit_size (redirecting : Bool) (p : Progress) :
    textsSize (p.delimit redirecting) = p.size := by
  cases p with
  | none => rfl
  | operator text => rfl
  | word text quoted =>
    rw [delimit]
    split <;> simp [textsSize, Token.texts, size]

theorem Progress.add_size (text : Text) (quoted : Bool) (p : Progress) :
    textsSize (p.add text quoted).1 + (p.add text quoted).2.size = p.size + text.length := by
  cases p with
  | none => simp [add, textsSize, size]
  | operator op => simp [add, textsSize, Token.texts, size]
  | word text' quoted' => simp [add, textsSize, size]

theorem Reader.literal_size (p : Progress) (text : Text) (quoted : Bool) {quoting : Quoting}
    (closed : quoting ≠ .doubleEscaped) :
    textsSize (literal p text quoted quoting).1 + (literal p text quoted quoting).2.size =
      p.size + text.length := by
  have added := p.add_size text quoted
  simpa [literal, size, closed] using added

/-- The bytes that do not stand for themselves here: a hash mark is one where no word is in
progress. -/
def Meant (p : Progress) (b : Byte) : Prop := b ∈ special ∨ b = hash ∧ p.isWord = false

/-- An unquoted byte adds nothing to the words, or it is a dollar, or it stands for itself. -/
theorem Reader.pushUnquoted_cases {p : Progress} {b : Byte} {ended : List Token} {r : Reader}
    (done : pushUnquoted p b = .ok (ended, r)) :
    textsSize ended + r.size ≤ p.size ∨
      b = dollar ∧ (ended, r) = literal p [b] false .dollar ∨
      ¬ Meant p b ∧ (ended, r) = literal p [b] false .unquoted := by
  unfold pushUnquoted at done
  split at done
  · cases done
    exact .inl (Nat.zero_le _)
  split at done
  · cases done
    exact .inl (Nat.le_of_eq (Nat.zero_add _))
  split at done
  · cases done
    exact .inl (Nat.le_of_eq (literal_size p [] true (by decide)))
  split at done
  · cases done
    exact .inl (Nat.le_of_eq (literal_size p [] true (by decide)))
  split at done
  · rename_i isDollar
    cases done
    exact .inr (.inl ⟨isDollar, rfl⟩)
  split at done
  · cases done
  split at done
  · cases done
    left
    rw [textsSize_append, Progress.delimit_size]
    exact Nat.le_refl _
  split at done
  · cases done
    left
    rw [Progress.delimit_size]
    exact Nat.le_refl _
  split at done
  · cases done
    left
    rw [Progress.delimit_size]
    exact Nat.le_refl _
  split at done
  · cases done
    left
    rw [Progress.delimit_size]
    exact Nat.le_refl _
  · rename_i notBackslash notSingle notDouble notDollar notBackquote notNewline notBlank
      notOperator notComment
    cases done
    refine .inr (.inr ⟨?_, rfl⟩)
    have meant : ∀ b ∈ special, b = backslash ∨ b = singleQuote ∨ b = doubleQuote ∨ b = dollar ∨
        b = backquote ∨ b = newline ∨ isBlank b = true ∨ isOperator [b] = true := by
      decide
    rintro (listed | ⟨rfl, fresh⟩)
    · rcases meant b listed with read | read | read | read | read | read | read | read
      · exact notBackslash read
      · exact notSingle read
      · exact notDouble read
      · exact notDollar read
      · exact notBackquote read
      · exact notNewline read
      · exact notBlank read
      · exact notOperator read
    · rw [fresh] at notComment
      exact notComment ⟨rfl, rfl⟩

theorem Reader.pushUnquoted_meant_size {p : Progress} {b : Byte} {ended : List Token}
    {r : Reader} (meant : Meant p b) (other : b ≠ dollar)
    (done : pushUnquoted p b = .ok (ended, r)) : textsSize ended + r.size ≤ p.size := by
  rcases pushUnquoted_cases done with few | ⟨isDollar, _⟩ | ⟨ordinary, _⟩
  · exact few
  · exact absurd isDollar other
  · exact absurd meant ordinary

/-- The byte that leaves a dollar a dollar adds nothing to the words. -/
theorem Reader.push_dollar_size {p : Progress} {b : Byte} {ended : List Token} {r : Reader}
    (done : push ⟨p, .dollar⟩ b = .ok (ended, r)) : textsSize ended + r.size ≤ p.size := by
  simp only [push] at done
  split at done
  · rename_i ends
    have listed : b ∈ special ∧ b ≠ dollar := by
      simp only [isDollarEnd, isBlank, Bool.decide_or, Bool.or_eq_true, decide_eq_true_eq] at ends
      rcases ends with (rfl | rfl) | rfl
      · decide
      · decide
      · decide
    exact pushUnquoted_meant_size (.inl listed.1) listed.2 done
  · cases done

/-- A byte adds at most itself to the words. -/
theorem Reader.push_size {r r' : Reader} {b : Byte} {ended : List Token}
    (done : r.push b = .ok (ended, r')) : textsSize ended + r'.size ≤ r.size + 1 := by
  rcases r with ⟨p, quoting⟩
  cases quoting with
  | unquoted =>
    rcases pushUnquoted_cases done with few | ⟨_, same⟩ | ⟨_, same⟩
    · exact Nat.le_succ_of_le few
    · cases same
      exact Nat.le_of_eq (literal_size p [b] false (by decide))
    · cases same
      exact Nat.le_of_eq (literal_size p [b] false (by decide))
  | dollar => exact Nat.le_succ_of_le (push_dollar_size done)
  | escaped =>
    simp only [push] at done
    split at done
    · cases done
      simp [textsSize, size]
    · cases done
      exact Nat.le_of_eq (literal_size p [b] true (by decide))
  | single =>
    simp only [push] at done
    split at done
    · cases done
      simp [textsSize, size]
    · cases done
      exact Nat.le_of_eq (literal_size p [b] true (by decide))
  | double =>
    simp only [push] at done
    split at done
    · cases done
      simp [textsSize, size]
    split at done
    · cases done
      simp [textsSize, size]
    split at done
    · cases done
      exact Nat.le_of_eq (literal_size p [b] true (by decide))
    split at done
    · cases done
    · cases done
      exact Nat.le_of_eq (literal_size p [b] true (by decide))
  | doubleDollar =>
    simp only [push] at done
    split at done
    · cases done
      exact Nat.le_of_eq (literal_size p [b] true (by decide))
    · cases done
  | doubleEscaped =>
    simp only [push] at done
    split at done
    · cases done
      simp only [textsSize, size, List.flatMap_nil, List.map_nil, List.sum_nil, reduceCtorEq,
        if_false, if_true]
      omega
    split at done
    · cases done
      refine Nat.le_trans (Nat.le_of_eq (literal_size p [b] true (by decide))) ?_
      simp [size]
    · cases done
      exact Nat.le_of_eq (literal_size p [backslash, b] true (by decide))
  | comment =>
    simp only [push] at done
    split at done
    · cases done
      simp [textsSize, Token.texts, start, size, Progress.size]
    · cases done
      simp [textsSize]

theorem Reader.read_size {r r' : Reader} {text : Text} {ended : List Token}
    (done : r.read text = .ok (ended, r')) :
    textsSize ended + r'.size ≤ r.size + text.length := by
  induction text generalizing r ended with
  | nil =>
    cases done
    simp [textsSize]
  | cons b text ih =>
    rcases read_cons_iff.mp done with ⟨before, next, after, pushed, rest, rfl⟩
    have here := push_size pushed
    have later := ih rest
    rw [textsSize_append, List.length_cons]
    omega

/-! ## Bytes that stand for themselves -/

/-- An unquoted byte that stands for itself makes the word in progress longer. -/
theorem Reader.push_literal {text : Text} {quoted : Bool} {b : Byte} (ordinary : b ∉ special) :
    push ⟨.word text quoted, .unquoted⟩ b = .ok ([], ⟨.word (text ++ [b]) quoted, .unquoted⟩) := by
  simp only [special, List.mem_cons, List.not_mem_nil, or_false, not_or] at ordinary
  simp [push, pushUnquoted, Progress.extend, Progress.isWord, literal, Progress.add, isBlank,
    isOperator, operators, ordinary]

/-- It begins one if it is no hash mark. -/
theorem Reader.push_first {b : Byte} (ordinary : b ∉ special) (noComment : b ≠ hash) :
    push start b = .ok ([], ⟨.word [b] false, .unquoted⟩) := by
  simp only [special, List.mem_cons, List.not_mem_nil, or_false, not_or] at ordinary
  simp [push, start, pushUnquoted, Progress.extend, literal, Progress.add, isBlank,
    isOperator, operators, ordinary, noComment]

theorem Reader.read_literal {text text' : Text} {quoted : Bool}
    (ordinary : ∀ b ∈ text', b ∉ special) :
    read ⟨.word text quoted, .unquoted⟩ text' =
      .ok ([], ⟨.word (text ++ text') quoted, .unquoted⟩) := by
  induction text' generalizing text with
  | nil => simp [read]
  | cons b text' ih =>
    rw [List.forall_mem_cons] at ordinary
    have later : read ⟨.word (text ++ [b]) quoted, .unquoted⟩ text' = _ := ih ordinary.2
    rw [List.append_assoc] at later
    exact read_cons_iff.mpr ⟨[], _, [], push_literal ordinary.1, later, rfl⟩

/-- The text stands for itself: there is nothing in it that is read in another way, and at most
its end is a dollar. -/
def Literal (text : Text) : Prop :=
  ∃ stem, (∀ b ∈ stem, b ∉ special) ∧ (text = stem ∨ text = stem ++ [dollar])

theorem Literal.cons {b : Byte} {text : Text} (ordinary : b ∉ special) (literal : Literal text) :
    Literal (b :: text) := by
  obtain ⟨stem, plain, which⟩ := literal
  refine ⟨b :: stem, List.forall_mem_cons.mpr ⟨ordinary, plain⟩, ?_⟩
  exact which.imp (congrArg _) (congrArg _)

theorem Literal.eq_dollar {b : Byte} {text : Text} (literal : Literal text) (mem : b ∈ text)
    (meant : b ∈ special) : b = dollar := by
  obtain ⟨stem, plain, rfl | rfl⟩ := literal
  · exact absurd meant (plain b mem)
  · rcases List.mem_append.mp mem with mem | mem
    · exact absurd meant (plain b mem)
    · exact List.mem_singleton.mp mem

/-- A text that stands for itself and begins with no hash mark is read as a word. -/
theorem Reader.read_word {text : Text} (nonempty : text ≠ []) (noComment : text.head? ≠ some hash)
    (literal : Literal text) :
    ∃ quoting, (quoting = .unquoted ∨ quoting = .dollar) ∧
      start.read text = .ok ([], ⟨.word text false, quoting⟩) := by
  have whole (stem : Text) (plain : ∀ b ∈ stem, b ∉ special) (nonempty : stem ≠ [])
      (noComment : stem.head? ≠ some hash) :
      start.read stem = .ok ([], ⟨.word stem false, .unquoted⟩) := by
    cases stem with
    | nil => exact absurd rfl nonempty
    | cons b text =>
      rw [List.forall_mem_cons] at plain
      have first : b ≠ hash := fun same => noComment (congrArg some same)
      exact read_cons_iff.mpr ⟨[], _, [], push_first plain.1 first, read_literal plain.2, rfl⟩
  obtain ⟨stem, plain, rfl | rfl⟩ := literal
  · exact ⟨.unquoted, .inl rfl, whole text plain nonempty noComment⟩
  · refine ⟨.dollar, .inr rfl, ?_⟩
    cases stem with
    | nil => rfl
    | cons b stem =>
      have before := whole (b :: stem) plain (List.cons_ne_nil b stem) noComment
      exact read_append_iff.mpr ⟨[], _, [], before, rfl, rfl⟩

/-- If a text from an unquoted state on does not stand for itself, fewer bytes than it has come to
stand in words. -/
theorem Reader.read_unquoted_size {p : Progress} {text : Text} {ended : List Token} {r : Reader}
    (done : read ⟨p, .unquoted⟩ text = .ok (ended, r)) (other : ¬ Literal text) :
    textsSize ended + r.size < p.size + text.length := by
  induction text generalizing p ended with
  | nil => exact absurd ⟨[], by simp, .inl rfl⟩ other
  | cons b text ih =>
    rcases read_cons_iff.mp done with ⟨before, next, after, pushed, rest, rfl⟩
    rw [textsSize_append, List.length_cons]
    rcases pushUnquoted_cases pushed with few | ⟨rfl, same⟩ | ⟨ordinary, same⟩
    · have later := read_size rest
      change textsSize before + next.size ≤ p.size at few
      omega
    · -- behind the dollar there is a byte, and that one adds nothing
      cases same
      cases text with
      | nil => exact absurd ⟨[], by simp, .inr rfl⟩ other
      | cons c text =>
        rcases read_cons_iff.mp rest with ⟨before', next', after', pushed', rest', rfl⟩
        have added : textsSize (literal p [dollar] false .dollar).1 +
            (literal p [dollar] false .dollar).2.size = p.size + 1 :=
          literal_size p [dollar] false (by decide)
        have few := push_dollar_size pushed'
        have later := read_size rest'
        rw [textsSize_append, List.length_cons]
        simp only [literal, size] at added few later ⊢
        omega
    · cases same
      have added : textsSize (literal p [b] false .unquoted).1 +
          (literal p [b] false .unquoted).2.size = p.size + 1 :=
        literal_size p [b] false (by decide)
      have unmeant : b ∉ special := fun meant => ordinary (.inl meant)
      have later := ih rest fun literal => other (literal.cons unmeant)
      simp only [literal, size] at added later ⊢
      omega

/-- A reader that expects a quoted byte has just read a backslash. -/
theorem Reader.push_escaped {r r' : Reader} {b : Byte} {ended : List Token}
    (done : r.push b = .ok (ended, r')) (escaped : r'.quoting = .escaped) : b = backslash := by
  rcases r with ⟨p, quoting⟩
  cases quoting with
  | unquoted => grind [push, pushUnquoted, literal, start]
  | escaped => grind [push, literal]
  | dollar => grind [push, pushUnquoted, literal, start]
  | single => grind [push, literal]
  | double => grind [push, literal]
  | doubleEscaped => grind [push, literal]
  | doubleDollar => grind [push, literal]
  | comment => grind [push, start]

theorem Reader.read_escaped {r r' : Reader} {text : Text} {ended : List Token}
    (done : r.read text = .ok (ended, r')) (before : r.quoting ≠ .escaped)
    (escaped : r'.quoting = .escaped) : text.getLast? = some backslash := by
  rcases List.eq_nil_or_concat text with rfl | ⟨init, b, rfl⟩
  · cases done
    exact absurd escaped before
  · rw [List.concat_eq_append] at done ⊢
    rcases read_append_iff.mp done with ⟨_, next, _, _, last, _⟩
    rcases read_cons_iff.mp last with ⟨_, _, _, pushed, rest, _⟩
    cases rest
    rw [push_escaped pushed escaped, List.getLast?_concat]

/-! ## Texts that a quote or a comment swallows -/

theorem Reader.read_single {p : Progress} {text : Text} {ended : List Token} {r : Reader}
    (noQuote : singleQuote ∉ text) (done : read ⟨p, .single⟩ text = .ok (ended, r)) :
    r.quoting = .single := by
  induction text generalizing p ended with
  | nil =>
    cases done
    rfl
  | cons b text ih =>
    rw [List.mem_cons, not_or] at noQuote
    rcases read_cons_iff.mp done with ⟨_, next, _, pushed, rest, _⟩
    rw [push, if_neg (Ne.symm noQuote.1)] at pushed
    cases pushed
    exact ih noQuote.2 rest

/-- A byte that is no quote and no backslash leaves a quotation open. -/
theorem Reader.push_double {r r' : Reader} {b : Byte} {ended : List Token}
    (noQuote : b ≠ doubleQuote) (noBackslash : b ≠ backslash)
    (quoted : r.quoting = .double ∨ r.quoting = .doubleEscaped ∨ r.quoting = .doubleDollar)
    (done : r.push b = .ok (ended, r')) :
    r'.quoting = .double ∨ r'.quoting = .doubleEscaped ∨ r'.quoting = .doubleDollar := by
  rcases r with ⟨p, quoting⟩
  dsimp only at quoted
  rcases quoted with rfl | rfl | rfl
  · grind [push, literal]
  · grind [push, literal]
  · grind [push, literal]

theorem Reader.read_double {r r' : Reader} {text : Text} {ended : List Token}
    (noQuote : doubleQuote ∉ text) (noBackslash : backslash ∉ text)
    (quoted : r.quoting = .double ∨ r.quoting = .doubleEscaped ∨ r.quoting = .doubleDollar)
    (done : r.read text = .ok (ended, r')) :
    r'.quoting = .double ∨ r'.quoting = .doubleEscaped ∨ r'.quoting = .doubleDollar := by
  induction text generalizing r ended with
  | nil =>
    cases done
    exact quoted
  | cons b text ih =>
    rw [List.mem_cons, not_or] at noQuote noBackslash
    rcases read_cons_iff.mp done with ⟨_, next, _, pushed, rest, _⟩
    have open' := push_double (Ne.symm noQuote.1) (Ne.symm noBackslash.1) quoted pushed
    exact ih noQuote.2 noBackslash.2 open' rest

theorem Reader.read_comment {p : Progress} {text : Text} (noNewline : newline ∉ text) :
    read ⟨p, .comment⟩ text = .ok ([], ⟨p, .comment⟩) := by
  induction text with
  | nil => rfl
  | cons b text ih =>
    rw [List.mem_cons, not_or] at noNewline
    have here : push ⟨p, .comment⟩ b = .ok ([], ⟨p, .comment⟩) := by
      simp only [push, Ne.symm noNewline.1, if_false]
    exact read_cons_iff.mpr ⟨[], _, [], here, ih noNewline.2, rfl⟩

/-- An unquoted blank ends the token in progress. -/
theorem Reader.push_space (p : Progress) {quoting : Quoting}
    (unquoted : quoting = .unquoted ∨ quoting = .dollar) :
    push ⟨p, quoting⟩ space = .ok (p.delimit false, start) := by
  have alone : p.extend space = none := by
    cases p with
    | none => rfl
    | word text quoted => rfl
    | operator op =>
      have longer : isOperator (op ++ [space]) = false := by
        rw [Bool.eq_false_iff]
        intro listed
        have last : ∀ o ∈ operators, o.getLast? ≠ some space := by decide
        exact last _ (List.contains_iff_mem.mp listed) List.getLast?_concat
      simp [Progress.extend, longer]
  have ended : pushUnquoted p space = .ok (p.delimit false, start) := by
    rw [pushUnquoted, alone]
    rfl
  rcases unquoted with rfl | rfl
  · exact ended
  · exact ended

end LamaOS.Shell
