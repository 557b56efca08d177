import ServerSetup.Text.Blank

/-!
# Tokens of a command line

A command line is cut at blank characters that stand outside double quotes. A quote only switches
between inside and outside: it may stand anywhere in a token, there are no escapes, and a quote that
is never closed reaches to the end of the line.
-/

namespace ServerSetup.CommandLine

open ServerSetup.Text

/-- One argument of a command line. -/
structure Token where
  /-- What is written, quotes included. -/
  raw : List Char
  /-- The value: the characters collected for it, which are those that are no quotes. -/
  chars : List Char
deriving DecidableEq

namespace Token

/-- The value of a token as a string. -/
def text (t : Token) : String := String.ofList t.chars

/-- The token being read, if one is, with one more character: a quote too starts a token and is part
of what is written, but it is not collected. -/
def extend (reading : Option Token) (c : Char) : Token :=
  let t := reading.getD ⟨[], []⟩
  { raw := t.raw ++ [c], chars := if c = '"' then t.chars else t.chars ++ [c] }

end Token

/-- Reads a token up to a blank character outside quotes, then those behind it. -/
def tokensFrom (quoted : Bool) (reading : Option Token) : List Char → List Token
  | [] => reading.toList
  | c :: rest =>
    if isBlank c && !quoted then reading.toList ++ tokensFrom false none rest
    else tokensFrom (if c = '"' then !quoted else quoted) (some (.extend reading c)) rest

/-- The tokens of a command line, in order. -/
def tokens (line : List Char) : List Token := tokensFrom false none line

/-- Tokens as they were written, with one space between neighbours. -/
def joined (ts : List Token) : String :=
  String.intercalate " " (ts.map fun t => String.ofList t.raw)

/-- Puts a value into quotes if it contains a blank character, so that it stays one token. A value
that starts with a quote is taken as already quoted. -/
def asOneToken (value : String) : String :=
  if value.toList.any isBlank && value.toList.head? != some '"' then "\"" ++ value ++ "\""
  else value

end ServerSetup.CommandLine
