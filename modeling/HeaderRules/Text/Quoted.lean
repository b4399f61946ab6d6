import HeaderRules.Text.Word
/-!
# Quoted text

How a text is shown inside a message or a nested value: between quotes, on one line, with every
character that does not print written as an escape.
-/

namespace HeaderRules.Text

def digitsPadded (base width n : Nat) : List Char :=
  let digits := Nat.toDigits base n
  List.replicate (width - digits.length) '0' ++ digits

/-- The quote around a text: an apostrophe, or a double quote when the text holds apostrophes and
no double quote. -/
def quoteFor (s : List Char) : Char :=
  if s.contains '\'' && !s.contains '"' then '"' else '\''

def quoteChar (quote c : Char) : List Char :=
  if c = quote ∨ c = '\\' then ['\\', c]
  else if c = '\t' then ['\\', 't']
  else if c = '\n' then ['\\', 'n']
  else if c = '\r' then ['\\', 'r']
  else if isPrintable c then [c]
  else if c.toNat < 0x100 then '\\' :: 'x' :: digitsPadded 16 2 c.toNat
  else if c.toNat < 0x10000 then '\\' :: 'u' :: digitsPadded 16 4 c.toNat
  else '\\' :: 'U' :: digitsPadded 16 8 c.toNat

def quoted (s : String) : String :=
  let quote := quoteFor s.toList
  String.ofList (quote :: (s.toList.flatMap (quoteChar quote) ++ [quote]))

/-- Bytes between quotes: as text, with every byte that is not printable ASCII as an escape. -/
def quotedBytes (bytes : List UInt8) : String :=
  let chars := bytes.map fun b => Char.ofNat b.toNat
  let quote := quoteFor chars
  let one (c : Char) : List Char :=
    if c.toNat < 0x80 then quoteChar quote c else '\\' :: 'x' :: digitsPadded 16 2 c.toNat
  String.ofList (quote :: (chars.flatMap one ++ [quote]))

end HeaderRules.Text
