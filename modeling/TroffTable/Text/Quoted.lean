import TroffTable.Text.Printable
import TroffTable.Text.Numeral

/-! Quoted text, as it is shown in messages and outlines. The quotes are single
unless the text holds single quotes and no double ones. The quote in use, the
backslash and every character without a visible form are escaped. -/

namespace TroffTable

def quoteFor (s : List Char) : Char :=
  if s.contains '\'' && !s.contains '"' then '"' else '\''

def escapeChar (quote c : Char) : List Char :=
  if c = quote || c = '\\' then ['\\', c]
  else if c = '\n' then ['\\', 'n']
  else if c = '\r' then ['\\', 'r']
  else if c = '\t' then ['\\', 't']
  else if isPrintable c then [c]
  else if c.toNat < 0x100 then '\\' :: 'x' :: hexDigits c.toNat 2
  else if c.toNat < 0x10000 then '\\' :: 'u' :: hexDigits c.toNat 4
  else '\\' :: 'U' :: hexDigits c.toNat 8

def quoted (s : List Char) : List Char :=
  quoteFor s :: (s.flatMap (escapeChar (quoteFor s)) ++ [quoteFor s])

/-- Quoted bytes: those that are no visible ASCII characters are escaped. -/
def quotedBytes (data : List UInt8) : List Char :=
  let s := data.map fun byte => Char.ofNat byte.toNat
  let shown := s.flatMap fun c =>
    if c.toNat < 0x7f then escapeChar (quoteFor s) c else '\\' :: 'x' :: hexDigits c.toNat 2
  'b' :: quoteFor s :: (shown ++ [quoteFor s])

end TroffTable
