/-! White space: the ASCII blanks and separators, and the spaces of Unicode. The
zero-width space and the byte order mark are not blank. -/

namespace TroffTable

def isBlank (c : Char) : Bool :=
  c == ' ' || ('\t' ≤ c && c ≤ '\r') || ('\x1c' ≤ c && c ≤ '\x1f') ||
    c == '\u0085' || c == '\u00a0' || c == '\u1680' || ('\u2000' ≤ c && c ≤ '\u200a') ||
    c == '\u2028' || c == '\u2029' || c == '\u202f' || c == '\u205f' || c == '\u3000'

def trimRight (s : List Char) : List Char :=
  (s.reverse.dropWhile isBlank).reverse

def trim (s : List Char) : List Char :=
  trimRight (s.dropWhile isBlank)

end TroffTable
