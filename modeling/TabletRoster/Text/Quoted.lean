import TabletRoster.Text.Numeral

namespace TabletRoster.Text

/-- Controls, separators other than the blank, format characters, combining marks of the common
blocks, private use and code points that stand for no character. -/
def isHidden (c : Char) : Bool :=
  let n := c.toNat
  n < 0x20 || (0x7F ≤ n && n ≤ 0xA0) || n == 0xAD || (0x300 ≤ n && n ≤ 0x36F) ||
  (0x483 ≤ n && n ≤ 0x489) || (0x591 ≤ n && n ≤ 0x5BD) || (0x600 ≤ n && n ≤ 0x605) ||
  (0x610 ≤ n && n ≤ 0x61A) || n == 0x61C || (0x64B ≤ n && n ≤ 0x65F) || n == 0x70F ||
  n == 0x1680 || n == 0x180E || (0x1AB0 ≤ n && n ≤ 0x1AFF) || (0x1DC0 ≤ n && n ≤ 0x1DFF) ||
  (0x2000 ≤ n && n ≤ 0x200F) || (0x2028 ≤ n && n ≤ 0x202F) || (0x205F ≤ n && n ≤ 0x206F) ||
  (0x20D0 ≤ n && n ≤ 0x20F0) || n == 0x3000 || (0xE000 ≤ n && n ≤ 0xF8FF) ||
  (0xFE00 ≤ n && n ≤ 0xFE0F) || (0xFE20 ≤ n && n ≤ 0xFE2F) || n == 0xFEFF ||
  (0xFFF0 ≤ n && n ≤ 0xFFFB) || n % 0x10000 ≥ 0xFFFE || 0xE0000 ≤ n

def quoteChar (c : Char) : List Char :=
  if c = '"' ∨ c = '\\' then ['\\', c]
  else if c = '\x00' then ['\\', '0']
  else if c = '\t' then ['\\', 't']
  else if c = '\n' then ['\\', 'n']
  else if c = '\r' then ['\\', 'r']
  else if isHidden c then ['\\', 'u', '{'] ++ Nat.toDigits 16 c.toNat ++ ['}']
  else [c]

def quoted (text : String) : String :=
  String.ofList ('"' :: text.toList.flatMap quoteChar ++ ['"'])

end TabletRoster.Text
