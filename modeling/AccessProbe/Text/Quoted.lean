import AccessProbe.Text.UnprintableTable

/-! Strings in messages, quoted and escaped. -/

namespace AccessProbe

/-- A character within quotes. -/
def quotedChar (c : Char) : List Char :=
  match c with
  | '\x00' => ['\\', '0']
  | '\t' => ['\\', 't']
  | '\r' => ['\\', 'r']
  | '\n' => ['\\', 'n']
  | '"' => ['\\', '"']
  | '\\' => ['\\', '\\']
  | c =>
    -- Control characters, separators and unassigned code points are escaped, letters beyond ASCII are not.
    if (c.toNat < 0x20 || 0x7E < c.toNat) && unprintable.contains c then
      "\\u\x7b".toList ++ Nat.toDigits 16 c.toNat ++ ['\x7d']
    else [c]

/-- A string in double quotes. -/
def quoted (text : String) : String :=
  String.ofList ('"' :: text.toList.flatMap quotedChar ++ ['"'])

end AccessProbe
