import WorkloadScaling.Text.Printable
import WorkloadScaling.Text.Combining

/-!
# Quoted text in messages

A text quoted in a message is closed in double quotes and shows every character that would not
be seen: the quote, the backslash and four controls get a short escape, other characters without
a visible form and combining marks their code point in hexadecimal.
-/
namespace WorkloadScaling.Text

def codePoint (c : Char) : List Char :=
  ['\\', 'u', '\x7b'] ++ Nat.toDigits 16 c.toNat ++ ['\x7d']

def quotedChar (c : Char) : List Char :=
  if c = '"' then ['\\', '"']
  else if c = '\\' then ['\\', '\\']
  else if c = '\n' then ['\\', 'n']
  else if c = '\r' then ['\\', 'r']
  else if c = '\t' then ['\\', 't']
  else if c = Char.ofNat 0 then ['\\', '0']
  else if isPrintable c && !isCombining c then [c]
  else codePoint c

def quotedChars (s : List Char) : List Char := '"' :: (s.flatMap quotedChar ++ ['"'])

def quoted (s : String) : String := String.ofList (quotedChars s.toList)

end WorkloadScaling.Text
