import StepLatency.Text.GraphemeExtend
import StepLatency.Text.Unprintable

/-!
# Quoted text

Text between double quotes in which every character can be told from its neighbours: quotes,
backslashes and line breaks are escaped by name, and what has no printed form of its own is spelled
by its code point.
-/

namespace StepLatency.Text

def hexDigits (n : Nat) : String := String.ofList (Nat.toDigits 16 n)

def spelled (c : Char) : String := "\\u\x7b" ++ hexDigits c.toNat ++ "\x7d"

def quotedChar (c : Char) : String :=
  if c = '\x00' then "\\0"
  else if c = '\t' then "\\t"
  else if c = '\r' then "\\r"
  else if c = '\n' then "\\n"
  else if c = '\\' then "\\\\"
  else if c = '"' then "\\\""
  else if isGraphemeExtend c || isUnprintable c then spelled c
  else c.toString

def quoted (s : String) : String := "\"" ++ s.foldl (fun text c => text ++ quotedChar c) "" ++ "\""

end StepLatency.Text
