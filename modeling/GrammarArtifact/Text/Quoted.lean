import GrammarArtifact.Unicode.Table

/-! # Quoted text in messages

A message quotes a piece of the document so that every character of it can be seen: what a display
would not show, or would draw onto the character before, is written as its code point. -/

namespace GrammarArtifact

def hexText (n : Nat) : String := String.ofList (Nat.toDigits 16 n)

/-- One character as it stands between quotes. -/
def quotedChar (c : Char) : String :=
  match c with
  | '\x00' => "\\0"
  | '\t' => "\\t"
  | '\r' => "\\r"
  | '\n' => "\\n"
  | '"' => "\\\""
  | '\\' => "\\\\"
  | c =>
    let code := c.toNat
    if 0x20 ≤ code ∧ code < 0x7F then c.toString
    else if Unicode.graphemeExtend.contains code || Unicode.unprintable.contains code then
      "\\u\x7b" ++ hexText code ++ "\x7d"
    else c.toString

def quoted (text : String) : String :=
  "\"" ++ String.join (text.toList.map quotedChar) ++ "\""

end GrammarArtifact
