import FeaturePipeline.Text.Printable

/-! Quoted texts: a text between double quotes in which every character that would not show,
or would end the quotation, is escaped. -/
namespace FeaturePipeline.Text

def shortEscape? (c : Char) : Option Char :=
  if c = '\x00' then some '0'
  else if c = '\t' then some 't'
  else if c = '\n' then some 'n'
  else if c = '\r' then some 'r'
  else if c = '\x22' then some '\x22'
  else if c = '\\' then some '\\'
  else none

/-- One character inside the quotes. A concealed one is written by its number in lower case
hexadecimal digits. -/
def escape (c : Char) : List Char :=
  match shortEscape? c with
  | some e => ['\\', e]
  | none => if isConcealed c then '\\' :: 'u' :: '\x7b' :: Nat.toDigits 16 c.toNat ++ ['\x7d'] else [c]

def quote (s : String) : String :=
  String.ofList ('\x22' :: s.toList.flatMap escape ++ ['\x22'])

end FeaturePipeline.Text
