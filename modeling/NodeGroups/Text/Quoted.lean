import NodeGroups.Text.Unicode.Category
import NodeGroups.Text.Unicode.Property

set_option autoImplicit false

namespace NodeGroups.Text.Quoted

/-- Characters without a visible form of their own. -/
def invisible : CharSet :=
  Category.unionOf [Category.other, Category.separator.diff (.single ' '), Property.graphemeExtend]

def escape (c : Char) : List Char :=
  if c = '"' then ['\\', '"']
  else if c = '\\' then ['\\', '\\']
  else if c = '\n' then ['\\', 'n']
  else if c = '\r' then ['\\', 'r']
  else if c = '\t' then ['\\', 't']
  else if c = '\x00' then ['\\', '0']
  else if invisible.contains c then
    ['\\', 'u', '\x7b'] ++ Nat.toDigits 16 c.toNat ++ ['\x7d']
  else [c]

def quote (s : String) : String :=
  String.ofList ('"' :: s.toList.flatMap escape ++ ['"'])

end NodeGroups.Text.Quoted
