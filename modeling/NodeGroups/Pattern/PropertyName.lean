import NodeGroups.Pattern.Syntax
import NodeGroups.Text.Unicode.Script

set_option autoImplicit false

namespace NodeGroups.Pattern

open Text (CharSet)

/-- A name in the form in which names are compared. -/
def normalName (name : String) : String :=
  let isSeparator := fun c : Char => c == ' ' || c == '_' || c == '-'
  let normal := fun cs : List Char =>
    (cs.filter fun c => !isSeparator c && c.toNat < 0x80).map Char.toLower
  match name.toList with
  | i :: s :: cs =>
    if i.toLower = 'i' ∧ s.toLower = 's' then
      let rest := normal cs
      String.ofList (if rest = ['c'] then ['i', 's', 'c'] else rest)
    else String.ofList (normal (i :: s :: cs))
  | cs => String.ofList (normal cs)

def categoryChars? (name : String) : Option CharSet :=
  if name = "any" then some .all
  else if name = "assigned" then some Text.Category.assigned
  else if name = "ascii" then some ⟨#[(0, 0x7F)]⟩
  else Text.Category.named.lookup name

/-- The characters under a name in a list of tables. -/
def tableChars? (tables : List Text.Script.Table) (name : String) : Option CharSet :=
  (tables.find? fun t => t.names.contains name).map (·.chars)

def scriptChars? (name : String) : Option CharSet := tableChars? Text.Script.tables name

def scriptUse? (name : String) : Option CharSet :=
  (tableChars? Text.Script.extended name).or (scriptChars? name)

/-- The characters of a property, category or script, in that order; three names are never those of
properties. -/
def namedChars? (name : String) : Option CharSet :=
  let property :=
    if name = "cf" ∨ name = "sc" ∨ name = "lc" then none else Text.Property.named.lookup name
  property.or ((categoryChars? name).or (scriptChars? name))

def valueChars? (property value : String) : Option CharSet :=
  if property = "gc" ∨ property = "generalcategory" then categoryChars? value
  else if property = "sc" ∨ property = "script" then scriptChars? value
  else if property = "scx" ∨ property = "scriptextensions" then scriptUse? value
  else none

def PropertyQuery.chars? : PropertyQuery → Option CharSet
  | .name n => namedChars? (normalName n)
  | .value property v => valueChars? (normalName property) (normalName v)

end NodeGroups.Pattern
