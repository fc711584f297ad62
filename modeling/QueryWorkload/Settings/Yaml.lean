import QueryWorkload.Settings.Fields
import QueryWorkload.Yaml.Document
import QueryWorkload.Yaml.Schema

set_option autoImplicit false

namespace QueryWorkload

open Yaml

namespace FieldReader

def yamlText (d : Document) (v : Node) : Option String :=
  match d.resolve v with
  | some (.scalar _ _ text) => some text
  | _ => none

/-- The text of a plain scalar, or of a literal one with the given tag. -/
def yamlTyped (d : Document) (tag : Tag) (v : Node) : Option String :=
  match d.resolve v with
  | some (.scalar _ .plain text) => some text
  | some (.scalar p .literal text) => if p.tag = some tag then some text else none
  | _ => none

def yamlChoice (d : Document) (v : Node) : Option String :=
  match d.resolve v with
  | some (.scalar p style text) =>
    match p.tag.bind Tag.localName? with
    | some name => if style = .plain ∧ (text = "" ∨ Schema.isNull text) then some name else none
    | none => some text
  | _ => none

/-- Whether a value is none; a value with the tag for none has to be. -/
def yamlAbsent (d : Document) (v : Node) : Option Bool :=
  match d.resolve v with
  | some (.scalar p .plain text) =>
    match p.tag with
    | some tag =>
      if tag = Schema.nullTag then (if Schema.isNull text then some true else none) else some false
    | none => some (text = "" || Schema.isNull text)
  | _ => some false

/-- The entries of a mapping with texts as keys. An empty plain scalar has no entries. -/
def yamlMembers (d : Document) (v : Node) : Option (List (String × Node)) :=
  match d.resolve v with
  | some (.mapping _ entries) => entries.mapM fun e => (yamlText d e.1).map fun k => (k, e.2)
  | some (.scalar _ .plain text) => if text = "" then some [] else none
  | _ => none

def yaml (d : Document) : FieldReader Node :=
  { text := yamlText d
    number := fun v => (yamlTyped d Schema.numberTag v).bind Schema.number?
    flag := fun v => (yamlTyped d Schema.flagTag v).bind Schema.flag?
    choice := yamlChoice d
    absent := yamlAbsent d
    members := fun _ => yamlMembers d }

end FieldReader

namespace Settings

def ofYaml? (text : String) : Option Settings := do
  let d ← Document.read text
  match d.root with
  | none => some standard
  | some root => (FieldReader.yaml d).settings root

end Settings

end QueryWorkload
