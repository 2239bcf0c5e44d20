import RoutineAtlas.Toml.Read

/-!
# TOML documents

Sections put together into one table. A table may be described once: by its heading, by dotted
names of one section, or as a value. A table that only stands on the way to another one can still
get a heading of its own, and a list of tables grows by each heading that names it.

A table whose first field has a certain name is a date: the text of that field.
-/

namespace RoutineAtlas.Toml

/-- How a table came to be. -/
inductive TableOrigin where
  /-- A heading further down leads through it. -/
  | implied
  | heading
  | dotted
deriving DecidableEq, Repr

/-- A part of a document under construction. -/
inductive Draft where
  | value (v : Toml)
  | table (origin : TableOrigin) (fields : List (Text × Draft))
  /-- The tables of a list, the last one first. -/
  | tables (items : List (List (Text × Draft)))
deriving Repr, Inhabited

/-- The fields of a table under construction. -/
abbrev Drafts := List (Text × Draft)

/-- The fields with the one called `name` set. -/
def setField (fields : Drafts) (name : Text) (d : Draft) : Drafts :=
  match fields with
  | [] => [(name, d)]
  | field :: rest =>
    if field.1 == name then (name, d) :: rest else field :: setField rest name d

/-- Put a member of a section among the fields; nothing if its place is taken. The flag says that
the table was reached by dotted names. -/
def putMember (isDotted : Bool) : List Text → Toml → TableOrigin → Drafts → Option Drafts
  | [], _, _, _ => none
  | [name], v, origin, fields =>
    if (isDotted && origin != .dotted) || (fields.lookup name).isSome then none
    else some (setField fields name (.value v))
  | name :: path, v, _, fields =>
    match fields.lookup name with
    | none => do
      return setField fields name (.table .dotted (← putMember true path v .dotted []))
    | some (.table .heading _) => none
    | some (.table origin inner) => do
      return setField fields name (.table origin (← putMember true path v origin inner))
    | some (.tables (last :: before)) => do
      return setField fields name (.tables ((← putMember true path v .heading last) :: before))
    | some _ => none

/-- Put the members of a section among the fields. -/
def putMembers (fields : Drafts) (members : List Member) : Option Drafts :=
  members.foldlM (fun fields m => putMember false m.1 m.2 .heading fields) fields

/-- Put the table of a section under its name. -/
def putTable (s : Section) (name : Text) (fields : Drafts) : Option Drafts :=
  match s.isItem, fields.lookup name with
  | false, none => do return setField fields name (.table .heading (← putMembers [] s.members))
  | false, some (.table .implied inner) => do
    return setField fields name (.table .heading (← putMembers inner s.members))
  | true, none => do return setField fields name (.tables [← putMembers [] s.members])
  | true, some (.tables items) => do
    return setField fields name (.tables ((← putMembers [] s.members) :: items))
  | _, some _ => none

/-- Put a section where its heading leads. -/
def putSection (s : Section) : List Text → Drafts → Option Drafts
  | [], fields => putMembers fields s.members
  | [name], fields => putTable s name fields
  | name :: path, fields =>
    match fields.lookup name with
    | none => do return setField fields name (.table .implied (← putSection s path []))
    | some (.table origin inner) => do
      return setField fields name (.table origin (← putSection s path inner))
    | some (.tables (last :: before)) => do
      return setField fields name (.tables ((← putSection s path last) :: before))
    | some _ => none

mutual

/-- The finished value of a part. -/
def Draft.finish : Draft → Toml
  | .value v => v
  | .table _ fields => .table (Draft.finishFields fields)
  | .tables items => .array (Draft.finishItems items [])

/-- The finished fields of a table. -/
def Draft.finishFields : List (Text × Draft) → List (Text × Toml)
  | [] => []
  | (name, d) :: rest => (name, d.finish) :: Draft.finishFields rest

/-- The finished tables of a list, before those that are done. -/
def Draft.finishItems : List (List (Text × Draft)) → List Toml → List Toml
  | [], done => done
  | fields :: before, done => Draft.finishItems before (.table (Draft.finishFields fields) :: done)

end

/-- The name of the field that makes a table a date. -/
def dateField : Text :=
  "$__toml_private_datetime".toList

/-- The date that some text is. -/
def dateOf? (v : Toml) : Option Toml :=
  match v with
  | .string t => (dateTime? .ofText t).map .date
  | _ => none

mutual

/-- The value with the tables in it that are dates; nothing if one of them is none. -/
def withDates? : Toml → Option Toml
  | .array items => (itemsWithDates? items).map .array
  | .table fields =>
    match fields with
    | [] => some (.table [])
    | (name, v) :: rest => do
      if name == dateField then dateOf? v
      else return .table ((name, ← withDates? v) :: (← fieldsWithDates? rest))
  | .string t => some (.string t)
  | .int n => some (.int n)
  | .float x => some (.float x)
  | .bool b => some (.bool b)
  | .date t => some (.date t)

/-- The items of an array with the tables in them that are dates. -/
def itemsWithDates? : List Toml → Option (List Toml)
  | [] => some []
  | v :: rest => do return (← withDates? v) :: (← itemsWithDates? rest)

/-- The fields of a table with the tables in them that are dates. -/
def fieldsWithDates? : List (Text × Toml) → Option (List (Text × Toml))
  | [] => some []
  | (name, v) :: rest => do return (name, ← withDates? v) :: (← fieldsWithDates? rest)

end

/-- The fields of the document that a text is; nothing if it is none. -/
def read? (t : Text) : Option (List (Text × Toml)) := do
  let fields ← (← sections? t).foldlM (fun fields s => putSection s s.path fields) []
  match ← withDates? (.table (Draft.finishFields fields)) with
  | .table fields => some fields
  | _ => none

end RoutineAtlas.Toml
