import RoutineAtlas.Json.Print
import RoutineAtlas.Text.Quoted
import RoutineAtlas.Url

/-!
# Shapes of parameters

What the parameters of a message have to look like. `Shape.fit` brings a value into its normal form,
in which every record is an object with the members that its shape lists, or says what is wrong with
it.

A record is an object, and members that its shape does not list are ignored. It may also be an array
of its members in their order. Of several things wrong with an object the members that are there
come first, in the order of their names, and then those that are missing, in the order of the
shape.
-/

namespace RoutineAtlas

/-- The shape of a JSON value. -/
inductive Shape where
  | any
  | string
  | bool
  /-- A natural number of 32 bits. -/
  | unsigned
  /-- A whole number of 32 bits. -/
  | signed
  | number
  | url
  | list (item : Shape)
  | pair (item : Shape)
  /-- A value that may be null, or missing in an object. -/
  | optional (shape : Shape)
  /-- A value that may be missing, in an array too. -/
  | defaulted (shape : Shape)
  /-- A value, or a truth value or null in its place. -/
  | flagOr (shape : Shape)
  /-- One of some words. -/
  | word (choices : List String)
  /-- A value of one of some shapes. -/
  | choice (name : String) (options : List Shape)
  /-- A record whose sort one of its members names. -/
  | tagged (tag : String) (options : List (String × Shape))
  /-- An object whose members all have one shape. Their names may have to be URLs. -/
  | map (wanted : String) (hasUrls : Bool) (item : Shape)
  | record (name : String) (members : List (String × Shape))
  /-- A record with the members of further records among its own; it has to be an object. -/
  | spread (name : String) (members : List (String × Shape)) (parts : List Shape)
  /-- A record whose further members all have one shape; it has to be an object. -/
  | loose (name : String) (members : List (String × Shape)) (item : Shape)
deriving Repr, Inhabited

namespace Shape

/-! ## Messages -/

/-- What a value is, for a message on a misfit. -/
def describe : Json → String
  | .null => "null"
  | .bool b => "boolean `" ++ toString b ++ "`"
  | .int n => "integer `" ++ toString n ++ "`"
  | .float x => "floating point `" ++ String.ofList x.scientificText ++ "`"
  | .string s => "string " ++ String.ofList (Text.quoted s.toList)
  | .array _ => "sequence"
  | .object _ => "map"

/-- The message on a value of the wrong kind. -/
def wrongKind (v : Json) (wanted : String) : String :=
  "invalid type: " ++ describe v ++ ", expected " ++ wanted

/-- The message on a value of the right kind that is still refused. -/
def wrongValue (v : Json) (wanted : String) : String :=
  "invalid value: " ++ describe v ++ ", expected " ++ wanted

/-- The message on a list of the wrong length. -/
def wrongLength (length : Nat) (wanted : String) : String :=
  "invalid length " ++ toString length ++ ", expected " ++ wanted

/-- A number of elements. -/
def elements (n : Nat) : String :=
  if n == 1 then "1 element" else toString n ++ " elements"

/-- Some words as a message lists them. -/
def choicesText (choices : List String) : String :=
  match choices.map fun c => "`" ++ c ++ "`" with
  | [] => "there are no variants"
  | [a] => "expected " ++ a
  | [a, b] => "expected " ++ a ++ " or " ++ b
  | all => "expected one of " ++ ", ".intercalate all

/-! ## Values without parts -/

/-- A value that is accepted as it is. -/
def accept (accepted : Bool) (v : Json) (wanted : String) : Except String Json :=
  if accepted then .ok v else .error (wrongKind v wanted)

/-- A whole number from `low` up to `high`. -/
def fitInteger (low high : Int) (wanted : String) (v : Json) : Except String Json :=
  match v with
  | .int n => if low ≤ n && n < high then .ok v else .error (wrongValue v wanted)
  | _ => .error (wrongKind v wanted)

/-- A URL. -/
def fitUrl (v : Json) : Except String Json :=
  match v with
  | .string s =>
    match Url.ofText s.toList with
    | .ok _ => .ok v
    | .error e => .error (e.message ++ ": " ++ String.ofList (Text.quoted s.toList))
  | _ => .error (wrongKind v "a string representing an URL")

/-- A word, which may also be written as an object with the word for a name and nothing for a value.
A value that is `held` while others are read may have an empty object there. -/
def fitWord (held : Bool) (choices : List String) (v : Json) : Except String Json :=
  let known (s : String) : Except String Json :=
    if choices.contains s then .ok (.string s)
    else .error ("unknown variant `" ++ s ++ "`, " ++ choicesText choices)
  match v with
  | .string s => known s
  | .object [(s, .null)] => known s
  | .object [(s, w)] => do
    let word ← known s
    match w with
    | .object [] => if held then return word else throw (wrongKind w "unit")
    | _ => throw (wrongKind w "unit")
  | .object _ => .error (wrongValue v "map with a single key")
  | _ => .error (wrongKind v "string or map")

/-! ## Records -/

/-- What has become of a member of a record. -/
inductive MemberFit where
  | fits (name : String) (value : Json)
  | misfit (name message : String)
  | missing (name : String)
  /-- The member is missing, and may be. -/
  | absent

/-- The members of a record, given in the order of its shape, or the message on the first that is
wrong. -/
def gather (found : List MemberFit) : Except String (List (String × Json)) :=
  let misfits := found.filterMap fun f => match f with
    | .misfit name message => some (name, message)
    | _ => none
  let missing := found.filterMap fun f => match f with
    | .missing name => some name
    | _ => none
  match misfits.mergeSort fun a b => decide (a.1 ≤ b.1), missing with
  | first :: _, _ => .error first.2
  | [], name :: _ => .error ("missing field `" ++ name ++ "`")
  | [], [] => .ok (found.filterMap fun f => match f with
    | .fits name value => some (name, value)
    | _ => none)

/-- A member of an object may be missing. -/
def mayMiss : Shape → Bool
  | optional _ => true
  | defaulted _ => true
  | _ => false

/-- A member of an array may be missing. -/
def mayEnd : Shape → Bool
  | defaulted _ => true
  | _ => false

/-- The message on an array with more items than the `count` that a record takes. -/
def tooLong (held : Bool) (length count : Nat) : String :=
  wrongLength length (if held then elements count ++ " in sequence" else "fewer elements in array")

mutual

/-- A value in the normal form of a shape, or what is wrong with it. A value is `held` if it is kept
while others are read; messages on arrays that are too long tell the difference. -/
def fit (held : Bool) : Shape → Json → Except String Json
  | any, v => .ok v
  | string, v => accept v.string?.isSome v "a string"
  | bool, v => accept v.bool?.isSome v "a boolean"
  | unsigned, v => fitInteger 0 4294967296 "u32" v
  | signed, v => fitInteger (-2147483648) 2147483648 "i32" v
  | number, v =>
    match v with
    | .int _ => .ok v
    | .float _ => .ok v
    | _ => .error (wrongKind v "f32")
  | url, v => fitUrl v
  | list item, v =>
    match v with
    | .array items => (items.mapM fun w => fit held item w).map .array
    | _ => .error (wrongKind v "a sequence")
  | pair item, v =>
    match v with
    | .array [a, b] => do return .array [← fit held item a, ← fit held item b]
    | _ => .error (wrongKind v "an array of length 2")
  | optional shape, v =>
    match v with
    | .null => .ok .null
    | _ => fit held shape v
  | defaulted shape, v => fit held shape v
  | flagOr shape, v =>
    match v with
    | .null => .ok v
    | .bool _ => .ok v
    | _ => fit false shape v
  | word choices, v => fitWord held choices v
  | choice name options, v =>
    if fitsOne options v then .ok v
    else .error ("data did not match any variant of untagged enum " ++ name)
  | tagged tag options, v =>
    match v with
    | .object _ => fitTagged 0 options ((v.get? tag).getD .null) v
    | .array (sort :: items) => fitTagged 0 options sort (.array items)
    | _ => .error (wrongKind v "a map")
  | map wanted hasUrls item, v =>
    match v with
    | .object fields => do
      let fields ← fields.mapM fun field => do
        if hasUrls then let _ ← fitUrl (.string field.1)
        return (field.1, ← fit held item field.2)
      return .object fields
    | _ => .error (wrongKind v wanted)
  | record name members, v =>
    match v with
    | .object _ => do return .object (← gather (fitMembers held members v))
    | .array items => do
      let wanted := "struct " ++ name ++ " with " ++ elements members.length
      return .object (← fitItems held wanted 0 members items)
    | _ => .error (wrongKind v ("struct " ++ name))
  | spread name members parts, v =>
    match v with
    | .object _ => do
      let own ← gather (fitMembers held members v)
      return .object (own ++ (← fitParts parts v))
    | _ => .error (wrongKind v ("struct " ++ name))
  | loose name members item, v =>
    match v with
    | .object fields => do
      let own ← gather (fitMembers held members v)
      let further := fields.filter fun field => !(members.map (·.1)).contains field.1
      let further ← further.mapM fun field => do return (field.1, ← fit true item field.2)
      return .object (own ++ further)
    | _ => .error (wrongKind v ("struct " ++ name))

/-- The members of an object that a record has. -/
def fitMembers (held : Bool) : List (String × Shape) → Json → List MemberFit
  | [], _ => []
  | (name, shape) :: rest, v =>
    let found : MemberFit := match v.get? name with
      | some member =>
        match fit held shape member with
        | .ok value => .fits name value
        | .error message => .misfit name message
      | none => if shape.mayMiss then .absent else .missing name
    found :: fitMembers held rest v

/-- The items of an array as the members of a record, the first `index` of which have been read. -/
def fitItems (held : Bool) (wanted : String) (index : Nat) :
    List (String × Shape) → List Json → Except String (List (String × Json))
  | [], [] => .ok []
  | [], v :: items => .error (tooLong held (index + (v :: items).length) index)
  | (_, shape) :: rest, [] =>
    if shape.mayEnd then fitItems held wanted (index + 1) rest []
    else .error (wrongLength index wanted)
  | (name, shape) :: rest, v :: items => do
    let value ← fit held shape v
    return (name, value) :: (← fitItems held wanted (index + 1) rest items)

/-- The members of further records among those of an object. -/
def fitParts : List Shape → Json → Except String (List (String × Json))
  | [], _ => .ok []
  | part :: rest, v => do
    match ← fit true part v with
    | .object fields => return fields ++ (← fitParts rest v)
    | _ => fitParts rest v

/-- The value has one of some shapes. -/
def fitsOne : List Shape → Json → Bool
  | [], _ => false
  | option :: rest, v =>
    match fit true option v with
    | .ok _ => true
    | .error _ => fitsOne rest v

/-- A record of the sort that is named, by its name or its place among the sorts. -/
def fitTagged (index : Nat) : List (String × Shape) → Json → Json → Except String Json
  | [], sort, _ => .error (wrongKind sort "a sort")
  | (name, shape) :: rest, sort, v =>
    if sort.string? == some name || sort.nat? == some index then fit true shape v
    else fitTagged (index + 1) rest sort v

end

end Shape

end RoutineAtlas
