import Templating.Value

/-!
# Keys of mappings

Two keys are the same if they are equal as values: numbers are compared by value across their
types, the truth values counting as one and zero. Lists, mappings and changeable byte strings
cannot be keys. A mapping is built entry by entry; a later entry with a key that is already there
takes over its place and its first spelling.
-/

namespace Templating.Value

/-- The whole number that a value is equal to, if there is one. -/
def wholeNumber? : Value → Option Int
  | .bool b => some (if b then 1 else 0)
  | .int n => some n
  | .float x => x.toInt?
  | _ => Option.none

mutual

/-- Whether two keys are the same. Objects and functions are never the same as another one. -/
def sameKey : Value → Value → Bool
  | .none, .none => true
  | .float x, .float y => x.eqv y
  | .text s, .text t => s == t
  | .bytes bs, .bytes cs => bs == cs
  | .tuple xs, .tuple ys => sameKeys xs ys
  | .range r, .range s => r.isAlike s
  | .date a b c, .date d e f => a == d && b == e && c == f
  | .dateTime m, .dateTime n => m.isSame n
  | v, w => match v.wholeNumber?, w.wholeNumber? with
    | some m, some n => m == n
    | _, _ => false

/-- Whether two lists of keys are the same, one by one. -/
def sameKeys : List Value → List Value → Bool
  | [], [] => true
  | x :: xs, y :: ys => x.sameKey y && sameKeys xs ys
  | _, _ => false

end

mutual

/-- The type that keeps a value from being a key, if there is one. -/
def unfitKey? : Value → Option String
  | .list _ => some "list"
  | .callableList _ _ => some "list"
  | .mapping _ => some "dict"
  | .buffer _ => some "bytearray"
  | .tuple items => unfitKeyIn? items
  | _ => Option.none

/-- The type that keeps a tuple of values from being a key, if there is one. -/
def unfitKeyIn? : List Value → Option String
  | [] => Option.none
  | v :: vs => v.unfitKey? <|> unfitKeyIn? vs

end

/-- Whether a mapping with these entries has the key. -/
def hasKey (entries : List (Value × Value)) (key : Value) : Bool :=
  entries.any (·.1.sameKey key)

/-- Sets the value of a key, at its place if it has one and at the end if not. -/
def setKey (entries : List (Value × Value)) (key value : Value) : List (Value × Value) :=
  match entries with
  | [] => [(key, value)]
  | (k, v) :: rest =>
    if k.sameKey key then (k, value) :: rest else (k, v) :: setKey rest key value

/-- The entries of a mapping to which pairs are added in order. -/
def setKeys (entries pairs : List (Value × Value)) : List (Value × Value) :=
  pairs.foldl (fun entries pair => setKey entries pair.1 pair.2) entries

/-- The mapping with the given pairs. -/
def ofPairs (pairs : List (Value × Value)) : Value :=
  .mapping (setKeys [] pairs)

/-- The value that a mapping has under a text. -/
def atText? (entries : List (Value × Value)) (name : String) : Option Value :=
  (entries.find? (·.1.sameKey (.text name))).map (·.2)

end Templating.Value
