import TableAtlas.Text.Digits

/-!
# JSON values

Numbers are whole. Objects keep their fields in order.
-/

namespace TableAtlas

inductive Json where
  | null
  | bool (b : Bool)
  | number (n : Int)
  | string (s : String)
  | array (xs : List Json)
  | object (fields : List (String × Json))
  deriving Inhabited

namespace Json

def get? (j : Json) (name : String) : Option Json :=
  match j with
  | object fields => fields.lookup name
  | _ => none

mutual

/-- The value with the fields of every object sorted by name. -/
def sorted : Json → Json
  | array xs => array (sortedList xs)
  | object fields => object ((sortedFields fields).mergeSort fun a b => decide (a.1 ≤ b.1))
  | j => j

def sortedList : List Json → List Json
  | [] => []
  | x :: xs => x.sorted :: sortedList xs

def sortedFields : List (String × Json) → List (String × Json)
  | [] => []
  | (name, x) :: fields => (name, x.sorted) :: sortedFields fields

end

end Json

end TableAtlas
