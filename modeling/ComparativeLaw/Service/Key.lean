import ComparativeLaw.Policy

namespace ComparativeLaw.Key

def development : String := "dev-key"

def listName : String := "LEXC_API_KEYS"

/-- The keys in a list with commas between them, trimmed, in increasing order. -/
def ofList (s : String) : List String :=
  let keys := (Text.pieces ',' s.toList).map fun k => Text.strip (String.ofList k)
  ((keys.filter fun k => !k.isEmpty).eraseDups).mergeSort Text.precedes

def allowed (env : Environment) : List String :=
  match ofList ((env.get? listName).getD "") with
  | [] => [development]
  | keys => keys

end ComparativeLaw.Key
