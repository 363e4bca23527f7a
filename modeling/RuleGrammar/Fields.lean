/-!
Owns values bound to field names. Fields are kept in ascending order of their names, each name once;
binding a name again replaces its value.
-/

namespace RuleGrammar.Fields

variable {α : Type}

def insert (name : String) (value : α) : List (String × α) → List (String × α)
  | [] => [(name, value)]
  | (other, held) :: rest =>
      if name = other then (name, value) :: rest
      else if name < other then (name, value) :: (other, held) :: rest
      else (other, held) :: insert name value rest

/-- The fields bound one after the other. -/
def ofBindings (bindings : List (String × α)) : List (String × α) :=
  bindings.foldl (fun fields (name, value) => insert name value fields) []

/-- A name looked up gives what it was bound to last. -/
theorem lookup_insert (name other : String) (value : α) (fields : List (String × α)) :
    (insert name value fields).lookup other =
      if other = name then some value else fields.lookup other := by
  fun_induction insert name value fields with
  | case1 => grind
  | case2 => grind
  | case3 => grind
  | case4 => grind

end RuleGrammar.Fields
