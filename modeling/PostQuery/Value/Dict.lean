import PostQuery.Value.Equal

/-!
# Dictionaries in order of insertion

A dictionary is the list of its entries. Putting a value under a key that is there replaces the
value and leaves the key, as it was first written, in its place; a new key goes to the end.
-/

namespace PostQuery.Dict

/-- The value under a key. -/
def get? (d : Dict) (k : Value) : Option Value :=
  (d.find? fun e => e.1.eqv k).map Prod.snd

/-- The dictionary with a value under a key. -/
def put : Dict → Value → Value → Dict
  | [], k, v => [(k, v)]
  | (k', v') :: d, k, v => if k'.eqv k then (k', v) :: d else (k', v') :: put d k v

/-- The dictionary with every entry of another one put into it, in order. -/
def update (d e : Dict) : Dict := e.foldl (fun acc entry => acc.put entry.1 entry.2) d

/-- The dictionary with the given entries, later ones replacing earlier ones. -/
def ofEntries (es : List (Value × Value)) : Dict := update [] es

@[simp] theorem put_nil (k v : Value) : put [] k v = [(k, v)] := rfl

@[simp] theorem update_nil (d : Dict) : update d [] = d := rfl

@[simp] theorem update_cons (d e : Dict) (k v : Value) :
    update d ((k, v) :: e) = update (d.put k v) e := rfl

theorem update_append (d e f : Dict) : update d (e ++ f) = update (update d e) f :=
  List.foldl_append

end PostQuery.Dict
